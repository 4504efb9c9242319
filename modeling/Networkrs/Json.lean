import Networkrs.Text
/-!
# Json — the JSON values of the command line

`json.rs`: a number is kept as its text, an object as its fields in order.
-/
namespace Networkrs.Json

inductive Value where
  | null
  | bool (value : Bool)
  | number (text : Text)
  | string (text : Text)
  | array (values : List Value)
  | object (fields : List (Text × Value))

def ofNat (n : Nat) : Value := .number (decimal n)

def ofInt (n : Int) : Value := .number (decimalInt n)

def optionalString (value : Option Text) : Value := (value.map Value.string).getD .null

/-- `json::strings`. -/
def strings (values : List Text) : Value := .array (values.map .string)

theorem strings_inj {values values' : List Text} : strings values = strings values' ↔ values = values' := by
  rw [strings, strings, Value.array.injEq]
  exact List.map_inj_right (fun _ _ => Value.string.inj)

/-- The value of a field of an object. -/
def Value.field (name : Text) : Value → Option Value
  | .object fields => (fields.find? (fun field => field.1 = name)).map Prod.snd
  | _ => none

def optionalNumber (value : Option Nat) : Value := (value.map ofNat).getD .null

def optionalInt (value : Option Int) : Value := (value.map ofInt).getD .null

/-! ## Rendering -/

/-- `{:04x}`. -/
def hex04 (n : Nat) : Text := List.replicate (4 - (hex n).length) '0' ++ hex n

/-- What `write_string` writes for one character. -/
def escape (character : Char) : Text :=
  if character = '"' then "\\\""
  else if character = '\\' then "\\\\"
  else if character = '\x08' then "\\b"
  else if character = '\x0c' then "\\f"
  else if character = '\n' then "\\n"
  else if character = '\r' then "\\r"
  else if character = '\t' then "\\t"
  else if character ≤ '\x1f' then ("\\u" : Text) ++ hex04 character.toNat
  else [character]

def writeString (output value : Text) : Text :=
  value.foldl (fun output character => output ++ escape character) (output ++ ['"']) ++ ['"']

mutual

def Value.write (output : Text) : Value → Text
  | .null => output ++ "null"
  | .bool value => output ++ if value then "true" else "false"
  | .number value => output ++ value
  | .string value => writeString output value
  | .array values => writeValues (output ++ ['[']) 0 values ++ [']']
  | .object fields => writeFields (output ++ ['{']) 0 fields ++ ['}']

/-- The loop over an array, from the entry at an index on. -/
def writeValues (output : Text) (index : Nat) : List Value → Text
  | [] => output
  | value :: values => writeValues (value.write (if index ≠ 0 then output ++ [','] else output)) (index + 1) values

def writeFields (output : Text) (index : Nat) : List (Text × Value) → Text
  | [] => output
  | (name, value) :: fields =>
    let output := if index ≠ 0 then output ++ [','] else output
    writeFields (value.write (writeString output name ++ [':'])) (index + 1) fields

end

def Value.render (value : Value) : Text := value.write []

end Networkrs.Json
