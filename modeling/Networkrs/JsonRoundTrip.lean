import Networkrs.Json
import Networkrs.Lib.Rfc8259
/-!
# JsonRoundTrip — what `render` writes is read back

`Value::render` writes an array or an object as its parts between commas (`render_array`, `render_object`), and each
character of a string as an escape that a decoder reads back (`isEscape_escape`).  So a decoder of RFC 8259 reads a
rendered value whole, in front of anything that cannot continue a number (`value_render`), and since no control
character is written raw (`le_of_mem_render`), a stream of rendered values is one line a value
(`stream_decodes`).
-/
namespace Networkrs.Json

open Rfc8259

/-- The decoder's values are those of `json.rs`: a number is its token, an object its members in order. -/
def builder : Builder Value := ⟨.null, .bool, .number, .string, .array, .object⟩

/-! ## What is written -/

def quoted (value : Text) : Text := '"' :: (value.flatMap escape ++ ['"'])

theorem writeString_eq (output value : Text) : writeString output value = output ++ quoted value := by
  have hfold : ∀ (value output : Text),
      value.foldl (fun output character => output ++ escape character) output = output ++ value.flatMap escape := by
    intro value
    induction value with
    | nil => intro output; rw [List.foldl_nil, List.flatMap_nil, List.append_nil]
    | cons c value ih => intro output; rw [List.foldl_cons, ih, List.flatMap_cons, List.append_assoc]
  unfold writeString quoted
  rw [hfold, List.append_assoc, List.append_assoc, List.singleton_append]

def renderField (field : Text × Value) : Text := quoted field.1 ++ ':' :: field.2.render

/-- The comma in front of an entry that is not the first. -/
def comma (index : Nat) : Text := if index ≠ 0 then [','] else []

theorem comma_eq (output : Text) (index : Nat) :
    (if index ≠ 0 then output ++ [','] else output) = output ++ comma index := by
  unfold comma
  split
  · rfl
  · rw [List.append_nil]

/-- The entries behind a comma are the commas between them and the one in front. -/
theorem comma_intercalate {α : Type} (render : α → Text) (output : Text) (index : Nat) (a : α) (l : List α) :
    output ++ comma index ++ render a ++ (if l = [] then [] else [','] ++ [','].intercalate (l.map render)) =
      output ++ (comma index ++ [','].intercalate ((a :: l).map render)) := by
  cases l with
  | nil => simp
  | cons b l =>
    rw [if_neg (List.cons_ne_nil b l), List.map_cons (a := a), List.map_cons, List.intercalate_cons_cons]
    simp only [List.append_assoc]

mutual

theorem write_eq : ∀ (value : Value) (output : Text), value.write output = output ++ value.render
  | .null, output => rfl
  | .bool _, output => rfl
  | .number _, output => rfl
  | .string value, output => by
    rw [Value.render, Value.write, Value.write, writeString_eq, writeString_eq, List.nil_append]
  | .array values, output => by
    rw [Value.render, Value.write, Value.write, writeValues_eq values, writeValues_eq values]
    simp only [List.append_assoc, List.nil_append]
  | .object fields, output => by
    rw [Value.render, Value.write, Value.write, writeFields_eq fields, writeFields_eq fields]
    simp only [List.append_assoc, List.nil_append]

theorem writeValues_eq : ∀ (values : List Value) (output : Text) (index : Nat), writeValues output index values =
    output ++ if values = [] then [] else comma index ++ [','].intercalate (values.map Value.render)
  | [], output, index => by rw [writeValues, if_pos rfl, List.append_nil]
  | value :: values, output, index => by
    rw [writeValues, comma_eq, write_eq value, writeValues_eq values, if_neg (List.cons_ne_nil value values)]
    exact comma_intercalate Value.render output index value values

theorem writeFields_eq : ∀ (fields : List (Text × Value)) (output : Text) (index : Nat),
    writeFields output index fields =
      output ++ if fields = [] then [] else comma index ++ [','].intercalate (fields.map renderField)
  | [], output, index => by rw [writeFields, if_pos rfl, List.append_nil]
  | (name, value) :: fields, output, index => by
    have hfield : output ++ comma index ++ quoted name ++ [':'] ++ value.render =
        output ++ comma index ++ renderField (name, value) := by
      unfold renderField
      simp only [List.append_assoc, List.singleton_append]
    rw [writeFields, comma_eq, writeString_eq, write_eq value, hfield, writeFields_eq fields,
      if_neg (List.cons_ne_nil _ fields)]
    exact comma_intercalate renderField output index (name, value) fields

end

theorem render_array (values : List Value) :
    (Value.array values).render = '[' :: ([','].intercalate (values.map Value.render) ++ [']']) := by
  rw [Value.render, Value.write, writeValues_eq]
  cases values with
  | nil => rfl
  | cons value values => rfl

theorem render_object (fields : List (Text × Value)) :
    (Value.object fields).render = '{' :: ([','].intercalate (fields.map renderField) ++ ['}']) := by
  rw [Value.render, Value.write, writeFields_eq]
  cases fields with
  | nil => rfl
  | cons field fields => rfl

theorem render_string (value : Text) : (Value.string value).render = quoted value := by
  rw [Value.render, Value.write, writeString_eq, List.nil_append]

/-! ## Characters -/

/-- A control character is written as four digits that are read back. -/
theorem readHex4_hex04 : ∀ n < 0x20, readHex4 (hex04 n) = some (n, []) := by decide

theorem readChar_control {c : Char} (h : c ≤ '\x1f') (rest : Text) :
    readChar ('\\' :: 'u' :: (hex04 c.toNat ++ rest)) = some (c, rest) := by
  have hval : c.toNat ≤ 0x1f := h
  have hread := readHex4_append (readHex4_hex04 c.toNat (Nat.lt_succ_of_le hval)) rest
  show readUnicode (hex04 c.toNat ++ rest) = some (c, rest)
  unfold readUnicode
  rw [hread]
  dsimp only
  rw [if_neg (by omega), if_neg (by omega), Char.ofNat_toNat]

theorem readChar_unescaped {c : Char} (hquote : c ≠ '"') (hslash : c ≠ '\\') (h : ¬ c ≤ '\x1f') (rest : Text) :
    readChar (c :: rest) = some (c, rest) := by
  have hspace : ¬ c < ' ' := by
    intro hlt
    have hval : c.toNat < 0x20 := hlt
    exact h (show c.toNat ≤ 0x1f by omega)
  rw [readChar, if_neg hslash, if_neg (not_or.2 ⟨hquote, hspace⟩)]

/-- A character is written as a short escape, as a control character, or as itself. -/
theorem escape_cases (c : Char) :
    (∃ d, escape c = ['\\', d] ∧ ' ' ≤ d ∧ ∀ rest, readEscape (d :: rest) = some (c, rest)) ∨
      (c ≤ '\x1f' ∧ escape c = '\\' :: 'u' :: hex04 c.toNat) ∨
      (c ≠ '"' ∧ c ≠ '\\' ∧ ¬ c ≤ '\x1f' ∧ escape c = [c]) := by
  unfold escape
  by_cases h1 : c = '"'
  · rw [if_pos h1]
    exact .inl ⟨'"', rfl, by decide, fun rest => by rw [h1]; rfl⟩
  rw [if_neg h1]
  by_cases h2 : c = '\\'
  · rw [if_pos h2]
    exact .inl ⟨'\\', rfl, by decide, fun rest => by rw [h2]; rfl⟩
  rw [if_neg h2]
  by_cases h3 : c = '\x08'
  · rw [if_pos h3]
    exact .inl ⟨'b', rfl, by decide, fun rest => by rw [h3]; rfl⟩
  rw [if_neg h3]
  by_cases h4 : c = '\x0c'
  · rw [if_pos h4]
    exact .inl ⟨'f', rfl, by decide, fun rest => by rw [h4]; rfl⟩
  rw [if_neg h4]
  by_cases h5 : c = '\n'
  · rw [if_pos h5]
    exact .inl ⟨'n', rfl, by decide, fun rest => by rw [h5]; rfl⟩
  rw [if_neg h5]
  by_cases h6 : c = '\r'
  · rw [if_pos h6]
    exact .inl ⟨'r', rfl, by decide, fun rest => by rw [h6]; rfl⟩
  rw [if_neg h6]
  by_cases h7 : c = '\t'
  · rw [if_pos h7]
    exact .inl ⟨'t', rfl, by decide, fun rest => by rw [h7]; rfl⟩
  rw [if_neg h7]
  by_cases h8 : c ≤ '\x1f'
  · rw [if_pos h8]
    exact .inr (.inl ⟨h8, rfl⟩)
  · rw [if_neg h8]
    exact .inr (.inr ⟨h1, h2, h8, rfl⟩)

/-- **Every character is written as an escape that is read back as it.** -/
theorem isEscape_escape : IsEscape escape where
  readChar_append := by
    intro c rest
    obtain ⟨d, heq, -, hread⟩ | ⟨hc, heq⟩ | ⟨hquote, hslash, hc, heq⟩ := escape_cases c
    · rw [heq]
      exact hread rest
    · rw [heq]
      exact readChar_control hc rest
    · rw [heq]
      exact readChar_unescaped hquote hslash hc rest
  exists_cons := by
    intro c
    obtain ⟨d, heq, -, -⟩ | ⟨-, heq⟩ | ⟨hquote, -, -, heq⟩ := escape_cases c
    · exact ⟨_, _, heq, by decide⟩
    · exact ⟨_, _, heq, by decide⟩
    · exact ⟨_, _, heq, hquote⟩

theorem le_of_all {text : Text} (h : text.all (fun d => ' ' ≤ d) = true) : ∀ c ∈ text, ' ' ≤ c :=
  fun c hc => of_decide_eq_true (List.all_eq_true.1 h c hc)

/-- No control character is written raw. -/
theorem le_of_mem_escape {c d : Char} (h : d ∈ escape c) : ' ' ≤ d := by
  have hhex : ∀ n ≤ 0x1f, (hex04 n).all (fun d => ' ' ≤ d) = true := by decide
  obtain ⟨e, heq, he, -⟩ | ⟨hc, heq⟩ | ⟨-, -, hc, heq⟩ := escape_cases c
  · rw [heq, List.mem_cons, List.mem_singleton] at h
    rcases h with rfl | rfl
    · decide
    · exact he
  · rw [heq, List.mem_cons, List.mem_cons] at h
    rcases h with rfl | rfl | h
    · decide
    · decide
    · exact le_of_all (hhex c.toNat hc) d h
  · rw [heq, List.mem_singleton] at h
    have hval : ¬ c.toNat ≤ 0x1f := hc
    rw [h]
    show 0x20 ≤ c.toNat
    omega

theorem le_of_mem_quoted {value : Text} {c : Char} (h : c ∈ quoted value) : ' ' ≤ c := by
  unfold quoted at h
  rcases List.mem_cons.1 h with rfl | h
  · decide
  · rcases List.mem_append.1 h with h | h
    · obtain ⟨d, -, hd⟩ := List.mem_flatMap.1 h
      exact le_of_mem_escape hd
    · rw [List.mem_singleton.1 h]
      decide

theorem mem_intercalate : ∀ {l : List Text} {c : Char}, c ∈ [','].intercalate l → c = ',' ∨ ∃ text ∈ l, c ∈ text
  | [text], c, h => by
    rw [List.intercalate_singleton] at h
    exact .inr ⟨text, List.mem_cons_self, h⟩
  | text :: text' :: l, c, h => by
    rw [List.intercalate_cons_cons, List.mem_append, List.mem_append, List.mem_singleton] at h
    rcases h with (h | h) | h
    · exact .inr ⟨text, List.mem_cons_self, h⟩
    · exact .inl h
    · obtain h | ⟨t, ht, hc⟩ := mem_intercalate h
      · exact .inl h
      · exact .inr ⟨t, List.mem_cons_of_mem text ht, hc⟩

theorem length_le_of_mem_intercalate : ∀ {l : List Text} {text : Text}, text ∈ l →
    text.length ≤ ([','].intercalate l).length
  | [text'], text, h => by
    rw [List.intercalate_singleton, List.mem_singleton.1 h]
  | text' :: text'' :: l, text, h => by
    rw [List.intercalate_cons_cons, List.length_append, List.length_append]
    rcases List.mem_cons.1 h with rfl | h
    · omega
    · have ih := length_le_of_mem_intercalate h
      omega

/-! ## Values -/

/-- A value whose numbers are number tokens. -/
inductive Value.Valid : Value → Prop
  | null : Valid .null
  | bool (value : Bool) : Valid (.bool value)
  | number {token : Text} (h : isNumber token = true) : Valid (.number token)
  | string (value : Text) : Valid (.string value)
  | array {values : List Value} (h : ∀ value ∈ values, Valid value) : Valid (.array values)
  | object {fields : List (Text × Value)} (h : ∀ field ∈ fields, Valid field.2) : Valid (.object fields)

theorem le_of_isNumberChar {c : Char} (h : isNumberChar c = true) : ' ' ≤ c := by
  simp only [isNumberChar, isDigit, Bool.or_eq_true, Bool.and_eq_true, decide_eq_true_eq] at h
  rcases h with ((((⟨h, -⟩ | rfl) | rfl) | rfl) | rfl) | rfl
  · have hval : 0x30 ≤ c.toNat := h
    show 0x20 ≤ c.toNat
    omega
  all_goals decide

theorem le_of_mem_bracketed {first last : Char} (hfirst : ' ' ≤ first) (hlast : ' ' ≤ last) {l : List Text}
    (h : ∀ text ∈ l, ∀ c ∈ text, ' ' ≤ c) : ∀ c ∈ first :: ([','].intercalate l ++ [last]), ' ' ≤ c := by
  intro c hc
  rcases List.mem_cons.1 hc with rfl | hc
  · exact hfirst
  · rcases List.mem_append.1 hc with hc | hc
    · obtain rfl | ⟨text, htext, hc⟩ := mem_intercalate hc
      · decide
      · exact h text htext c hc
    · rw [List.mem_singleton.1 hc]
      exact hlast

/-- **A rendered value has no control character.** -/
theorem le_of_mem_render {value : Value} (h : value.Valid) : ∀ c ∈ value.render, ' ' ≤ c := by
  induction h with
  | null => exact le_of_all rfl
  | bool value =>
    cases value with
    | true => exact le_of_all rfl
    | false => exact le_of_all rfl
  | number h => exact fun c hc => le_of_isNumberChar (isNumberChar_of_isNumber h c hc)
  | string value =>
    intro c hc
    rw [render_string] at hc
    exact le_of_mem_quoted hc
  | array _ ih =>
    rw [render_array]
    apply le_of_mem_bracketed (by decide) (by decide)
    intro text htext
    obtain ⟨value, hvalue, rfl⟩ := List.mem_map.1 htext
    exact ih value hvalue
  | object _ ih =>
    rw [render_object]
    apply le_of_mem_bracketed (by decide) (by decide)
    intro text htext c hc
    obtain ⟨field, hfield, rfl⟩ := List.mem_map.1 htext
    rcases List.mem_append.1 hc with hc | hc
    · exact le_of_mem_quoted hc
    · rcases List.mem_cons.1 hc with rfl | hc
      · decide
      · exact ih field hfield c hc

/-- A rendered value starts with neither white space nor a closing bracket. -/
theorem exists_cons_render {value : Value} (h : value.Valid) :
    ∃ c cs, value.render = c :: cs ∧ isWs c = false ∧ c ≠ ']' := by
  cases h with
  | null => exact ⟨_, _, rfl, rfl, by decide⟩
  | bool value => cases value <;> exact ⟨_, _, rfl, rfl, by decide⟩
  | number h =>
    obtain ⟨c, cs, rfl, hc⟩ := exists_cons_of_isNumber h
    exact ⟨c, cs, rfl, isWs_of_startsNumber hc, ne_of_startsNumber hc (by decide)⟩
  | string value => exact ⟨_, _, render_string value, rfl, by decide⟩
  | array _ => exact ⟨_, _, render_array _, rfl, by decide⟩
  | object _ => exact ⟨_, _, render_object _, rfl, by decide⟩

theorem readString_quoted (text rest : Text) :
    readString (text.flatMap escape ++ ['"'] ++ rest) = some (text, rest) := by
  rw [List.append_assoc, List.singleton_append]
  exact readString_flatMap isEscape_escape text rest

/-- **A rendered value is read back**, in front of anything that cannot continue a number. -/
theorem value_render : ∀ (n : Nat) {value : Value}, value.Valid → value.render.length < n → ∀ {rest : Text},
    EndsNumber rest → Rfc8259.value builder n (value.render ++ rest) = some (value, rest)
  | n + 1, value, h, hn, rest, hrest => by
    rw [Rfc8259.value]
    cases h with
    | null => rfl
    | bool value => cases value <;> rfl
    | number h => exact valueStep_number h hrest
    | string text =>
      rw [render_string, quoted, List.cons_append]
      exact valueStep_string (readString_quoted text rest)
    | @array values h =>
      rw [render_array, List.length_cons, List.length_append] at hn
      rw [render_array, List.cons_append, List.append_assoc, List.singleton_append]
      apply valueStep_array
      apply listed_intercalate ⟨by decide, rfl, rfl⟩
      refine ⟨?_, fun value hvalue => exists_cons_render (h value hvalue)⟩
      intro value hvalue rest hrest
      have hlength := length_le_of_mem_intercalate (List.mem_map_of_mem (f := Value.render) hvalue)
      exact value_render n (h value hvalue) (by omega) hrest
    | @object fields h =>
      rw [render_object, List.length_cons, List.length_append] at hn
      rw [render_object, List.cons_append, List.append_assoc, List.singleton_append]
      apply valueStep_object
      apply listed_intercalate ⟨by decide, rfl, rfl⟩
      refine ⟨?_, fun field _ => ⟨_, _, rfl, rfl, by decide⟩⟩
      intro field hfield rest hrest
      have hlength := length_le_of_mem_intercalate (List.mem_map_of_mem (f := renderField) hfield)
      have hvalue : (renderField field).length = (quoted field.1).length + (field.2.render.length + 1) := by
        rw [renderField, List.length_append, List.length_cons]
      rw [renderField, quoted, List.cons_append, List.cons_append, List.append_assoc, List.cons_append]
      exact member_cons (readString_quoted field.1 _) (value_render n (h field hfield) (by omega) hrest)

theorem decode_render {value : Value} (h : value.Valid) : decode builder value.render = some value := by
  have hread := value_render (value.render.length + 1) h (Nat.lt_succ_self _) endsNumber_nil
  rw [List.append_nil] at hread
  exact decode_of_value hread

theorem render_injective {value value' : Value} (h : value.Valid) (h' : value'.Valid)
    (heq : value.render = value'.render) : value = value' := by
  have hdecode := decode_render h
  rw [heq, decode_render h'] at hdecode
  exact (Option.some.inj hdecode).symm

/-! ## Streams -/

/-- What streaming commands write: each value on a line. -/
def stream (values : List Value) : Text := values.flatMap (fun value => value.render ++ ['\n'])

theorem splitAll_stream : ∀ (values : List Value), (∀ value ∈ values, value.Valid) →
    splitAll '\n' (stream values) = values.map Value.render ++ [[]]
  | [], _ => rfl
  | value :: values, h => by
    have ih := splitAll_stream values (fun v hv => h v (List.mem_cons_of_mem value hv))
    have hnewline : '\n' ∉ value.render := fun hmem =>
      absurd (le_of_mem_render (h value List.mem_cons_self) '\n' hmem) (by decide)
    unfold stream at ih ⊢
    rw [List.flatMap_cons, List.append_assoc, List.singleton_append, splitAll_append _ hnewline, ih]
    rfl

/-- **A stream of values is one line a value, and each line is decoded to its value.** -/
theorem stream_decodes (values : List Value) (h : ∀ value ∈ values, value.Valid) :
    splitAll '\n' (stream values) = values.map Value.render ++ [[]] ∧
      (values.map Value.render).map (decode builder) = values.map some ∧
      (∀ value ∈ values, ∀ value' ∈ values, value.render = value'.render → value = value') ∧
      ∀ value ∈ values, ∀ c ∈ value.render, ' ' ≤ c := by
  refine ⟨splitAll_stream values h, ?_, ?_, ?_⟩
  · rw [List.map_map]
    apply List.map_congr_left
    intro value hvalue
    exact decode_render (h value hvalue)
  · intro value hvalue value' hvalue' heq
    exact render_injective (h value hvalue) (h value' hvalue') heq
  · intro value hvalue
    exact le_of_mem_render (h value hvalue)

def sampleEvents : List Value :=
  [.object [("event", .string "a\n\"b\\c\x1f"), ("event", .array [.number "-1.5e+3", .null, .bool true])], .string "é"]

theorem valid_sampleEvents : ∀ value ∈ sampleEvents, value.Valid := by
  have hvalues : ∀ value ∈ [Value.number "-1.5e+3", .null, .bool true], value.Valid :=
    List.forall_mem_cons.2 ⟨.number rfl, List.forall_mem_cons.2 ⟨.null, List.forall_mem_singleton.2 (.bool true)⟩⟩
  refine List.forall_mem_cons.2 ⟨.object ?_, List.forall_mem_singleton.2 (.string _)⟩
  exact List.forall_mem_cons.2 ⟨.string _, List.forall_mem_singleton.2 (.array hvalues)⟩

theorem stream_decodes_events :
    splitAll '\n' (stream sampleEvents) = sampleEvents.map Value.render ++ [[]] ∧
      (sampleEvents.map Value.render).map (decode builder) = sampleEvents.map some ∧
      (∀ value ∈ sampleEvents, ∀ value' ∈ sampleEvents, value.render = value'.render → value = value') ∧
      ∀ value ∈ sampleEvents, ∀ c ∈ value.render, ' ' ≤ c :=
  stream_decodes sampleEvents valid_sampleEvents

end Networkrs.Json
