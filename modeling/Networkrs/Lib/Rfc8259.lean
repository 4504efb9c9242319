import Mathlib.Data.List.Basic
/-!
# Rfc8259 — a JSON decoder

The grammar of RFC 8259 as a reader of characters: `decode` accepts `ws value ws` and builds its value with the
constructors it is given.  A number is kept as its token, and an object as its members in order, equal names included.
A string is read to Unicode text, so a surrogate escape counts only within a pair.  Each reader has one lemma that says
what it reads off a text of the shape its production has; the lists of arrays and objects share one
(`separated_intercalate`).
-/
namespace Rfc8259

abbrev Chars := List Char

/-- The constructors of a type of JSON values. -/
structure Builder (V : Type) where
  null : V
  bool : Bool → V
  number : Chars → V
  string : Chars → V
  array : List V → V
  object : List (Chars × V) → V

def isWs (c : Char) : Bool := c = ' ' || c = '\t' || c = '\n' || c = '\r'

def skipWs (text : Chars) : Chars := text.dropWhile isWs

/-! ## Numbers -/

def isDigit (c : Char) : Bool := '0' ≤ c && c ≤ '9'

/-- `int = zero / ( digit1-9 *DIGIT )`. -/
def isInt : Chars → Bool
  | [] => false
  | c :: cs => isDigit c && cs.all isDigit && (c != '0' || cs.isEmpty)

def isDigits (text : Chars) : Bool := !text.isEmpty && text.all isDigit

/-- `[ exp ]`. -/
def isExponent : Chars → Bool
  | [] => true
  | e :: cs =>
    (e = 'e' || e = 'E') &&
      match cs with
      | [] => false
      | c :: digits => if c = '+' || c = '-' then isDigits digits else isDigits (c :: digits)

/-- `[ frac ] [ exp ]`. -/
def isFraction : Chars → Bool
  | [] => true
  | c :: cs =>
    if c = '.' then isDigits (cs.takeWhile isDigit) && isExponent (cs.dropWhile isDigit) else isExponent (c :: cs)

/-- `number = [ minus ] int [ frac ] [ exp ]`. -/
def isNumber : Chars → Bool
  | [] => false
  | c :: cs =>
    let text := if c = '-' then cs else c :: cs
    isInt (text.takeWhile isDigit) && isFraction (text.dropWhile isDigit)

/-- The characters of numbers, none of which may follow one. -/
def isNumberChar (c : Char) : Bool := isDigit c || c = '-' || c = '+' || c = '.' || c = 'e' || c = 'E'

def readNumber (text : Chars) : Option (Chars × Chars) :=
  let token := text.takeWhile isNumberChar
  if isNumber token then some (token, text.dropWhile isNumberChar) else none

/-! ## Strings -/

def hexDigit (c : Char) : Option Nat :=
  if isDigit c then some (c.toNat - '0'.toNat)
  else if 'a' ≤ c ∧ c ≤ 'f' then some (c.toNat - 'a'.toNat + 10)
  else if 'A' ≤ c ∧ c ≤ 'F' then some (c.toNat - 'A'.toNat + 10)
  else none

/-- `4HEXDIG`. -/
def readHex4 : Chars → Option (Nat × Chars)
  | a :: b :: c :: d :: rest => do
    let a ← hexDigit a
    let b ← hexDigit b
    let c ← hexDigit c
    let d ← hexDigit d
    return (((a * 16 + b) * 16 + c) * 16 + d, rest)
  | _ => none

/-- What `\uXXXX` stands for, with the second escape of a surrogate pair. -/
def readUnicode (text : Chars) : Option (Char × Chars) :=
  match readHex4 text with
  | none => none
  | some (high, rest) =>
    if 0xd800 ≤ high ∧ high < 0xdc00 then
      match rest with
      | '\\' :: 'u' :: rest =>
        match readHex4 rest with
        | none => none
        | some (low, rest) =>
          if 0xdc00 ≤ low ∧ low < 0xe000 then
            some (Char.ofNat (0x10000 + (high - 0xd800) * 0x400 + (low - 0xdc00)), rest)
          else none
      | _ => none
    else if 0xdc00 ≤ high ∧ high < 0xe000 then none
    else some (Char.ofNat high, rest)

def readEscape : Chars → Option (Char × Chars)
  | '"' :: rest => some ('"', rest)
  | '\\' :: rest => some ('\\', rest)
  | '/' :: rest => some ('/', rest)
  | 'b' :: rest => some ('\x08', rest)
  | 'f' :: rest => some ('\x0c', rest)
  | 'n' :: rest => some ('\n', rest)
  | 'r' :: rest => some ('\r', rest)
  | 't' :: rest => some ('\t', rest)
  | 'u' :: rest => readUnicode rest
  | _ => none

/-- `char = unescaped / escape (...)`. -/
def readChar : Chars → Option (Char × Chars)
  | [] => none
  | c :: rest => if c = '\\' then readEscape rest else if c = '"' ∨ c < ' ' then none else some (c, rest)

/-- The characters up to the closing quotation mark. -/
def readChars : Nat → Chars → Option (Chars × Chars)
  | 0, _ => none
  | n + 1, text =>
    match text with
    | [] => none
    | c :: rest =>
      if c = '"' then some ([], rest)
      else
        match readChar text with
        | none => none
        | some (c, rest) => (readChars n rest).map (fun read => (c :: read.1, read.2))

/-- What follows an opening quotation mark. -/
def readString (text : Chars) : Option (Chars × Chars) := readChars (text.length + 1) text

/-! ## Arrays and objects -/

/-- `item *( value-separator item ) close`. -/
def separated {α : Type} (item : Chars → Option (α × Chars)) (close : Char) : Nat → Chars → Option (List α × Chars)
  | 0, _ => none
  | n + 1, text =>
    match item text with
    | none => none
    | some (a, rest) =>
      match skipWs rest with
      | [] => none
      | c :: rest =>
        if c = ',' then (separated item close n rest).map (fun read => (a :: read.1, read.2))
        else if c = close then some ([a], rest)
        else none

/-- `[ item *( value-separator item ) ] close`. -/
def listed {α : Type} (item : Chars → Option (α × Chars)) (close : Char) (text : Chars) : Option (List α × Chars) :=
  match skipWs text with
  | [] => none
  | c :: rest => if c = close then some ([], rest) else separated item close (text.length + 1) text

/-- `member = string name-separator value`. -/
def member {V : Type} (value : Chars → Option (V × Chars)) (text : Chars) : Option ((Chars × V) × Chars) :=
  match skipWs text with
  | [] => none
  | c :: rest =>
    if c = '"' then
      match readString rest with
      | none => none
      | some (name, rest) =>
        match skipWs rest with
        | [] => none
        | c :: rest => if c = ':' then (value rest).map (fun read => ((name, read.1), read.2)) else none
    else none

/-- One value, behind white space; `value` reads the values inside it. -/
def valueStep {V : Type} (b : Builder V) (value : Chars → Option (V × Chars)) (text : Chars) : Option (V × Chars) :=
  match skipWs text with
  | [] => none
  | c :: rest =>
    if c = '"' then (readString rest).map (fun read => (b.string read.1, read.2))
    else if c = '[' then (listed value ']' rest).map (fun read => (b.array read.1, read.2))
    else if c = '{' then (listed (member value) '}' rest).map (fun read => (b.object read.1, read.2))
    else if c = 'n' then if rest.take 3 = ['u', 'l', 'l'] then some (b.null, rest.drop 3) else none
    else if c = 't' then if rest.take 3 = ['r', 'u', 'e'] then some (b.bool true, rest.drop 3) else none
    else if c = 'f' then if rest.take 4 = ['a', 'l', 's', 'e'] then some (b.bool false, rest.drop 4) else none
    else (readNumber (c :: rest)).map (fun read => (b.number read.1, read.2))

/-- A value of at most `n` levels. -/
def value {V : Type} (b : Builder V) : Nat → Chars → Option (V × Chars)
  | 0, _ => none
  | n + 1, text => valueStep b (value b n) text

/-- `JSON-text = ws value ws`; a text has fewer levels than characters. -/
def decode {V : Type} (b : Builder V) (text : Chars) : Option V :=
  match value b (text.length + 1) text with
  | none => none
  | some (v, rest) => if skipWs rest = [] then some v else none

/-! ## What the readers read -/

theorem skipWs_cons {c : Char} (h : isWs c = false) (rest : Chars) : skipWs (c :: rest) = c :: rest :=
  List.dropWhile_cons_of_neg (by rw [h]; decide)

/-- No character that could continue a number. -/
def EndsNumber (rest : Chars) : Prop := ∀ c ∈ rest.head?, isNumberChar c = false

theorem endsNumber_nil : EndsNumber [] := fun _ h => by cases h

theorem endsNumber_cons {c : Char} (h : isNumberChar c = false) (rest : Chars) : EndsNumber (c :: rest) := by
  rintro _ ⟨⟩
  exact h

theorem isNumberChar_of_isDigit {c : Char} (h : isDigit c = true) : isNumberChar c = true := by
  simp [isNumberChar, h]

theorem isNumberChar_of_isDigits {text : Chars} (h : isDigits text = true) : ∀ c ∈ text, isNumberChar c = true := by
  intro c hc
  unfold isDigits at h
  rw [Bool.and_eq_true, List.all_eq_true] at h
  exact isNumberChar_of_isDigit (h.2 c hc)

theorem isNumberChar_of_isExponent : ∀ {text : Chars}, isExponent text = true → ∀ c ∈ text, isNumberChar c = true
  | [], _, _, hc => by cases hc
  | [e], h, _, _ => by simp [isExponent] at h
  | e :: d :: digits, h, c, hc => by
    simp only [isExponent, Bool.and_eq_true, Bool.or_eq_true, decide_eq_true_eq] at h
    obtain ⟨he, h⟩ := h
    rcases List.mem_cons.1 hc with rfl | hc
    · rcases he with rfl | rfl <;> rfl
    · split at h
      · rename_i hsign
        rcases List.mem_cons.1 hc with rfl | hc
        · rcases hsign with rfl | rfl <;> rfl
        · exact isNumberChar_of_isDigits h c hc
      · exact isNumberChar_of_isDigits h c hc

theorem isNumberChar_of_isFraction : ∀ {text : Chars}, isFraction text = true → ∀ c ∈ text, isNumberChar c = true
  | [], _, _, hc => by cases hc
  | d :: cs, h, c, hc => by
    rw [isFraction] at h
    by_cases hpoint : d = '.'
    · rw [if_pos hpoint, Bool.and_eq_true] at h
      rcases List.mem_cons.1 hc with rfl | hc
      · rw [hpoint]
        rfl
      · rw [← List.takeWhile_append_dropWhile (p := isDigit) (l := cs), List.mem_append] at hc
        rcases hc with hc | hc
        · exact isNumberChar_of_isDigits h.1 c hc
        · exact isNumberChar_of_isExponent h.2 c hc
    · rw [if_neg hpoint] at h
      exact isNumberChar_of_isExponent h c hc

theorem isNumberChar_of_isNumber : ∀ {token : Chars}, isNumber token = true → ∀ c ∈ token, isNumberChar c = true
  | [], h, _, _ => by cases h
  | d :: cs, h, c, hc => by
    have hunsigned : ∀ {text : Chars}, isFraction (text.dropWhile isDigit) = true → c ∈ text →
        isNumberChar c = true := by
      intro text hfraction hc
      rw [← List.takeWhile_append_dropWhile (p := isDigit) (l := text), List.mem_append] at hc
      rcases hc with hc | hc
      · exact isNumberChar_of_isDigit (List.all_eq_true.1 List.all_takeWhile c hc)
      · exact isNumberChar_of_isFraction hfraction c hc
    simp only [isNumber, Bool.and_eq_true] at h
    by_cases hminus : d = '-'
    · rw [if_pos hminus] at h
      rcases List.mem_cons.1 hc with rfl | hc
      · rw [hminus]
        rfl
      · exact hunsigned h.2 hc
    · rw [if_neg hminus] at h
      exact hunsigned h.2 hc

/-- **A number token is read whole** in front of anything that cannot continue it. -/
theorem readNumber_append {token rest : Chars} (h : isNumber token = true) (hrest : EndsNumber rest) :
    readNumber (token ++ rest) = some (token, rest) := by
  have hchars := isNumberChar_of_isNumber h
  have hsplit : rest.takeWhile isNumberChar = [] ∧ rest.dropWhile isNumberChar = rest := by
    cases rest with
    | nil => exact ⟨rfl, rfl⟩
    | cons c rest =>
      have hc : ¬ isNumberChar c = true := by simp [hrest c rfl]
      exact ⟨List.takeWhile_cons_of_neg hc, List.dropWhile_cons_of_neg hc⟩
  unfold readNumber
  rw [List.takeWhile_append_of_pos hchars, List.dropWhile_append_of_pos hchars, hsplit.1, hsplit.2, List.append_nil]
  dsimp only
  rw [if_pos h]

def startsNumber (c : Char) : Bool := c = '-' || isDigit c

theorem exists_cons_of_isNumber : ∀ {token : Chars}, isNumber token = true →
    ∃ c cs, token = c :: cs ∧ startsNumber c = true
  | [], h => by cases h
  | c :: cs, h => by
    refine ⟨c, cs, rfl, ?_⟩
    unfold startsNumber
    by_cases hminus : c = '-'
    · rw [decide_eq_true hminus, Bool.true_or]
    · simp only [isNumber, if_neg hminus, Bool.and_eq_true] at h
      cases hdigit : isDigit c with
      | true => exact Bool.or_true _
      | false =>
        rw [List.takeWhile_cons_of_neg (by simp [hdigit])] at h
        cases h.1

/-- What does not start a number is not the start of one. -/
theorem ne_of_startsNumber {c d : Char} (h : startsNumber c = true) (hd : startsNumber d = false) : c ≠ d := by
  rintro rfl
  rw [h] at hd
  cases hd

theorem isWs_of_startsNumber {c : Char} (h : startsNumber c = true) : isWs c = false := by
  have hspace := ne_of_startsNumber h (show startsNumber ' ' = false by decide)
  have htab := ne_of_startsNumber h (show startsNumber '\t' = false by decide)
  have hnewline := ne_of_startsNumber h (show startsNumber '\n' = false by decide)
  have hreturn := ne_of_startsNumber h (show startsNumber '\r' = false by decide)
  simp [isWs, hspace, htab, hnewline, hreturn]

theorem readHex4_append : ∀ {digits : Chars} {n : Nat}, readHex4 digits = some (n, []) → ∀ (rest : Chars),
    readHex4 (digits ++ rest) = some (n, rest)
  | a :: b :: c :: d :: tail, n, h, rest => by
    simp only [readHex4, Option.bind_eq_bind, Option.bind_eq_some_iff, Option.pure_def, Option.some.injEq,
      Prod.mk.injEq] at h
    obtain ⟨i, hi, j, hj, k, hk, l, hl, hn, rfl⟩ := h
    simp only [List.cons_append, List.nil_append, readHex4, hi, hj, hk, hl, Option.bind_eq_bind, Option.bind_some,
      hn, Option.pure_def]

/-- A way of writing characters that reads each of them back, and starts none with a quotation mark. -/
structure IsEscape (escape : Char → Chars) : Prop where
  readChar_append : ∀ c rest, readChar (escape c ++ rest) = some (c, rest)
  exists_cons : ∀ c, ∃ d ds, escape c = d :: ds ∧ d ≠ '"'

theorem readChars_flatMap {escape : Char → Chars} (h : IsEscape escape) (rest : Chars) : ∀ (text : Chars) (n : Nat),
    text.length < n → readChars n (text.flatMap escape ++ '"' :: rest) = some (text, rest)
  | [], n + 1, _ => by
    rw [List.flatMap_nil, List.nil_append, readChars]
    exact if_pos rfl
  | c :: text, n + 1, hn => by
    have ih := readChars_flatMap h rest text n (Nat.lt_of_succ_lt_succ hn)
    have hread := h.readChar_append c (text.flatMap escape ++ '"' :: rest)
    obtain ⟨d, ds, hcons, hquote⟩ := h.exists_cons c
    rw [hcons, List.cons_append] at hread
    rw [List.flatMap_cons, List.append_assoc, hcons, List.cons_append, readChars, if_neg hquote, hread]
    dsimp only
    rw [ih]
    rfl

theorem length_le_length_flatMap {α : Type} {f : α → Chars} (h : ∀ a, f a ≠ []) : ∀ (l : List α),
    l.length ≤ (l.flatMap f).length
  | [] => Nat.le_refl 0
  | a :: l => by
    have ih := length_le_length_flatMap h l
    have hpos := List.length_pos_iff.2 (h a)
    rw [List.flatMap_cons, List.length_append, List.length_cons]
    omega

/-- **A string is read up to its closing quotation mark.** -/
theorem readString_flatMap {escape : Char → Chars} (h : IsEscape escape) (text rest : Chars) :
    readString (text.flatMap escape ++ '"' :: rest) = some (text, rest) := by
  have hne : ∀ c, escape c ≠ [] := fun c hc => by
    obtain ⟨d, ds, hcons, -⟩ := h.exists_cons c
    rw [hc] at hcons
    cases hcons
  have hle := length_le_length_flatMap hne text
  refine readChars_flatMap h rest text _ ?_
  rw [List.length_append]
  omega

section

variable {α : Type} {item : Chars → Option (α × Chars)} {render : α → Chars} {close : Char}

/-- A close that is neither a separator, nor white space, nor part of a number. -/
structure IsClose (close : Char) : Prop where
  ne_comma : close ≠ ','
  notWs : isWs close = false
  notNumber : isNumberChar close = false

/-- What reads back each entry of a list, and starts none with white space or the close. -/
structure ReadsItems (item : Chars → Option (α × Chars)) (render : α → Chars) (close : Char) (l : List α) : Prop where
  reads : ∀ a ∈ l, ∀ rest, EndsNumber rest → item (render a ++ rest) = some (a, rest)
  exists_cons : ∀ a ∈ l, ∃ c cs, render a = c :: cs ∧ isWs c = false ∧ c ≠ close

theorem separated_intercalate (hclose : IsClose close) (rest : Chars) : ∀ (l : List α) (n : Nat), l ≠ [] →
    l.length ≤ n → ReadsItems item render close l →
    separated item close n ([','].intercalate (l.map render) ++ close :: rest) = some (l, rest)
  | [a], n + 1, _, _, h => by
    have hread := h.reads a List.mem_cons_self (close :: rest) (endsNumber_cons hclose.notNumber rest)
    rw [List.map_cons, List.map_nil, List.intercalate_singleton, separated, hread]
    dsimp only
    rw [skipWs_cons hclose.notWs]
    dsimp only
    rw [if_neg hclose.ne_comma, if_pos rfl]
  | a :: b :: l, n + 1, _, hn, h => by
    have hread := h.reads a List.mem_cons_self (',' :: ([','].intercalate ((b :: l).map render) ++ close :: rest))
      (endsNumber_cons rfl _)
    have ih := separated_intercalate hclose rest (b :: l) n (List.cons_ne_nil b l) (Nat.le_of_succ_le_succ hn)
      ⟨fun a ha => h.reads a (List.mem_cons_of_mem _ ha), fun a ha => h.exists_cons a (List.mem_cons_of_mem _ ha)⟩
    rw [List.map_cons] at hread ih
    rw [List.map_cons, List.map_cons, List.intercalate_cons_cons, List.append_assoc, List.append_assoc,
      List.singleton_append, separated, hread]
    dsimp only
    rw [skipWs_cons rfl]
    dsimp only
    rw [if_pos rfl, ih]
    rfl

theorem length_le_length_intercalate : ∀ (l : List α), (∀ a ∈ l, render a ≠ []) →
    l.length ≤ ([','].intercalate (l.map render)).length
  | [], _ => Nat.zero_le _
  | [a], h => by
    rw [List.map_cons, List.map_nil, List.intercalate_singleton]
    exact List.length_pos_iff.2 (h a List.mem_cons_self)
  | a :: b :: l, h => by
    have ih := length_le_length_intercalate (b :: l) (fun a ha => h a (List.mem_cons_of_mem _ ha))
    rw [List.map_cons] at ih
    rw [List.map_cons, List.map_cons, List.intercalate_cons_cons, List.length_append, List.length_append,
      List.length_singleton, List.length_cons]
    omega

/-- **The entries of an array or an object are read up to its close.** -/
theorem listed_intercalate (hclose : IsClose close) (rest : Chars) {l : List α} (h : ReadsItems item render close l) :
    listed item close ([','].intercalate (l.map render) ++ close :: rest) = some (l, rest) := by
  unfold listed
  cases l with
  | nil =>
    rw [List.map_nil, List.intercalate_nil, List.nil_append, skipWs_cons hclose.notWs]
    dsimp only
    rw [if_pos rfl]
  | cons a l =>
    obtain ⟨c, cs, hcons, hws, hne⟩ := h.exists_cons a List.mem_cons_self
    have hle := @length_le_length_intercalate α render (a :: l) (fun a ha hnil => by
      obtain ⟨c, cs, hcons, -⟩ := h.exists_cons a ha
      rw [hnil] at hcons
      cases hcons)
    have hhead : ∃ tail, [','].intercalate ((a :: l).map render) ++ close :: rest = c :: tail := by
      cases l with
      | nil => exact ⟨_, by rw [List.map_cons, List.map_nil, List.intercalate_singleton, hcons, List.cons_append]⟩
      | cons b l =>
        exact ⟨_, by rw [List.map_cons, List.map_cons, List.intercalate_cons_cons, hcons, List.cons_append,
          List.cons_append, List.cons_append]⟩
    obtain ⟨tail, htail⟩ := hhead
    have hfuel : (a :: l).length ≤ ([','].intercalate ((a :: l).map render) ++ close :: rest).length + 1 := by
      rw [List.length_append]
      omega
    have hread := separated_intercalate hclose rest (a :: l) _ (List.cons_ne_nil a l) hfuel h
    rw [htail] at hread ⊢
    rw [skipWs_cons hws]
    dsimp only
    rw [if_neg hne]
    exact hread

end

/-! ## What a value is read as -/

section

variable {V : Type} {b : Builder V} {value : Chars → Option (V × Chars)}

theorem valueStep_string {text rest rest' : Chars} (h : readString rest = some (text, rest')) :
    valueStep b value ('"' :: rest) = some (b.string text, rest') := by
  unfold valueStep
  rw [skipWs_cons rfl]
  dsimp only
  rw [if_pos rfl, h, Option.map_some]

theorem valueStep_array {values : List V} {rest rest' : Chars} (h : listed value ']' rest = some (values, rest')) :
    valueStep b value ('[' :: rest) = some (b.array values, rest') := by
  unfold valueStep
  rw [skipWs_cons rfl]
  dsimp only
  rw [if_neg (by decide), if_pos rfl, h, Option.map_some]

theorem valueStep_object {members : List (Chars × V)} {rest rest' : Chars}
    (h : listed (member value) '}' rest = some (members, rest')) :
    valueStep b value ('{' :: rest) = some (b.object members, rest') := by
  unfold valueStep
  rw [skipWs_cons rfl]
  dsimp only
  rw [if_neg (by decide), if_neg (by decide), if_pos rfl, h, Option.map_some]

theorem valueStep_number {token rest : Chars} (h : isNumber token = true) (hrest : EndsNumber rest) :
    valueStep b value (token ++ rest) = some (b.number token, rest) := by
  have hread := readNumber_append h hrest
  obtain ⟨c, cs, rfl, hc⟩ := exists_cons_of_isNumber h
  rw [List.cons_append] at hread ⊢
  unfold valueStep
  rw [skipWs_cons (isWs_of_startsNumber hc)]
  dsimp only
  rw [if_neg (ne_of_startsNumber hc (by decide)), if_neg (ne_of_startsNumber hc (by decide)),
    if_neg (ne_of_startsNumber hc (by decide)), if_neg (ne_of_startsNumber hc (by decide)),
    if_neg (ne_of_startsNumber hc (by decide)), if_neg (ne_of_startsNumber hc (by decide)), hread, Option.map_some]

theorem member_cons {name rest rest' rest'' : Chars} {v : V} (hname : readString rest = some (name, ':' :: rest'))
    (hvalue : value rest' = some (v, rest'')) : member value ('"' :: rest) = some ((name, v), rest'') := by
  unfold member
  rw [skipWs_cons rfl]
  dsimp only
  rw [if_pos rfl, hname]
  dsimp only
  rw [skipWs_cons rfl]
  dsimp only
  rw [if_pos rfl, hvalue, Option.map_some]

/-- **A value that fills its text is decoded.** -/
theorem decode_of_value {text : Chars} {v : V} (h : Rfc8259.value b (text.length + 1) text = some (v, [])) :
    decode b text = some v := by
  have hnil : skipWs [] = [] := rfl
  unfold decode
  rw [h]
  dsimp only
  rw [if_pos hnil]

end

end Rfc8259
