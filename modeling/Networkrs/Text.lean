import Mathlib.Data.List.TakeDrop
import Mathlib.Data.List.TakeWhile
import Networkrs.Io
/-!
# Text — numbers as text, and text as numbers

The formatting and parsing of `std` that the library uses: decimal and hexadecimal output, `from_str_radix` on the
unsigned types, and splitting at a character, at whitespace and into lines.  A parsed number stays within its type
(`parseUnsigned_le`), a printed number is parsed back (`parseUnsigned_hexUpper`, `parseUnsigned_toDigits`), and joined
parts are split where they were joined (`splitAll_join`, `lines_unlines`).
-/
namespace Networkrs

def decimal (n : Nat) : Text := Nat.toDigits 10 n

def decimalInt (n : Int) : Text := if n < 0 then '-' :: decimal n.natAbs else decimal n.natAbs

/-- `{:x}`. -/
def hex (n : Nat) : Text := Nat.toDigits 16 n

/-- `{:02x}`. -/
def hex02 (byte : UInt8) : Text := if byte < 16 then '0' :: hex byte.toNat else hex byte.toNat

def join (separator : Text) (parts : List Text) : Text := separator.intercalate parts

/-- `split_once`, at the first occurrence. -/
def splitOnce (separator : Char) (text : Text) : Option (Text × Text) :=
  match text.span (· != separator) with
  | (_, []) => none
  | (before, _ :: after) => some (before, after)

/-- `split_once` by a text, at its first occurrence. -/
def splitOnceText (pattern : Text) : Text → Option (Text × Text)
  | [] => if pattern = [] then some ([], []) else none
  | c :: cs =>
    if pattern.isPrefixOf (c :: cs) then some ([], (c :: cs).drop pattern.length)
    else (splitOnceText pattern cs).map (fun (before, after) => (c :: before, after))

/-- `split` at every occurrence: one more part than separators. -/
def splitAll (separator : Char) : Text → List Text
  | [] => [[]]
  | c :: cs =>
    if c = separator then [] :: splitAll separator cs
    else
      match splitAll separator cs with
      | [] => [[c]]
      | part :: parts => (c :: part) :: parts

def splitWhere (p : Char → Bool) : Text → List Text
  | [] => [[]]
  | c :: cs =>
    if p c then [] :: splitWhere p cs
    else
      match splitWhere p cs with
      | [] => [[c]]
      | part :: parts => (c :: part) :: parts

/-- `char::is_whitespace`: the `White_Space` property. -/
def isWhitespace (c : Char) : Bool :=
  let n := c.toNat
  (0x09 ≤ n && n ≤ 0x0d) || n = 0x20 || n = 0x85 || n = 0xa0 || n = 0x1680 || (0x2000 ≤ n && n ≤ 0x200a) ||
    n = 0x2028 || n = 0x2029 || n = 0x202f || n = 0x205f || n = 0x3000

def splitWhitespace (text : Text) : List Text := (splitWhere isWhitespace text).filter (fun part => !part.isEmpty)

def trim (text : Text) : Text := ((text.dropWhile isWhitespace).reverse.dropWhile isWhitespace).reverse

/-- `lines`: a line ends with a newline, and a carriage return before it; the last newline may be missing. -/
def lines (text : Text) : List Text :=
  let parts := splitAll '\n' text
  let last := parts.getLastD []
  parts.dropLast.map (fun line => if line.getLast? = some '\r' then line.dropLast else line) ++
    if last = [] then [] else [last]

/-- `char::to_digit`. -/
def toDigit (radix : Nat) (c : Char) : Option Nat :=
  let value :=
    if '0' ≤ c ∧ c ≤ '9' then c.toNat - '0'.toNat
    else if 'a' ≤ c ∧ c ≤ 'z' then c.toNat - 'a'.toNat + 10
    else if 'A' ≤ c ∧ c ≤ 'Z' then c.toNat - 'A'.toNat + 10
    else radix
  if value < radix then some value else none

def parseDigits (radix max : Nat) : Text → Nat → Option Nat
  | [], value => some value
  | c :: cs, value =>
    match toDigit radix c with
    | none => none
    | some digit =>
      if value * radix + digit ≤ max then parseDigits radix max cs (value * radix + digit) else none

/-- `from_str_radix` on the unsigned type whose greatest value is `max`: one leading plus sign is accepted. -/
def parseUnsigned (radix max : Nat) (text : Text) : Option Nat :=
  match text with
  | [] => none
  | c :: cs =>
    if (c = '+' ∨ c = '-') ∧ cs = [] then none
    else parseDigits radix max (if c = '+' then cs else text) 0

/-- `i32::from_str`. -/
def parseI32 (text : Text) : Option Int32 :=
  match text with
  | [] => none
  | c :: cs =>
    if (c = '+' ∨ c = '-') ∧ cs = [] then none
    else if c = '-' then (parseDigits 10 (2 ^ 31) cs 0).map (fun n => Int32.ofInt (-n))
    else (parseDigits 10 (2 ^ 31 - 1) (if c = '+' then cs else text) 0).map Int32.ofNat

theorem parseDigits_le (radix max : Nat) : ∀ (text : Text) (value n : Nat), value ≤ max →
    parseDigits radix max text value = some n → n ≤ max
  | [], value, n, hv, h => by
    obtain rfl := Option.some.inj h
    exact hv
  | c :: cs, value, n, hv, h => by
    rw [parseDigits] at h
    cases hd : toDigit radix c with
    | none => rw [hd] at h; cases h
    | some digit =>
      simp only [hd] at h
      split at h
      · rename_i hle
        exact parseDigits_le radix max cs _ n hle h
      · cases h

/-- **A parsed number fits its type.** -/
theorem parseUnsigned_le (radix max : Nat) (text : Text) (n : Nat) (h : parseUnsigned radix max text = some n) :
    n ≤ max := by
  unfold parseUnsigned at h
  split at h
  · cases h
  · split at h
    · cases h
    · exact parseDigits_le radix max _ 0 n (Nat.zero_le max) h

example : lines "a\r\n\nb" = [("a" : Text), "", "b"] := by decide
example : splitWhitespace " eth0\t0 " = [("eth0" : Text), "0"] := by decide
example : parseUnsigned 10 255 "+017" = some 17 := by decide
example : parseUnsigned 10 255 "256" = none := by decide

/-! ## Hexadecimal digits -/

def upperDigit (digit : Nat) : Char := Char.ofNat (if digit < 10 then '0'.toNat + digit else 'A'.toNat + digit - 10)

/-- `%0kX` of a number of at most `k` hexadecimal digits. -/
def hexUpper : Nat → Nat → Text
  | 0, _ => []
  | k + 1, n => hexUpper k (n / 16) ++ [upperDigit (n % 16)]

@[simp] theorem length_hexUpper : ∀ (k n : Nat), (hexUpper k n).length = k
  | 0, _ => rfl
  | k + 1, n => by rw [hexUpper, List.length_append, length_hexUpper k, List.length_singleton]

theorem toDigit_upperDigit : ∀ digit < 16, toDigit 16 (upperDigit digit) = some digit := by decide

theorem exists_of_mem_hexUpper : ∀ (k n : Nat), ∀ c ∈ hexUpper k n, ∃ digit < 16, c = upperDigit digit
  | 0, _, _, h => by cases h
  | k + 1, n, c, h => by
    rw [hexUpper, List.mem_append, List.mem_singleton] at h
    rcases h with h | h
    · exact exists_of_mem_hexUpper k (n / 16) c h
    · exact ⟨n % 16, Nat.mod_lt n (by decide), h⟩

/-- A hexadecimal digit is one byte long, and neither a sign nor a separator. -/
theorem of_mem_hexUpper (k n : Nat) : ∀ c ∈ hexUpper k n, c.utf8Size = 1 ∧ c ≠ '+' ∧ c ≠ '-' ∧ c ≠ ':' := by
  intro c h
  obtain ⟨digit, hdigit, rfl⟩ := exists_of_mem_hexUpper k n c h
  have hall : ∀ digit < 16, (upperDigit digit).utf8Size = 1 ∧ upperDigit digit ≠ '+' ∧ upperDigit digit ≠ '-' ∧
      upperDigit digit ≠ ':' := by decide
  exact hall digit hdigit

theorem parseDigits_hexUpper (max : Nat) : ∀ (k n value : Nat) (rest : Text), n < 16 ^ k → value * 16 ^ k + n ≤ max →
    parseDigits 16 max (hexUpper k n ++ rest) value = parseDigits 16 max rest (value * 16 ^ k + n)
  | 0, n, value, rest, hn, _ => by
    have h0 : n = 0 := by simpa using hn
    rw [hexUpper, List.nil_append, h0, Nat.pow_zero, Nat.mul_one, Nat.add_zero]
  | k + 1, n, value, rest, hn, hmax => by
    rw [Nat.pow_succ] at hn
    have hvalue : value * 16 ^ (k + 1) = value * 16 ^ k * 16 := by rw [Nat.pow_succ, Nat.mul_assoc]
    rw [hvalue] at hmax
    have hsum : (value * 16 ^ k + n / 16) * 16 + n % 16 = value * 16 ^ (k + 1) + n := by rw [hvalue]; omega
    rw [hexUpper, List.append_assoc, List.singleton_append,
      parseDigits_hexUpper max k (n / 16) value _ (by omega) (by omega), parseDigits,
      toDigit_upperDigit _ (by omega)]
    dsimp only
    rw [if_pos (by omega), hsum]

/-- **A number printed in hexadecimal is parsed back.** -/
theorem parseUnsigned_hexUpper {max k n : Nat} (hk : 0 < k) (hn : n < 16 ^ k) (hmax : n ≤ max) :
    parseUnsigned 16 max (hexUpper k n) = some n := by
  have hparse := parseDigits_hexUpper max k n 0 [] hn (by omega)
  rw [List.append_nil, Nat.zero_mul, Nat.zero_add, parseDigits] at hparse
  cases htext : hexUpper k n with
  | nil =>
    have := length_hexUpper k n
    rw [htext, List.length_nil] at this
    omega
  | cons c cs =>
    obtain ⟨-, hplus, hminus, -⟩ := of_mem_hexUpper k n c (by rw [htext]; exact List.mem_cons_self)
    rw [htext] at hparse
    unfold parseUnsigned
    dsimp only
    rw [if_neg (fun h => h.1.elim hplus hminus), if_neg hplus, hparse]

/-! ## Digits of any count -/

theorem exists_of_mem_toDigits {radix : Nat} (hradix : 1 < radix) (n : Nat) :
    ∀ c ∈ Nat.toDigits radix n, ∃ digit < radix, c = Nat.digitChar digit := by
  induction n using Nat.strong_induction_on with
  | _ n ih =>
    intro c hc
    rw [Nat.toDigits_eq_if hradix] at hc
    split at hc
    · next hlt => exact ⟨n, hlt, List.mem_singleton.1 hc⟩
    · next hle =>
      rw [List.mem_append, List.mem_singleton] at hc
      rcases hc with hc | hc
      · exact ih (n / radix) (Nat.div_lt_self (by omega) hradix) c hc
      · exact ⟨n % radix, Nat.mod_lt n (by omega), hc⟩

/-- What holds of every hexadecimal digit holds of the characters of a number. -/
theorem of_mem_toDigits {radix : Nat} (hradix : 1 < radix) (hle : radix ≤ 16) {p : Char → Prop}
    (hp : ∀ digit < 16, p (Nat.digitChar digit)) {n : Nat} {c : Char} (hc : c ∈ Nat.toDigits radix n) : p c := by
  obtain ⟨digit, hdigit, rfl⟩ := exists_of_mem_toDigits hradix n c hc
  exact hp digit (Nat.lt_of_lt_of_le hdigit hle)

theorem toDigit_digitChar : ∀ radix ≤ 16, ∀ digit < radix, toDigit radix (Nat.digitChar digit) = some digit := by
  decide

theorem parseDigits_toDigits {radix max : Nat} (hradix : 1 < radix) (hle : radix ≤ 16) (rest : Text) (n : Nat) :
    n ≤ max → parseDigits radix max (Nat.toDigits radix n ++ rest) 0 = parseDigits radix max rest n := by
  induction n using Nat.strong_induction_on generalizing rest with
  | _ n ih =>
    intro hmax
    rw [Nat.toDigits_eq_if hradix]
    split
    · next hlt =>
      rw [List.singleton_append, parseDigits, toDigit_digitChar radix hle n hlt]
      dsimp only
      rw [Nat.zero_mul, Nat.zero_add, if_pos hmax]
    · next hge =>
      have hsmaller : n / radix < n := Nat.div_lt_self (by omega) hradix
      have hsum : n / radix * radix + n % radix = n := by
        rw [Nat.mul_comm]
        exact Nat.div_add_mod n radix
      rw [List.append_assoc, ih (n / radix) hsmaller _ (by omega), List.singleton_append, parseDigits,
        toDigit_digitChar radix hle _ (Nat.mod_lt n (by omega))]
      dsimp only
      rw [hsum, if_pos hmax]

/-- **A number printed without padding is parsed back**, with any count of zeros before it. -/
theorem parseUnsigned_toDigits {radix max : Nat} (hradix : 1 < radix) (hle : radix ≤ 16) {n : Nat} (hmax : n ≤ max) :
    parseUnsigned radix max (Nat.toDigits radix n) = some n := by
  have hparse := parseDigits_toDigits hradix hle [] n hmax
  rw [List.append_nil, parseDigits] at hparse
  cases htext : Nat.toDigits radix n with
  | nil => exact absurd htext Nat.toDigits_ne_nil
  | cons c cs =>
    have hsign : c ≠ '+' ∧ c ≠ '-' :=
      of_mem_toDigits hradix hle (p := fun c => c ≠ '+' ∧ c ≠ '-') (by decide) (by rw [htext]; exact List.mem_cons_self)
    rw [htext] at hparse
    unfold parseUnsigned
    dsimp only
    rw [if_neg (fun h => h.1.elim hsign.1 hsign.2), if_neg hsign.1, hparse]

theorem hex_injective {m n : Nat} (h : hex m = hex n) : m = n := by
  have hm : parseUnsigned 16 (m + n) (hex m) = some m :=
    parseUnsigned_toDigits (by decide) (by decide) (Nat.le_add_right m n)
  have hn : parseUnsigned 16 (m + n) (hex n) = some n :=
    parseUnsigned_toDigits (by decide) (by decide) (Nat.le_add_left n m)
  rw [h, hn] at hm
  exact (Option.some.inj hm).symm

/-- **A byte printed with two digits is parsed back.** -/
theorem parseUnsigned_hex02 (byte : UInt8) : parseUnsigned 16 255 (hex02 byte) = some byte.toNat := by
  have hmax : byte.toNat ≤ 255 := Nat.le_of_lt_succ byte.toNat_lt
  unfold hex02
  split
  · have hparse : parseDigits 16 255 (hex byte.toNat ++ []) 0 = parseDigits 16 255 [] byte.toNat :=
      parseDigits_toDigits (by decide) (by decide) [] byte.toNat hmax
    rw [List.append_nil, parseDigits] at hparse
    unfold parseUnsigned
    dsimp only
    rw [if_neg (fun h => absurd h.1 (by decide)), if_neg (by decide), parseDigits]
    exact hparse
  · exact parseUnsigned_toDigits (by decide) (by decide) hmax

/-- A digit is an alphanumeric character. -/
theorem toNat_of_toDigit {radix digit : Nat} {c : Char} (h : toDigit radix c = some digit) :
    48 ≤ c.toNat ∧ c.toNat ≤ 57 ∨ 65 ≤ c.toNat ∧ c.toNat ≤ 90 ∨ 97 ≤ c.toNat ∧ c.toNat ≤ 122 := by
  unfold toDigit at h
  by_cases hdecimal : '0' ≤ c ∧ c ≤ '9'
  · exact .inl hdecimal
  by_cases hlower : 'a' ≤ c ∧ c ≤ 'z'
  · exact .inr (.inr hlower)
  by_cases hupper : 'A' ≤ c ∧ c ≤ 'Z'
  · exact .inr (.inl hupper)
  · rw [if_neg hdecimal, if_neg hlower, if_neg hupper] at h
    simp at h

theorem exists_toDigit_of_mem {radix max : Nat} : ∀ {text : Text} {value n : Nat},
    parseDigits radix max text value = some n → ∀ c ∈ text, ∃ digit, toDigit radix c = some digit
  | c :: cs, value, n, h, c', hc' => by
    rw [parseDigits] at h
    cases hdigit : toDigit radix c with
    | none =>
      rw [hdigit] at h
      cases h
    | some digit =>
      rw [hdigit] at h
      dsimp only at h
      split at h
      · rcases List.mem_cons.1 hc' with rfl | hc'
        · exact ⟨digit, hdigit⟩
        · exact exists_toDigit_of_mem h c' hc'
      · cases h

theorem of_mem_parseUnsigned {radix max n : Nat} {text : Text} (h : parseUnsigned radix max text = some n) :
    text ≠ [] ∧ ∀ c ∈ text, c = '+' ∨ ∃ digit, toDigit radix c = some digit := by
  unfold parseUnsigned at h
  split at h
  · cases h
  · next c cs =>
    refine ⟨List.cons_ne_nil c cs, ?_⟩
    split at h
    · cases h
    · intro c' hc'
      split at h
      · next hplus =>
        rcases List.mem_cons.1 hc' with rfl | hc'
        · exact .inl hplus
        · exact .inr (exists_toDigit_of_mem h c' hc')
      · exact .inr (exists_toDigit_of_mem h c' hc')

/-- **The characters of a number** are neither whitespace nor separators. -/
theorem of_mem_number {radix max n : Nat} {text : Text} (h : parseUnsigned radix max text = some n) :
    ∀ c ∈ text, isWhitespace c = false ∧ c ≠ '-' ∧ c ≠ '(' ∧ c ≠ ':' := by
  intro c hc
  have hrange : c.toNat = 43 ∨ 48 ≤ c.toNat ∧ c.toNat ≤ 57 ∨ 65 ≤ c.toNat ∧ c.toNat ≤ 122 := by
    rcases (of_mem_parseUnsigned h).2 c hc with rfl | ⟨digit, hdigit⟩
    · exact .inl rfl
    · have := toNat_of_toDigit hdigit
      omega
  have hne : ∀ c' : Char, c'.toNat = 40 ∨ c'.toNat = 45 ∨ c'.toNat = 58 → c ≠ c' := by
    rintro c' hc' rfl
    omega
  refine ⟨?_, hne _ (by decide), hne _ (by decide), hne _ (by decide)⟩
  simp only [isWhitespace, Bool.or_eq_false_iff, Bool.and_eq_false_iff, decide_eq_false_iff_not]
  omega

/-! ## Splitting and joining -/

/-- **A text without the separator is split off whole.** -/
theorem splitOnce_append {separator : Char} : ∀ {before : Text} (after : Text), separator ∉ before →
    splitOnce separator (before ++ separator :: after) = some (before, after) := by
  intro before after h
  have hall : ∀ c ∈ before, (c != separator) = true := fun c hc => by
    rw [bne_iff_ne]
    exact fun heq => h (heq ▸ hc)
  unfold splitOnce
  rw [List.span_eq_takeWhile_dropWhile, List.takeWhile_append_of_pos hall, List.dropWhile_append_of_pos hall]
  simp

theorem eq_append_of_splitOnceText {pattern : Text} : ∀ {text before after : Text},
    splitOnceText pattern text = some (before, after) → text = before ++ pattern ++ after
  | [], before, after, h => by
    rw [splitOnceText] at h
    split at h
    · next hpattern =>
      cases h
      rw [hpattern]
      rfl
    · cases h
  | c :: cs, before, after, h => by
    rw [splitOnceText] at h
    split at h
    · next hpattern =>
      cases h
      exact List.prefix_iff_eq_append.1 (List.isPrefixOf_iff_prefix.1 hpattern) |>.symm
    · obtain ⟨⟨before', after'⟩, hrest, hpair⟩ := Option.map_eq_some_iff.1 h
      cases hpair
      rw [eq_append_of_splitOnceText hrest]
      simp

/-- **A text without the first character of the pattern is split off whole.** -/
theorem splitOnceText_append {c : Char} {cs : Text} : ∀ {before : Text} (after : Text), c ∉ before →
    splitOnceText (c :: cs) (before ++ (c :: cs) ++ after) = some (before, after)
  | [], after, _ => by
    have hprefix : (c :: cs).isPrefixOf (c :: (cs ++ after)) = true :=
      List.isPrefixOf_iff_prefix.2 (List.prefix_append (c :: cs) after)
    rw [List.nil_append, List.cons_append, splitOnceText, if_pos hprefix, ← List.cons_append, List.drop_left]
  | b :: before, after, h => by
    obtain ⟨hb, hbefore⟩ := not_or.1 (fun hmem => h (List.mem_cons.2 hmem))
    have hprefix : ¬ (c :: cs).isPrefixOf (b :: (before ++ (c :: cs) ++ after)) = true := by
      rw [List.isPrefixOf_iff_prefix, List.cons_prefix_cons]
      exact fun heq => hb heq.1
    rw [List.cons_append, List.cons_append, splitOnceText, if_neg hprefix, splitOnceText_append after hbefore]
    rfl

theorem splitWhere_eq_splitOnP (p : Char → Bool) : ∀ (text : Text), splitWhere p text = text.splitOnP p
  | [] => rfl
  | c :: cs => by
    obtain ⟨part, parts, hparts⟩ := List.exists_cons_of_ne_nil (List.splitOnP_ne_nil p cs)
    rw [splitWhere, splitWhere_eq_splitOnP p cs, List.splitOnP_cons_eq_if_modifyHead, hparts]
    rfl

theorem splitAll_eq_splitOn (separator : Char) : ∀ (text : Text), splitAll separator text = text.splitOn separator
  | [] => rfl
  | c :: cs => by
    obtain ⟨part, parts, hparts⟩ := List.exists_cons_of_ne_nil (List.splitOn_ne_nil separator cs)
    rw [splitAll, splitAll_eq_splitOn separator cs, List.splitOn_cons_eq_if_modifyHead, hparts]
    simp

theorem splitAll_ne_nil (separator : Char) (text : Text) : splitAll separator text ≠ [] := by
  rw [splitAll_eq_splitOn]
  exact List.splitOn_ne_nil separator text

/-- **A part is split off at the separator that ends it.** -/
theorem splitAll_append {separator : Char} (rest : Text) {part : Text} (h : separator ∉ part) :
    splitAll separator (part ++ separator :: rest) = part :: splitAll separator rest := by
  rw [splitAll_eq_splitOn, splitAll_eq_splitOn]
  exact List.splitOn_append_cons_self_of_not_mem h rest

/-- **What is joined with a separator is split at it.** -/
theorem splitAll_join {separator : Char} {parts : List Text} (hne : parts ≠ [])
    (h : ∀ part ∈ parts, separator ∉ part) : splitAll separator (join [separator] parts) = parts := by
  rw [splitAll_eq_splitOn]
  exact List.splitOn_intercalate separator h hne

theorem join_splitAll (separator : Char) (text : Text) : join [separator] (splitAll separator text) = text := by
  rw [splitAll_eq_splitOn]
  exact List.intercalate_splitOn separator

/-- **Whitespace separates what is before it from what is after it.** -/
theorem splitWhitespace_append_cons {c : Char} (hc : isWhitespace c = true) (before after : Text) :
    splitWhitespace (before ++ c :: after) = splitWhitespace before ++ splitWhitespace after := by
  unfold splitWhitespace
  rw [splitWhere_eq_splitOnP, splitWhere_eq_splitOnP, splitWhere_eq_splitOnP, List.splitOnP_append_cons _ _ hc,
    List.filter_append]

theorem splitWhitespace_field {field : Text} (hne : field ≠ []) (h : ∀ c ∈ field, isWhitespace c = false) :
    splitWhitespace field = [field] := by
  unfold splitWhitespace
  rw [splitWhere_eq_splitOnP, List.splitOnP_eq_singleton h]
  simp [hne]

theorem splitWhitespace_append_padding : ∀ {padding : Text} (before : Text), (∀ c ∈ padding, isWhitespace c = true) →
    splitWhitespace (before ++ padding) = splitWhitespace before
  | [], before, _ => by rw [List.append_nil]
  | c :: padding, before, h => by
    have ih := splitWhitespace_append_padding [] (fun c' hc' => h c' (List.mem_cons_of_mem c hc'))
    rw [List.nil_append] at ih
    rw [splitWhitespace_append_cons (h c List.mem_cons_self), ih]
    exact List.append_nil _

theorem splitWhitespace_padding_append {padding : Text} (after : Text) (h : ∀ c ∈ padding, isWhitespace c = true) :
    splitWhitespace (padding ++ after) = splitWhitespace after := by
  induction padding with
  | nil => rfl
  | cons c padding ih =>
    rw [List.cons_append, ← ih (fun c' hc' => h c' (List.mem_cons_of_mem c hc'))]
    exact splitWhitespace_append_cons (h c List.mem_cons_self) [] (padding ++ after)

/-- **Trimming takes the padding off.** -/
theorem trim_padded {left core right : Text} (hleft : ∀ c ∈ left, isWhitespace c = true)
    (hright : ∀ c ∈ right, isWhitespace c = true) (hcore : ∀ c ∈ core, isWhitespace c = false) :
    trim (left ++ core ++ right) = core := by
  have hstart : ∀ {text rest : Text}, text ≠ [] → (∀ c ∈ text, isWhitespace c = false) →
      (text ++ rest).dropWhile isWhitespace = text ++ rest := by
    intro text rest hne htext
    obtain ⟨c, cs, rfl⟩ := List.exists_cons_of_ne_nil hne
    rw [List.cons_append, List.dropWhile_cons_of_neg (by simp [htext c List.mem_cons_self])]
  have hright' : ∀ c ∈ right.reverse, isWhitespace c = true := fun c hc => hright c (List.mem_reverse.1 hc)
  unfold trim
  rw [List.append_assoc, List.dropWhile_append_of_pos hleft]
  by_cases hne : core = []
  · subst hne
    have hall : right.dropWhile isWhitespace = [] := List.dropWhile_eq_nil_iff.2 hright
    rw [List.nil_append, hall]
    rfl
  · have hback := @hstart core.reverse [] (by simpa using hne) (fun c hc => hcore c (List.mem_reverse.1 hc))
    rw [List.append_nil] at hback
    rw [hstart hne hcore, List.reverse_append, List.dropWhile_append_of_pos hright', hback, List.reverse_reverse]

theorem exists_padding (text : Text) : ∃ left right, (∀ c ∈ left, isWhitespace c = true) ∧
    (∀ c ∈ right, isWhitespace c = true) ∧ text = left ++ trim text ++ right := by
  refine ⟨text.takeWhile isWhitespace,
    (((text.dropWhile isWhitespace).reverse).takeWhile isWhitespace).reverse, ?_, ?_, ?_⟩
  · exact fun c hc => List.mem_takeWhile_imp hc
  · exact fun c hc => List.mem_takeWhile_imp (List.mem_reverse.1 hc)
  · have hback := List.takeWhile_append_dropWhile (p := isWhitespace) (l := (text.dropWhile isWhitespace).reverse)
    have hfront := List.takeWhile_append_dropWhile (p := isWhitespace) (l := text)
    unfold trim
    rw [List.append_assoc, ← List.reverse_append, hback, List.reverse_reverse, hfront]

/-! ## Lines -/

/-- A line without the carriage return that ends it. -/
def withoutReturn (line : Text) : Text := if line.getLast? = some '\r' then line.dropLast else line

theorem lines_cons {line : Text} (rest : Text) (hline : '\n' ∉ line) :
    lines (line ++ '\n' :: rest) = withoutReturn line :: lines rest := by
  obtain ⟨part, parts, hparts⟩ := List.exists_cons_of_ne_nil (splitAll_ne_nil '\n' rest)
  unfold lines
  rw [splitAll_append rest hline, hparts]
  dsimp only
  rw [List.dropLast_cons_cons, List.map_cons, List.getLastD_cons, List.getLastD_cons, List.getLastD_cons,
    List.cons_append]
  rfl

/-- **A line ends at its newline.** -/
theorem lines_append {line : Text} (rest : Text) (hline : '\n' ∉ line) (hlast : line.getLast? ≠ some '\r') :
    lines (line ++ '\n' :: rest) = line :: lines rest := by
  rw [lines_cons rest hline, withoutReturn, if_neg hlast]

/-- The text of a list of lines, a newline after each. -/
def unlines (texts : List Text) : Text := texts.flatMap (fun line => line ++ ['\n'])

theorem lines_unlines : ∀ {texts : List Text}, (∀ line ∈ texts, '\n' ∉ line) →
    lines (unlines texts) = texts.map withoutReturn
  | [], _ => rfl
  | line :: texts, h => by
    have ih := lines_unlines (fun l hl => h l (List.mem_cons_of_mem line hl))
    unfold unlines at ih ⊢
    rw [List.flatMap_cons, List.append_assoc, List.singleton_append, lines_cons _ (h line List.mem_cons_self), ih,
      List.map_cons]

/-- A carriage return at the end of a line is whitespace like any other. -/
theorem splitWhitespace_withoutReturn (line : Text) : splitWhitespace (withoutReturn line) = splitWhitespace line := by
  unfold withoutReturn
  split
  · next hlast =>
    obtain ⟨before, rfl⟩ := List.getLast?_eq_some_iff.1 hlast
    rw [List.dropLast_concat, splitWhitespace_append_padding before (List.forall_mem_singleton.2 (by decide))]
  · rfl

/-! ## The order of texts -/

def textLe : Text → Text → Bool
  | [], _ => true
  | _ :: _, [] => false
  | a :: s, b :: t => a < b || (a = b && textLe s t)

theorem textLe_cons (a b : Char) (s t : Text) :
    textLe (a :: s) (b :: t) = true ↔ a < b ∨ (a = b ∧ textLe s t = true) := by
  simp [textLe]

theorem textLe_trans : ∀ (a b c : Text), textLe a b → textLe b c → textLe a c
  | [], _, _, _, _ => by simp [textLe]
  | _ :: _, [], _, hab, _ => by simp [textLe] at hab
  | _ :: _, _ :: _, [], _, hbc => by simp [textLe] at hbc
  | a :: s, b :: t, c :: u, hab, hbc => by
    rw [textLe_cons] at hab hbc ⊢
    rcases hab with hab | ⟨rfl, hst⟩
    · rcases hbc with hbc | ⟨rfl, -⟩
      · exact .inl (Char.lt_trans hab hbc)
      · exact .inl hab
    · exact hbc.imp_right (And.imp_right (textLe_trans s t u hst))

theorem textLe_total : ∀ (a b : Text), textLe a b || textLe b a
  | [], _ => by simp [textLe]
  | _ :: _, [] => by simp [textLe]
  | a :: s, b :: t => by
    have ih := textLe_total s t
    rw [Bool.or_eq_true, textLe_cons, textLe_cons]
    rw [Bool.or_eq_true] at ih
    by_cases hab : a < b
    · exact .inl (.inl hab)
    · by_cases hba : b < a
      · exact .inr (.inl hba)
      · obtain rfl := Char.le_antisymm (Char.not_lt.1 hba) (Char.not_lt.1 hab)
        exact ih.imp (fun h => .inr ⟨rfl, h⟩) (fun h => .inr ⟨rfl, h⟩)

theorem textLe_antisymm : ∀ (a b : Text), textLe a b → textLe b a → a = b
  | [], [], _, _ => rfl
  | [], _ :: _, _, hba => by simp [textLe] at hba
  | _ :: _, [], hab, _ => by simp [textLe] at hab
  | a :: s, b :: t, hab, hba => by
    rw [textLe_cons] at hab hba
    rcases hab with hab | ⟨rfl, hst⟩
    · rcases hba with hba | ⟨rfl, -⟩
      · exact absurd hba (Char.lt_asymm hab)
      · exact absurd hab (Char.lt_irrefl _)
    · rcases hba with hba | ⟨-, hts⟩
      · exact absurd hba (Char.lt_irrefl _)
      · rw [textLe_antisymm s t hst hts]

/-! ## Fixed-point output -/

/-- The whole number nearest to a quotient, the even one of two. -/
def roundHalfEven (n d : Nat) : Nat :=
  if 2 * (n % d) < d ∨ (2 * (n % d) = d ∧ n / d % 2 = 0) then n / d else n / d + 1

/-- `{:.2}` of `f64::from(n) / 1000.0`, for `n` from 1000 to `u32::MAX`: the quotient is rounded to the 53 bits of a
double, and the double to hundredths. -/
def thousandths (n : Nat) : Text :=
  let scale := 2 ^ (52 - Nat.log2 (n / 1000))
  let double := roundHalfEven (n * scale) 1000
  let hundredths := roundHalfEven (double * 100) scale
  decimal (hundredths / 100) ++ '.' :: decimal (hundredths / 10 % 10) ++ decimal (hundredths % 10)

example : thousandths 1005 = "1.00" := by decide +kernel
example : thousandths 1125 = "1.12" := by decide +kernel

/-! ## Encodings -/

/-- `as_bytes`. -/
def utf8Bytes (text : Text) : Bytes := text.flatMap String.utf8EncodeChar

def fromUtf8 (bytes : Bytes) : Option Text := (ByteArray.utf8Decode? ⟨bytes.toArray⟩).map Array.toList

theorem fromUtf8_utf8Bytes (text : Text) : fromUtf8 (utf8Bytes text) = some text := by
  have h : (⟨(utf8Bytes text).toArray⟩ : ByteArray) = text.utf8Encode := by
    unfold utf8Bytes List.utf8Encode
    ext1
    simp
  unfold fromUtf8
  rw [h, List.utf8Decode?_utf8Encode]
  simp

/-- **The texts read from bytes** are those with the bytes for their encoding. -/
theorem fromUtf8_eq_some_iff (bytes : Bytes) (text : Text) : fromUtf8 bytes = some text ↔ utf8Bytes text = bytes := by
  constructor
  · intro h
    obtain ⟨chars, hchars, rfl⟩ := Option.map_eq_some_iff.1 h
    have hsome : (ByteArray.utf8Decode? ⟨bytes.toArray⟩).isSome = true := by rw [hchars]; rfl
    have hencode := @ByteArray.utf8Encode_get_utf8Decode? ⟨bytes.toArray⟩ hsome
    simp only [hchars, Option.get_some] at hencode
    have hdata := congrArg (fun b => b.data.toList) hencode
    simpa [utf8Bytes, List.utf8Encode] using hdata
  · rintro rfl
    exact fromUtf8_utf8Bytes text

/-- A text of one-byte characters is as long as its bytes. -/
theorem length_utf8Bytes : ∀ (text : Text), (∀ c ∈ text, c.utf8Size = 1) → (utf8Bytes text).length = text.length
  | [], _ => rfl
  | c :: cs, h => by
    have ih := length_utf8Bytes cs (fun c' hc' => h c' (List.mem_cons_of_mem _ hc'))
    unfold utf8Bytes at ih ⊢
    rw [List.flatMap_cons, List.length_append, String.length_utf8EncodeChar, h c List.mem_cons_self, ih,
      List.length_cons, Nat.add_comm]

end Networkrs
