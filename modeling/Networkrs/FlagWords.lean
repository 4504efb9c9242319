import Networkrs.Events
/-!
# FlagWords — flag words read back from their texts

`format_flags`, `address_flags` and `neighbor_flags` print a word as the names of its known bits and one hexadecimal
token for the others.  `parse_link_event` and `ethtool::devices` read a bit back by splitting the text and looking for
its name.  A table of single bits whose names cannot be mistaken for another token loses nothing
(`splitAll_formatFlags`, `formatFlags_injective`), and each of the library's tables is one.
-/
namespace Networkrs

open Machine Framing

/-- **A table whose texts can be read back**: single bits, each with a name of its own that is neither the word of the
empty set nor a number, and stays in one piece. -/
structure IsFlagTable (known : List (UInt32 × Text)) : Prop where
  single : ∀ entry ∈ known, ∃ k < 32, entry.1.toNat = 2 ^ k
  bits : (known.map Prod.fst).Nodup
  names : (known.map Prod.snd).Nodup
  plain : ∀ entry ∈ known, entry.2 ≠ "none" ∧ '|' ∉ entry.2 ∧ ¬ ("0x" : Text) <+: entry.2

section
variable (flags : UInt32) (known : List (UInt32 × Text))

/-- The names of the bits that are set. -/
def setNames : List Text := (known.filter (fun entry => flags &&& entry.1 != 0)).map Prod.snd

/-- The bits that are set and not in the table. -/
def unknownBits : UInt32 := flags &&& ~~~known.foldl (fun bits entry => bits ||| entry.1) 0

/-- The hexadecimal token of a word, where there is one. -/
def hexToken (word : UInt32) : List Text := if word = 0 then [] else [("0x" : Text) ++ hex word.toNat]

def flagTokens : List Text := setNames flags known ++ hexToken (unknownBits flags known)

def joinTokens (tokens : List Text) : Text := if tokens.isEmpty then "none" else join ['|'] tokens

theorem formatFlags_eq : formatFlags flags known = joinTokens (flagTokens flags known) := by
  have hif : (if unknownBits flags known != 0 then setNames flags known ++
      [("0x" : Text) ++ hex (unknownBits flags known).toNat] else setNames flags known) = flagTokens flags known := by
    unfold flagTokens hexToken
    by_cases h : unknownBits flags known = 0
    · simp [h]
    · simp [h]
  rw [← hif]
  rfl

end

/-! ## Bits -/

theorem eq_of_testBit_eq {a b : UInt32} (h : ∀ k < 32, a.toNat.testBit k = b.toNat.testBit k) : a = b := by
  apply UInt32.toNat_inj.1
  apply Nat.eq_of_testBit_eq
  intro k
  by_cases hk : k < 32
  · exact h k hk
  · have hpow : 2 ^ 32 ≤ 2 ^ k := Nat.pow_le_pow_right (by decide) (Nat.not_lt.1 hk)
    have ha := a.toNat_lt
    have hb := b.toNat_lt
    rw [Nat.testBit_lt_two_pow (by omega), Nat.testBit_lt_two_pow (by omega)]

theorem and_ne_zero_iff {entry : UInt32} {k : Nat} (hentry : entry.toNat = 2 ^ k) (flags : UInt32) :
    flags &&& entry ≠ 0 ↔ flags.toNat.testBit k = true := by
  rw [← and_two_pow_ne_zero_iff, ← hentry, Ne, ← UInt32.toNat_inj, UInt32.toNat_and]
  rfl

theorem testBit_foldl_or (k : Nat) : ∀ (known : List (UInt32 × Text)) (bits : UInt32),
    (known.foldl (fun bits entry => bits ||| entry.1) bits).toNat.testBit k =
      (bits.toNat.testBit k || known.any (fun entry => entry.1.toNat.testBit k))
  | [], bits => by simp
  | entry :: known, bits => by
    rw [List.foldl_cons, testBit_foldl_or k known, UInt32.toNat_or, Nat.testBit_or, List.any_cons, Bool.or_assoc]

theorem testBit_not (word : UInt32) {k : Nat} (hk : k < 32) :
    (~~~word).toNat.testBit k = !word.toNat.testBit k := by
  have hword := word.toNat_lt
  have hnot : (~~~word).toNat = 2 ^ 32 - (word.toNat + 1) := by
    rw [UInt32.toNat_not]
    show 2 ^ 32 - 1 - word.toNat = _
    omega
  rw [hnot, Nat.testBit_two_pow_sub_succ hword]
  simp [hk]

/-- **The bits left over** are those of the word that no entry of the table has. -/
theorem testBit_unknownBits (flags : UInt32) (known : List (UInt32 × Text)) {k : Nat} (hk : k < 32) :
    (unknownBits flags known).toNat.testBit k = true ↔
      flags.toNat.testBit k = true ∧ ∀ entry ∈ known, entry.1.toNat.testBit k = false := by
  unfold unknownBits
  rw [UInt32.toNat_and, Nat.testBit_and, testBit_not _ hk, testBit_foldl_or]
  simp

/-! ## Tokens -/

variable {known : List (UInt32 × Text)}

theorem mem_setNames_iff (h : IsFlagTable known) (flags : UInt32) {entry : UInt32 × Text} (hentry : entry ∈ known) :
    entry.2 ∈ setNames flags known ↔ flags &&& entry.1 ≠ 0 := by
  constructor
  · intro hmem
    obtain ⟨other, hother, hname⟩ := List.mem_map.1 hmem
    obtain ⟨hother, hset⟩ := List.mem_filter.1 hother
    rw [List.inj_on_of_nodup_map h.names hother hentry hname] at hset
    simpa using hset
  · intro hset
    exact List.mem_map.2 ⟨entry, List.mem_filter.2 ⟨hentry, by simpa using hset⟩, rfl⟩

theorem exists_of_mem_setNames {flags : UInt32} {token : Text} (h : token ∈ setNames flags known) :
    ∃ entry ∈ known, entry.2 = token := by
  obtain ⟨entry, hentry, hname⟩ := List.mem_map.1 h
  exact ⟨entry, List.mem_of_mem_filter hentry, hname⟩

theorem of_mem_hexToken {word : UInt32} {token : Text} (h : token ∈ hexToken word) :
    ('|' ∉ token ∧ token ≠ "none") ∧ ("0x" : Text) <+: token := by
  unfold hexToken at h
  split at h
  · cases h
  · rw [List.mem_singleton] at h
    subst h
    refine ⟨⟨fun hmem => ?_, fun hnone => ?_⟩, List.prefix_append _ _⟩
    · rcases List.mem_append.1 hmem with hmem | hmem
      · revert hmem
        decide
      · exact of_mem_toDigits (by decide) (by decide) (p := fun c => c ≠ '|') (by decide) hmem rfl
    · have hhead := congrArg List.head? hnone
      revert hhead
      exact fun hhead => absurd (Option.some.inj hhead) (by decide)

/-- A token stays in one piece, and is not the word of the empty set. -/
theorem of_mem_flagTokens (h : IsFlagTable known) {flags : UInt32} {token : Text}
    (hmem : token ∈ flagTokens flags known) :
    '|' ∉ token ∧ token ≠ "none" := by
  rcases List.mem_append.1 hmem with hmem | hmem
  · obtain ⟨entry, hentry, rfl⟩ := exists_of_mem_setNames hmem
    obtain ⟨hnone, hbar, -⟩ := h.plain entry hentry
    exact ⟨hbar, hnone⟩
  · exact (of_mem_hexToken hmem).1

theorem hexToken_injective {a b : UInt32} (h : hexToken a = hexToken b) : a = b := by
  unfold hexToken at h
  split at h
  · next ha =>
    split at h
    · next hb => rw [ha, hb]
    · cases h
  · split at h
    · cases h
    · have htoken := List.append_cancel_left (List.singleton_inj.1 h)
      exact UInt32.toNat_inj.1 (hex_injective htoken)

/-- Entries of one kind before entries of the other: each part can be told from the whole. -/
theorem append_inj_of_kinds {α : Type} {p : α → Bool} {before before' after after' : List α}
    (h : before ++ after = before' ++ after') (hbefore : ∀ x ∈ before, p x = true)
    (hbefore' : ∀ x ∈ before', p x = true) (hafter : ∀ x ∈ after, p x = false) (hafter' : ∀ x ∈ after', p x = false) :
    before = before' ∧ after = after' := by
  have hparts : ∀ {l m : List α}, (∀ x ∈ l, p x = true) → (∀ x ∈ m, p x = false) → (l ++ m).filter p = l := by
    intro l m hl hm
    rw [List.filter_append, List.filter_eq_self.2 hl, List.filter_eq_nil_iff.2 (fun x hx => by simp [hm x hx]),
      List.append_nil]
  have hsame : before = before' := by
    rw [← hparts hbefore hafter, h, hparts hbefore' hafter']
  rw [hsame] at h
  exact ⟨hsame, List.append_cancel_left h⟩

/-- **A word is determined by its tokens.** -/
theorem flagTokens_injective (h : IsFlagTable known) {a b : UInt32}
    (htokens : flagTokens a known = flagTokens b known) :
    a = b := by
  have hname : ∀ {flags : UInt32}, ∀ token ∈ setNames flags known, (!("0x" : Text).isPrefixOf token) = true := by
    intro flags token htoken
    obtain ⟨entry, hentry, rfl⟩ := exists_of_mem_setNames htoken
    obtain ⟨-, -, hplain⟩ := h.plain entry hentry
    rwa [Bool.not_eq_true', ← Bool.not_eq_true, List.isPrefixOf_iff_prefix]
  have hnumber : ∀ {word : UInt32}, ∀ token ∈ hexToken word, (!("0x" : Text).isPrefixOf token) = false := by
    intro word token htoken
    rw [Bool.not_eq_false', List.isPrefixOf_iff_prefix]
    exact (of_mem_hexToken htoken).2
  obtain ⟨hnames, hhex⟩ := append_inj_of_kinds htokens hname hname hnumber hnumber
  have hunknown := hexToken_injective hhex
  apply eq_of_testBit_eq
  intro k hk
  rw [Bool.eq_iff_iff]
  by_cases hentry : ∃ entry ∈ known, entry.1.toNat.testBit k = true
  · -- a bit of the table is told by its name
    obtain ⟨entry, hentry, hbit⟩ := hentry
    obtain ⟨j, -, hsingle⟩ := h.single entry hentry
    rw [hsingle, Nat.testBit_two_pow, decide_eq_true_eq] at hbit
    subst hbit
    rw [← and_ne_zero_iff hsingle, ← and_ne_zero_iff hsingle, ← mem_setNames_iff h a hentry, hnames,
      mem_setNames_iff h b hentry]
  · -- any other bit by the number
    have hnone : ∀ entry ∈ known, entry.1.toNat.testBit k = false := by
      intro entry hmem
      rw [← Bool.not_eq_true]
      exact fun hbit => hentry ⟨entry, hmem, hbit⟩
    have hword : ∀ flags : UInt32, flags.toNat.testBit k = true ↔
        (unknownBits flags known).toNat.testBit k = true := by
      intro flags
      rw [testBit_unknownBits flags known hk]
      exact ⟨fun hbit => ⟨hbit, hnone⟩, And.left⟩
    rw [hword a, hword b, hunknown]

theorem flagTokens_zero (known : List (UInt32 × Text)) : flagTokens 0 known = [] := by
  have hnames : setNames 0 known = [] := by
    unfold setNames
    rw [List.map_eq_nil_iff, List.filter_eq_nil_iff]
    intro entry _
    simp
  have hunknown : unknownBits 0 known = 0 := by
    unfold unknownBits
    simp
  rw [flagTokens, hnames, hunknown]
  rfl

theorem flagTokens_eq_nil_iff (h : IsFlagTable known) (flags : UInt32) : flagTokens flags known = [] ↔ flags = 0 := by
  constructor
  · intro hnil
    exact flagTokens_injective h (hnil.trans (flagTokens_zero known).symm)
  · rintro rfl
    exact flagTokens_zero known

/-! ## Texts -/

/-- **Tokens are split where they were joined**; an empty set is one word. -/
theorem splitAll_joinTokens {tokens : List Text} (h : ∀ token ∈ tokens, '|' ∉ token) :
    splitAll '|' (joinTokens tokens) = if tokens = [] then [("none" : Text)] else tokens := by
  unfold joinTokens
  by_cases hnil : tokens = []
  · subst hnil
    decide
  · rw [if_neg hnil, if_neg (by simpa using hnil), splitAll_join hnil h]

theorem joinTokens_injective {tokens tokens' : List Text}
    (h : ∀ token ∈ tokens, '|' ∉ token ∧ token ≠ "none") (h' : ∀ token ∈ tokens', '|' ∉ token ∧ token ≠ "none")
    (hjoin : joinTokens tokens = joinTokens tokens') : tokens = tokens' := by
  have hsplit := congrArg (splitAll '|') hjoin
  rw [splitAll_joinTokens (fun token htoken => (h token htoken).1),
    splitAll_joinTokens (fun token htoken => (h' token htoken).1)] at hsplit
  split at hsplit
  · next hnil =>
    split at hsplit
    · next hnil' => rw [hnil, hnil']
    · have hmem : ("none" : Text) ∈ tokens' := hsplit ▸ List.mem_singleton_self _
      exact absurd rfl (h' _ hmem).2
  · split at hsplit
    · have hmem : ("none" : Text) ∈ tokens := hsplit ▸ List.mem_singleton_self _
      exact absurd rfl (h _ hmem).2
    · exact hsplit

/-- **Splitting the text of a word** gives the names of its bits and the number of the others. -/
theorem splitAll_formatFlags (h : IsFlagTable known) (flags : UInt32) :
    splitAll '|' (formatFlags flags known) = if flags = 0 then [("none" : Text)] else flagTokens flags known := by
  rw [formatFlags_eq, splitAll_joinTokens (fun token htoken => (of_mem_flagTokens h htoken).1)]
  exact if_congr (flagTokens_eq_nil_iff h flags) rfl rfl

/-- **Different words have different texts.** -/
theorem formatFlags_injective (h : IsFlagTable known) {a b : UInt32}
    (htext : formatFlags a known = formatFlags b known) : a = b := by
  rw [formatFlags_eq, formatFlags_eq] at htext
  exact flagTokens_injective h
    (joinTokens_injective (fun _ => of_mem_flagTokens h) (fun _ => of_mem_flagTokens h) htext)

/-- **A name is found in the text exactly when its bit is set.** -/
theorem any_splitAll_formatFlags_iff (h : IsFlagTable known) (entry : UInt32 × Text) (hentry : entry ∈ known) {k : Nat}
    (hk : entry.1.toNat = 2 ^ k) (flags : UInt32) :
    (splitAll '|' (formatFlags flags known)).any (fun flag => flag = entry.2) = true ↔
      flags.toNat.testBit k = true := by
  obtain ⟨hnone, -, hplain⟩ := h.plain entry hentry
  have hmem : (splitAll '|' (formatFlags flags known)).any (fun flag => flag = entry.2) = true ↔
      entry.2 ∈ splitAll '|' (formatFlags flags known) := by
    simp
  rw [hmem, splitAll_formatFlags h, ← and_ne_zero_iff hk, ← mem_setNames_iff h flags hentry]
  by_cases hzero : flags = 0
  · have hnames : setNames 0 known = [] := (List.append_eq_nil_iff.1 (flagTokens_zero known)).1
    rw [hzero, if_pos rfl, List.mem_singleton, hnames]
    exact iff_of_false hnone List.not_mem_nil
  · rw [if_neg hzero]
    constructor
    · intro htoken
      rcases List.mem_append.1 htoken with htoken | htoken
      · exact htoken
      · exact absurd (of_mem_hexToken htoken).2 hplain
    · exact List.mem_append_left _

/-! ## The tables of the library -/

def linkFlagNames : List (UInt32 × Text) :=
  [(0x00000001, "up"), (0x00000002, "broadcast"), (0x00000004, "debug"), (0x00000008, "loopback"),
    (0x00000010, "point-to-point"), (0x00000020, "no-trailers"), (0x00000040, "running"), (0x00000080, "noarp"),
    (0x00000100, "promiscuous"), (0x00000200, "all-multicast"), (0x00000400, "master"), (0x00000800, "slave"),
    (0x00001000, "multicast"), (0x00002000, "port-selection"), (0x00004000, "automedia"), (0x00008000, "dynamic"),
    (0x00010000, "lower-up"), (0x00020000, "dormant"), (0x00040000, "echo")]

def addressFlagNames : List (UInt32 × Text) :=
  [(0x01, "secondary"), (0x02, "nodad"), (0x04, "optimistic"), (0x08, "dadfailed"), (0x10, "home"),
    (0x20, "deprecated"), (0x40, "tentative"), (0x80, "permanent"), (0x100, "manage-temp"),
    (0x200, "no-prefix-route"), (0x400, "multicast-autojoin"), (0x800, "stable-privacy")]

def neighborFlagNames : List (UInt32 × Text) :=
  [(0x01, "use"), (0x02, "self"), (0x04, "master"), (0x08, "proxy"), (0x10, "externally-learned"),
    (0x20, "offloaded"), (0x40, "sticky"), (0x80, "router")]

def neighborExtendedFlagNames : List (UInt32 × Text) :=
  [(0x01, "managed"), (0x02, "locked"), (0x04, "externally-validated")]

theorem isFlagTable_link : IsFlagTable linkFlagNames := ⟨by decide, by decide, by decide, by decide⟩

theorem isFlagTable_address : IsFlagTable addressFlagNames := ⟨by decide, by decide, by decide, by decide⟩

theorem isFlagTable_neighbor : IsFlagTable neighborFlagNames := ⟨by decide, by decide, by decide, by decide⟩

theorem isFlagTable_neighborExtended : IsFlagTable neighborExtendedFlagNames :=
  ⟨by decide, by decide, by decide, by decide⟩

theorem linkFlags_eq (flags : UInt32) : linkFlags flags = formatFlags flags linkFlagNames := rfl

theorem addressFlags_eq (flags : UInt32) : addressFlags flags = formatFlags flags addressFlagNames := rfl

theorem addressFlags_injective {a b : UInt32} (h : addressFlags a = addressFlags b) : a = b :=
  formatFlags_injective isFlagTable_address h

/-- A byte has no bits besides those of the table. -/
theorem unknownBits_neighbor (flags : UInt8) : unknownBits flags.toUInt32 neighborFlagNames = 0 := by
  apply eq_of_testBit_eq
  intro k hk
  rw [Bool.eq_iff_iff, testBit_unknownBits _ _ hk]
  have hzero : ¬ (0 : UInt32).toNat.testBit k = true := by simp
  refine iff_of_false (fun ⟨hbit, hnone⟩ => ?_) hzero
  by_cases hbyte : k < 8
  · have hknown : ∀ k < 8, ∃ entry ∈ neighborFlagNames, entry.1.toNat.testBit k = true := by decide
    obtain ⟨entry, hentry, hk⟩ := hknown k hbyte
    rw [hnone entry hentry] at hk
    cases hk
  · have hpow : 2 ^ 8 ≤ 2 ^ k := Nat.pow_le_pow_right (by decide) (Nat.not_lt.1 hbyte)
    have hlt := flags.toNat_lt
    rw [UInt8.toNat_toUInt32, Nat.testBit_lt_two_pow (by omega)] at hbit
    cases hbit

/-- The tokens of a neighbor: the names of the byte, then the tokens of the extended word. -/
def neighborTokens (flags : UInt8) (extendedFlags : UInt32) : List Text :=
  flagTokens flags.toUInt32 neighborFlagNames ++ flagTokens extendedFlags neighborExtendedFlagNames

theorem of_mem_neighborTokens {flags : UInt8} {extendedFlags : UInt32} {token : Text}
    (h : token ∈ neighborTokens flags extendedFlags) : '|' ∉ token ∧ token ≠ "none" := by
  rcases List.mem_append.1 h with h | h
  · exact of_mem_flagTokens isFlagTable_neighbor h
  · exact of_mem_flagTokens isFlagTable_neighborExtended h

theorem joinTokens_eq_none_iff {tokens : List Text} (h : ∀ token ∈ tokens, '|' ∉ token ∧ token ≠ "none") :
    joinTokens tokens = "none" ↔ tokens = [] := by
  constructor
  · intro hnone
    exact joinTokens_injective h (fun _ hmem => absurd hmem List.not_mem_nil) hnone
  · rintro rfl
    rfl

theorem join_append {separator : Text} : ∀ {parts parts' : List Text}, parts ≠ [] → parts' ≠ [] →
    join separator (parts ++ parts') = join separator parts ++ separator ++ join separator parts'
  | [], _, h, _ => absurd rfl h
  | [part], parts', _, h' => by
    unfold join
    rw [List.singleton_append, List.intercalate_cons_of_ne_nil h', List.intercalate_singleton]
  | part :: next :: parts, parts', _, h' => by
    have ih : join separator (next :: parts ++ parts') = _ := join_append (List.cons_ne_nil next parts) h'
    unfold join at ih ⊢
    rw [List.cons_append, List.cons_append, List.intercalate_cons_cons, List.intercalate_cons_cons,
      ← List.cons_append, ih]
    simp only [List.append_assoc]

/-- The last match of `neighbor_flags`: two texts become one, and an empty set is said once. -/
theorem joinTokens_append {tokens tokens' : List Text} (h : ∀ token ∈ tokens, '|' ∉ token ∧ token ≠ "none")
    (h' : ∀ token ∈ tokens', '|' ∉ token ∧ token ≠ "none") :
    (if joinTokens tokens = "none" ∧ joinTokens tokens' = "none" then ("none" : Text)
      else if joinTokens tokens = "none" then joinTokens tokens'
      else if joinTokens tokens' = "none" then joinTokens tokens
      else joinTokens tokens ++ "|" ++ joinTokens tokens') = joinTokens (tokens ++ tokens') := by
  have hnone := joinTokens_eq_none_iff h
  have hnone' := joinTokens_eq_none_iff h'
  by_cases hnil : tokens = []
  · by_cases hnil' : tokens' = []
    · rw [if_pos ⟨hnone.2 hnil, hnone'.2 hnil'⟩, hnil, hnil']
      rfl
    · rw [if_neg (fun hboth => hnil' (hnone'.1 hboth.2)), if_pos (hnone.2 hnil), hnil, List.nil_append]
  · rw [if_neg (fun hboth => hnil (hnone.1 hboth.1)), if_neg (fun hone => hnil (hnone.1 hone))]
    by_cases hnil' : tokens' = []
    · rw [if_pos (hnone'.2 hnil'), hnil', List.append_nil]
    · have hne : tokens ++ tokens' ≠ [] := fun happend => hnil (List.append_eq_nil_iff.1 happend).1
      rw [if_neg (fun hone => hnil' (hnone'.1 hone))]
      unfold joinTokens
      rw [if_neg (by simpa using hnil), if_neg (by simpa using hnil'), if_neg (by simpa using hne),
        join_append hnil hnil']
      rfl

/-- **The two texts of a neighbor are joined as one list of tokens.** -/
theorem neighborFlags_eq (flags : UInt8) (extendedFlags : UInt32) :
    neighborFlags flags extendedFlags = joinTokens (neighborTokens flags extendedFlags) := by
  rw [neighborTokens, ← joinTokens_append (fun _ => of_mem_flagTokens isFlagTable_neighbor)
    (fun _ => of_mem_flagTokens isFlagTable_neighborExtended), ← formatFlags_eq, ← formatFlags_eq]
  rfl

/-- **Different neighbors have different texts.** -/
theorem neighborFlags_injective {flags flags' : UInt8} {extendedFlags extendedFlags' : UInt32}
    (h : neighborFlags flags extendedFlags = neighborFlags flags' extendedFlags') :
    flags = flags' ∧ extendedFlags = extendedFlags' := by
  rw [neighborFlags_eq, neighborFlags_eq] at h
  have htokens := joinTokens_injective (fun _ => of_mem_neighborTokens) (fun _ => of_mem_neighborTokens) h
  have hbase : ∀ {flags : UInt8}, ∀ token ∈ flagTokens flags.toUInt32 neighborFlagNames,
      (neighborFlagNames.map Prod.snd).contains token = true := by
    intro flags token htoken
    unfold flagTokens at htoken
    rw [unknownBits_neighbor] at htoken
    rcases List.mem_append.1 htoken with htoken | htoken
    · obtain ⟨entry, hentry, rfl⟩ := exists_of_mem_setNames htoken
      rw [List.contains_iff_mem]
      exact List.mem_map_of_mem hentry
    · cases htoken
  have hextended : ∀ {extendedFlags : UInt32}, ∀ token ∈ flagTokens extendedFlags neighborExtendedFlagNames,
      (neighborFlagNames.map Prod.snd).contains token = false := by
    intro extendedFlags token htoken
    rcases List.mem_append.1 htoken with htoken | htoken
    · obtain ⟨entry, hentry, rfl⟩ := exists_of_mem_setNames htoken
      have hdisjoint : ∀ entry ∈ neighborExtendedFlagNames,
          (neighborFlagNames.map Prod.snd).contains entry.2 = false := by decide
      exact hdisjoint entry hentry
    · rw [← Bool.not_eq_true, List.contains_iff_mem]
      intro hmem
      obtain ⟨entry, hentry, rfl⟩ := List.mem_map.1 hmem
      exact (isFlagTable_neighbor.plain entry hentry).2.2 (of_mem_hexToken htoken).2
  obtain ⟨hflags, hextendedFlags⟩ := append_inj_of_kinds htokens hbase hbase hextended hextended
  have hword := flagTokens_injective isFlagTable_neighbor hflags
  refine ⟨UInt8.toNat_inj.1 ?_, flagTokens_injective isFlagTable_neighborExtended hextendedFlags⟩
  rw [← UInt8.toNat_toUInt32, hword, UInt8.toNat_toUInt32]

/-! ## The readers -/

/-- The links `ethtool::devices` asks the kernel about: those that are not loopback. -/
def deviceLinks (links : List Link) : List Link :=
  links.filter (fun link => !(splitAll '|' link.flags).any (fun flag => flag = ("loopback" : Text)))

variable (host : Host)

/-- The flags of a parsed link are those of its message. -/
theorem flags_of_parseLink {message : Bytes} {link : Link} (h : parseLink host message = .ok (some link)) :
    ∃ header, (getFrom message MessageHeader.size).bind (LinkMessage.read host) = some header ∧
      link.flags = linkFlags header.flags := by
  unfold parseLink at h
  simp only [attributes_eq, attributesFromOffset_eq, ok_bind] at h
  cases hheader : (getFrom message MessageHeader.size).bind (LinkMessage.read host) with
  | none => rw [hheader] at h; cases h
  | some header =>
    refine ⟨header, rfl, ?_⟩
    rw [hheader] at h
    dsimp only at h
    cases hattributes : attributesIn host (message.drop (alignTo4 (MessageHeader.size + LinkMessage.size))) with
    | none => rw [hattributes] at h; cases h
    | some l =>
      rw [hattributes] at h
      dsimp only at h
      cases hname : findString l iflaIfname with
      | none => rw [hname] at h; cases h
      | some name =>
        rw [hname] at h
        dsimp only at h
        cases hinfo : firstValue l iflaLinkinfo with
        | none =>
          rw [hinfo] at h
          cases hproperties : firstValue l iflaPropList <;> rw [hproperties] at h <;> cases h <;> rfl
        | some value =>
          obtain ⟨info, hvalue⟩ := parseLinkInfo_isOk host value
          rw [hinfo] at h
          simp only [hvalue, ok_bind] at h
          cases hproperties : firstValue l iflaPropList <;> rw [hproperties] at h <;> cases h <;> rfl

/-- **A link event is up exactly when the first bit of its message is set.** -/
theorem up_of_parseLinkEvent {message : Bytes} {removed removed' : Bool} {index : Int32} {name : Option Text}
    {up : Bool}
    (h : parseLinkEvent host message removed = .ok (some (.link removed' index name up))) :
    ∃ header, (getFrom message MessageHeader.size).bind (LinkMessage.read host) = some header ∧
      (up = true ↔ header.flags.toNat.testBit 0 = true) := by
  unfold parseLinkEvent at h
  obtain ⟨found, hlink, h⟩ := (bind_eq_ok_iff _ _ _).1 h
  cases found with
  | none => cases h
  | some link =>
    cases h
    obtain ⟨header, hheader, hflags⟩ := flags_of_parseLink host hlink
    refine ⟨header, hheader, ?_⟩
    rw [hflags, linkFlags_eq]
    exact any_splitAll_formatFlags_iff isFlagTable_link (0x00000001, "up") (by decide) rfl header.flags

theorem mem_deviceLinks_iff {link : Link} {flags : UInt32} (h : link.flags = linkFlags flags) (links : List Link)
    (hmem : link ∈ links) : link ∈ deviceLinks links ↔ flags.toNat.testBit 3 = false := by
  have hbit : (0x00000008 : UInt32).toNat = 2 ^ 3 := rfl
  have hloopback := any_splitAll_formatFlags_iff isFlagTable_link (0x00000008, "loopback") (by decide) hbit flags
  have htest : (splitAll '|' link.flags).any (fun flag => flag = ("loopback" : Text)) = flags.toNat.testBit 3 := by
    rw [h, linkFlags_eq, Bool.eq_iff_iff]
    exact hloopback
  unfold deviceLinks
  rw [List.mem_filter, htest, Bool.not_eq_true']
  exact ⟨And.right, fun hclear => ⟨hmem, hclear⟩⟩

/-- **Flag words are lossless as text**, for any table that can be read back; and the library's readers and its other
two formatters agree with that on all words. -/
theorem flag_texts_lossless :
    (∀ known, IsFlagTable known → ∀ flags : UInt32,
      (splitAll '|' (formatFlags flags known) =
        if flags = 0 then [("none" : Text)] else setNames flags known ++ hexToken (unknownBits flags known)) ∧
      ∀ k < 32, ((unknownBits flags known).toNat.testBit k = true ↔
        flags.toNat.testBit k = true ∧ ∀ entry ∈ known, entry.1.toNat.testBit k = false)) ∧
    (∀ known, IsFlagTable known → ∀ a b : UInt32, formatFlags a known = formatFlags b known → a = b) ∧
    (∀ flags : UInt32, (splitAll '|' (linkFlags flags)).any (fun flag => flag = ("up" : Text)) = true ↔
      flags.toNat.testBit 0 = true) ∧
    (∀ host message removed removed' index name up,
      parseLinkEvent host message removed = .ok (some (.link removed' index name up)) →
        ∃ header, (getFrom message MessageHeader.size).bind (LinkMessage.read host) = some header ∧
          (up = true ↔ header.flags.toNat.testBit 0 = true)) ∧
    (∀ (links : List Link), ∀ link ∈ links, ∀ flags, link.flags = linkFlags flags →
      (link ∈ deviceLinks links ↔ flags.toNat.testBit 3 = false)) ∧
    (∀ flags, addressFlags flags = formatFlags flags addressFlagNames) ∧
    (∀ flags flags', addressFlags flags = addressFlags flags' → flags = flags') ∧
    ∀ flags flags' extendedFlags extendedFlags',
      neighborFlags flags extendedFlags = neighborFlags flags' extendedFlags' →
        flags = flags' ∧ extendedFlags = extendedFlags' := by
  refine ⟨?_, ?_, ?_, ?_, ?_, ?_, ?_, ?_⟩
  · intro known h flags
    exact ⟨splitAll_formatFlags h flags, fun k hk => testBit_unknownBits flags known hk⟩
  · intro known h a b
    exact formatFlags_injective h
  · intro flags
    rw [linkFlags_eq]
    exact any_splitAll_formatFlags_iff isFlagTable_link (0x00000001, "up") (by decide) rfl flags
  · intro host message removed removed' index name up h
    exact up_of_parseLinkEvent host h
  · intro links link hmem flags h
    exact mem_deviceLinks_iff h links hmem
  · exact addressFlags_eq
  · intro flags flags' h
    exact addressFlags_injective h
  · intro flags flags' extendedFlags extendedFlags' h
    exact neighborFlags_injective h

/-- The word of an interface that is up, with one bit the table does not name. -/
theorem flag_texts_lossless_up :
    splitAll '|' (formatFlags 0x80010001 linkFlagNames) = ["up", "lower-up", "0x80000000"] ∧
      (0x80010001 : UInt32) ≠ 0x10001 ∧
      ((formatFlags 0x80010001 linkFlagNames = formatFlags 0x10001 linkFlagNames) → False) := by
  refine ⟨(flag_texts_lossless.1 linkFlagNames isFlagTable_link 0x80010001).1.trans (by decide), by decide, ?_⟩
  intro h
  exact absurd (flag_texts_lossless.2.1 linkFlagNames isFlagTable_link _ _ h) (by decide)

end Networkrs
