import Networkrs.NextHops
/-!
# AddressText — an address reads back from its text

An address is printed as the text that `from_str` reads as the same address: an IPv4 address by its octets, an IPv6
address by its groups, without the first longest run of zeroes, or by the IPv4 address in its last two groups
(`parse_display`).
-/
namespace Networkrs

open Machine

/-! ## Numbers at the front of a text -/

/-- Only zero is printed with a zero in front. -/
theorem eq_zero_of_head?_toDigits {radix : Nat} (hradix : 1 < radix) (hle : radix ≤ 16) (n : Nat) :
    (Nat.toDigits radix n).head? = some '0' → n = 0 := by
  induction n using Nat.strong_induction_on with
  | _ n ih =>
    intro h
    rw [Nat.toDigits_eq_if hradix] at h
    split at h
    · next hlt =>
      have hchar : ∀ digit < 16, (Nat.digitChar digit) = '0' → digit = 0 := by decide
      exact hchar n (Nat.lt_of_lt_of_le hlt hle) (Option.some.inj h)
    · next hge =>
      have hhead : (Nat.toDigits radix (n / radix)).head? = some '0' := by
        cases htext : Nat.toDigits radix (n / radix) with
        | nil => exact absurd htext Nat.toDigits_ne_nil
        | cons c cs => rwa [htext] at h
      have hzero := ih (n / radix) (Nat.div_lt_self (by omega) hradix) hhead
      exact absurd (Nat.div_eq_zero_iff.1 hzero) (by omega)

/-- The next character is no digit. -/
def NoDigit (radix : Nat) (rest : Text) : Prop := ∀ c ∈ rest.head?, toDigit radix c = none

theorem takeWhile_toDigits {radix : Nat} (hradix : 1 < radix) (hle : radix ≤ 16) (n : Nat) {rest : Text}
    (hrest : NoDigit radix rest) :
    (Nat.toDigits radix n ++ rest).takeWhile (fun c => (toDigit radix c).isSome) = Nat.toDigits radix n := by
  have hdigits : ∀ c ∈ Nat.toDigits radix n, (toDigit radix c).isSome = true := by
    intro c hc
    obtain ⟨digit, hdigit, rfl⟩ := exists_of_mem_toDigits hradix n c hc
    rw [toDigit_digitChar radix hle digit hdigit]
    rfl
  rw [List.takeWhile_append_of_pos hdigits]
  cases rest with
  | nil => simp
  | cons c rest => simp [hrest c rfl]

/-- **A printed number is read off the front of a text.** -/
theorem readNumber_toDigits {radix maxDigits max n : Nat} (allowZeroPrefix : Bool) (hradix : 1 < radix)
    (hle : radix ≤ 16) (hlength : (Nat.toDigits radix n).length ≤ maxDigits) (hmax : n ≤ max) {rest : Text}
    (hrest : NoDigit radix rest) :
    readNumber radix maxDigits max allowZeroPrefix (Nat.toDigits radix n ++ rest) = some (n, rest) := by
  have hzero : ¬ ((Nat.toDigits radix n).head? = some '0' ∧ 1 < (Nat.toDigits radix n).length) := by
    rintro ⟨hhead, hlength⟩
    rw [eq_zero_of_head?_toDigits hradix hle n hhead, Nat.toDigits_zero] at hlength
    simp at hlength
  have hparse := @parseDigits_toDigits radix max hradix hle [] n hmax
  rw [List.append_nil, parseDigits] at hparse
  unfold readNumber
  rw [takeWhile_toDigits hradix hle n hrest]
  dsimp only
  rw [if_neg, if_neg, hparse, Option.map_some, List.drop_left]
  · exact fun h => hzero h.2
  · rintro (hempty | hlong)
    · exact Nat.toDigits_ne_nil (List.isEmpty_iff.1 hempty)
    · omega

theorem readNumber_of_noDigit {radix maxDigits max : Nat} (allowZeroPrefix : Bool) {text : Text}
    (h : NoDigit radix text) : readNumber radix maxDigits max allowZeroPrefix text = none := by
  have hnone : text.takeWhile (fun c => (toDigit radix c).isSome) = [] := by
    cases text with
    | nil => rfl
    | cons c text => simp [h c rfl]
  unfold readNumber
  rw [hnone]
  simp

/-! ## IPv4 -/

theorem readOctet_decimal (octet : UInt8) {rest : Text} (hrest : NoDigit 10 rest) :
    readOctet (decimal octet.toNat ++ rest) = some (octet.toNat, rest) := by
  have hlt := octet.toNat_lt
  exact readNumber_toDigits false (by decide) (by decide)
    ((Nat.length_toDigits_le_iff (by decide) (by decide)).2 (by omega)) (by omega) hrest

theorem noDigit_dot (rest : Text) : NoDigit 10 ('.' :: rest) := by
  rintro c ⟨⟩
  decide

theorem Ipv4Addr.new_octets (address : Ipv4Addr) : ∃ a b c d, address.octets = [a, b, c, d] ∧
    Ipv4Addr.new a b c d = address := by
  refine ⟨_, _, _, _, rfl, ?_⟩
  exact Option.some.inj (ipv4FromBytes_octets address)

/-- **An IPv4 address is read off the front of a text.** -/
theorem readIpv4_display (address : Ipv4Addr) {rest : Text} (hrest : NoDigit 10 rest) :
    readIpv4 (address.display ++ rest) = some (address, rest) := by
  obtain ⟨a, b, c, d, hoctets, hnew⟩ := address.new_octets
  have htext : address.display ++ rest = decimal a.toNat ++ ('.' :: (decimal b.toNat ++ ('.' :: (decimal c.toNat ++
      ('.' :: (decimal d.toNat ++ rest)))))) := by
    simp [Ipv4Addr.display, hoctets, join, List.intercalate, List.intersperse]
  rw [htext]
  unfold readIpv4 readSeparator
  simp only [if_true, if_false, readGivenChar, Option.bind_some, one_ne_zero,
    OfNat.ofNat_ne_zero, bind, pure, readOctet_decimal _ (noDigit_dot _), readOctet_decimal d hrest]
  rw [UInt8.ofNat_toNat, UInt8.ofNat_toNat, UInt8.ofNat_toNat, UInt8.ofNat_toNat, hnew]

theorem Ipv4Addr.octets_new (a b c d : UInt8) : (Ipv4Addr.new a b c d).octets = [a, b, c, d] := by
  have ha := a.toNat_lt
  have hb := b.toNat_lt
  have hc := c.toNat_lt
  have hd := d.toNat_lt
  simp only [Ipv4Addr.octets, Ipv4Addr.new, UInt32.toNat_ofNat', List.cons.injEq, ← UInt8.toNat_inj,
    UInt8.toNat_ofNat', and_true]
  omega

/-! ## Groups -/

theorem segments_spec : ∀ (n : Nat) (octets : List UInt8), octets.length = 2 * n →
    (segments octets).length = n ∧ (∀ group ∈ segments octets, group < 2 ^ 16) ∧
      (segments octets).flatMap (fun group => [UInt8.ofNat (group / 256), UInt8.ofNat group]) = octets
  | 0, octets, h => by
    obtain rfl := List.length_eq_zero_iff.1 h
    exact ⟨rfl, fun _ hmem => (nomatch hmem), rfl⟩
  | n + 1, high :: low :: octets, h => by
    have hhigh := high.toNat_lt
    have hlow := low.toNat_lt
    obtain ⟨hlength, hlt, hback⟩ := segments_spec n octets (by simp only [List.length_cons] at h; omega)
    refine ⟨by rw [segments, List.length_cons, hlength], ?_, ?_⟩
    · intro group hgroup
      rw [segments, List.mem_cons] at hgroup
      rcases hgroup with rfl | hgroup
      · omega
      · exact hlt group hgroup
    · have hfirst : UInt8.ofNat ((high.toNat * 256 + low.toNat) / 256) = high := by
        rw [← UInt8.toNat_inj, UInt8.toNat_ofNat']
        omega
      have hsecond : UInt8.ofNat (high.toNat * 256 + low.toNat) = low := by
        rw [← UInt8.toNat_inj, UInt8.toNat_ofNat']
        omega
      rw [segments, List.flatMap_cons, hback, hfirst, hsecond]
      rfl

/-- A run of zeroes of a list, as its start and length. -/
def ZeroRun (all : List Nat) (run : Nat × Nat) : Prop :=
  ∃ before after, before.length = run.1 ∧ all = before ++ (List.replicate run.2 0 ++ after)

/-- The run that the groups read so far end with. -/
def EndsRun (done : List Nat) (run : Nat × Nat) : Prop :=
  run.2 = 0 ∨ ∃ before, before.length = run.1 ∧ done = before ++ List.replicate run.2 0

theorem longestZeros_zeroRun : ∀ (rest done : List Nat) (current longest : Nat × Nat), EndsRun done current →
    ZeroRun (done ++ rest) longest → ZeroRun (done ++ rest) (longestZeros rest done.length current longest)
  | [], _, _, _, _, hlongest => hlongest
  | s :: rest, done, current, longest, hcurrent, hlongest => by
    have hnext : (done ++ [s]).length = done.length + 1 := by simp
    have hall : done ++ s :: rest = (done ++ [s]) ++ rest := by simp
    rw [hall, longestZeros, ← hnext]
    by_cases hs : s = 0
    · subst hs
      rw [if_pos rfl]
      obtain ⟨run, hrun, hends, hpos⟩ : ∃ run, (if current.2 = 0 then (done.length, 1) else
          (current.1, current.2 + 1)) = run ∧ EndsRun (done ++ [0]) run ∧ 0 < run.2 := by
        refine ⟨_, rfl, ?_⟩
        split
        · exact ⟨.inr ⟨done, rfl, rfl⟩, Nat.one_pos⟩
        · next hnonzero =>
          obtain ⟨before, hbefore, hdone⟩ := hcurrent.resolve_left hnonzero
          refine ⟨.inr ⟨before, hbefore, ?_⟩, Nat.succ_pos _⟩
          rw [hdone, List.append_assoc, List.replicate_succ']
      dsimp only
      rw [hrun]
      have hzeros : ZeroRun ((done ++ [0]) ++ rest) run := by
        obtain ⟨before, hbefore, hdone⟩ := hends.resolve_left (by omega)
        exact ⟨before, rest, hbefore, by rw [hdone, List.append_assoc]⟩
      apply longestZeros_zeroRun rest (done ++ [0]) run _ hends
      split
      · exact hzeros
      · rwa [← hall]
    · rw [if_neg hs]
      exact longestZeros_zeroRun rest (done ++ [s]) (0, 0) longest (.inl rfl) (by rwa [← hall])

/-! ## Groups as text -/

/-- What may stand behind a group: nothing, or a colon. -/
def ColonNext (rest : Text) : Prop := rest = [] ∨ ∃ text, rest = ':' :: text

/-- What may stand behind the last group: nothing, or the two colons in place of zeroes. -/
def GroupsEnd (rest : Text) : Prop := rest = [] ∨ ∃ text, rest = ':' :: ':' :: text

theorem ColonNext.noDigit {rest : Text} (h : ColonNext rest) {radix : Nat} (hle : radix ≤ 16) : NoDigit radix rest := by
  have hcolon : ∀ radix ≤ 16, toDigit radix ':' = none := by decide
  rcases h with rfl | ⟨text, rfl⟩
  · rintro c ⟨⟩
  · rintro c ⟨⟩
    exact hcolon radix hle

/-- A text whose decimal digits no dot follows is no IPv4 address. -/
theorem readIpv4_eq_none {text : Text} (h : (text.dropWhile (fun c => (toDigit 10 c).isSome)).head? ≠ some '.') :
    readIpv4 text = none := by
  unfold readIpv4
  cases hread : readSeparator '.' 0 readOctet text with
  | none => rfl
  | some first =>
    obtain ⟨a, rest⟩ := first
    have hrest : rest = text.dropWhile (fun c => (toDigit 10 c).isSome) := by
      unfold readSeparator readOctet readNumber at hread
      rw [if_pos rfl] at hread
      dsimp only at hread
      split at hread
      · cases hread
      · split at hread
        · cases hread
        · obtain ⟨n, -, heq⟩ := Option.map_eq_some_iff.1 hread
          have hparts := List.takeWhile_append_dropWhile (p := fun c => (toDigit 10 c).isSome) (l := text)
          rw [← (Prod.mk.inj heq).2]
          nth_rewrite 2 [← hparts]
          exact List.drop_left
    have hdot : readSeparator '.' 1 readOctet rest = none := by
      unfold readSeparator
      rw [if_neg (by decide), hrest]
      cases htext : text.dropWhile (fun c => (toDigit 10 c).isSome) with
      | nil => rfl
      | cons c cs =>
        rw [htext] at h
        have hne : c ≠ '.' := fun hc => h (by rw [hc]; rfl)
        rw [readGivenChar, if_neg hne]
        rfl
    simp only [bind, Option.bind, hdot]

theorem readIpv4_hex (group : Nat) {rest : Text} (hrest : ColonNext rest) : readIpv4 (hex group ++ rest) = none := by
  apply readIpv4_eq_none
  rw [List.dropWhile_append]
  split
  · rcases hrest with rfl | ⟨text, rfl⟩
    · simp
    · have hcolon : toDigit 10 ':' = none := by decide
      simp [hcolon]
  · next hne =>
    cases hhex : (hex group).dropWhile (fun c => (toDigit 10 c).isSome) with
    | nil => simp [hhex] at hne
    | cons c cs =>
      have hmem : c ∈ hex group := (List.dropWhile_suffix _).subset (by rw [hhex]; exact List.mem_cons_self)
      have hdot : c ≠ '.' := of_mem_toDigits (p := fun c => c ≠ '.') (by decide) (by decide) (by decide) hmem
      simpa using hdot

theorem readIpv4_colonNext {text : Text} (h : ColonNext text) : readIpv4 text = none := by
  unfold readIpv4 readSeparator
  rw [if_pos rfl, readOctet, readNumber_of_noDigit false (h.noDigit (by decide))]
  rfl

theorem readGroup_hex {group : Nat} (hgroup : group < 2 ^ 16) {rest : Text} (hrest : ColonNext rest) :
    readNumber 16 4 (2 ^ 16 - 1) true (hex group ++ rest) = some (group, rest) :=
  readNumber_toDigits true (by decide) (by decide)
    ((Nat.length_toDigits_le_iff (by decide) (by decide)).2 (by omega)) (by omega) (hrest.noDigit (by decide))

/-- The colon in front of every group but the first. -/
def colonBefore (index : Nat) : Text := if index = 0 then [] else [':']

theorem readSeparator_colonBefore {α : Type} (index : Nat) (read : Text → Option (α × Text)) (text : Text) :
    readSeparator ':' index read (colonBefore index ++ text) = read text := by
  unfold readSeparator colonBefore
  split <;> rfl

/-- **One group** is read off the front of a text. -/
theorem readGroups_group {limit index group : Nat} (hindex : index < limit) (hgroup : group < 2 ^ 16) {rest : Text}
    (hrest : ColonNext rest) : readGroups limit index (colonBefore index ++ (hex group ++ rest)) =
      (group :: (readGroups limit (index + 1) rest).1, (readGroups limit (index + 1) rest).2) := by
  have hipv4 : (if index < limit - 1 then readSeparator ':' index readIpv4 (colonBefore index ++ (hex group ++ rest))
      else none) = none := by
    rw [readSeparator_colonBefore, readIpv4_hex group hrest]
    split <;> rfl
  rw [readGroups, dif_neg (by omega), hipv4]
  dsimp only
  rw [readSeparator_colonBefore, readGroup_hex hgroup hrest]

/-- **No group** is read where the groups end. -/
theorem readGroups_end (limit index : Nat) {rest : Text} (hrest : GroupsEnd rest) :
    readGroups limit index rest = ([], false, rest) := by
  have hnumber : ∀ {text : Text}, ColonNext text → readNumber 16 4 (2 ^ 16 - 1) true text = none :=
    fun h => readNumber_of_noDigit true (h.noDigit (by decide))
  have hseparator : ∀ {α : Type} (read : Text → Option (α × Text)), (∀ text, ColonNext text → read text = none) →
      readSeparator ':' index read rest = none := by
    intro α read hread
    unfold readSeparator
    rcases hrest with rfl | ⟨text, rfl⟩
    · split
      · exact hread [] (.inl rfl)
      · rfl
    · split
      · exact hread _ (.inr ⟨_, rfl⟩)
      · exact hread _ (.inr ⟨_, rfl⟩)
  rw [readGroups]
  split
  · rfl
  · rw [hseparator readIpv4 (fun _ => readIpv4_colonNext), ite_self]
    dsimp only
    rw [hseparator _ (fun _ => hnumber)]

/-- The groups from the one at `index` on. -/
def groupsText (index : Nat) : List Nat → Text
  | [] => []
  | group :: groups => colonBefore index ++ (hex group ++ groupsText (index + 1) groups)

theorem groupsText_succ : ∀ (index : Nat) (groups : List Nat),
    groupsText (index + 1) groups = groups.flatMap (fun group => ':' :: hex group)
  | _, [] => rfl
  | index, group :: groups => by
    rw [groupsText, groupsText_succ (index + 1) groups]
    rfl

theorem join_hex (groups : List Nat) : join ":" (groups.map hex) = groupsText 0 groups := by
  cases groups with
  | nil => rfl
  | cons group groups =>
    rw [groupsText, groupsText_succ]
    induction groups generalizing group with
    | nil => simp [join, colonBefore]
    | cons next groups ih =>
      have hstep := ih next
      simp only [join, colonBefore, List.map_cons, List.intercalate, List.intersperse, List.flatten_cons,
        List.flatMap_cons, if_true, List.nil_append] at hstep ⊢
      rw [hstep]
      rfl

theorem colonNext_groupsText (index : Nat) (groups : List Nat) {rest : Text} (hrest : GroupsEnd rest) :
    ColonNext (groupsText (index + 1) groups ++ rest) := by
  cases groups with
  | nil =>
    rcases hrest with rfl | ⟨text, rfl⟩
    · exact .inl rfl
    · exact .inr ⟨_, rfl⟩
  | cons group groups => exact .inr ⟨_, rfl⟩

theorem readIpv4_groupsText (groups : List Nat) {rest : Text} (hrest : GroupsEnd rest) :
    readIpv4 (groupsText 0 groups ++ rest) = none := by
  cases groups with
  | nil =>
    rcases hrest with rfl | ⟨text, rfl⟩
    · exact readIpv4_colonNext (.inl rfl)
    · exact readIpv4_colonNext (.inr ⟨_, rfl⟩)
  | cons group groups =>
    rw [groupsText, List.append_assoc, List.append_assoc]
    exact readIpv4_hex group (colonNext_groupsText 0 groups hrest)

/-- **Groups are read off the front of a text**, up to where they end. -/
theorem readGroups_groupsText (limit : Nat) {rest : Text} (hrest : GroupsEnd rest) : ∀ (groups : List Nat)
    (index : Nat), (∀ group ∈ groups, group < 2 ^ 16) → index + groups.length ≤ limit →
    readGroups limit index (groupsText index groups ++ rest) = (groups, false, rest)
  | [], index, _, _ => readGroups_end limit index hrest
  | group :: groups, index, hlt, hle => by
    rw [List.length_cons] at hle
    rw [groupsText, List.append_assoc, List.append_assoc,
      readGroups_group (by omega) (hlt group List.mem_cons_self) (colonNext_groupsText index groups hrest),
      readGroups_groupsText limit hrest groups (index + 1) (fun g hg => hlt g (List.mem_cons_of_mem _ hg)) (by omega)]

/-! ## Addresses -/

theorem ofGroups_eq {groups : List Nat} {address : Ipv6Addr} (hlength : groups.length = 8)
    (hgroups : groups.flatMap (fun group => [UInt8.ofNat (group / 256), UInt8.ofNat group]) = address.octets) :
    Ipv6Addr.ofGroups groups = address := by
  have hpadded : (groups ++ List.replicate 8 0).take 8 = groups := by
    rw [← hlength, List.take_left]
  unfold Ipv6Addr.ofGroups
  simp only [hpadded, hgroups]

/-- An address with all its groups. -/
theorem readIpv6_full {groups : List Nat} (hlength : groups.length = 8) (hlt : ∀ group ∈ groups, group < 2 ^ 16) :
    readIpv6 (groupsText 0 groups) = some (Ipv6Addr.ofGroups groups, []) := by
  have hread := readGroups_groupsText 8 (.inl rfl) groups 0 hlt (by omega)
  rw [List.append_nil] at hread
  unfold readIpv6
  rw [hread]
  dsimp only
  rw [if_pos hlength]

/-- An address with two colons in place of a run of zeroes. -/
theorem readIpv6_compressed {groups : List Nat} {run : Nat × Nat} (hlength : groups.length = 8)
    (hlt : ∀ group ∈ groups, group < 2 ^ 16) (hrun : ZeroRun groups run) (hlong : 1 < run.2) :
    readIpv6 (join ":" ((groups.take run.1).map hex) ++ "::" ++ join ":" ((groups.drop (run.1 + run.2)).map hex)) =
      some (Ipv6Addr.ofGroups groups, []) := by
  obtain ⟨before, after, hbefore, hgroups⟩ := hrun
  have htake : groups.take run.1 = before := by rw [hgroups, ← hbefore, List.take_left]
  have hdrop : groups.drop (run.1 + run.2) = after := by
    rw [← List.drop_drop, hgroups, ← hbefore, List.drop_left]
    exact List.drop_left' List.length_replicate
  have hsum : before.length + run.2 + after.length = 8 := by
    rw [← hlength, hgroups, List.length_append, List.length_append, List.length_replicate, Nat.add_assoc]
  have hhead := readGroups_groupsText 8 (.inr ⟨groupsText 0 after, rfl⟩) before 0
    (fun g hg => hlt g (List.mem_of_mem_take (htake ▸ hg))) (by omega)
  have htail := readGroups_groupsText (8 - (before.length + 1)) (.inl rfl) after 0
    (fun g hg => hlt g (List.mem_of_mem_drop (hdrop ▸ hg))) (by omega)
  rw [List.append_nil] at htail
  have hcount : 8 - after.length - before.length = run.2 := by omega
  rw [htake, hdrop, join_hex, join_hex, List.append_assoc,
    show ("::" ++ groupsText 0 after : Text) = ':' :: ':' :: groupsText 0 after from rfl]
  unfold readIpv6
  rw [hhead]
  dsimp only
  rw [if_neg (by omega), if_neg (by decide)]
  simp only [readGivenChar, if_true, bind, Option.bind, htail, hcount, pure]
  rw [hgroups, List.append_assoc]

/-- An address that ends in an IPv4 address. -/
theorem readIpv6_mapped (address : Ipv4Addr) : readIpv6 ("::ffff:" ++ address.display) =
    some (Ipv6Addr.ofGroups (List.replicate 5 0 ++ 0xffff :: segments address.octets), []) := by
  have hipv4 : readIpv4 address.display = some (address, []) := by
    have hread := @readIpv4_display address [] (by rintro c ⟨⟩)
    rwa [List.append_nil] at hread
  have hlast : readGroups 7 1 (colonBefore 1 ++ address.display) = (segments address.octets, true, []) := by
    rw [readGroups, dif_neg (by decide), if_pos (by decide), readSeparator_colonBefore 1 readIpv4, hipv4]
  have htail : readGroups 7 0 ("ffff:" ++ address.display) = (0xffff :: segments address.octets, true, []) := by
    have hgroup := @readGroups_group 7 0 0xffff (by decide) (by decide) (colonBefore 1 ++ address.display)
      (.inr ⟨_, rfl⟩)
    rw [hlast] at hgroup
    exact hgroup
  have hhead := readGroups_end 8 0 (.inr ⟨"ffff:" ++ address.display, rfl⟩)
  unfold readIpv6
  rw [show ("::ffff:" ++ address.display : Text) = ':' :: ':' :: ("ffff:" ++ address.display) from rfl, hhead]
  dsimp only
  rw [if_neg (by decide), if_neg (by decide)]
  simp only [readGivenChar, if_true, bind, Option.bind, List.length_nil, htail, pure]
  rfl

theorem readIpv6_display (address : Ipv6Addr) : readIpv6 address.display = some (address, []) := by
  obtain ⟨hlength, hlt, hback⟩ := segments_spec 8 address.octets address.length_octets
  unfold Ipv6Addr.display
  split
  · next hmapped =>
    obtain ⟨a, b, c, d, htail⟩ : ∃ a b c d, address.octets.drop 12 = [a, b, c, d] := by
      have hfour : (address.octets.drop 12).length = 4 := by rw [List.length_drop, address.length_octets]
      match address.octets.drop 12, hfour with
      | [a, b, c, d], _ => exact ⟨a, b, c, d, rfl⟩
    have hwhole : address.octets = List.replicate 10 0 ++ [0xff, 0xff] ++ [a, b, c, d] := by
      rw [← hmapped, ← htail, List.take_append_drop]
    have hdisplay : join "." ((address.octets.drop 12).map (fun octet => decimal octet.toNat)) =
        (Ipv4Addr.new a b c d).display := by
      rw [Ipv4Addr.display, Ipv4Addr.octets_new, htail]
    obtain ⟨hsegments, -, hpair⟩ := segments_spec 2 [a, b, c, d] rfl
    rw [hdisplay, readIpv6_mapped, Ipv4Addr.octets_new, ofGroups_eq]
    · simp [hsegments]
    · rw [List.flatMap_append, List.flatMap_cons, hpair, hwhole]
      rfl
  · dsimp only
    split
    · next hlong =>
      have hrun : ZeroRun (segments address.octets) (longestZeros (segments address.octets) 0 (0, 0) (0, 0)) :=
        longestZeros_zeroRun (segments address.octets) [] (0, 0) (0, 0) (.inl rfl) ⟨[], _, rfl, rfl⟩
      rw [readIpv6_compressed hlength hlt hrun hlong, ofGroups_eq hlength hback]
    · rw [join_hex, readIpv6_full hlength hlt, ofGroups_eq hlength hback]

/-- The text of an IPv6 address is no IPv4 address. -/
theorem readIpv4_display_v6 (address : Ipv6Addr) : readIpv4 address.display = none := by
  unfold Ipv6Addr.display
  split
  · exact readIpv4_colonNext (.inr ⟨_, rfl⟩)
  · dsimp only
    split
    · rw [join_hex, List.append_assoc]
      exact readIpv4_groupsText _ (.inr ⟨_, rfl⟩)
    · rw [join_hex, ← List.append_nil (groupsText 0 _)]
      exact readIpv4_groupsText _ (.inl rfl)

/-- **An address reads back from its text.** -/
theorem parse_display (address : IpAddr) : IpAddr.parse address.display = some address := by
  unfold IpAddr.parse
  cases address with
  | v4 address =>
    have hread := @readIpv4_display address [] (by rintro c ⟨⟩)
    rw [List.append_nil] at hread
    simp only [IpAddr.display, hread, if_true]
  | v6 address =>
    simp only [IpAddr.display, readIpv4_display_v6, readIpv6_display, if_true]

/-- Different addresses have different texts. -/
theorem display_injective : Function.Injective IpAddr.display := by
  intro address address' h
  have hparse := parse_display address
  rw [h, parse_display] at hparse
  exact (Option.some.inj hparse).symm

end Networkrs
