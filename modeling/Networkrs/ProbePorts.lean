import Mathlib.Data.List.Sort
import Mathlib.Data.List.TakeWhile
import Mathlib.Data.Set.Card
import Networkrs.Arguments
/-!
# ProbePorts — a probe port expression denotes a set

An item of the expression denotes one port, or the ports of a range (`Denotes`), and the expression the union of its
items.  `parse_probe_ports` checks the size of the union as it grows, in the middle of ranges and after each item; its
verdict is that on the whole union, and what it returns is the union in ascending order (`parseProbePorts_denotes`).
-/
namespace Networkrs

open Machine

/-! ## What an expression denotes -/

/-- A port token: `u16::from_str` accepts it, and it is not zero. -/
def IsPort (token : Text) (port : UInt16) : Prop :=
  parseUnsigned 10 (2 ^ 16 - 1) token = some port.toNat ∧ port ≠ 0

/-- **What an item denotes**: a port, or all ports from a first to a last. -/
inductive Denotes (item : Text) : Set UInt16 → Prop where
  | port {p : UInt16} : IsPort item p → Denotes item {x | x = p}
  | range {first last : Text} {p q : UInt16} : item = first ++ '-' :: last → IsPort first p → IsPort last q → p ≤ q →
      Denotes item {x | p ≤ x ∧ x ≤ q}

/-- The ports of a list of items: those that one of them denotes. -/
def denoted (items : List Text) : Set UInt16 := {port | ∃ item ∈ items, ∃ ports, Denotes item ports ∧ port ∈ ports}

/-- The items of an expression. -/
def probeItems (value : Text) : List Text := (splitAll ',' value).map trim

theorem toDigit_dash : toDigit 10 '-' = none := by decide

theorem parseDigits_dash (max : Nat) : ∀ (text : Text) (value n : Nat), '-' ∈ text →
    parseDigits 10 max text value ≠ some n
  | [], _, _, h => by cases h
  | c :: cs, value, n, h => by
    intro hparse
    rw [parseDigits] at hparse
    rcases List.mem_cons.1 h with rfl | h
    · rw [toDigit_dash] at hparse
      cases hparse
    · cases hdigit : toDigit 10 c with
      | none => rw [hdigit] at hparse; cases hparse
      | some digit =>
        simp only [hdigit] at hparse
        split at hparse
        · exact parseDigits_dash max cs _ n h hparse
        · cases hparse

/-- A number has no dash in it. -/
theorem not_mem_dash_of_parseUnsigned {max n : Nat} {text : Text} (h : parseUnsigned 10 max text = some n) :
    '-' ∉ text := by
  intro hdash
  unfold parseUnsigned at h
  split at h
  · cases h
  · next c cs =>
    split at h
    · cases h
    · split at h
      · next hplus =>
        rcases List.mem_cons.1 hdash with hc | hcs
        · rw [hplus] at hc
          cases hc
        · exact parseDigits_dash max cs 0 n hcs h
      · exact parseDigits_dash max (c :: cs) 0 n hdash h

theorem IsPort.not_mem_dash {token : Text} {port : UInt16} (h : IsPort token port) : '-' ∉ token :=
  not_mem_dash_of_parseUnsigned h.1

theorem parseProbePort_eq_ok_iff (token : Text) (port : UInt16) :
    parseProbePort token = .ok port ↔ IsPort token port := by
  unfold parseProbePort IsPort
  cases hparse : parseUnsigned 10 (2 ^ 16 - 1) token with
  | none => exact iff_of_false (fun h => by cases h) (fun h => by cases h.1)
  | some n =>
    have hn := parseUnsigned_le 10 _ token n hparse
    have hnat : (UInt16.ofNat n).toNat = n := by
      rw [UInt16.toNat_ofNat']
      omega
    dsimp only
    by_cases h0 : n = 0
    · rw [if_pos h0, h0]
      refine iff_of_false (fun h => by cases h) (fun h => h.2 ?_)
      rw [← UInt16.toNat_inj]
      exact (Option.some.inj h.1).symm
    · rw [if_neg h0, Except.ok.injEq, Option.some.injEq]
      constructor
      · rintro rfl
        refine ⟨hnat.symm, fun hzero => h0 ?_⟩
        rw [← hnat, hzero]
        rfl
      · rintro ⟨rfl, -⟩
        exact UInt16.ofNat_toNat

/-- The first dash of a text is where it is split. -/
theorem splitOnce_eq_none_iff (separator : Char) (text : Text) :
    splitOnce separator text = none ↔ separator ∉ text := by
  unfold splitOnce
  rw [List.span_eq_takeWhile_dropWhile]
  cases hdrop : text.dropWhile (· != separator) with
  | nil =>
    rw [List.dropWhile_eq_nil_iff] at hdrop
    refine iff_of_true rfl (fun hmem => ?_)
    have := hdrop separator hmem
    simp at this
  | cons c cs =>
    refine iff_of_false (fun h => by cases h) (fun hmem => ?_)
    have hall : text.dropWhile (· != separator) = [] := by
      rw [List.dropWhile_eq_nil_iff]
      intro c hc
      rw [bne_iff_ne]
      exact fun heq => hmem (heq ▸ hc)
    rw [hdrop] at hall
    cases hall

theorem splitOnce_eq_some {separator : Char} {text before after : Text}
    (h : splitOnce separator text = some (before, after)) : text = before ++ separator :: after := by
  unfold splitOnce at h
  rw [List.span_eq_takeWhile_dropWhile] at h
  have happend := List.takeWhile_append_dropWhile (p := (· != separator)) (l := text)
  cases hdrop : text.dropWhile (· != separator) with
  | nil => rw [hdrop] at h; cases h
  | cons c cs =>
    have hc := List.head_dropWhile_not (· != separator) (l := text) (by rw [hdrop]; exact List.cons_ne_nil _ _)
    simp only [hdrop, List.head_cons, bne_eq_false_iff_eq] at hc
    rw [hdrop] at h
    cases h
    rw [hdrop, hc] at happend
    exact happend.symm

/-! ## Sets that grow -/

/-- Ports inserted one after the other. -/
def insertAll (range ports : List UInt16) : List UInt16 := range.foldl (fun ports port => insertPort port ports) ports

theorem mem_insertAll (x : UInt16) : ∀ (range ports : List UInt16), x ∈ insertAll range ports ↔ x ∈ range ∨ x ∈ ports
  | [], ports => by simp [insertAll]
  | port :: range, ports => by
    have ih := mem_insertAll x range (insertPort port ports)
    rw [insertAll, List.foldl_cons, ← insertAll, ih, mem_insertPort, List.mem_cons]
    exact or_left_comm.trans or_assoc.symm

theorem sorted_insertAll : ∀ (range : List UInt16) {ports : List UInt16}, ports.Pairwise (· < ·) →
    (insertAll range ports).Pairwise (· < ·)
  | [], _, h => h
  | port :: range, _, h => sorted_insertAll range (sorted_insertPort port h)

theorem nodup_of_ascending {ports : List UInt16} (h : ports.Pairwise (· < ·)) : ports.Nodup :=
  List.Pairwise.imp UInt16.ne_of_lt h

/-- An ascending list is its set: it is no longer than any list with its elements. -/
theorem length_le_of_subset {ports ports' : List UInt16} (h : ports.Pairwise (· < ·)) (hsub : ∀ x ∈ ports, x ∈ ports') :
    ports.length ≤ ports'.length :=
  (List.Nodup.subperm (nodup_of_ascending h) hsub).length_le

/-- **A range is inserted whole or refused**: the check inside it refuses exactly the sets that end up too large. -/
theorem insertPorts_eq : ∀ (range : List UInt16) {ports : List UInt16}, IsPortSet ports →
    insertPorts range ports =
      if (insertAll range ports).length ≤ maxProbePorts then .ok (insertAll range ports) else tooManyProbePorts
  | [], ports, h => (if_pos h.2).symm
  | port :: range, ports, h => by
    have hsorted := sorted_insertPort port h.1
    rw [insertPorts, insertAll, List.foldl_cons, ← insertAll]
    by_cases hle : (insertPort port ports).length ≤ maxProbePorts
    · rw [if_neg (Nat.not_lt.2 hle), insertPorts_eq range ⟨hsorted, hle⟩]
    · have hgrows : (insertPort port ports).length ≤ (insertAll range (insertPort port ports)).length :=
        length_le_of_subset hsorted (fun x hx => (mem_insertAll x range _).2 (Or.inr hx))
      rw [if_pos (Nat.lt_of_not_le hle), if_neg (by omega)]

theorem mem_portRange (first last x : UInt16) : x ∈ portRange first last ↔ first ≤ x ∧ x ≤ last := by
  have hx := x.toNat_lt
  have hlast := last.toNat_lt
  rw [portRange, List.mem_map, UInt16.le_iff_toNat_le, UInt16.le_iff_toNat_le]
  constructor
  · rintro ⟨n, hn, rfl⟩
    rw [List.mem_range'_1] at hn
    rw [UInt16.toNat_ofNat']
    omega
  · rintro ⟨hfirst, hle⟩
    exact ⟨x.toNat, List.mem_range'_1.2 ⟨hfirst, by omega⟩, UInt16.ofNat_toNat⟩

/-! ## The parser -/

/-- One turn of the loop: the ports of an item, and the check behind them. -/
def probeTurn (item : Text) (ports : List UInt16) : Except IoError (List UInt16) := do
  let ports ← addProbePorts item ports
  if maxProbePorts < ports.length then tooManyProbePorts else return ports

theorem probePortsFrom_cons (item : Text) (items : List Text) (ports : List UInt16) :
    probePortsFrom (item :: items) ports = probeTurn (trim item) ports >>= probePortsFrom items := by
  rw [probePortsFrom, probeTurn]
  cases addProbePorts (trim item) ports with
  | error e => rfl
  | ok added =>
    simp only [ok_bind]
    split <;> rfl

/-- **An item that denotes ports adds them** while the set stays small enough. -/
theorem probeTurn_of_denotes {item : Text} {denotes : Set UInt16} (h : Denotes item denotes) {ports : List UInt16}
    (hports : IsPortSet ports) : ∃ range : List UInt16, (∀ x, x ∈ range ↔ x ∈ denotes) ∧
      probeTurn item ports =
        if (insertAll range ports).length ≤ maxProbePorts then .ok (insertAll range ports) else tooManyProbePorts := by
  cases h with
  | @port p hp =>
    refine ⟨[p], fun x => List.mem_singleton, ?_⟩
    have hne : item ≠ [] := by
      rintro rfl
      cases hp.1
    have hsplit := (splitOnce_eq_none_iff '-' item).2 hp.not_mem_dash
    have hport := (parseProbePort_eq_ok_iff item p).2 hp
    rw [probeTurn, addProbePorts, if_neg hne, hsplit]
    simp only [hport, ok_bind, pure, Except.pure]
    change (if maxProbePorts < (insertPort p ports).length then _ else _) =
      if (insertPort p ports).length ≤ maxProbePorts then _ else _
    by_cases hle : (insertPort p ports).length ≤ maxProbePorts
    · rw [if_pos hle, if_neg (Nat.not_lt.2 hle)]
      rfl
    · rw [if_neg hle, if_pos (Nat.lt_of_not_le hle)]
  | @range first last p q hitem hp hq hpq =>
    refine ⟨portRange p q, fun x => mem_portRange p q x, ?_⟩
    have hne : item ≠ [] := by
      rw [hitem]
      exact List.append_ne_nil_of_right_ne_nil _ (List.cons_ne_nil _ _)
    have hsplit : splitOnce '-' item = some (first, last) := by
      rw [hitem]
      exact splitOnce_append last hp.not_mem_dash
    have hfirst := (parseProbePort_eq_ok_iff first p).2 hp
    have hlast := (parseProbePort_eq_ok_iff last q).2 hq
    rw [probeTurn, addProbePorts, if_neg hne, hsplit]
    simp only [hfirst, hlast, ok_bind]
    rw [if_neg (UInt16.not_lt.2 hpq), insertPorts_eq _ hports]
    by_cases hle : (insertAll (portRange p q) ports).length ≤ maxProbePorts
    · rw [if_pos hle, ok_bind, if_neg (Nat.not_lt.2 hle)]
      rfl
    · rw [if_neg hle]
      rfl

/-- **An item that is accepted denotes ports.** -/
theorem denotes_of_addProbePorts {item : Text} {ports ports' : List UInt16}
    (h : addProbePorts item ports = .ok ports') : ∃ denotes, Denotes item denotes := by
  unfold addProbePorts at h
  split at h
  · cases h
  split at h
  · next first last hsplit =>
    obtain ⟨p, hp, h⟩ := (bind_eq_ok_iff _ _ _).1 h
    obtain ⟨q, hq, h⟩ := (bind_eq_ok_iff _ _ _).1 h
    split at h
    · cases h
    · next hle =>
      exact ⟨_, .range (splitOnce_eq_some hsplit) ((parseProbePort_eq_ok_iff first p).1 hp)
        ((parseProbePort_eq_ok_iff last q).1 hq) (UInt16.not_lt.1 hle)⟩
  · obtain ⟨p, hp, -⟩ := (bind_eq_ok_iff _ _ _).1 h
    exact ⟨_, .port ((parseProbePort_eq_ok_iff item p).1 hp)⟩

/-- An item denotes one set. -/
theorem Denotes.unique {item : Text} {s t : Set UInt16} (hs : Denotes item s) (ht : Denotes item t) : s = t := by
  have hempty : IsPortSet [] := ⟨List.Pairwise.nil, Nat.zero_le _⟩
  cases hs with
  | @port p hp =>
    cases ht with
    | @port p' hp' =>
      obtain rfl := UInt16.toNat_inj.1 (Option.some.inj (hp.1.symm.trans hp'.1))
      rfl
    | range hitem => exact absurd (hitem ▸ List.mem_append_right _ List.mem_cons_self) hp.not_mem_dash
  | @range first last p q hitem hp hq hpq =>
    cases ht with
    | port hp' => exact absurd (hitem ▸ List.mem_append_right _ List.mem_cons_self) hp'.not_mem_dash
    | @range first' last' p' q' hitem' hp' hq' hpq' =>
      have hsplit := splitOnce_append last hp.not_mem_dash
      have hsplit' := splitOnce_append last' hp'.not_mem_dash
      rw [← hitem] at hsplit
      rw [← hitem', hsplit] at hsplit'
      obtain ⟨rfl, rfl⟩ := Prod.mk.inj (Option.some.inj hsplit')
      obtain rfl := UInt16.toNat_inj.1 (Option.some.inj (hp.1.symm.trans hp'.1))
      obtain rfl := UInt16.toNat_inj.1 (Option.some.inj (hq.1.symm.trans hq'.1))
      rfl

/-- **The loop accepts the lists whose items all denote ports, and whose union is small enough**, and returns the union
in ascending order. -/
theorem probePortsFrom_eq_ok_iff (result : List UInt16) : ∀ (items : List Text) {ports : List UInt16},
    IsPortSet ports →
    (probePortsFrom items ports = .ok result ↔
      (∀ item ∈ items, ∃ denotes, Denotes (trim item) denotes) ∧ result.Pairwise (· < ·) ∧
        (∀ x, x ∈ result ↔ x ∈ ports ∨ x ∈ denoted (items.map trim)) ∧ result.length ≤ maxProbePorts)
  | [], ports, hports => by
    have hnone : ∀ x, x ∉ denoted ([].map trim) := by
      rintro x ⟨item, hitem, -⟩
      cases hitem
    rw [probePortsFrom, Except.ok.injEq]
    constructor
    · rintro rfl
      exact ⟨fun item hitem => (by cases hitem), hports.1, fun x => (or_iff_left (hnone x)).symm, hports.2⟩
    · rintro ⟨-, hsorted, hmem, -⟩
      exact List.Pairwise.eq_of_mem_iff hports.1 hsorted (fun x => ((hmem x).trans (or_iff_left (hnone x))).symm)
  | item :: items, ports, hports => by
    rw [probePortsFrom_cons]
    by_cases hitem : ∃ denotes, Denotes (trim item) denotes
    · obtain ⟨denotes, hdenotes⟩ := hitem
      obtain ⟨range, hrange, hturn⟩ := probeTurn_of_denotes hdenotes hports
      have hsorted := sorted_insertAll range hports.1
      have hunion : ∀ x, x ∈ denoted ((item :: items).map trim) ↔ x ∈ range ∨ x ∈ denoted (items.map trim) := by
        intro x
        constructor
        · rintro ⟨i, hi, s, hs, hx⟩
          rcases List.mem_cons.1 hi with rfl | hi
          · exact Or.inl ((hrange x).2 (hdenotes.unique hs ▸ hx))
          · exact Or.inr ⟨i, hi, s, hs, hx⟩
        · rintro (hx | ⟨i, hi, s, hs, hx⟩)
          · exact ⟨trim item, List.mem_cons_self, denotes, hdenotes, (hrange x).1 hx⟩
          · exact ⟨i, List.mem_cons_of_mem _ hi, s, hs, hx⟩
      have hall : (∀ i ∈ item :: items, ∃ denotes, Denotes (trim i) denotes) ↔
          ∀ i ∈ items, ∃ denotes, Denotes (trim i) denotes :=
        ⟨fun h i hi => h i (List.mem_cons_of_mem _ hi), fun h i hi => by
          rcases List.mem_cons.1 hi with rfl | hi
          · exact ⟨denotes, hdenotes⟩
          · exact h i hi⟩
      have hmem : ∀ x, x ∈ ports ∨ x ∈ denoted ((item :: items).map trim) ↔
          x ∈ insertAll range ports ∨ x ∈ denoted (items.map trim) := fun x => by
        rw [hunion, mem_insertAll, ← or_assoc, or_comm (a := x ∈ ports)]
      rw [hturn, hall]
      simp only [hmem]
      by_cases hle : (insertAll range ports).length ≤ maxProbePorts
      · rw [if_pos hle, ok_bind]
        exact probePortsFrom_eq_ok_iff result items ⟨hsorted, hle⟩
      · rw [if_neg hle]
        refine iff_of_false (fun h => by cases h) (fun h => hle ?_)
        obtain ⟨-, -, hresult, hlength⟩ := h
        have hgrows := length_le_of_subset hsorted (fun x hx => (hresult x).2 (Or.inl hx))
        omega
    · refine iff_of_false (fun h => ?_) (fun h => hitem (h.1 item List.mem_cons_self))
      obtain ⟨added, hturn, -⟩ := (bind_eq_ok_iff _ _ _).1 h
      obtain ⟨added, hadd, -⟩ := (bind_eq_ok_iff _ _ _).1 hturn
      exact hitem (denotes_of_addProbePorts hadd)

/-- An ascending list of a set has as many elements as the set. -/
theorem ncard_of_ascending {ports : List UInt16} {s : Set UInt16} (h : ports.Pairwise (· < ·))
    (hmem : ∀ x, x ∈ ports ↔ x ∈ s) : s.ncard = ports.length := by
  have hs : s = ↑ports.toFinset := by
    ext x
    rw [List.coe_toFinset, Set.mem_ofPred_eq, hmem]
  rw [hs, Set.ncard_coe_finset, List.toFinset_card_of_nodup (nodup_of_ascending h)]

theorem exists_ascending (s : Set UInt16) :
    ∃ ports : List UInt16, ports.Pairwise (· < ·) ∧ ∀ x, x ∈ ports ↔ x ∈ s := by
  classical
  refine ⟨insertAll ((List.range (2 ^ 16)).map UInt16.ofNat |>.filter (fun x => decide (x ∈ s))) [],
    sorted_insertAll _ List.Pairwise.nil, fun x => ?_⟩
  rw [mem_insertAll, List.mem_filter, decide_eq_true_eq]
  have hx : x ∈ (List.range (2 ^ 16)).map UInt16.ofNat :=
    List.mem_map.2 ⟨x.toNat, List.mem_range.2 x.toNat_lt, UInt16.ofNat_toNat⟩
  simp only [hx, true_and, List.not_mem_nil, or_false]

theorem Denotes.ne_zero {item : Text} {denotes : Set UInt16} (h : Denotes item denotes) : (0 : UInt16) ∉ denotes := by
  cases h with
  | @port p hp => exact fun h0 => hp.2 (Eq.symm h0)
  | @range first last p q hsplit hp hq hpq => exact fun h0 => hp.2 (UInt16.le_zero_iff.1 h0.1)

/-- **A probe port expression denotes a set.**  It is accepted exactly when each of its items denotes ports and the
union has at most 4096 of them, and then it is parsed to that union in ascending order. -/
theorem parseProbePorts_denotes (value : Text) :
    ((∃ ports, parseProbePorts value = .ok ports) ↔
      (∀ item ∈ probeItems value, ∃ denotes, Denotes item denotes) ∧
        (denoted (probeItems value)).ncard ≤ maxProbePorts) ∧
    ∀ ports, parseProbePorts value = .ok ports →
      ports.Pairwise (· < ·) ∧ (∀ port, port ∈ ports ↔ port ∈ denoted (probeItems value)) ∧ ports ≠ [] ∧
        ports.Nodup ∧ 0 ∉ ports := by
  have hempty : IsPortSet [] := ⟨List.Pairwise.nil, Nat.zero_le _⟩
  have hloop : ∀ ports, parseProbePorts value = .ok ports ↔
      (∀ item ∈ probeItems value, ∃ denotes, Denotes item denotes) ∧ ports.Pairwise (· < ·) ∧
        (∀ x, x ∈ ports ↔ x ∈ denoted (probeItems value)) ∧ ports.length ≤ maxProbePorts := fun ports => by
    rw [parseProbePorts, probePortsFrom_eq_ok_iff ports (splitAll ',' value) hempty, probeItems]
    simp only [List.forall_mem_map, List.not_mem_nil, false_or]
  constructor
  · constructor
    · rintro ⟨ports, hports⟩
      obtain ⟨hitems, hsorted, hmem, hlength⟩ := (hloop ports).1 hports
      exact ⟨hitems, by rw [ncard_of_ascending hsorted hmem]; exact hlength⟩
    · rintro ⟨hitems, hcard⟩
      obtain ⟨ports, hsorted, hmem⟩ := exists_ascending (denoted (probeItems value))
      rw [ncard_of_ascending hsorted hmem] at hcard
      exact ⟨ports, (hloop ports).2 ⟨hitems, hsorted, hmem, hcard⟩⟩
  · intro ports hports
    obtain ⟨hne, hsorted, -⟩ := parseProbePorts_spec hports
    obtain ⟨-, -, hmem, -⟩ := (hloop ports).1 hports
    refine ⟨hsorted, hmem, hne, nodup_of_ascending hsorted, fun hzero => ?_⟩
    obtain ⟨item, -, denotes, hdenotes, h0⟩ := (hmem 0).1 hzero
    exact hdenotes.ne_zero h0

theorem parseProbePorts_denotes_list :
    parseProbePorts "443, 22,443" = .ok [22, 443] ∧
      ([22, 443] : List UInt16).Pairwise (· < ·) ∧ ([22, 443] : List UInt16).Nodup := by
  have hparse : parseProbePorts "443, 22,443" = .ok [22, 443] := by decide +kernel
  obtain ⟨hsorted, -, -, hnodup, -⟩ := (parseProbePorts_denotes "443, 22,443").2 [22, 443] hparse
  exact ⟨hparse, hsorted, hnodup⟩

end Networkrs
