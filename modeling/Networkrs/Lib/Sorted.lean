import Mathlib.Algebra.Group.Action.Defs
import Mathlib.Algebra.Order.BigOperators.Group.List
import Mathlib.Algebra.Order.Ring.Nat
import Mathlib.Data.List.Basic
import Mathlib.Order.Bounds.Basic
/-!
# Sorted — what a sort forgets

A stable merge sort by a total order depends only on which entries its list holds (`mergeSort_eq_of_perm`), and an
entry a list already sorted holds is where the sort leaves it (`mergeSort_eq_of_perm_sorted`).  The order need be
antisymmetric on the entries alone, so a sort by a key whose values are distinct is covered.

A sort by a key is stable: it keeps the entries of each key in their order, and no other sorted list does
(`sortByKey_eq_iff`).  So lists that were sorted before they are joined and sorted again are as if they had been sorted
once (`sortByKey_append`).

The ends of a sorted list are its least and its greatest entry (`isLeast_of_head?`, `isGreatest_of_getLast?`), and the
floored mean of numbers lies between them (`le_mean`, `mean_le`).
-/
namespace Machine

section

variable {α : Type} {le : α → α → Bool} (trans : ∀ a b c, le a b → le b c → le a c)
  (total : ∀ a b, le a b || le b a)

include trans total

/-- **Sorting forgets the order of the entries.** -/
theorem mergeSort_eq_of_perm {l l' : List α} (anti : ∀ a ∈ l, ∀ b ∈ l, le a b → le b a → a = b) (h : l.Perm l') :
    l.mergeSort le = l'.mergeSort le := by
  have hperm := List.mergeSort_perm l le
  have hperm' := List.mergeSort_perm l' le
  have hsorted := List.pairwise_mergeSort trans total l
  have hsorted' := List.pairwise_mergeSort trans total l'
  refine List.Perm.eq_of_pairwise ?_ hsorted hsorted' (hperm.trans (h.trans hperm'.symm))
  intro a b ha hb
  have ha' : a ∈ l := hperm.mem_iff.1 ha
  have hb' : b ∈ l := h.mem_iff.2 (hperm'.mem_iff.1 hb)
  exact anti a ha' b hb'

/-- **Sorting restores a sorted list** from any arrangement of its entries. -/
theorem mergeSort_eq_of_perm_sorted {l l' : List α} (anti : ∀ a ∈ l, ∀ b ∈ l, le a b → le b a → a = b)
    (h : l.Perm l') (hsorted : l'.Pairwise (fun a b => le a b)) : l.mergeSort le = l' := by
  rw [mergeSort_eq_of_perm trans total anti h]
  exact List.mergeSort_of_pairwise hsorted

end

section
variable {α κ : Type} [LinearOrder κ] (key : α → κ)

/-- `sort_by_key`. -/
def sortByKey (l : List α) : List α := l.mergeSort (fun a b => key a ≤ key b)

theorem sortByKey_perm (l : List α) : (sortByKey key l).Perm l := List.mergeSort_perm l _

theorem pairwise_sortByKey (l : List α) : (sortByKey key l).Pairwise (fun a b => key a ≤ key b) := by
  have hsorted := @List.pairwise_mergeSort α (fun a b => decide (key a ≤ key b))
    (fun a b c hab hbc => decide_eq_true (le_trans (of_decide_eq_true hab) (of_decide_eq_true hbc)))
    (fun a b => by simpa using le_total (key a) (key b)) l
  exact hsorted.imp of_decide_eq_true

end

/-- **A sort by a key that tells the entries apart** forgets their order. -/
theorem sortByKey_eq_of_perm {α κ : Type} [LinearOrder κ] {key : α → κ} {l l' : List α}
    (hkey : ∀ a ∈ l, ∀ b ∈ l, key a = key b → a = b) (h : l.Perm l') : sortByKey key l = sortByKey key l' := by
  refine @mergeSort_eq_of_perm α (fun a b => decide (key a ≤ key b)) ?_ ?_ l l' ?_ h
  · exact fun a b c hab hbc => decide_eq_true (le_trans (of_decide_eq_true hab) (of_decide_eq_true hbc))
  · exact fun a b => by simpa using le_total (key a) (key b)
  · exact fun a ha b hb hab hba => hkey a ha b hb (le_antisymm (of_decide_eq_true hab) (of_decide_eq_true hba))

/-! ## Stability -/

section
variable {α κ : Type} [LinearOrder κ] (key : α → κ)

/-- **A sort keeps the entries of a key in their order.** -/
theorem filter_sortByKey (l : List α) (k : κ) :
    (sortByKey key l).filter (fun a => key a = k) = l.filter (fun a => key a = k) := by
  have hclass : (l.filter (fun a => key a = k)).Pairwise (fun a b => decide (key a ≤ key b) = true) := by
    rw [List.pairwise_filter]
    apply List.pairwise_of_forall
    intro a b ha hb
    simp only [decide_eq_true_eq] at ha hb ⊢
    exact le_of_eq (ha.trans hb.symm)
  have hsub : (l.filter (fun a => key a = k)).Sublist (sortByKey key l) :=
    @List.sublist_mergeSort α (fun a b => decide (key a ≤ key b)) l
      (fun a b c hab hbc => decide_eq_true (le_trans (of_decide_eq_true hab) (of_decide_eq_true hbc)))
      (fun a b => by simpa using le_total (key a) (key b)) _ hclass List.filter_sublist
  have hkept := hsub.filter (fun a => decide (key a = k))
  rw [List.filter_filter] at hkept
  simp only [Bool.and_self] at hkept
  refine (hkept.eq_of_length ?_).symm
  exact ((sortByKey_perm key l).filter _).length_eq.symm

/-- **A sorted list is what it holds of each key.** -/
theorem eq_of_filter_key : ∀ {l l' : List α}, l.Pairwise (fun a b => key a ≤ key b) →
    l'.Pairwise (fun a b => key a ≤ key b) →
    (∀ k, l.filter (fun a => key a = k) = l'.filter (fun a => key a = k)) → l = l'
  | [], [], _, _, _ => rfl
  | [], b :: l', _, _, h => by
    have hb := h (key b)
    simp at hb
  | a :: l, [], _, _, h => by
    have ha := h (key a)
    simp at ha
  | a :: l, b :: l', hl, hl', h => by
    rw [List.pairwise_cons] at hl hl'
    have hmem : ∀ c, c ∈ a :: l ↔ c ∈ b :: l' := by
      intro c
      have hc : c ∈ (a :: l).filter (fun x => key x = key c) ↔ c ∈ (b :: l').filter (fun x => key x = key c) := by
        rw [h (key c)]
      simpa only [List.mem_filter, decide_true, and_true] using hc
    have hab : key a ≤ key b := by
      rcases List.mem_cons.1 ((hmem b).2 List.mem_cons_self) with rfl | hb
      · exact le_refl _
      · exact hl.1 b hb
    have hba : key b ≤ key a := by
      rcases List.mem_cons.1 ((hmem a).1 List.mem_cons_self) with rfl | ha
      · exact le_refl _
      · exact hl'.1 a ha
    have hkey : key b = key a := le_antisymm hba hab
    have hfirst := h (key a)
    rw [List.filter_cons_of_pos (by simp), List.filter_cons_of_pos (by simpa using hkey)] at hfirst
    obtain ⟨rfl, -⟩ := List.cons.inj hfirst
    refine congrArg (a :: ·) (eq_of_filter_key hl.2 hl'.2 (fun k => ?_))
    have hk := h k
    by_cases hak : key a = k
    · rw [List.filter_cons_of_pos (by simpa using hak), List.filter_cons_of_pos (by simpa using hak)] at hk
      exact (List.cons.inj hk).2
    · rwa [List.filter_cons_of_neg (by simpa using hak), List.filter_cons_of_neg (by simpa using hak)] at hk

/-- **The stable sort of a list** is the one sorted list that holds of each key what the list holds, in its order. -/
theorem sortByKey_eq_iff (l l' : List α) :
    sortByKey key l = l' ↔ l'.Pairwise (fun a b => key a ≤ key b) ∧
      ∀ k, l'.filter (fun a => key a = k) = l.filter (fun a => key a = k) := by
  constructor
  · rintro rfl
    exact ⟨pairwise_sortByKey key l, filter_sortByKey key l⟩
  · rintro ⟨hsorted, hfilter⟩
    refine eq_of_filter_key key (pairwise_sortByKey key l) hsorted (fun k => ?_)
    rw [filter_sortByKey, hfilter]

/-- **The entries of a list in the order of their keys**, those of one key in the order of the list. -/
structure InOrder (l sorted : List α) : Prop where
  pairwise : sorted.Pairwise (fun a b => key a ≤ key b)
  sameKey : ∀ k, sorted.filter (fun a => key a = k) = l.filter (fun a => key a = k)
  perm : sorted.Perm l

theorem inOrder_sortByKey (l : List α) : InOrder key l (sortByKey key l) :=
  ⟨pairwise_sortByKey key l, filter_sortByKey key l, sortByKey_perm key l⟩

/-- Entries left out of both leave both in order. -/
theorem InOrder.filter {l sorted : List α} (h : InOrder key l sorted) (p : α → Bool) :
    InOrder key (l.filter p) (sorted.filter p) where
  pairwise := h.pairwise.filter p
  sameKey k := by rw [List.filter_comm, h.sameKey k, List.filter_comm]
  perm := h.perm.filter p

/-- **Sorting the parts first changes nothing.** -/
theorem sortByKey_append (l l' : List α) :
    sortByKey key (sortByKey key l ++ sortByKey key l') = sortByKey key (l ++ l') := by
  rw [sortByKey_eq_iff]
  refine ⟨pairwise_sortByKey key _, fun k => ?_⟩
  rw [filter_sortByKey, List.filter_append, List.filter_append, filter_sortByKey, filter_sortByKey]

/-- So does sorting them by a key that the key decides. -/
theorem sortByKey_append_of_coarser {κ' : Type} [LinearOrder κ'] {key' : α → κ'}
    (h : ∀ a b, key a = key b → key' a = key' b) (l l' : List α) :
    sortByKey key (sortByKey key' l ++ sortByKey key' l') = sortByKey key (l ++ l') := by
  have hpart : ∀ (part : List α) (k : κ),
      (sortByKey key' part).filter (fun a => key a = k) = part.filter (fun a => key a = k) := by
    intro part k
    cases hfilter : part.filter (fun a => key a = k) with
    | nil =>
      rw [List.filter_eq_nil_iff] at hfilter ⊢
      exact fun a ha => hfilter a ((sortByKey_perm key' part).subset ha)
    | cons a rest =>
      -- the entries of one key are among those of one coarser key, which the sort leaves as they are
      have ha : key a = k := by
        have hmem : a ∈ part.filter (fun a => key a = k) := by rw [hfilter]; exact List.mem_cons_self
        simpa using (List.mem_filter.1 hmem).2
      have hwithin : ∀ b, (decide (key b = k) && decide (key' b = key' a)) = decide (key b = k) := by
        intro b
        by_cases hb : key b = k
        · simp [hb, h b a (hb.trans ha.symm)]
        · simp [hb]
      have hsame := congrArg (List.filter (fun b => key b = k)) (filter_sortByKey key' part (key' a))
      rw [List.filter_filter, List.filter_filter] at hsame
      simp only [hwithin] at hsame
      rw [hsame, hfilter]
  rw [sortByKey_eq_iff]
  refine ⟨pairwise_sortByKey key _, fun k => ?_⟩
  rw [filter_sortByKey, List.filter_append, List.filter_append, hpart, hpart]

theorem sortByKey_sortByKey (l : List α) : sortByKey key (sortByKey key l) = sortByKey key l := by
  rw [sortByKey_eq_iff]
  exact ⟨pairwise_sortByKey key l, fun k => rfl⟩

end

section
variable {α : Type} [LinearOrder α]

theorem pairwise_mergeSort_le (l : List α) : (l.mergeSort (· ≤ ·)).Pairwise (· ≤ ·) := pairwise_sortByKey id l

/-- **The first entry of a sort** is the least one. -/
theorem isLeast_of_head? {l : List α} {a : α} (h : (l.mergeSort (· ≤ ·)).head? = some a) : IsLeast {b | b ∈ l} a := by
  have hsorted := pairwise_mergeSort_le l
  obtain ⟨rest, hrest⟩ := List.head?_eq_some_iff.1 h
  rw [hrest, List.pairwise_cons] at hsorted
  constructor
  · exact List.mem_mergeSort.1 (List.mem_of_mem_head? h)
  · intro b hb
    have hmem : b ∈ l.mergeSort (· ≤ ·) := List.mem_mergeSort.2 hb
    rw [hrest] at hmem
    rcases List.mem_cons.1 hmem with rfl | hmem
    · exact le_refl b
    · exact hsorted.1 b hmem

/-- **The last entry of a sort** is the greatest one. -/
theorem isGreatest_of_getLast? {l : List α} {a : α} (h : (l.mergeSort (· ≤ ·)).getLast? = some a) :
    IsGreatest {b | b ∈ l} a := by
  have hsorted := pairwise_mergeSort_le l
  obtain ⟨before, hbefore⟩ := List.getLast?_eq_some_iff.1 h
  rw [hbefore, List.pairwise_append] at hsorted
  constructor
  · exact List.mem_mergeSort.1 (List.mem_of_getLast? h)
  · intro b hb
    have hmem : b ∈ l.mergeSort (· ≤ ·) := List.mem_mergeSort.2 hb
    rw [hbefore] at hmem
    rcases List.mem_append.1 hmem with hmem | hmem
    · exact hsorted.2.2 b hmem a List.mem_cons_self
    · exact le_of_eq (List.mem_singleton.1 hmem)

end

theorem le_mean {l : List Nat} {a : Nat} (hne : l ≠ []) (h : ∀ b ∈ l, a ≤ b) : a ≤ l.sum / l.length := by
  have hsum := List.card_nsmul_le_sum l a h
  rw [smul_eq_mul, Nat.mul_comm] at hsum
  exact (Nat.le_div_iff_mul_le (List.length_pos_iff.2 hne)).2 hsum

theorem mean_le {l : List Nat} {a : Nat} (h : ∀ b ∈ l, b ≤ a) : l.sum / l.length ≤ a := by
  have hsum := List.sum_le_card_nsmul l a h
  rw [smul_eq_mul] at hsum
  exact Nat.div_le_of_le_mul hsum

end Machine
