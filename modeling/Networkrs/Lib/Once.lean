import Mathlib.Data.List.Nodup
/-!
# Once — how often entries stand in a list

A list serves a set when it holds each entry of the set exactly once and no other (`Once`).  A list put together from
parts without repetition serves a set when the parts are disjoint and make up the set (`once_flatten_iff`), and a round
repeated serves the set each time exactly when the round does (`once_of_rounds`).  Two conditions of which one implies
the other hold equally often only if they hold of the same entries (`countP_eq_iff_of_imp`).
-/
namespace Machine

variable {α : Type}

/-- Of two conditions, one of which implies the other, as many entries meet the one as the other when the same do. -/
theorem countP_eq_iff_of_imp {p q : α → Bool} : ∀ {l : List α}, (∀ a ∈ l, p a = true → q a = true) →
    (l.countP q = l.countP p ↔ ∀ a ∈ l, q a = true → p a = true)
  | [], _ => by simp
  | a :: l, h => by
    have hrest : ∀ b ∈ l, p b = true → q b = true := fun b hb => h b (List.mem_cons_of_mem a hb)
    have ih := countP_eq_iff_of_imp hrest
    have hle := List.countP_mono_left hrest
    have ha := h a List.mem_cons_self
    rw [List.forall_mem_cons, ← ih, List.countP_cons, List.countP_cons]
    cases hp : p a <;> cases hq : q a
    · simp
    · simp
      omega
    · rw [hp, hq] at ha
      cases ha rfl
    · simp

variable [DecidableEq α]

/-- Each entry of the set stands in the list once, and no other entry does. -/
def Once (s : Set α) (l : List α) : Prop := ∀ a, (a ∈ s → l.count a = 1) ∧ (a ∉ s → l.count a = 0)

theorem Once.mem_iff {s : Set α} {l : List α} (h : Once s l) (a : α) : a ∈ l ↔ a ∈ s := by
  rw [← List.count_pos_iff]
  by_cases ha : a ∈ s
  · simp [(h a).1 ha, ha]
  · simp [(h a).2 ha, ha]

/-- **Once means without repetition.** -/
theorem once_iff {s : Set α} {l : List α} : Once s l ↔ l.Nodup ∧ ∀ a, a ∈ l ↔ a ∈ s := by
  constructor
  · intro h
    refine ⟨List.nodup_iff_count.2 (fun a => ?_), h.mem_iff⟩
    by_cases ha : a ∈ s
    · exact Nat.le_of_eq ((h a).1 ha)
    · rw [(h a).2 ha]
      exact Nat.zero_le _
  · rintro ⟨hnodup, hmem⟩ a
    refine ⟨fun ha => List.count_eq_one_of_mem hnodup ((hmem a).2 ha), fun ha => ?_⟩
    exact List.count_eq_zero.2 (fun hl => ha ((hmem a).1 hl))

/-- **Parts serve a set together** when no two of them share an entry and their entries are those of the set. -/
theorem once_flatten_iff {s : Set α} {parts : List (List α)} (hparts : ∀ l ∈ parts, l.Nodup) :
    Once s parts.flatten ↔ parts.Pairwise List.Disjoint ∧ ∀ a, (∃ l ∈ parts, a ∈ l) ↔ a ∈ s := by
  rw [once_iff, List.nodup_flatten]
  simp only [List.mem_flatten]
  exact ⟨fun h => ⟨h.1.2, h.2⟩, fun h => ⟨⟨hparts, h.1⟩, h.2⟩⟩

theorem count_flatten_of_forall {parts : List (List α)} {a : α} {n : Nat} (h : ∀ l ∈ parts, l.count a = n) :
    parts.flatten.count a = parts.length * n := by
  have hmap : parts.map (List.count a) = List.replicate parts.length n :=
    List.eq_replicate_iff.2 ⟨List.length_map _, fun b hb => by
      obtain ⟨l, hl, rfl⟩ := List.mem_map.1 hb
      exact h l hl⟩
  rw [List.count_flatten, hmap, List.sum_replicate_nat]

/-- **A round repeated serves a set each time only if the round serves it.**  How the repetition is cut into parts does
not matter. -/
theorem once_of_rounds {s : Set α} {round : List α} {parts : List (List α)} (h : ∀ l ∈ parts, Once s l)
    (hrounds : (List.replicate parts.length round).flatten = parts.flatten) : parts = [] ∨ Once s round := by
  by_cases hnil : parts = []
  · exact .inl hnil
  have hpos : 0 < parts.length := List.length_pos_iff.2 hnil
  have hcount : ∀ (a : α) (n : Nat), (∀ l ∈ parts, l.count a = n) → round.count a = n := fun a n hn => by
    have hsum := congrArg (List.count a) hrounds
    rw [count_flatten_of_forall hn, count_flatten_of_forall (n := round.count a)
      (fun l hl => by rw [List.eq_of_mem_replicate hl]), List.length_replicate] at hsum
    exact Nat.eq_of_mul_eq_mul_left hpos hsum
  exact .inr (fun a => ⟨fun ha => hcount a 1 (fun l hl => (h l hl a).1 ha),
    fun ha => hcount a 0 (fun l hl => (h l hl a).2 ha)⟩)

end Machine
