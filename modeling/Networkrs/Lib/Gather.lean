import Networkrs.Lib.Collect
/-!
# Gather — a loop that pushes what its turns answer

A loop whose turns may answer with a value pushes the answers in order and stops at the first turn that fails
(`gather_of_ok`, `gather_isErr`).  Its result holds at most one value a turn (`length_le_of_gather`).
-/
namespace Collect

open Machine

variable {α ε τ : Type}

theorem Outcome.ofChecked_ok_bind {υ : Type} (value : τ) (f : τ → Outcome ε υ) :
    (Outcome.ofChecked (.ok value) >>= f) = f value := rfl

/-- `for a in l { if let Some(value) = f(a)? { values.push(value) } }`. -/
def gatherFrom (f : α → Outcome ε (Option τ)) (values : List τ) (l : List α) : Outcome ε (List τ) :=
  l.foldlM (fun values a => do
    let answer ← f a
    return values ++ answer.toList) values

def gather (f : α → Outcome ε (Option τ)) (l : List α) : Outcome ε (List τ) := gatherFrom f [] l

theorem gatherFrom_cons (f : α → Outcome ε (Option τ)) (values : List τ) (a : α) (l : List α) :
    gatherFrom f values (a :: l) = f a >>= fun answer => gatherFrom f (values ++ answer.toList) l := by
  rw [gatherFrom, List.foldlM_cons]
  cases f a <;> rfl

theorem gatherFrom_of_ok {f : α → Outcome ε (Option τ)} {g : α → Option τ} : ∀ (l : List α) (values : List τ),
    (∀ a ∈ l, f a = .ok (g a)) → gatherFrom f values l = .ok (values ++ l.filterMap g)
  | [], values, _ => by
    rw [List.filterMap_nil, List.append_nil]
    rfl
  | a :: l, values, h => by
    have ih := gatherFrom_of_ok l (values ++ (g a).toList) (fun b hb => h b (List.mem_cons_of_mem a hb))
    rw [gatherFrom_cons, h a List.mem_cons_self]
    refine Eq.trans ih (congrArg Outcome.ok ?_)
    rw [List.append_assoc, List.filterMap_cons]
    cases g a <;> rfl

/-- **A loop whose turns all go well** holds their answers in order. -/
theorem gather_of_ok {f : α → Outcome ε (Option τ)} {g : α → Option τ} {l : List α} (h : ∀ a ∈ l, f a = .ok (g a)) :
    gather f l = .ok (l.filterMap g) :=
  gatherFrom_of_ok l [] h

theorem gatherFrom_isErr {f : α → Outcome ε (Option τ)} : ∀ (l : List α) (values : List τ),
    (∀ a ∈ l, (f a).IsOk ∨ (f a).IsErr) → (∃ a ∈ l, (f a).IsErr) → (gatherFrom f values l).IsErr
  | [], values, _, h => by
    obtain ⟨a, ha, -⟩ := h
    cases ha
  | a :: l, values, hends, h => by
    rw [gatherFrom_cons]
    rcases hends a List.mem_cons_self with ⟨answer, hok⟩ | ⟨e, herr⟩
    · have hrest : ∃ b ∈ l, (f b).IsErr := by
        obtain ⟨b, hb, e, hbe⟩ := h
        rcases List.mem_cons.1 hb with rfl | hb
        · rw [hok] at hbe
          cases hbe
        · exact ⟨b, hb, e, hbe⟩
      rw [hok]
      exact gatherFrom_isErr l (values ++ answer.toList) (fun b hb => hends b (List.mem_cons_of_mem a hb)) hrest
    · rw [herr]
      exact ⟨e, rfl⟩

/-- **A loop with a turn that fails** fails. -/
theorem gather_isErr {f : α → Outcome ε (Option τ)} {l : List α} (hends : ∀ a ∈ l, (f a).IsOk ∨ (f a).IsErr)
    (h : ∃ a ∈ l, (f a).IsErr) : (gather f l).IsErr :=
  gatherFrom_isErr l [] hends h

theorem length_le_of_gatherFrom {f : α → Outcome ε (Option τ)} : ∀ (l : List α) (values result : List τ),
    gatherFrom f values l = .ok result → result.length ≤ values.length + l.length
  | [], values, result, h => by
    cases h
    exact Nat.le_refl _
  | a :: l, values, result, h => by
    rw [gatherFrom_cons] at h
    obtain ⟨answer, -, h⟩ := (Outcome.bind_eq_ok_iff _ _ _).1 h
    have ih := length_le_of_gatherFrom l _ result h
    have hanswer : answer.toList.length ≤ 1 := by
      cases answer <;> simp
    rw [List.length_append] at ih
    rw [List.length_cons]
    omega

theorem length_le_of_gather {f : α → Outcome ε (Option τ)} {l : List α} {values : List τ}
    (h : gather f l = .ok values) : values.length ≤ l.length := by
  have hlength := length_le_of_gatherFrom l [] values h
  rwa [List.length_nil, Nat.zero_add] at hlength

end Collect
