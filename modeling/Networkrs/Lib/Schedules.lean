/-!
# Schedules — runs of a partial step

A step takes a state and who takes it, and need not be possible.  The run of a schedule folds the step over it.  What
every step keeps holds after every run (`of_run`); a measure that every step lowers bounds the schedules
(`length_le_of_run`), and where a state that is not finished has a step, some schedule finishes it
(`exists_completion`).
-/
namespace Schedules

variable {σ ι : Type} {step : σ → ι → Option σ} {P : σ → Prop} {measure : σ → Nat}

/-- **What steps keep holds after every run.** -/
theorem of_run (hkeeps : ∀ s k s', P s → step s k = some s' → P s') : ∀ (schedule : List ι) {s s' : σ},
    P s → schedule.foldlM step s = some s' → P s'
  | [], s, s', h, hrun => by
    obtain rfl := Option.some.inj hrun
    exact h
  | k :: schedule, s, s', h, hrun => by
    rw [List.foldlM_cons] at hrun
    obtain ⟨mid, hstep, hrun⟩ := Option.bind_eq_some_iff.1 hrun
    exact of_run hkeeps schedule (hkeeps s k mid h hstep) hrun

/-- **No schedule goes on forever** where every step lowers the measure. -/
theorem length_le_of_run (hkeeps : ∀ s k s', P s → step s k = some s' → P s')
    (hlower : ∀ s k s', P s → step s k = some s' → measure s' < measure s) : ∀ (schedule : List ι) {s s' : σ},
    P s → schedule.foldlM step s = some s' → schedule.length + measure s' ≤ measure s
  | [], s, s', _, hrun => by
    obtain rfl := Option.some.inj hrun
    exact Nat.le_of_eq (Nat.zero_add _)
  | k :: schedule, s, s', h, hrun => by
    rw [List.foldlM_cons] at hrun
    obtain ⟨mid, hstep, hrun⟩ := Option.bind_eq_some_iff.1 hrun
    have hlt := hlower s k mid h hstep
    have ih := length_le_of_run hkeeps hlower schedule (hkeeps s k mid h hstep) hrun
    rw [List.length_cons]
    omega

/-- **From every state some schedule leads to a finished one.** -/
theorem exists_completion {finished : σ → Bool} (hkeeps : ∀ s k s', P s → step s k = some s' → P s')
    (hlower : ∀ s k s', P s → step s k = some s' → measure s' < measure s)
    (hprogress : ∀ s, finished s = false → ∃ k s', step s k = some s') {s : σ} (h : P s) :
    ∃ schedule s', List.foldlM step s schedule = some s' ∧ finished s' = true := by
  induction hm : measure s using Nat.strongRecOn generalizing s with
  | ind m ih =>
    cases hfinished : finished s with
    | true => exact ⟨[], s, rfl, hfinished⟩
    | false =>
      obtain ⟨k, mid, hstep⟩ := hprogress s hfinished
      have hlt := hlower s k mid h hstep
      obtain ⟨schedule, s', hrun, hdone⟩ := ih _ (hm ▸ hlt) (hkeeps s k mid h hstep) rfl
      refine ⟨k :: schedule, s', ?_, hdone⟩
      rw [List.foldlM_cons, hstep]
      exact hrun

end Schedules
