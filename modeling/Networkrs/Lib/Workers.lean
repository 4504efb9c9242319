import Mathlib.Algebra.GroupWithZero.Nat
import Mathlib.Data.List.Basic
import Networkrs.Lib.Schedules
/-!
# Workers — tasks shared out by a counter

Any number of workers draw the tasks of a list through one counter that wraps around, work on them apart from each
other, and push each result to a shared list.  A schedule is the order in which the workers take their atomic steps.
Under every schedule the tasks drawn are those held by a worker or already pushed, each once (`Inv.drawn`); a worker
stops only when all tasks are drawn (`Inv.drained`), so the results of workers that have all stopped are those of the
tasks (`results_of_stopped`), and every schedule is bounded (`length_le_of_run`) and can be completed
(`exists_completion`).
-/
namespace Workers

variable {α β : Type}

/-- Where a worker is in its loop. -/
inductive Worker (α β : Type) where
  | idle
  | fetched (task : α)
  | working (task : α)
  | done (result : β)
  | stopped
  deriving DecidableEq, Repr

structure Pool (α β : Type) where
  next : UInt64
  workers : List (Worker α β)
  results : List β
  deriving DecidableEq, Repr

def Pool.start (n : Nat) : Pool α β := ⟨0, List.replicate n .idle, []⟩

variable (tasks : List α) (work : α → β)

/-- One atomic step of a worker: it draws a number from the counter, starts on its task, finishes it, or pushes the
result.  A worker whose number is past the tasks stops. -/
def Pool.step (s : Pool α β) (k : Nat) : Option (Pool α β) :=
  match s.workers[k]? with
  | some .idle =>
    match tasks[s.next.toNat]? with
    | some task => some { s with next := s.next + 1, workers := s.workers.set k (.fetched task) }
    | none => some { s with next := s.next + 1, workers := s.workers.set k .stopped }
  | some (.fetched task) => some { s with workers := s.workers.set k (.working task) }
  | some (.working task) => some { s with workers := s.workers.set k (.done (work task)) }
  | some (.done result) => some { s with workers := s.workers.set k .idle, results := s.results ++ [result] }
  | some .stopped | none => none

def Pool.run (s : Pool α β) (schedule : List Nat) : Option (Pool α β) := schedule.foldlM (Pool.step tasks work) s

def Worker.isStopped : Worker α β → Bool
  | .stopped => true
  | _ => false

def Worker.isWorking : Worker α β → Bool
  | .working _ => true
  | _ => false

def Pool.stopped (s : Pool α β) : Bool := s.workers.all Worker.isStopped

/-- What a worker will push for the task it holds. -/
def Worker.pending : Worker α β → Option β
  | .idle | .stopped => none
  | .fetched task | .working task => some (work task)
  | .done result => some result

/-! ## What a step can do -/

theorem exists_split_of_getElem? {γ : Type} {l : List γ} {k : Nat} {a : γ} (h : l[k]? = some a) :
    ∃ before after, l = before ++ a :: after ∧ ∀ b, l.set k b = before ++ b :: after := by
  obtain ⟨hk, rfl⟩ := List.getElem?_eq_some_iff.1 h
  refine ⟨l.take k, l.drop (k + 1), ?_, fun b => List.set_eq_take_append_cons_drop.trans (if_pos hk)⟩
  rw [List.getElem_cons_drop, List.take_append_drop]

/-- **One worker takes one step**: it draws a task, stops since there is none left, starts, finishes, or pushes. -/
theorem step_cases {s s' : Pool α β} {k : Nat} (h : s.step tasks work k = some s') :
    ∃ before after,
      (∃ task, tasks[s.next.toNat]? = some task ∧ s.workers = before ++ .idle :: after ∧
        s' = ⟨s.next + 1, before ++ .fetched task :: after, s.results⟩) ∨
      (tasks[s.next.toNat]? = none ∧ s.workers = before ++ .idle :: after ∧
        s' = ⟨s.next + 1, before ++ .stopped :: after, s.results⟩) ∨
      (∃ task, s.workers = before ++ .fetched task :: after ∧
        s' = ⟨s.next, before ++ .working task :: after, s.results⟩) ∨
      (∃ task, s.workers = before ++ .working task :: after ∧
        s' = ⟨s.next, before ++ .done (work task) :: after, s.results⟩) ∨
      (∃ result, s.workers = before ++ .done result :: after ∧
        s' = ⟨s.next, before ++ .idle :: after, s.results ++ [result]⟩) := by
  unfold Pool.step at h
  cases hw : s.workers[k]? with
  | none => rw [hw] at h; cases h
  | some w =>
    obtain ⟨before, after, hsplit, hset⟩ := exists_split_of_getElem? hw
    refine ⟨before, after, ?_⟩
    rw [hw] at h
    cases w with
    | idle =>
      cases htask : tasks[s.next.toNat]? with
      | some task =>
        simp only [htask, hset, Option.some.injEq] at h
        exact .inl ⟨task, rfl, hsplit, h.symm⟩
      | none =>
        simp only [htask, hset, Option.some.injEq] at h
        exact .inr (.inl ⟨rfl, hsplit, h.symm⟩)
    | fetched task =>
      simp only [hset, Option.some.injEq] at h
      exact .inr (.inr (.inl ⟨task, hsplit, h.symm⟩))
    | working task =>
      simp only [hset, Option.some.injEq] at h
      exact .inr (.inr (.inr (.inl ⟨task, hsplit, h.symm⟩)))
    | done result =>
      simp only [hset, Option.some.injEq] at h
      exact .inr (.inr (.inr (.inr ⟨result, hsplit, h.symm⟩)))
    | stopped => cases h

/-! ## The invariant of a run -/

structure Inv (n : Nat) (s : Pool α β) : Prop where
  count : s.workers.length = n
  drawn : (s.workers.filterMap (Worker.pending work) ++ s.results).Perm ((tasks.take s.next.toNat).map work)
  bound : s.next.toNat ≤ tasks.length + s.workers.countP Worker.isStopped
  drained : ∀ w ∈ s.workers, w.isStopped = true → tasks.length ≤ s.next.toNat

theorem inv_start (n : Nat) : Inv tasks work n (Pool.start n : Pool α β) where
  count := List.length_replicate
  drawn := by
    have hnone : (List.replicate n (Worker.idle : Worker α β)).filterMap (Worker.pending work) = [] :=
      List.filterMap_eq_nil_iff.2 (fun w hw => by rw [List.eq_of_mem_replicate hw]; rfl)
    show (List.filterMap (Worker.pending work) (List.replicate n .idle) ++ []).Perm _
    rw [hnone]
    exact .nil
  bound := Nat.zero_le _
  drained := fun w hw hstopped => by
    rw [List.eq_of_mem_replicate hw] at hstopped
    cases hstopped

variable {tasks work}

theorem countP_isStopped {before after : List (Worker α β)} {w : Worker α β} (hw : w.isStopped = false) :
    (before ++ w :: after).countP Worker.isStopped =
      before.countP Worker.isStopped + after.countP Worker.isStopped := by
  rw [List.countP_append, List.countP_cons_of_neg (by simp [hw])]

/-- A worker that draws from the counter does not wrap it around. -/
theorem next_add_one {n : Nat} {s : Pool α β} {before after : List (Worker α β)} (h : Inv tasks work n s)
    (hfit : tasks.length + n < 2 ^ 64) (hidle : s.workers = before ++ .idle :: after) :
    (s.next + 1).toNat = s.next.toNat + 1 := by
  have hbound := h.bound
  have hcount := h.count
  have hle := (List.countP_le_length (p := Worker.isStopped) (l := before))
  have hle' := (List.countP_le_length (p := Worker.isStopped) (l := after))
  rw [hidle, countP_isStopped rfl] at hbound
  rw [hidle, List.length_append, List.length_cons] at hcount
  rw [UInt64.toNat_add, show (1 : UInt64).toNat = 1 from rfl, Nat.mod_eq_of_lt (by omega)]

/-- Of the workers after a step, the one that took it or one that was there before. -/
theorem stopped_of_mem {before after : List (Worker α β)} {w w' v : Worker α β} (hv : v ∈ before ++ w' :: after)
    (hstopped : v.isStopped = true) (hw' : w'.isStopped = false) : v ∈ before ++ w :: after := by
  rcases List.mem_append.1 hv with hv | hv
  · exact List.mem_append_left _ hv
  · rcases List.mem_cons.1 hv with rfl | hv
    · rw [hw'] at hstopped
      cases hstopped
    · exact List.mem_append_right _ (List.mem_cons_of_mem w hv)

/-- **A step keeps the tasks that are drawn** with one worker or among the results. -/
theorem inv_step {n : Nat} {s s' : Pool α β} {k : Nat} (hfit : tasks.length + n < 2 ^ 64) (h : Inv tasks work n s)
    (hstep : s.step tasks work k = some s') : Inv tasks work n s' := by
  have hcount := h.count
  have hdrawn := h.drawn
  have hbound := h.bound
  have hdrained := h.drained
  obtain ⟨before, after, hcases⟩ := step_cases tasks work hstep
  rcases hcases with ⟨task, htask, hw, rfl⟩ | ⟨htask, hw, rfl⟩ | ⟨task, hw, rfl⟩ | ⟨task, hw, rfl⟩ | ⟨result, hw, rfl⟩
  · -- a task is drawn
    have hnext := next_add_one h hfit hw
    have hlt : s.next.toNat < tasks.length := (List.getElem?_eq_some_iff.1 htask).1
    rw [hw] at hcount hdrawn hbound hdrained
    simp only [List.filterMap_append, List.filterMap_cons, Worker.pending, List.append_assoc] at hdrawn
    refine ⟨by simpa using hcount, ?_, ?_, ?_⟩
    · simp only [hnext, List.take_add_one, htask, Option.toList_some, List.map_append, List.map_singleton,
        List.filterMap_append, List.filterMap_cons, Worker.pending, List.append_assoc, List.cons_append]
      exact List.perm_middle.trans ((hdrawn.cons _).trans (List.perm_append_singleton _ _).symm)
    · simp only [hnext]
      omega
    · intro v hv hstopped
      have hle := hdrained v (stopped_of_mem hv hstopped rfl) hstopped
      omega
  · -- no task is left
    have hnext := next_add_one h hfit hw
    have hle : tasks.length ≤ s.next.toNat := List.getElem?_eq_none_iff.1 htask
    rw [hw] at hcount hdrawn hbound
    simp only [List.filterMap_append, List.filterMap_cons, Worker.pending] at hdrawn
    refine ⟨by simpa using hcount, ?_, ?_, ?_⟩
    · simp only [hnext, List.filterMap_append, List.filterMap_cons, Worker.pending]
      rw [List.take_of_length_le hle] at hdrawn
      rw [List.take_of_length_le (by omega)]
      exact hdrawn
    · rw [countP_isStopped rfl] at hbound
      rw [List.countP_append, List.countP_cons_of_pos rfl]
      simp only [hnext]
      omega
    · intro v _ _
      simp only [hnext]
      omega
  · -- a task is started
    rw [hw] at hcount hdrawn hbound hdrained
    refine ⟨by simpa using hcount, ?_, ?_, ?_⟩
    · simpa only [List.filterMap_append, List.filterMap_cons, Worker.pending] using hdrawn
    · rw [countP_isStopped rfl] at hbound ⊢
      exact hbound
    · intro v hv hstopped
      exact hdrained v (stopped_of_mem hv hstopped rfl) hstopped
  · -- a task is finished
    rw [hw] at hcount hdrawn hbound hdrained
    refine ⟨by simpa using hcount, ?_, ?_, ?_⟩
    · simpa only [List.filterMap_append, List.filterMap_cons, Worker.pending] using hdrawn
    · rw [countP_isStopped rfl] at hbound ⊢
      exact hbound
    · intro v hv hstopped
      exact hdrained v (stopped_of_mem hv hstopped rfl) hstopped
  · -- a result is pushed
    rw [hw] at hcount hdrawn hbound hdrained
    simp only [List.filterMap_append, List.filterMap_cons, Worker.pending, List.append_assoc,
      List.cons_append] at hdrawn
    refine ⟨by simpa using hcount, ?_, ?_, ?_⟩
    · simp only [List.filterMap_append, List.filterMap_cons, Worker.pending, ← List.append_assoc]
      refine (List.perm_append_singleton _ _).trans (.trans ?_ hdrawn)
      rw [List.append_assoc]
      exact List.perm_middle.symm
    · rw [countP_isStopped rfl] at hbound ⊢
      exact hbound
    · intro v hv hstopped
      exact hdrained v (stopped_of_mem hv hstopped rfl) hstopped

/-- **Every state of every schedule has the invariant.** -/
theorem inv_run {n : Nat} (hfit : tasks.length + n < 2 ^ 64) (schedule : List Nat) {s s' : Pool α β}
    (h : Inv tasks work n s) (hrun : s.run tasks work schedule = some s') : Inv tasks work n s' := by
  exact Schedules.of_run (fun _ _ _ => inv_step hfit) schedule h hrun

theorem working_le {n : Nat} {s : Pool α β} (h : Inv tasks work n s) : s.workers.countP Worker.isWorking ≤ n :=
  h.count ▸ List.countP_le_length

/-- **When all workers have stopped, the results are those of the tasks**, in some order. -/
theorem results_of_stopped {n : Nat} {s : Pool α β} (h : Inv tasks work n s) (hn : 0 < n)
    (hstopped : s.stopped = true) : s.results.Perm (tasks.map work) := by
  have hall : ∀ w ∈ s.workers, w.isStopped = true := List.all_eq_true.1 hstopped
  have hpending : s.workers.filterMap (Worker.pending work) = [] := by
    apply List.filterMap_eq_nil_iff.2
    intro w hw
    cases w with
    | stopped => rfl
    | idle => cases hall _ hw
    | fetched => cases hall _ hw
    | working => cases hall _ hw
    | done => cases hall _ hw
  have hne : s.workers ≠ [] := fun hnil => by
    have hcount := h.count
    rw [hnil, List.length_nil] at hcount
    omega
  obtain ⟨w, hw⟩ := List.exists_mem_of_ne_nil _ hne
  have hdrawn := h.drawn
  rwa [hpending, List.nil_append, List.take_of_length_le (h.drained w hw (hall w hw))] at hdrawn

/-! ## Progress -/

/-- The steps a worker still takes without drawing again. -/
def Worker.remaining : Worker α β → Nat
  | .stopped => 0
  | .idle => 1
  | .done _ => 2
  | .working _ => 3
  | .fetched _ => 4

def Pool.remaining (tasks : List α) (s : Pool α β) : Nat :=
  4 * (tasks.length - s.next.toNat) + (s.workers.map Worker.remaining).sum

theorem remaining_start (tasks : List α) (n : Nat) :
    (Pool.start n : Pool α β).remaining tasks = 4 * tasks.length + n := by
  unfold Pool.remaining Pool.start
  rw [List.map_replicate, List.sum_replicate_nat]
  exact congrArg (4 * tasks.length + ·) (Nat.mul_one n)

theorem remaining_eq {s : Pool α β} {before after : List (Worker α β)} {w : Worker α β}
    (hw : s.workers = before ++ w :: after) : s.remaining tasks =
      4 * (tasks.length - s.next.toNat) + (w.remaining + ((before ++ after).map Worker.remaining).sum) := by
  unfold Pool.remaining
  rw [hw]
  simp only [List.map_append, List.map_cons, List.sum_append, List.sum_cons]
  omega

/-- **Every step brings the workers closer to the end.** -/
theorem remaining_step {n : Nat} {s s' : Pool α β} {k : Nat} (hfit : tasks.length + n < 2 ^ 64) (h : Inv tasks work n s)
    (hstep : s.step tasks work k = some s') : s'.remaining tasks < s.remaining tasks := by
  obtain ⟨before, after, hcases⟩ := step_cases tasks work hstep
  rcases hcases with ⟨task, htask, hw, hs'⟩ | ⟨htask, hw, hs'⟩ | ⟨task, hw, hs'⟩ | ⟨task, hw, hs'⟩ | ⟨result, hw, hs'⟩
  · have hnext := next_add_one h hfit hw
    have hlt := (List.getElem?_eq_some_iff.1 htask).1
    rw [remaining_eq hw, remaining_eq (s := s') (by rw [hs']), hs', hnext, Worker.remaining, Worker.remaining]
    omega
  · have hnext := next_add_one h hfit hw
    rw [remaining_eq hw, remaining_eq (s := s') (by rw [hs']), hs', hnext, Worker.remaining, Worker.remaining]
    omega
  · rw [remaining_eq hw, remaining_eq (s := s') (by rw [hs']), hs', Worker.remaining, Worker.remaining]
    exact Nat.add_lt_add_left (Nat.add_lt_add_right (by decide) _) _
  · rw [remaining_eq hw, remaining_eq (s := s') (by rw [hs']), hs', Worker.remaining, Worker.remaining]
    exact Nat.add_lt_add_left (Nat.add_lt_add_right (by decide) _) _
  · rw [remaining_eq hw, remaining_eq (s := s') (by rw [hs']), hs', Worker.remaining, Worker.remaining]
    exact Nat.add_lt_add_left (Nat.add_lt_add_right (by decide) _) _

/-- **No schedule goes on forever.** -/
theorem length_le_of_run {n : Nat} (hfit : tasks.length + n < 2 ^ 64) (schedule : List Nat) {s s' : Pool α β}
    (h : Inv tasks work n s) (hrun : s.run tasks work schedule = some s') :
    schedule.length + s'.remaining tasks ≤ s.remaining tasks := by
  exact Schedules.length_le_of_run (fun _ _ _ => inv_step hfit) (fun _ _ _ => remaining_step hfit) schedule h hrun

/-- A worker that has not stopped can take a step. -/
theorem exists_step {s : Pool α β} (h : s.stopped = false) : ∃ k s', s.step tasks work k = some s' := by
  unfold Pool.stopped at h
  rw [List.all_eq_false] at h
  obtain ⟨w, hw, hrunning⟩ := h
  obtain ⟨k, hk⟩ := List.mem_iff_getElem?.1 hw
  refine ⟨k, ?_⟩
  unfold Pool.step
  rw [hk]
  cases w with
  | idle => cases tasks[s.next.toNat]? <;> exact ⟨_, rfl⟩
  | fetched task => exact ⟨_, rfl⟩
  | working task => exact ⟨_, rfl⟩
  | done result => exact ⟨_, rfl⟩
  | stopped => exact absurd rfl hrunning

/-- **From every state some schedule stops all workers.** -/
theorem exists_completion {n : Nat} (hfit : tasks.length + n < 2 ^ 64) {s : Pool α β} (h : Inv tasks work n s) :
    ∃ schedule s', s.run tasks work schedule = some s' ∧ s'.stopped = true := by
  exact Schedules.exists_completion (fun _ _ _ => inv_step hfit) (fun _ _ _ => remaining_step hfit)
    (fun _ => exists_step) h

end Workers
