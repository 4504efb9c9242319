import Mathlib.Algebra.Order.Floor.Div
import Mathlib.Data.List.Basic
import Mathlib.Data.List.Flatten
import Networkrs.Lib.Workers
/-!
# Fork — tasks cut into chunks, with a worker for each

A list is cut into chunks of one size but for the last (`chunks`), and as many of them as there are workers suffice when
the size is rounded up (`length_chunks_le`).  Each worker folds its own chunk into its own state, apart from the others;
a schedule is the order in which the workers take their steps.  Under every schedule a worker has done a prefix of its
chunk (`Inv`), so workers that have finished did every task once and hold the folds of their chunks
(`states_of_finished`, `calls_of_finished`), and every schedule can be completed (`exists_completion`).
-/
namespace Fork

variable {α σ : Type}

/-! ## Chunks -/

/-- `slice::chunks`. -/
def chunks (size : Nat) (l : List α) : List (List α) :=
  (List.range (l.length ⌈/⌉ size)).map (fun i => (l.drop (i * size)).take size)

theorem flatten_take_chunks (size : Nat) (l : List α) : ∀ n,
    ((List.range n).map (fun i => (l.drop (i * size)).take size)).flatten = l.take (n * size)
  | 0 => by simp
  | n + 1 => by
    rw [List.range_succ, List.map_append, List.flatten_append, flatten_take_chunks size l n, Nat.add_mul, Nat.one_mul,
      List.take_add]
    simp

/-- **The chunks partition the list.** -/
theorem flatten_chunks {size : Nat} (hsize : 0 < size) (l : List α) : (chunks size l).flatten = l := by
  have hcovers : l.length ≤ size * (l.length ⌈/⌉ size) := (ceilDiv_le_iff_le_mul hsize).1 (Nat.le_refl _)
  unfold chunks
  rw [flatten_take_chunks, Nat.mul_comm]
  exact List.take_of_length_le hcovers

theorem ne_nil_of_mem_chunks {size : Nat} (hsize : 0 < size) {l chunk : List α} (h : chunk ∈ chunks size l) :
    chunk ≠ [] := by
  obtain ⟨i, hi, rfl⟩ := List.mem_map.1 h
  have hlt : i * size < l.length := by
    have hnot := (ceilDiv_le_iff_le_mul hsize).not.1 (Nat.not_le.2 (List.mem_range.1 hi))
    rw [Nat.mul_comm]
    exact Nat.not_le.1 hnot
  intro hnil
  have hlength := congrArg List.length hnil
  rw [List.length_take, List.length_drop, List.length_nil] at hlength
  omega

/-- **A size rounded up yields no more chunks than workers.** -/
theorem length_chunks_le {workers : Nat} {l : List α} (hworkers : 0 < workers) (hl : l ≠ []) :
    0 < l.length ⌈/⌉ workers ∧ (chunks (l.length ⌈/⌉ workers) l).length ≤ workers := by
  have hcovers : l.length ≤ workers * (l.length ⌈/⌉ workers) := (ceilDiv_le_iff_le_mul hworkers).1 (Nat.le_refl _)
  have hsize : 0 < l.length ⌈/⌉ workers := by
    apply Nat.pos_of_ne_zero
    intro hzero
    rw [hzero, Nat.mul_zero] at hcovers
    exact hl (List.length_eq_zero_iff.1 (Nat.le_zero.1 hcovers))
  refine ⟨hsize, ?_⟩
  unfold chunks
  rw [List.length_map, List.length_range, ceilDiv_le_iff_le_mul hsize, Nat.mul_comm]
  exact hcovers

/-! ## Workers -/

/-- A worker: the tasks it has not done yet, and what it made of the others. -/
structure Worker (α σ : Type) where
  rest : List α
  state : σ

/-- All workers, and the tasks done so far, each with the number of the worker that did it. -/
structure Pool (α σ : Type) where
  workers : List (Worker α σ)
  calls : List (Nat × α)

def Pool.start (pieces : List (List α)) (initial : σ) : Pool α σ := ⟨pieces.map (fun piece => ⟨piece, initial⟩), []⟩

variable (work : σ → α → σ)

/-- One step of a worker: it does its next task. -/
def Pool.step (s : Pool α σ) (k : Nat) : Option (Pool α σ) :=
  match s.workers[k]? with
  | some ⟨task :: rest, state⟩ => some ⟨s.workers.set k ⟨rest, work state task⟩, s.calls ++ [(k, task)]⟩
  | _ => none

def Pool.run (s : Pool α σ) (schedule : List Nat) : Option (Pool α σ) := schedule.foldlM (Pool.step work) s

def Pool.finished (s : Pool α σ) : Bool := s.workers.all (fun w => w.rest.isEmpty)

/-- The tasks one worker did, in their order. -/
def Pool.callsOf (s : Pool α σ) (k : Nat) : List α := (s.calls.filter (fun call => call.1 = k)).map Prod.snd

variable {work}

/-- **One worker takes one step**: it does the next of its tasks. -/
theorem step_cases {s s' : Pool α σ} {k : Nat} (h : s.step work k = some s') :
    ∃ task rest state, s.workers[k]? = some ⟨task :: rest, state⟩ ∧
      s' = ⟨s.workers.set k ⟨rest, work state task⟩, s.calls ++ [(k, task)]⟩ := by
  unfold Pool.step at h
  split at h
  · next task rest state hw => exact ⟨task, rest, state, hw, (Option.some.inj h).symm⟩
  · cases h

/-! ## The invariant of a run -/

section

variable (work) (pieces : List (List α)) (initial : σ)

/-- Each worker has done the first tasks of its chunk, and what is done and what is not are all tasks. -/
structure Inv (s : Pool α σ) : Prop where
  length : s.workers.length = pieces.length
  worker : ∀ k w, s.workers[k]? = some w →
    pieces[k]? = some (s.callsOf k ++ w.rest) ∧ w.state = (s.callsOf k).foldl work initial
  done : (s.workers.flatMap Worker.rest ++ s.calls.map Prod.snd).Perm pieces.flatten

end

variable {pieces : List (List α)} {initial : σ}

theorem inv_start : Inv work pieces initial (Pool.start pieces initial) where
  length := List.length_map _
  worker := by
    intro k w hw
    obtain ⟨piece, hpiece, rfl⟩ := Option.map_eq_some_iff.1 ((List.getElem?_map ..).symm.trans hw)
    exact ⟨hpiece, rfl⟩
  done := by
    have hrest : (Pool.start pieces initial).workers.flatMap Worker.rest = pieces.flatten := by
      unfold Pool.start
      rw [List.flatMap_map, List.flatMap_id']
    rw [hrest]
    exact .of_eq (List.append_nil _)

theorem inv_step {s s' : Pool α σ} {k : Nat} (h : Inv work pieces initial s) (hstep : s.step work k = some s') :
    Inv work pieces initial s' := by
  obtain ⟨task, rest, state, hw, rfl⟩ := step_cases hstep
  obtain ⟨hpiece, hstate⟩ := h.worker k _ hw
  have hk : k < s.workers.length := (List.getElem?_eq_some_iff.1 hw).1
  refine ⟨?_, ?_, ?_⟩
  · rw [List.length_set]
    exact h.length
  · intro j w hj
    rw [List.getElem?_set] at hj
    by_cases hkj : k = j
    · -- the worker that took the step
      subst hkj
      rw [if_pos rfl, if_pos hk] at hj
      cases hj
      have hcalls : Pool.callsOf (⟨s.workers.set k ⟨rest, work state task⟩, s.calls ++ [(k, task)]⟩ : Pool α σ) k =
          s.callsOf k ++ [task] := by
        simp [Pool.callsOf]
      rw [hcalls, List.foldl_append, ← hstate, hpiece]
      exact ⟨by simp, rfl⟩
    · -- another one
      rw [if_neg hkj] at hj
      have hcalls : Pool.callsOf (⟨s.workers.set k ⟨rest, work state task⟩, s.calls ++ [(k, task)]⟩ : Pool α σ) j =
          s.callsOf j := by
        simp [Pool.callsOf, hkj]
      rw [hcalls]
      exact h.worker j w hj
  · obtain ⟨before, after, hsplit, hset⟩ := Workers.exists_split_of_getElem? hw
    have hdone := h.done
    rw [hsplit] at hdone
    simp only [List.flatMap_append, List.flatMap_cons, List.cons_append, List.append_assoc] at hdone
    simp only [hset, List.map_append, List.map_singleton, List.flatMap_append, List.flatMap_cons, List.append_assoc]
    refine List.Perm.trans ?_ hdone
    rw [← List.append_assoc, ← List.append_assoc, ← List.append_assoc]
    refine (List.perm_append_singleton _ _).trans ?_
    rw [List.append_assoc, List.append_assoc]
    exact List.perm_middle.symm

/-- **Every state of every schedule has the invariant.** -/
theorem inv_run (schedule : List Nat) {s s' : Pool α σ} (h : Inv work pieces initial s)
    (hrun : s.run work schedule = some s') : Inv work pieces initial s' := by
  exact Schedules.of_run (fun _ _ _ => inv_step) schedule h hrun

section
variable {s : Pool α σ} (h : Inv work pieces initial s) (hfinished : s.finished = true)

include hfinished

theorem rest_of_finished {w : Worker α σ} (hw : w ∈ s.workers) : w.rest = [] := by
  have hempty := List.all_eq_true.1 hfinished w hw
  exact List.isEmpty_iff.1 hempty

include h

/-- **A worker that has finished did the tasks of its chunk**, in their order and no others. -/
theorem callsOf_of_finished {k : Nat} {piece : List α} (hpiece : pieces[k]? = some piece) : s.callsOf k = piece := by
  have hk : k < s.workers.length := by
    rw [h.length]
    exact (List.getElem?_eq_some_iff.1 hpiece).1
  have hw := List.getElem?_eq_getElem hk
  obtain ⟨hcalls, -⟩ := h.worker k _ hw
  rw [rest_of_finished hfinished (List.getElem_mem hk), List.append_nil, hpiece] at hcalls
  exact (Option.some.inj hcalls).symm

/-- **Workers that have finished did every task once.** -/
theorem calls_of_finished : (s.calls.map Prod.snd).Perm pieces.flatten := by
  have hrest : s.workers.flatMap Worker.rest = [] :=
    List.flatMap_eq_nil_iff.2 (fun w hw => rest_of_finished hfinished hw)
  have hdone := h.done
  rwa [hrest, List.nil_append] at hdone

/-- **Workers that have finished hold the folds of their chunks.** -/
theorem states_of_finished : s.workers.map Worker.state = pieces.map (fun piece => piece.foldl work initial) := by
  apply List.ext_getElem?
  intro k
  rw [List.getElem?_map, List.getElem?_map]
  by_cases hk : k < s.workers.length
  · have hw := List.getElem?_eq_getElem hk
    obtain ⟨hpiece, hstate⟩ := h.worker k _ hw
    rw [rest_of_finished hfinished (List.getElem_mem hk), List.append_nil] at hpiece
    rw [hw, hpiece, Option.map_some, Option.map_some, hstate]
  · have hk' : pieces.length ≤ k := by
      rw [← h.length]
      exact Nat.not_lt.1 hk
    rw [List.getElem?_eq_none (Nat.not_lt.1 hk), List.getElem?_eq_none hk']
    rfl

end

/-! ## Progress -/

def Pool.remaining (s : Pool α σ) : Nat := (s.workers.flatMap Worker.rest).length

theorem remaining_step {s s' : Pool α σ} {k : Nat} (hstep : s.step work k = some s') : s'.remaining < s.remaining := by
  obtain ⟨task, rest, state, hw, rfl⟩ := step_cases hstep
  obtain ⟨before, after, hsplit, hset⟩ := Workers.exists_split_of_getElem? hw
  unfold Pool.remaining
  dsimp only
  rw [hset, hsplit]
  simp only [List.flatMap_append, List.flatMap_cons, List.length_append, List.length_cons]
  omega

theorem exists_step {s : Pool α σ} (h : s.finished = false) : ∃ k s', s.step work k = some s' := by
  unfold Pool.finished at h
  rw [List.all_eq_false] at h
  obtain ⟨⟨rest, state⟩, hw, hrest⟩ := h
  obtain ⟨k, hk⟩ := List.mem_iff_getElem?.1 hw
  refine ⟨k, ?_⟩
  unfold Pool.step
  rw [hk]
  cases rest with
  | nil => exact absurd rfl hrest
  | cons task rest => exact ⟨_, rfl⟩

/-- **From every state some schedule finishes all workers.** -/
theorem exists_completion (work : σ → α → σ) (s : Pool α σ) :
    ∃ schedule s', s.run work schedule = some s' ∧ s'.finished = true := by
  exact @Schedules.exists_completion _ _ _ (fun _ => True) Pool.remaining Pool.finished (fun _ _ _ _ _ => trivial)
    (fun _ _ _ _ => remaining_step) (fun _ => exists_step) s trivial

end Fork
