/-!
# Emission — a run that shows some of its records

A handler takes an event to the next state and may emit a record.  One that goes to the states of another, and emits
what the other does at the events it keeps, emits exactly the other's records of the events it keeps, in their order
(`run_snd_of_hides`).
-/
namespace Emission

variable {σ ε ρ : Type}

/-- The last state and the records of a run. -/
def run (handler : σ → ε → σ × Option ρ) : σ → List ε → σ × List ρ
  | s, [] => (s, [])
  | s, e :: events =>
    let (s, record) := handler s e
    let (s, records) := run handler s events
    (s, record.toList ++ records)

theorem run_fst (handler : σ → ε → σ × Option ρ) : ∀ (s : σ) (events : List ε),
    (run handler s events).1 = events.foldl (fun s e => (handler s e).1) s
  | _, [] => rfl
  | s, e :: events => run_fst handler (handler s e).1 events

/-- One handler emits what another does at the events it keeps, and nothing at the others. -/
def Hides (keep : ε → Bool) (shown handler : σ → ε → σ × Option ρ) : Prop :=
  ∀ s e, handler s e = ((shown s e).1, if keep e then (shown s e).2 else none)

/-- A handler that emits a record at every event. -/
def Total (handler : σ → ε → σ × Option ρ) : Prop := ∀ s e, (handler s e).2.isSome = true

theorem length_of_total {handler : σ → ε → σ × Option ρ} (htotal : Total handler) : ∀ (s : σ) (events : List ε),
    (run handler s events).2.length = events.length
  | _, [] => rfl
  | s, e :: events => by
    obtain ⟨record, hrecord⟩ := Option.isSome_iff_exists.1 (htotal s e)
    have ih := length_of_total htotal (handler s e).1 events
    rw [run]
    dsimp only
    rw [hrecord, Option.toList_some, List.singleton_append, List.length_cons, ih, List.length_cons]

variable {keep : ε → Bool} {shown handler : σ → ε → σ × Option ρ}

/-- **The records that are left are those of the events that are kept**, with their contents and in their order. -/
theorem run_snd_of_hides (h : Hides keep shown handler) (htotal : Total shown) : ∀ (s : σ) (events : List ε),
    (run handler s events).2 = ((events.zip (run shown s events).2).filter (fun p => keep p.1)).map Prod.snd
  | _, [] => rfl
  | s, e :: events => by
    obtain ⟨record, hrecord⟩ := Option.isSome_iff_exists.1 (htotal s e)
    have ih := run_snd_of_hides h htotal (shown s e).1 events
    rw [run, run, h s e]
    dsimp only
    rw [ih, hrecord, Option.toList_some, List.singleton_append, List.zip_cons_cons]
    cases hkeep : keep e with
    | true =>
      rw [List.filter_cons_of_pos (by exact hkeep), List.map_cons]
      rfl
    | false =>
      rw [List.filter_cons_of_neg (by simp [hkeep])]
      rfl

end Emission
