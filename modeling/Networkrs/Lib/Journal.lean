import Networkrs.Lib.Keyed
/-!
# Journal — a map that events keep up to date

An event may drop the value of a key, or put one.  After a sequence of events the map answers with the latest value put
since the key was last dropped, with the initial one for a key that was neither dropped nor put, and with nothing
otherwise (`foldl_eq_valueAfter`).
-/
namespace Journal

open Keyed (Map)

variable {ε κ υ : Type} (drops : κ → ε → Bool) (puts : κ → ε → Option υ)

/-- The latest value put since the key was last dropped, or the initial value of a key that never was. -/
def valueAfter (initial : Map κ υ) (events : List ε) : Map κ υ := fun k =>
  match (events.reverse.takeWhile (fun e => !drops k e)).findSome? (puts k) with
  | some v => some v
  | none => if events.any (drops k) then none else initial k

variable {drops puts}

theorem valueAfter_concat (initial : Map κ υ) (events : List ε) (e : ε) (k : κ) :
    valueAfter drops puts initial (events ++ [e]) k =
      if drops k e then none else (puts k e).or (valueAfter drops puts initial events k) := by
  unfold valueAfter
  rw [List.reverse_append, List.reverse_singleton, List.singleton_append, List.takeWhile_cons, List.any_append,
    List.any_cons, List.any_nil, Bool.or_false]
  cases hdrops : drops k e with
  | true => simp
  | false =>
    rw [Bool.or_false, Bool.not_false, if_pos rfl, if_neg Bool.false_ne_true, List.findSome?_cons]
    cases puts k e with
    | some v => rfl
    | none => rfl

/-- **What the map answers after a sequence of events.** -/
theorem foldl_eq_valueAfter {step : Map κ υ → ε → Map κ υ}
    (hstep : ∀ m e k, step m e k = if drops k e then none else (puts k e).or (m k)) (initial : Map κ υ)
    (events : List ε) : events.foldl step initial = valueAfter drops puts initial events := by
  induction events using List.reverseRecOn with
  | nil => rfl
  | append_singleton events e ih =>
    funext k
    rw [List.foldl_append, List.foldl_cons, List.foldl_nil, hstep, ih, valueAfter_concat]

end Journal
