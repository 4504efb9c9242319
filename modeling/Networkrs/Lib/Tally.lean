import Networkrs.Lib.Checked
/-!
# Tally — a counter that a run advances

A part of a run that adds to a counter of bounded type either ends with the counter advanced by its amount, or panics
where the sum leaves the type (`Adds`).  Parts in sequence add their amounts (`Adds.bind`), and a loop adds those of its
turns (`Adds.foldlM`), so what a whole run counts is read off its parts, whichever order they run in.
-/
namespace Tally

open Machine

variable {σ α : Type} {count : σ → Nat} {limit : Nat} {Good : σ → Prop}

/-- A computation that keeps an invariant and adds `n` to a counter below a limit. -/
structure Adds (count : σ → Nat) (limit : Nat) (Good : σ → Prop) (f : σ → Checked σ) (n : Nat) : Prop where
  ok : ∀ s, Good s → count s + n < limit → ∃ s', f s = .ok s' ∧ Good s' ∧ count s' = count s + n
  overflow : ∀ s, Good s → count s < limit → limit ≤ count s + n → f s = .error .overflow

theorem Adds.pure {f : σ → σ} (hgood : ∀ s, Good s → Good (f s)) (hcount : ∀ s, count (f s) = count s) :
    Adds count limit Good (fun s => .ok (f s)) 0 where
  ok := fun s hs _ => ⟨f s, rfl, hgood s hs, hcount s⟩
  overflow := fun s _ hlt hle => by omega

/-- **Parts in sequence add up.** -/
theorem Adds.bind {f g : σ → Checked σ} {m n : Nat} (hf : Adds count limit Good f m) (hg : Adds count limit Good g n) :
    Adds count limit Good (fun s => f s >>= g) (m + n) where
  ok := by
    intro s hs hlt
    obtain ⟨mid, hmid, hgood, hcount⟩ := hf.ok s hs (by omega)
    obtain ⟨s', hs', hgood', hcount'⟩ := hg.ok mid hgood (by omega)
    exact ⟨s', by rw [hmid, ok_bind, hs'], hgood', by omega⟩
  overflow := by
    intro s hs hlt hle
    by_cases hmid : count s + m < limit
    · obtain ⟨mid, hfs, hgood, hcount⟩ := hf.ok s hs hmid
      rw [hfs, ok_bind]
      exact hg.overflow mid hgood (by omega) (by omega)
    · rw [hf.overflow s hs hlt (by omega)]
      rfl

/-- **A loop adds what its turns add.** -/
theorem Adds.foldlM {f : σ → α → Checked σ} {n : α → Nat} (h : ∀ a, Adds count limit Good (fun s => f s a) (n a)) :
    ∀ (l : List α), Adds count limit Good (fun s => l.foldlM f s) (l.map n).sum
  | [] => Adds.pure (fun _ hs => hs) (fun _ => rfl)
  | a :: l => by
    have ih := Adds.foldlM h l
    rw [List.map_cons, List.sum_cons]
    exact (h a).bind ih

end Tally
