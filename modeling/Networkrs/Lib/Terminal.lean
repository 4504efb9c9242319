import Mathlib.Data.List.Basic
import Mathlib.Order.MinMax
/-!
# Terminal — what is left of output that redraws itself

A terminal of some height, wide enough for each row, shows the last of the rows written to it, and the row of the cursor
below them.  The cursor moves up no further than the first row that is shown, so that a program that goes up by the rows
it wrote last, erases what is below and writes again leaves the rows that had scrolled away (`rows_redraw`).
-/
namespace Terminal

variable {ρ σ : Type}

/-- The rows above the cursor, with the first one that is shown. -/
structure Screen (ρ : Type) where
  height : Nat
  rows : List ρ
  top : Nat
  top_le : top ≤ rows.length
  cursor_shown : rows.length < top + height

/-- The empty screen of a height. -/
def Screen.empty (height : Nat) (h : 0 < height) : Screen ρ := ⟨height, [], 0, Nat.le_refl 0, by simpa using h⟩

/-- Rows written at the cursor scroll until the row below them is shown. -/
def Screen.write (screen : Screen ρ) (rows : List ρ) : Screen ρ where
  height := screen.height
  rows := screen.rows ++ rows
  top := max screen.top (screen.rows.length + rows.length + 1 - screen.height)
  top_le := by
    have htop := screen.top_le
    have hshown := screen.cursor_shown
    rw [List.length_append]
    omega
  cursor_shown := by
    have hshown := screen.cursor_shown
    rw [List.length_append]
    omega

/-- The cursor goes up by a positive number of rows, as far as rows are shown, and all below is erased. -/
def Screen.eraseUp (screen : Screen ρ) (n : Nat) : Screen ρ where
  height := screen.height
  rows := screen.rows.take (max screen.top (screen.rows.length - n))
  top := screen.top
  top_le := by
    have htop := screen.top_le
    rw [List.length_take]
    omega
  cursor_shown := by
    have hshown := screen.cursor_shown
    rw [List.length_take]
    omega

@[simp] theorem Screen.height_write (screen : Screen ρ) (rows : List ρ) :
    (screen.write rows).height = screen.height := rfl
@[simp] theorem Screen.rows_write (screen : Screen ρ) (rows : List ρ) :
    (screen.write rows).rows = screen.rows ++ rows := rfl
@[simp] theorem Screen.height_eraseUp (screen : Screen ρ) (n : Nat) : (screen.eraseUp n).height = screen.height := rfl

theorem Screen.write_nil (screen : Screen ρ) : screen.write [] = screen := by
  have hshown := screen.cursor_shown
  have htop : max screen.top (screen.rows.length + ([] : List ρ).length + 1 - screen.height) = screen.top := by
    rw [List.length_nil]
    omega
  cases screen
  simp only [Screen.write, List.append_nil, Screen.mk.injEq, true_and]
  exact htop

/-- **Writing in parts** is writing at once. -/
theorem Screen.write_write (screen : Screen ρ) (rows rows' : List ρ) :
    (screen.write rows).write rows' = screen.write (rows ++ rows') := by
  simp only [Screen.write, List.append_assoc, List.length_append, Screen.mk.injEq, true_and]
  omega

/-- How many of `m` rows are left, on a screen of a height, when the cursor goes up by `n`. -/
def leftover (height n m : Nat) : Nat := max (m + 1 - height) (m - n)

/-- **Erasing rows that were just written** leaves those that are not shown and those not gone up by. -/
theorem Screen.rows_eraseUp_write (screen : Screen ρ) {rows : List ρ} {n : Nat} (h : n ≤ rows.length) :
    ((screen.write rows).eraseUp n).rows = screen.rows ++ rows.take (leftover screen.height n rows.length) := by
  have htop := screen.top_le
  have hrow : max (max screen.top (screen.rows.length + rows.length + 1 - screen.height))
      (screen.rows.length + rows.length - n) = screen.rows.length + leftover screen.height n rows.length := by
    unfold leftover
    omega
  show (screen.rows ++ rows).take (max (max screen.top (screen.rows.length + rows.length + 1 - screen.height))
    ((screen.rows ++ rows).length - n)) = _
  rw [List.length_append, hrow, List.take_length_add_append]

/-! ## Redrawing -/

variable (count : σ → Nat) (rowsOf : σ → List ρ)

/-- What is written last is gone up by, erased and written anew; `rendered` is zero before anything is written. -/
def redraw : Nat → List σ → Screen ρ → Screen ρ
  | _, [], screen => screen
  | rendered, s :: samples, screen =>
    redraw (count s) samples ((if rendered ≠ 0 then screen.eraseUp rendered else screen).write (rowsOf s))

variable {count rowsOf}

theorem rows_redraw_from (hcount : ∀ s, 0 < count s ∧ count s ≤ (rowsOf s).length) :
    ∀ (before : List σ) (first last : σ) (screen : Screen ρ),
      (redraw count rowsOf (count first) (before ++ [last]) (screen.write (rowsOf first))).rows =
        screen.rows ++ ((first :: before).flatMap
          (fun s => (rowsOf s).take (leftover screen.height (count s) (rowsOf s).length)) ++ rowsOf last)
  | [], first, last, screen => by
    have herase := screen.rows_eraseUp_write (hcount first).2
    rw [List.nil_append, redraw, redraw, if_pos (hcount first).1.ne', Screen.rows_write, herase]
    simp
  | s :: before, first, last, screen => by
    have herase := screen.rows_eraseUp_write (hcount first).2
    rw [List.cons_append, redraw, if_pos (hcount first).1.ne', rows_redraw_from hcount before s last, herase]
    simp

/-- **Redrawing leaves the last rows, behind what had scrolled away of the others.** -/
theorem rows_redraw (hcount : ∀ s, 0 < count s ∧ count s ≤ (rowsOf s).length) (before : List σ) (last : σ)
    (screen : Screen ρ) : (redraw count rowsOf 0 (before ++ [last]) screen).rows =
      screen.rows ++ (before.flatMap
        (fun s => (rowsOf s).take (leftover screen.height (count s) (rowsOf s).length)) ++ rowsOf last) := by
  cases before with
  | nil => rfl
  | cons first before => exact rows_redraw_from hcount before first last screen

end Terminal
