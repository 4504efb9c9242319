import Mathlib.Algebra.Group.Int.Defs
import Mathlib.Algebra.GroupWithZero.Nat
/-!
# Checked — computations that may panic

Rust stops a checked build at an index outside a slice, at an arithmetic result its type cannot hold and at the
negation of a least value.  A computation that may do any of these is a `Checked` value: the operations below are the
ones that can stop, each with the guard under which it does not.
-/
namespace Machine

inductive Panic where
  | outOfRange
  | overflow
  | negation
  deriving DecidableEq, Repr

/-- A computation that may panic. -/
abbrev Checked (α : Type) := Except Panic α

theorem ok_bind {ε α β : Type} (a : α) (f : α → Except ε β) : (Except.ok a >>= f) = f a := rfl

theorem bind_eq_ok_iff {ε α β : Type} (x : Except ε α) (f : α → Except ε β) (b : β) :
    (x >>= f) = .ok b ↔ ∃ a, x = .ok a ∧ f a = .ok b := by
  cases x with
  | error e => exact ⟨fun h => (by cases h), fun ⟨_, h, _⟩ => (by cases h)⟩
  | ok a => exact ⟨fun h => ⟨a, rfl, h⟩, fun ⟨_, ha, h⟩ => by cases ha; exact h⟩

/-- **A computation in sequence**, the second part of which returns or not whatever the first one returns. -/
theorem exists_bind_iff {ε α β : Type} (x : Except ε α) {f : α → Except ε β} {P : Prop}
    (h : ∀ a, (∃ b, f a = .ok b) ↔ P) : (∃ b, (x >>= f) = .ok b) ↔ (∃ a, x = .ok a) ∧ P := by
  constructor
  · rintro ⟨b, hb⟩
    obtain ⟨a, ha, hfa⟩ := (bind_eq_ok_iff x f b).1 hb
    exact ⟨⟨a, ha⟩, (h a).1 ⟨b, hfa⟩⟩
  · rintro ⟨⟨a, ha⟩, hP⟩
    obtain ⟨b, hfa⟩ := (h a).2 hP
    exact ⟨b, (bind_eq_ok_iff x f b).2 ⟨a, ha, hfa⟩⟩

/-- `l[i..]`. -/
def sliceFrom {α : Type} (l : List α) (i : Nat) : Checked (List α) :=
  if i ≤ l.length then .ok (l.drop i) else .error .outOfRange

/-- `l[i..j]`. -/
def slice {α : Type} (l : List α) (i j : Nat) : Checked (List α) :=
  if i ≤ j ∧ j ≤ l.length then .ok ((l.drop i).take (j - i)) else .error .outOfRange

/-- `a + b` on `u32`. -/
def u32Add (a b : UInt32) : Checked UInt32 :=
  if a.toNat + b.toNat < UInt32.size then .ok (a + b) else .error .overflow

/-- `a - b` on `u32`. -/
def u32Sub (a b : UInt32) : Checked UInt32 :=
  if b ≤ a then .ok (a - b) else .error .overflow

/-- `a << b` on `u32`. -/
def u32Shl (a b : UInt32) : Checked UInt32 :=
  if b.toNat < 32 then .ok (a <<< b) else .error .overflow

/-- `a - b` on `usize` and `u64`. -/
def usizeSub (a b : Nat) : Checked Nat :=
  if b ≤ a then .ok (a - b) else .error .overflow

/-- `a + b` on `usize`, beside a slice.  A slice holds at most `isize::MAX` elements, so on every target `usize` reaches
`2 * l.length + 1`; a sum past that counts as an overflow here, whatever the target's width. -/
def usizeAdd {α : Type} (l : List α) (a b : Nat) : Checked Nat :=
  if a + b ≤ 2 * l.length + 1 then .ok (a + b) else .error .overflow

/-- `a + b` on `u64`. -/
def u64Add (a b : Nat) : Checked Nat := if a + b < 2 ^ 64 then .ok (a + b) else .error .overflow

/-- `sum` on `u64`. -/
def u64Sum (l : List Nat) : Checked Nat := l.foldlM u64Add 0

/-- `a + b` on `u128`. -/
def u128Add (a b : Nat) : Checked Nat := if a + b < 2 ^ 128 then .ok (a + b) else .error .overflow

/-- `sum` on `u128`. -/
def u128Sum (l : List Nat) : Checked Nat := l.foldlM u128Add 0

/-- `a + b` on `i32`. -/
def i32Add (a b : Int32) : Checked Int32 :=
  if -2 ^ 31 ≤ a.toInt + b.toInt ∧ a.toInt + b.toInt < 2 ^ 31 then .ok (a + b) else .error .overflow

/-- `-a` on `i32`, which has no negation of its least value. -/
def i32Neg (a : Int32) : Checked Int32 :=
  if a = Int32.minValue then .error .negation else .ok (-a)

theorem sliceFrom_eq {α : Type} (l : List α) {i : Nat} (h : i ≤ l.length) : sliceFrom l i = .ok (l.drop i) :=
  if_pos h

theorem slice_eq {α : Type} (l : List α) {i j : Nat} (hij : i ≤ j) (hj : j ≤ l.length) :
    slice l i j = .ok ((l.drop i).take (j - i)) :=
  if_pos ⟨hij, hj⟩

/-- **A sum that does not overflow** is the sum of the numbers. -/
theorem u32Add_eq_ok_iff (a b c : UInt32) : u32Add a b = .ok c ↔ c.toNat = a.toNat + b.toNat := by
  unfold u32Add
  by_cases h : a.toNat + b.toNat < UInt32.size
  · rw [if_pos h, Except.ok.injEq, ← UInt32.toNat_inj, UInt32.toNat_add, Nat.mod_eq_of_lt h, eq_comm]
  · rw [if_neg h]
    have hc := c.toNat_lt_size
    constructor
    · intro h'
      cases h'
    · intro h'
      omega

/-- A sum that stays below a word does not overflow. -/
theorem u32Add_of_le {a b c : UInt32} (h : a.toNat + b.toNat ≤ c.toNat) : u32Add a b = .ok (a + b) := by
  have hc := c.toNat_lt_size
  exact if_pos (by omega)

theorem u32Sub_of_le {a b : UInt32} (h : b.toNat ≤ a.toNat) : u32Sub a b = .ok (a - b) :=
  if_pos (UInt32.le_iff_toNat_le.2 h)

theorem u32Sub_eq_ok_iff (a b c : UInt32) : u32Sub a b = .ok c ↔ c.toNat + b.toNat = a.toNat := by
  unfold u32Sub
  by_cases h : b ≤ a
  · rw [if_pos h, Except.ok.injEq, ← UInt32.toNat_inj, UInt32.toNat_sub_of_le _ _ h]
    rw [UInt32.le_iff_toNat_le] at h
    omega
  · rw [if_neg h]
    rw [UInt32.le_iff_toNat_le] at h
    constructor
    · intro h'
      cases h'
    · intro h'
      omega

section
variable {add : Nat → Nat → Checked Nat} {bound : Nat}
  (hadd : ∀ a b, add a b = if a + b < bound then .ok (a + b) else .error .overflow)

include hadd

/-- **A sum is the sum of its numbers while that fits the type**, and panics from then on. -/
theorem foldlM_add : ∀ (l : List Nat) (a : Nat), a < bound →
    l.foldlM add a = if a + l.sum < bound then .ok (a + l.sum) else .error .overflow
  | [], a, ha => by
    rw [List.foldlM_nil, List.sum_nil, Nat.add_zero, if_pos ha]
    rfl
  | b :: l, a, ha => by
    rw [List.foldlM_cons, List.sum_cons, ← Nat.add_assoc]
    by_cases h : a + b < bound
    · rw [hadd, if_pos h, ok_bind, foldlM_add l (a + b) h]
    · have hsum : ¬ a + b + l.sum < bound := by omega
      rw [hadd, if_neg h, if_neg hsum]
      rfl

end

theorem u64Sum_eq (l : List Nat) : u64Sum l = if l.sum < 2 ^ 64 then .ok l.sum else .error .overflow := by
  have h := foldlM_add (fun a b => (rfl : u64Add a b = _)) l 0 (by decide)
  rwa [Nat.zero_add] at h

theorem u128Sum_eq (l : List Nat) : u128Sum l = if l.sum < 2 ^ 128 then .ok l.sum else .error .overflow := by
  have h := foldlM_add (fun a b => (rfl : u128Add a b = _)) l 0 (by decide)
  rwa [Nat.zero_add] at h

theorem eq_of_u32Shl {a b c : UInt32} (h : u32Shl a b = .ok c) : c = a <<< b := by
  unfold u32Shl at h
  split at h
  · exact (Except.ok.inj h).symm
  · cases h

theorem usizeSub_eq {a b : Nat} (h : b ≤ a) : usizeSub a b = .ok (a - b) := if_pos h

theorem usizeAdd_eq {α : Type} (l : List α) {a b : Nat} (h : a + b ≤ 2 * l.length + 1) :
    usizeAdd l a b = .ok (a + b) :=
  if_pos h

/-- **A pass that may fail at each entry** returns exactly when it fails at none, with as many values. -/
theorem exists_mapM_iff {α β ε : Type} (f : α → Except ε β) : ∀ (l : List α),
    (∃ values, l.mapM f = .ok values) ↔ ∀ x ∈ l, ∃ value, f x = .ok value
  | [] => ⟨fun _ x hx => absurd hx List.not_mem_nil, fun _ => ⟨[], rfl⟩⟩
  | x :: l => by
    rw [List.forall_mem_cons, ← exists_mapM_iff f l, List.mapM_cons]
    cases hx : f x with
    | error e =>
      constructor
      · rintro ⟨values, h⟩
        cases h
      · rintro ⟨⟨value, h⟩, -⟩
        cases h
    | ok value =>
      cases hl : l.mapM f with
      | error e =>
        constructor
        · rintro ⟨values, h⟩
          cases h
        · rintro ⟨-, values, h⟩
          cases h
      | ok values => exact ⟨fun _ => ⟨⟨value, rfl⟩, values, rfl⟩, fun _ => ⟨value :: values, rfl⟩⟩

theorem length_of_mapM {α β ε : Type} {f : α → Except ε β} : ∀ {l : List α} {values : List β},
    l.mapM f = .ok values → values.length = l.length
  | [], values, h => by
    cases h
    rfl
  | x :: l, values, h => by
    rw [List.mapM_cons] at h
    cases hx : f x with
    | error e => rw [hx] at h; cases h
    | ok value =>
      cases hl : l.mapM f with
      | error e => rw [hx, hl] at h; cases h
      | ok rest =>
        rw [hx, hl] at h
        cases h
        rw [List.length_cons, List.length_cons, length_of_mapM hl]

theorem mapM_of_ok {α β : Type} {f : α → Checked β} {g : α → β} : ∀ (l : List α), (∀ x ∈ l, f x = .ok (g x)) →
    l.mapM f = .ok (l.map g)
  | [], _ => rfl
  | x :: l, h => by
    rw [List.mapM_cons, h x List.mem_cons_self, mapM_of_ok l (fun y hy => h y (List.mem_cons_of_mem x hy))]
    rfl

/-- What a checked pass over a list returns at a place, it returns for the entry there. -/
theorem getElem?_of_mapM {α β : Type} {f : α → Checked β} : ∀ {l : List α} {values : List β} (i : Nat) {value : β},
    l.mapM f = .ok values → values[i]? = some value → ∃ x, l[i]? = some x ∧ f x = .ok value
  | [], values, i, value, h, hi => by
    cases h
    cases hi
  | x :: l, values, i, value, h, hi => by
    rw [List.mapM_cons] at h
    obtain ⟨y, hx, h⟩ := (bind_eq_ok_iff _ _ _).1 h
    obtain ⟨ys, hl, h⟩ := (bind_eq_ok_iff _ _ _).1 h
    cases h
    cases i with
    | zero =>
      obtain rfl := Option.some.inj hi
      exact ⟨x, rfl, hx⟩
    | succ i => exact getElem?_of_mapM i hl hi

/-- What a checked pass over a list returns, it returns for one of the entries. -/
theorem exists_of_mem_mapM {α β : Type} (f : α → Checked β) : ∀ (l : List α) (values : List β),
    l.mapM f = .ok values → ∀ value ∈ values, ∃ x ∈ l, f x = .ok value
  | [], values, h, value, hvalue => by
    cases h
    cases hvalue
  | x :: l, values, h, value, hvalue => by
    rw [List.mapM_cons] at h
    cases hx : f x with
    | error p => rw [hx] at h; cases h
    | ok y =>
      cases hl : l.mapM f with
      | error p => rw [hx, hl] at h; cases h
      | ok ys =>
        rw [hx, hl] at h
        cases h
        rcases List.mem_cons.1 hvalue with rfl | hvalue
        · exact ⟨x, List.mem_cons_self, hx⟩
        · obtain ⟨x', hx', hf⟩ := exists_of_mem_mapM f l ys hl value hvalue
          exact ⟨x', List.mem_cons_of_mem x hx', hf⟩

/-- **A pass that pushes** what it reads off each entry. -/
theorem foldlM_of_push {α β : Type} {f : List β → α → Checked (List β)} {g : α → List β} : ∀ (l : List α)
    (held : List β), (∀ held, ∀ x ∈ l, f held x = .ok (held ++ g x)) → l.foldlM f held = .ok (held ++ l.flatMap g)
  | [], held, _ => by
    rw [List.foldlM_nil, List.flatMap_nil, List.append_nil]
    rfl
  | x :: l, held, h => by
    have ih := foldlM_of_push l (held ++ g x) (fun held y hy => h held y (List.mem_cons_of_mem x hy))
    rw [List.foldlM_cons, h held x List.mem_cons_self, ok_bind, ih, List.flatMap_cons, List.append_assoc]

end Machine
