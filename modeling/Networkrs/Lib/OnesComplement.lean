import Mathlib.Algebra.Order.Ring.Nat
/-!
# OnesComplement — sums with an end-around carry

Digits run up to `m`.  Folding the carry of a sum back onto its digit keeps the sum modulo `m` and never makes a zero
of a number that is not (`onesDigit_carry`), so a fold that stops at a digit stops at `onesDigit m`, whatever its
order.  A sum with the complement of its digit added has the digit `m` (`onesDigit_add_complement`).
-/
namespace Machine

/-- The digit a number folds to: zero for zero, and for any other number the one of `1, …, m` that it is modulo `m`. -/
def onesDigit (m n : Nat) : Nat := if n = 0 then 0 else (n - 1) % m + 1

variable {m : Nat}

theorem onesDigit_of_le {n : Nat} (h : n ≤ m) : onesDigit m n = n := by
  unfold onesDigit
  by_cases hzero : n = 0
  · rw [if_pos hzero, hzero]
  · rw [if_neg hzero, Nat.mod_eq_of_lt (by omega)]
    omega

theorem onesDigit_le (hm : 0 < m) (n : Nat) : onesDigit m n ≤ m := by
  unfold onesDigit
  have hlt := Nat.mod_lt (n - 1) hm
  split <;> omega

/-- **Folding the carry back keeps the digit.** -/
theorem onesDigit_carry (n : Nat) : onesDigit m (n % (m + 1) + n / (m + 1)) = onesDigit m n := by
  have hsplit : m * (n / (m + 1)) + n / (m + 1) + n % (m + 1) = n := by
    have h := Nat.div_add_mod n (m + 1)
    rwa [Nat.add_mul, Nat.one_mul] at h
  generalize n / (m + 1) = quotient at hsplit ⊢
  generalize n % (m + 1) = remainder at hsplit ⊢
  unfold onesDigit
  by_cases hzero : remainder + quotient = 0
  · have hquotient : quotient = 0 := by omega
    rw [hquotient, Nat.mul_zero] at hsplit
    rw [if_pos hzero, if_pos (by omega)]
  · have hshift : n - 1 = remainder + quotient - 1 + m * quotient := by omega
    rw [if_neg hzero, if_neg (by omega), hshift, Nat.add_mul_mod_self_left]

/-- **A sum with its complement added is all ones.** -/
theorem onesDigit_add_complement (hm : 0 < m) (n : Nat) : onesDigit m (n + (m - onesDigit m n)) = m := by
  by_cases hzero : n = 0
  · have hdigit : onesDigit m n = 0 := if_pos hzero
    rw [hdigit, hzero, Nat.sub_zero, Nat.zero_add, onesDigit_of_le (Nat.le_refl m)]
  · have hsplit := Nat.div_add_mod (n - 1) m
    have hlt := Nat.mod_lt (n - 1) hm
    have hdigit : onesDigit m n = (n - 1) % m + 1 := if_neg hzero
    have hwhole : n + (m - onesDigit m n) - 1 = m - 1 + m * ((n - 1) / m) := by omega
    have hne : n + (m - onesDigit m n) ≠ 0 := by omega
    rw [onesDigit, if_neg hne, hwhole, Nat.add_mul_mod_self_left, Nat.mod_eq_of_lt (by omega)]
    omega

end Machine
