import Mathlib.Algebra.Group.Nat.Defs
/-!
# Blocks — aligned blocks under a bit mask

The numbers below `2 ^ w` fall into blocks of `2 ^ k`.  Masking the low `k` bits of a number off gives the first of its
block (`and_high_bits`), setting them the last (`or_low_bits`); a number is in a block when it agrees with it on the
high bits (`mem_block_iff`).
-/
namespace Machine

/-- The first of the `2 ^ k` numbers of the block of `x`. -/
def blockStart (k x : Nat) : Nat := x / 2 ^ k * 2 ^ k

def blockEnd (k x : Nat) : Nat := blockStart k x + (2 ^ k - 1)

@[simp] theorem blockStart_blockStart (k x : Nat) : blockStart k (blockStart k x) = blockStart k x := by
  unfold blockStart
  rw [Nat.mul_div_cancel _ (Nat.two_pow_pos k)]

@[simp] theorem blockEnd_blockStart (k x : Nat) : blockEnd k (blockStart k x) = blockEnd k x := by
  unfold blockEnd
  rw [blockStart_blockStart]

/-- **Masking the low bits off gives the start of a block.** -/
theorem and_high_bits {k w x : Nat} (hk : k ≤ w) (hx : x < 2 ^ w) : x &&& (2 ^ w - 2 ^ k) = blockStart k x := by
  have hmask : 2 ^ w - 2 ^ k = (2 ^ (w - k) - 1) * 2 ^ k := by
    rw [Nat.sub_mul, ← Nat.pow_add, Nat.sub_add_cancel hk, Nat.one_mul]
  apply Nat.eq_of_testBit_eq
  intro i
  rw [hmask, Nat.testBit_and, Nat.testBit_mul_two_pow, Nat.testBit_two_pow_sub_one, blockStart,
    Nat.testBit_mul_two_pow, Nat.testBit_div_two_pow]
  by_cases hki : k ≤ i
  · rw [Nat.sub_add_cancel hki]
    by_cases hiw : i < w
    · have hlt : i - k < w - k := by omega
      simp [hki, hlt]
    · have hxi : x.testBit i = false :=
        Nat.testBit_lt_two_pow (Nat.lt_of_lt_of_le hx (Nat.pow_le_pow_right (by decide) (by omega)))
      simp [hxi]
  · simp [hki]

/-- **Setting the low bits of the start of a block gives its end.** -/
theorem or_low_bits (k x : Nat) : blockStart k x ||| (2 ^ k - 1) = blockEnd k x := by
  have hlow : 2 ^ k - 1 < 2 ^ k := Nat.sub_lt (Nat.two_pow_pos k) (by decide)
  rw [blockEnd, blockStart, Nat.mul_comm, Nat.two_pow_add_eq_or_of_lt hlow]

/-- Shifting a word of ones by `k` bits clears its low bits. -/
theorem ones_mul_two_pow_mod {k w : Nat} (hk : k ≤ w) : (2 ^ w - 1) * 2 ^ k % 2 ^ w = 2 ^ w - 2 ^ k := by
  have hpos := Nat.two_pow_pos k
  have hle : 2 ^ k ≤ 2 ^ w := Nat.pow_le_pow_right (by decide) hk
  have hmul : 2 ^ w ≤ 2 ^ w * 2 ^ k := Nat.le_mul_of_pos_right _ hpos
  have hsplit : (2 ^ w - 1) * 2 ^ k = 2 ^ w * (2 ^ k - 1) + (2 ^ w - 2 ^ k) := by
    rw [Nat.sub_mul, Nat.mul_sub, Nat.one_mul, Nat.mul_one]
    omega
  rw [hsplit, Nat.mul_add_mod, Nat.mod_eq_of_lt (by omega)]

/-- The numbers of a block have its quotient. -/
theorem mem_block_iff_div (k c a : Nat) : blockStart k c ≤ a ∧ a ≤ blockEnd k c ↔ a / 2 ^ k = c / 2 ^ k := by
  have hpos := Nat.two_pow_pos k
  rw [Nat.div_eq_iff hpos]
  unfold blockEnd blockStart
  omega

/-- **A block is the numbers that agree on the high bits.** -/
theorem mem_block_iff (k c a : Nat) :
    blockStart k c ≤ a ∧ a ≤ blockEnd k c ↔ ∀ i, k ≤ i → a.testBit i = c.testBit i := by
  rw [mem_block_iff_div]
  constructor
  · intro h i hi
    have hbit := congrArg (Nat.testBit · (i - k)) h
    simpa only [Nat.testBit_div_two_pow, Nat.sub_add_cancel hi] using hbit
  · intro h
    apply Nat.eq_of_testBit_eq
    intro i
    rw [Nat.testBit_div_two_pow, Nat.testBit_div_two_pow]
    exact h (i + k) (Nat.le_add_left k i)

/-- A number has the ends of the block it lies in. -/
theorem block_eq_of_mem {k c a : Nat} (h : blockStart k c ≤ a ∧ a ≤ blockEnd k c) :
    blockStart k a = blockStart k c ∧ blockEnd k a = blockEnd k c := by
  have hquotient := (mem_block_iff_div k c a).1 h
  unfold blockEnd blockStart
  rw [hquotient]
  exact ⟨rfl, rfl⟩

/-- A block starts at the number without low bits. -/
theorem blockStart_eq_iff (k a : Nat) : blockStart k a = a ↔ ∀ i < k, a.testBit i = false := by
  have hremainder : blockStart k a = a ↔ a % 2 ^ k = 0 := by
    have hsplit := Nat.div_add_mod' a (2 ^ k)
    unfold blockStart
    omega
  rw [hremainder]
  constructor
  · intro h i hi
    have hbit := congrArg (Nat.testBit · i) h
    simpa [hi] using hbit
  · intro h
    apply Nat.eq_of_testBit_eq
    intro i
    rw [Nat.testBit_mod_two_pow, Nat.zero_testBit]
    by_cases hi : i < k
    · simp [h i hi]
    · simp [hi]

/-- A block ends at the number with all low bits. -/
theorem blockEnd_eq_iff (k a : Nat) : blockEnd k a = a ↔ ∀ i < k, a.testBit i = true := by
  have hpos := Nat.two_pow_pos k
  have hremainder : blockEnd k a = a ↔ a % 2 ^ k = 2 ^ k - 1 := by
    have hsplit := Nat.div_add_mod' a (2 ^ k)
    unfold blockEnd blockStart
    omega
  rw [hremainder]
  constructor
  · intro h i hi
    have hbit := congrArg (Nat.testBit · i) h
    simpa [hi] using hbit
  · intro h
    apply Nat.eq_of_testBit_eq
    intro i
    rw [Nat.testBit_mod_two_pow, Nat.testBit_two_pow_sub_one]
    by_cases hi : i < k
    · simp [hi, h i hi]
    · simp [hi]

end Machine
