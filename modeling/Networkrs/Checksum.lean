import Mathlib.Algebra.BigOperators.Group.List.Basic
import Mathlib.Data.List.Basic
import Networkrs.Lib.OnesComplement
import Networkrs.Ping
/-!
# Checksum — the Internet checksum verifies itself

Folding the carries of the sum brings it down to its one's-complement digit (`toNat_foldCarries`), so the checksum of
some bytes is the complement of the digit of their word sum (`checksum_eq`).  Writing it into a field that was zero
makes that sum all ones, and the order of the words does not matter (`checksum_verifies`).
-/
namespace Networkrs

open Machine

/-- **The folding loop ends at the digit of the sum.** -/
theorem toNat_foldCarries (sum : UInt32) : (foldCarries sum).toNat = onesDigit 65535 sum.toNat := by
  induction sum using foldCarries.induct with
  | case1 sum hlarge ih =>
    rw [foldCarries, if_pos hlarge, ih, toNat_foldCarry]
    exact onesDigit_carry sum.toNat
  | case2 sum hsmall =>
    have hle : sum.toNat ≤ 65535 := Nat.le_of_not_lt hsmall
    rw [foldCarries, if_neg hsmall, onesDigit_of_le hle]

/-- **The checksum of up to 65537 words** is the complement of the digit of their sum. -/
theorem checksum_eq {bytes : Bytes} (h : bytes.length ≤ 131074) :
    ∃ sum, checksum bytes = .ok sum ∧ sum.toNat = 65535 - onesDigit 65535 (wordSum bytes) := by
  obtain ⟨hsum, hfits⟩ := sumWords_of_length_le h
  refine ⟨_, by rw [checksum, hsum, ok_bind]; rfl, ?_⟩
  have hdigit := onesDigit_le (show 0 < 65535 by decide) (wordSum bytes)
  rw [UInt16.toNat_not, UInt32.toNat_toUInt16, toNat_foldCarries, UInt32.toNat_ofNat_of_lt' hfits,
    Nat.mod_eq_of_lt (by omega)]
  rfl

/-! ## The words of a packet with its checksum -/

theorem words_u16Bytes_append (word : UInt16) (rest : Bytes) :
    words (ByteOrder.big.u16Bytes word ++ rest) = word :: words rest := by
  have hread := ByteOrder.big.u16At_append [] [] word (show ([] : Bytes).length = 0 from rfl)
  have hlength := ByteOrder.length_u16Bytes .big word
  generalize ByteOrder.big.u16Bytes word = bytes at hread hlength
  obtain ⟨high, low, rfl⟩ := List.length_eq_two.1 hlength
  rw [← hread]
  rfl

/-- **Filling a zero field in** adds its word to the sum. -/
theorem wordSum_fill {packet : Bytes} (hlength : 4 ≤ packet.length) (hhigh : u8At packet 2 = 0)
    (hlow : u8At packet 3 = 0) (sum : UInt16) :
    wordSum (packet.take 2 ++ ByteOrder.big.u16Bytes sum ++ packet.drop 4) = wordSum packet + sum.toNat := by
  match packet, hlength with
  | a :: b :: c :: d :: rest, _ =>
    obtain rfl : c = 0 := hhigh
    obtain rfl : d = 0 := hlow
    have hfilled : words ([a, b] ++ (ByteOrder.big.u16Bytes sum ++ rest)) =
        ByteOrder.big.u16At [a, b] 0 :: sum :: words rest := by
      rw [← words_u16Bytes_append]
      rfl
    have hempty : words (a :: b :: 0 :: 0 :: rest) = ByteOrder.big.u16At [a, b] 0 :: 0 :: words rest := rfl
    show wordSum ([a, b] ++ ByteOrder.big.u16Bytes sum ++ rest) = _
    rw [List.append_assoc, wordSum, wordSum, hfilled, hempty]
    simp only [List.map_cons, List.sum_cons, UInt16.toNat_zero]
    omega

/-- **A packet with its checksum in the field verifies.** -/
theorem checksum_fill {packet : Bytes} (hlength : 4 ≤ packet.length) (hbound : packet.length ≤ 131074)
    (hhigh : u8At packet 2 = 0) (hlow : u8At packet 3 = 0) :
    ∃ sum, checksum packet = .ok sum ∧
      checksum (packet.take 2 ++ ByteOrder.big.u16Bytes sum ++ packet.drop 4) = .ok 0 := by
  obtain ⟨sum, hsum, hvalue⟩ := checksum_eq hbound
  have hfilled : (packet.take 2 ++ ByteOrder.big.u16Bytes sum ++ packet.drop 4).length ≤ 131074 := by
    simp
    omega
  obtain ⟨zero, hzero, hcomplement⟩ := checksum_eq hfilled
  rw [wordSum_fill hlength hhigh hlow, hvalue, onesDigit_add_complement (by decide)] at hcomplement
  obtain rfl : zero = 0 := UInt16.toNat_inj.1 hcomplement
  exact ⟨sum, hsum, hzero⟩

/-- The checksum reads the sum of the words only. -/
theorem checksum_eq_of_perm {p q : Bytes} (h : (words p).Perm (words q)) : checksum p = checksum q := by
  have hsum : wordSum p = wordSum q := (h.map UInt16.toNat).sum_eq
  rw [checksum, checksum, sumWords_eq, sumWords_eq, hsum]

/-- **The Internet checksum verifies itself**, in sums that do not overflow and whatever the order of the words; so
does every echo request. -/
theorem checksum_verifies :
    (∀ p : Bytes, 4 ≤ p.length → p.length ≤ 131074 → u8At p 2 = 0 → u8At p 3 = 0 →
      (∃ total, sumWords p 0 = .ok total ∧ foldCarries total ≤ 0xffff) ∧
        ∃ sum, checksum p = .ok sum ∧ checksum (p.take 2 ++ ByteOrder.big.u16Bytes sum ++ p.drop 4) = .ok 0) ∧
    (∀ p q : Bytes, (words p).Perm (words q) → checksum p = checksum q) ∧
    (∀ sequence, ∃ packet, echoRequest sequence = .ok packet ∧ checksum packet = .ok 0) := by
  refine ⟨fun p hlength hbound hhigh hlow => ⟨?_, checksum_fill hlength hbound hhigh hlow⟩,
    fun p q => checksum_eq_of_perm, fun sequence => ?_⟩
  · obtain ⟨hsum, -⟩ := sumWords_of_length_le hbound
    refine ⟨_, hsum, UInt32.le_iff_toNat_le.2 ?_⟩
    rw [toNat_foldCarries]
    exact onesDigit_le (by decide) _
  · have hsequence := ByteOrder.length_u16Bytes .big sequence
    obtain ⟨sum, hsum, hverified⟩ := @checksum_fill ([8, 0] ++ ByteOrder.big.u16Bytes 0 ++ [0, 0] ++
      ByteOrder.big.u16Bytes sequence ++ [0x6e, 0x65, 0x74, 0x77, 0x6f, 0x72, 0x6b, 0x72]) (by simp) (by simp) rfl rfl
    refine ⟨_, by rw [echoRequest, hsum, ok_bind]; rfl, ?_⟩
    exact hverified

/-- A packet of an odd length whose sum has two carries. -/
theorem checksum_verifies_carry :
    (∃ total, sumWords [8, 0, 0, 0, 0xff, 0xff, 0xff] 0 = .ok total ∧ foldCarries total ≤ 0xffff) ∧
      sumWords [8, 0, 0, 0, 0xff, 0xff, 0xff] 0 = .ok 0x206ff ∧
      ∃ sum, checksum [8, 0, 0, 0, 0xff, 0xff, 0xff] = .ok sum ∧
        checksum ([8, 0] ++ ByteOrder.big.u16Bytes sum ++ [0xff, 0xff, 0xff]) = .ok 0 := by
  obtain ⟨htotal, sum, hsum, hzero⟩ :=
    checksum_verifies.1 [8, 0, 0, 0, 0xff, 0xff, 0xff] (by decide) (by decide) rfl rfl
  exact ⟨htotal, by decide, sum, hsum, hzero⟩

end Networkrs
