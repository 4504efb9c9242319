import Networkrs.ScanTraffic
/-!
# CidrArithmetic — a network against the bits of its prefix

`Network::for_cidr` masks an address, and membership and the host bounds compare integers.  Read bit by bit, from the
highest on, a network is the addresses with the prefix of the one it was made for (`contains_iff`), and its bounds
leave out the host parts of zeros and of ones through `/30` (`cidr_arithmetic_exact`).
-/
namespace Networkrs

open Machine

/-- A bit of an address, of which the first is the highest. -/
def Ipv4Addr.bit (address : Ipv4Addr) (i : Nat) : Bool := address.bits.toNat.testBit (31 - i)

/-- Two addresses with one prefix. -/
def SharesPrefix (prefixLength : UInt32) (a c : Ipv4Addr) : Prop := ∀ i < prefixLength.toNat, a.bit i = c.bit i

/-- An address whose host part repeats a bit. -/
def HostPartAll (b : Bool) (prefixLength : UInt32) (a : Ipv4Addr) : Prop :=
  ∀ i, prefixLength.toNat ≤ i → i < 32 → a.bit i = b

theorem Ipv4Addr.testBit_of_le (address : Ipv4Addr) {i : Nat} (h : 32 ≤ i) :
    address.bits.toNat.testBit i = false :=
  Nat.testBit_lt_two_pow (Nat.lt_of_lt_of_le address.bits.toNat_lt (Nat.pow_le_pow_right (by decide) h))

theorem sharesPrefix_iff {prefixLength : UInt32} (h : prefixLength ≤ 32) (a c : Ipv4Addr) :
    SharesPrefix prefixLength a c ↔
      ∀ i, 32 - prefixLength.toNat ≤ i → a.bits.toNat.testBit i = c.bits.toNat.testBit i := by
  have hle : prefixLength.toNat ≤ 32 := UInt32.le_iff_toNat_le.1 h
  constructor
  · intro hshares i hi
    by_cases h32 : 32 ≤ i
    · rw [a.testBit_of_le h32, c.testBit_of_le h32]
    · have hbit := hshares (31 - i) (by omega)
      have hback : 31 - (31 - i) = i := by omega
      unfold Ipv4Addr.bit at hbit
      rwa [hback] at hbit
  · intro hbits i hi
    exact hbits (31 - i) (by omega)

theorem hostPartAll_iff {prefixLength : UInt32} (h : prefixLength ≤ 32) (b : Bool) (a : Ipv4Addr) :
    HostPartAll b prefixLength a ↔ ∀ i < 32 - prefixLength.toNat, a.bits.toNat.testBit i = b := by
  have hle : prefixLength.toNat ≤ 32 := UInt32.le_iff_toNat_le.1 h
  constructor
  · intro hall i hi
    have hbit := hall (31 - i) (by omega) (by omega)
    have hback : 31 - (31 - i) = i := by omega
    unfold Ipv4Addr.bit at hbit
    rwa [hback] at hbit
  · intro hbits i hi h32
    exact hbits (31 - i) (by omega)

section
variable {network : Network} {prefixLength : UInt32} {subnet : Ipv4Addr}

/-- **A network contains the addresses with its prefix.** -/
theorem Network.Covers.contains_iff (hcovers : network.Covers prefixLength subnet) (h : prefixLength ≤ 32)
    (a : Ipv4Addr) : network.contains a = true ↔ SharesPrefix prefixLength a subnet := by
  rw [sharesPrefix_iff h, ← mem_block_iff, Network.contains, decide_eq_true_eq, UInt32.le_iff_toNat_le,
    UInt32.le_iff_toNat_le, hcovers.network_eq, hcovers.broadcast_eq]

/-- **A host of a subnet** is an address with its prefix, through `/30` without the two ends. -/
theorem isHost_iff (h : prefixLength ≤ 32) (a : Ipv4Addr) :
    IsHost prefixLength subnet a ↔ SharesPrefix prefixLength a subnet ∧
      (prefixLength ≤ 30 → ¬ HostPartAll false prefixLength a ∧ ¬ HostPartAll true prefixLength a) := by
  rw [sharesPrefix_iff h, ← mem_block_iff, hostPartAll_iff h, hostPartAll_iff h, ← blockStart_eq_iff,
    ← blockEnd_eq_iff, IsHost, hostFirst, hostLast]
  by_cases h30 : prefixLength ≤ 30
  · have hle : prefixLength.toNat ≤ 30 := UInt32.le_iff_toNat_le.1 h30
    have hfour : 2 ^ 2 ≤ 2 ^ (32 - prefixLength.toNat) := Nat.pow_le_pow_right (by decide) (by omega)
    have hend : blockEnd (32 - prefixLength.toNat) subnet.bits.toNat =
      blockStart (32 - prefixLength.toNat) subnet.bits.toNat + (2 ^ (32 - prefixLength.toNat) - 1) := rfl
    rw [if_pos h30]
    constructor
    · rintro ⟨hfirst, hlast⟩
      have hmem : blockStart (32 - prefixLength.toNat) subnet.bits.toNat ≤ a.bits.toNat ∧
        a.bits.toNat ≤ blockEnd (32 - prefixLength.toNat) subnet.bits.toNat := by omega
      obtain ⟨hstart', hend'⟩ := block_eq_of_mem hmem
      refine ⟨hmem, fun _ => ?_⟩
      rw [hstart', hend']
      omega
    · rintro ⟨hmem, hends⟩
      obtain ⟨hstart', hend'⟩ := block_eq_of_mem hmem
      obtain ⟨hfirst, hlast⟩ := hends h30
      rw [hstart'] at hfirst
      rw [hend'] at hlast
      omega
  · rw [if_neg h30, Nat.add_zero, Nat.sub_zero]
    exact ⟨fun hmem => ⟨hmem, fun hle => absurd hle h30⟩, fun hmem => hmem.1⟩

end

/-- **The arithmetic of a CIDR is exact at every prefix.** -/
theorem cidr_arithmetic_exact (interface : Text) (interfaceIndex : Int32) (address cidrAddress : Ipv4Addr)
    (prefixLength : UInt32) (h : prefixLength ≤ 32) :
    ∃ network first last count,
      Network.forCidr interface interfaceIndex address cidrAddress prefixLength = .ok network ∧
      network.hostBounds = .ok (first, last) ∧ network.targetCount = .ok count ∧
      (∀ a, network.contains a = true ↔ SharesPrefix prefixLength a cidrAddress) ∧
      first ≤ last ∧ network.contains ⟨first⟩ = true ∧ network.contains ⟨last⟩ = true ∧
      (∀ a : Ipv4Addr, first ≤ a.bits ∧ a.bits ≤ last ↔ network.contains a = true ∧
        (prefixLength ≤ 30 → ¬ HostPartAll false prefixLength a ∧ ¬ HostPartAll true prefixLength a)) := by
  obtain ⟨network, hnetwork, -, hcovers⟩ := Network.forCidr_spec interface interfaceIndex address cidrAddress h
  have hbuilt : network.Built := ⟨interface, interfaceIndex, address, cidrAddress, prefixLength, h, hnetwork⟩
  obtain ⟨first, last, hbounds, hle, -⟩ := hbuilt.bounds
  have hhost : ∀ a : Ipv4Addr, first ≤ a.bits ∧ a.bits ≤ last ↔ network.contains a = true ∧
      (prefixLength ≤ 30 → ¬ HostPartAll false prefixLength a ∧ ¬ HostPartAll true prefixLength a) := by
    intro a
    rw [hcovers.contains_iff h, ← isHost_iff h, ← hcovers.hasHost_iff]
    constructor
    · rintro ⟨hfirst, hlast⟩
      exact ⟨first, last, hbounds, hfirst, hlast⟩
    · rintro ⟨first', last', hbounds', hfirst, hlast⟩
      rw [hbounds] at hbounds'
      cases hbounds'
      exact ⟨hfirst, hlast⟩
  have hordered : first ≤ last := UInt32.le_iff_toNat_le.2 hle
  refine ⟨network, first, last, _, hnetwork, hbounds, targetCount_eq hbuilt, hcovers.contains_iff h, hordered,
    ((hhost ⟨first⟩).1 ⟨UInt32.le_refl first, hordered⟩).1, ((hhost ⟨last⟩).1 ⟨hordered, UInt32.le_refl last⟩).1,
    hhost⟩

theorem cidr_arithmetic_exact_lan :
    ∃ network first last, Network.new "eth0" 2 (Ipv4Addr.new 192 168 1 42) 24 = .ok network ∧
      network.hostBounds = .ok (first, last) ∧ first ≤ last ∧
      network.contains (Ipv4Addr.new 192 168 1 200) = true ∧ ¬ network.contains (Ipv4Addr.new 192 168 2 1) = true := by
  obtain ⟨network, first, last, count, hnetwork, hbounds, -, hcontains, hle, -⟩ :=
    cidr_arithmetic_exact "eth0" 2 (Ipv4Addr.new 192 168 1 42) (Ipv4Addr.new 192 168 1 42) 24 (by decide)
  refine ⟨network, first, last, hnetwork, hbounds, hle, (hcontains _).2 ?_, fun h => ?_⟩
  · show ∀ i < 24, _
    decide
  · have hbit := (hcontains _).1 h 22 (by decide)
    revert hbit
    decide

end Networkrs
