import Networkrs.Lib.Blocks
import Networkrs.Lib.Keyed
import Networkrs.Records
/-!
# Scanner — active neighbor discovery

`scanner.rs`: the networks to scan with their bounds, the datagrams of a scan, and its result.  A network made for a
CIDR is the block of addresses under its mask (`Network.forCidr_spec`), and its probes go to addresses within its host
bounds (`mem_probes_iff`).  A scan compares two neighbor tables through a map keyed by the address alone, so the table
before the scan counts with one entry an address, the last on the scanned networks; `changed_exact_iff` says when that
is enough, as it is when no address is on two interfaces (`OneInterface.changed_exact`).
-/
namespace Networkrs

open Machine Collect Keyed

def maxTargets : Nat := 4096

/-- `Options`, without the delay after each pass. -/
structure ScanOptions where
  retries : UInt32
  excluded : List Ipv4Addr

structure Network where
  interface : Text
  interfaceIndex : Int32
  address : Ipv4Addr
  prefixLength : UInt32
  network : UInt32
  broadcast : UInt32
  deriving DecidableEq, Repr

/-- `u32::MAX << (32 - prefix)`, and no bits at all for the prefix 0. -/
def subnetMask (prefixLength : UInt32) : Checked UInt32 :=
  if prefixLength = 0 then return 0
  else do
    let shift ← u32Sub 32 prefixLength
    u32Shl 0xffffffff shift

def Network.forCidr (interface : Text) (interfaceIndex : Int32) (address cidrAddress : Ipv4Addr)
    (prefixLength : UInt32) : Checked Network := do
  let mask ← subnetMask prefixLength
  let network := cidrAddress.bits &&& mask
  return ⟨interface, interfaceIndex, address, prefixLength, network, network ||| ~~~mask⟩

def Network.new (interface : Text) (interfaceIndex : Int32) (address : Ipv4Addr) (prefixLength : UInt32) :
    Checked Network :=
  Network.forCidr interface interfaceIndex address address prefixLength

/-- The host addresses between a network address and a broadcast address, both included from `/31` on. -/
def hostBoundsOf (prefixLength network broadcast : UInt32) : Checked (UInt32 × UInt32) :=
  if prefixLength ≤ 30 then do
    let first ← u32Add network 1
    let last ← u32Sub broadcast 1
    return (first, last)
  else return (network, broadcast)

def Network.hostBounds (network : Network) : Checked (UInt32 × UInt32) :=
  hostBoundsOf network.prefixLength network.network network.broadcast

def Network.targetCount (network : Network) : Checked Nat := do
  let (first, last) ← network.hostBounds
  let difference ← usizeSub last.toNat first.toNat
  let addresses ← u64Add difference 1
  usizeSub addresses (if first ≤ network.address.bits ∧ network.address.bits ≤ last then 1 else 0)

def Network.contains (network : Network) (address : Ipv4Addr) : Bool :=
  network.network ≤ address.bits ∧ address.bits ≤ network.broadcast

structure ScanResult where
  neighbors : List Neighbor
  changed : List Ipv4Addr
  deriving DecidableEq, Repr

def isNeighborOnNetworks (neighbor : Neighbor) (networks : List Network) : Bool :=
  match neighbor.address with
  | .v6 _ => false
  | .v4 address =>
    neighbor.linkAddress.isSome &&
      networks.any (fun network => network.interfaceIndex = neighbor.interfaceIndex && network.contains address)

/-! ## `scan` -/

/-- What the calls of a scan return: the two neighbor dumps, and binding the UDP socket between them. -/
structure ScanCalls where
  before : IoResult (List Neighbor)
  bind : IoResult Unit
  after : IoResult (List Neighbor)

/-- `first..=last`. -/
def addressRange (first last : UInt32) : List Ipv4Addr :=
  (List.range' first.toNat (last.toNat + 1 - first.toNat)).map (fun n => ⟨UInt32.ofNat n⟩)

/-- The addresses one pass sends a datagram to on a network. -/
def Network.probes (excluded : List Ipv4Addr) (network : Network) : Checked (List Ipv4Addr) := do
  let (first, last) ← network.hostBounds
  return (addressRange first last).filter (fun address => address ≠ network.address ∧ address ∉ excluded)

def ipv4Entry (neighbor : Neighbor) : Option (Ipv4Addr × Option Text) :=
  match neighbor.address with
  | .v4 address => some (address, neighbor.linkAddress)
  | .v6 _ => none

def beforeMap (networks : List Network) (table : List Neighbor) : Map Ipv4Addr (Option Text) :=
  collect ((table.filter (fun neighbor => isNeighborOnNetworks neighbor networks)).filterMap ipv4Entry)

/-- What `scan` returns after its final dump. -/
def scanResult (networks : List Network) (before : Map Ipv4Addr (Option Text)) (table : List Neighbor) : ScanResult :=
  let neighbors := table.filter (fun neighbor => isNeighborOnNetworks neighbor networks)
  let changed := neighbors.filterMap (fun neighbor =>
    match neighbor.address with
    | .v6 _ => none
    | .v4 address => if before address ≠ some neighbor.linkAddress then some address else none)
  ⟨neighbors, changed⟩

/-- A scan up to its last pass: the map of the first dump and the datagrams sent. -/
def scanPasses (networks : List Network) (options : ScanOptions) (calls : ScanCalls) :
    IoResult (Map Ipv4Addr (Option Text) × List Ipv4Addr) := do
  let targetCount ← .ofChecked (networks.mapM Network.targetCount >>= u64Sum)
  if targetCount = 0 then
    .err (.custom .notFound "no other addresses exist on the connected IPv4 network")
  else if maxTargets < targetCount then
    .err (.custom .invalidInput ("refusing to probe " ++ decimal targetCount ++ " addresses; the current limit is " ++
      decimal maxTargets))
  else
    let table ← calls.before
    let () ← calls.bind
    let probes ← .ofChecked (networks.mapM (Network.probes options.excluded))
    return (beforeMap networks table, (List.replicate options.retries.toNat probes.flatten).flatten)

/-- `scan`, with the addresses its datagrams go to. -/
def Scanner.scan (networks : List Network) (options : ScanOptions) (calls : ScanCalls) :
    IoResult ScanResult × List Ipv4Addr :=
  match scanPasses networks options calls with
  | .ok (before, sent) => (calls.after.map (scanResult networks before), sent)
  | .err e => (.err e, [])
  | .panicked p => (.panicked p, [])
  | .waiting => (.waiting, [])

/-! ## Bounds of a network -/

/-- The first host address of the subnet of an address. -/
def hostFirst (prefixLength address : UInt32) : Nat :=
  blockStart (32 - prefixLength.toNat) address.toNat + if prefixLength ≤ 30 then 1 else 0

def hostLast (prefixLength address : UInt32) : Nat :=
  blockEnd (32 - prefixLength.toNat) address.toNat - if prefixLength ≤ 30 then 1 else 0

/-- **The mask of a prefix keeps its high bits.** -/
theorem subnetMask_spec {prefixLength : UInt32} (h : prefixLength ≤ 32) :
    ∃ mask, subnetMask prefixLength = .ok mask ∧ mask.toNat = 2 ^ 32 - 2 ^ (32 - prefixLength.toNat) := by
  rw [UInt32.le_iff_toNat_le] at h
  have h32 : (32 : UInt32).toNat = 32 := rfl
  unfold subnetMask
  by_cases h0 : prefixLength = 0
  · subst h0
    exact ⟨0, rfl, rfl⟩
  · have hpos : 0 < prefixLength.toNat := by
      have : prefixLength.toNat ≠ 0 := fun hn => h0 (UInt32.toNat_inj.1 hn)
      omega
    have hsub : u32Sub 32 prefixLength = .ok (32 - prefixLength) := u32Sub_of_le h
    have hshift : (32 - prefixLength).toNat = 32 - prefixLength.toNat :=
      UInt32.toNat_sub_of_le _ _ (UInt32.le_iff_toNat_le.2 h)
    have hlt : 32 - prefixLength.toNat < 32 := by omega
    refine ⟨0xffffffff <<< (32 - prefixLength), ?_, ?_⟩
    · rw [if_neg h0, hsub, ok_bind, u32Shl, hshift, if_pos hlt]
    · rw [UInt32.toNat_shiftLeft, hshift, Nat.mod_eq_of_lt hlt, Nat.shiftLeft_eq]
      exact @ones_mul_two_pow_mod (32 - prefixLength.toNat) 32 (by omega)

/-- **A network that covers the subnet of an address.** -/
structure Network.Covers (network : Network) (prefixLength : UInt32) (address : Ipv4Addr) : Prop where
  prefixLength_eq : network.prefixLength = prefixLength
  network_eq : network.network.toNat = blockStart (32 - prefixLength.toNat) address.bits.toNat
  broadcast_eq : network.broadcast.toNat = blockEnd (32 - prefixLength.toNat) address.bits.toNat

/-- Masking an address gives the start of its subnet, and setting the bits off the mask its end. -/
theorem mask_spec {prefixLength mask : UInt32}
    (hmask : mask.toNat = 2 ^ 32 - 2 ^ (32 - prefixLength.toNat)) (bits : UInt32) :
    (bits &&& mask).toNat = blockStart (32 - prefixLength.toNat) bits.toNat ∧
      ((bits &&& mask) ||| ~~~mask).toNat = blockEnd (32 - prefixLength.toNat) bits.toNat := by
  have hstart : (bits &&& mask).toNat = blockStart (32 - prefixLength.toNat) bits.toNat := by
    rw [UInt32.toNat_and, hmask]
    exact and_high_bits (by omega) bits.toNat_lt
  have hle : 2 ^ (32 - prefixLength.toNat) ≤ 2 ^ 32 := Nat.pow_le_pow_right (by decide) (by omega)
  have hnot : (~~~mask).toNat = 2 ^ (32 - prefixLength.toNat) - 1 := by
    rw [UInt32.toNat_not, hmask, UInt32.size]
    omega
  refine ⟨hstart, ?_⟩
  rw [UInt32.toNat_or, hstart, hnot]
  exact or_low_bits _ _

/-- **A network for a CIDR covers the subnet of its address**, and its arithmetic does not panic. -/
theorem Network.forCidr_spec (interface : Text) (interfaceIndex : Int32) (address cidrAddress : Ipv4Addr)
    {prefixLength : UInt32} (h : prefixLength ≤ 32) :
    ∃ network, Network.forCidr interface interfaceIndex address cidrAddress prefixLength = .ok network ∧
      network.address = address ∧ network.Covers prefixLength cidrAddress := by
  obtain ⟨mask, hmask, hvalue⟩ := subnetMask_spec h
  obtain ⟨hstart, hend⟩ := mask_spec hvalue cidrAddress.bits
  refine ⟨⟨interface, interfaceIndex, address, prefixLength, cidrAddress.bits &&& mask,
    (cidrAddress.bits &&& mask) ||| ~~~mask⟩, ?_, rfl, ⟨rfl, hstart, hend⟩⟩
  unfold Network.forCidr
  rw [hmask]
  rfl

theorem hostBoundsOf_spec {prefixLength network broadcast address : UInt32}
    (hnetwork : network.toNat = blockStart (32 - prefixLength.toNat) address.toNat)
    (hbroadcast : broadcast.toNat = blockEnd (32 - prefixLength.toNat) address.toNat) :
    ∃ first last, hostBoundsOf prefixLength network broadcast = .ok (first, last) ∧
      first.toNat = hostFirst prefixLength address ∧ last.toNat = hostLast prefixLength address := by
  unfold hostBoundsOf hostFirst hostLast
  by_cases h30 : prefixLength ≤ 30
  · have hle : prefixLength.toNat ≤ 30 := UInt32.le_iff_toNat_le.1 h30
    have hfour : 2 ^ 2 ≤ 2 ^ (32 - prefixLength.toNat) := Nat.pow_le_pow_right (by decide) (by omega)
    have hone : (1 : UInt32).toNat = 1 := rfl
    have hblock : blockEnd (32 - prefixLength.toNat) address.toNat =
      blockStart (32 - prefixLength.toNat) address.toNat + (2 ^ (32 - prefixLength.toNat) - 1) := rfl
    have hadd : u32Add network 1 = .ok (network + 1) := @u32Add_of_le network 1 broadcast (by omega)
    have hsub : u32Sub broadcast 1 = .ok (broadcast - 1) := u32Sub_of_le (by omega)
    refine ⟨network + 1, broadcast - 1, ?_, ?_, ?_⟩
    · rw [if_pos h30, hadd, hsub]
      rfl
    · rw [if_pos h30, (u32Add_eq_ok_iff _ _ _).1 hadd, hnetwork]
      rfl
    · have hlast := (u32Sub_eq_ok_iff _ _ _).1 hsub
      rw [if_pos h30]
      omega
  · refine ⟨network, broadcast, ?_, ?_, ?_⟩
    · rw [if_neg h30]
      rfl
    · rw [if_neg h30, hnetwork, Nat.add_zero]
    · rw [if_neg h30, hbroadcast, Nat.sub_zero]

def Network.HasHost (network : Network) (address : Ipv4Addr) : Prop :=
  ∃ first last, network.hostBounds = .ok (first, last) ∧ first ≤ address.bits ∧ address.bits ≤ last

def IsHost (prefixLength : UInt32) (subnet address : Ipv4Addr) : Prop :=
  hostFirst prefixLength subnet.bits ≤ address.bits.toNat ∧ address.bits.toNat ≤ hostLast prefixLength subnet.bits

/-- **The hosts of a network are those of the subnet it covers.** -/
theorem Network.Covers.hasHost_iff {network : Network} {prefixLength : UInt32} {subnet : Ipv4Addr}
    (hcovers : network.Covers prefixLength subnet) (address : Ipv4Addr) :
    network.HasHost address ↔ IsHost prefixLength subnet address := by
  obtain ⟨first, last, hbounds, hfirst, hlast⟩ := hostBoundsOf_spec hcovers.network_eq hcovers.broadcast_eq
  rw [← hcovers.prefixLength_eq] at hbounds
  unfold IsHost
  rw [← hfirst, ← hlast]
  constructor
  · rintro ⟨first', last', hbounds', hle, hge⟩
    rw [Network.hostBounds, hbounds] at hbounds'
    cases hbounds'
    exact ⟨UInt32.le_iff_toNat_le.1 hle, UInt32.le_iff_toNat_le.1 hge⟩
  · rintro ⟨hle, hge⟩
    exact ⟨first, last, hbounds, UInt32.le_iff_toNat_le.2 hle, UInt32.le_iff_toNat_le.2 hge⟩

/-! ## Where datagrams go -/

theorem mem_addressRange (first last : UInt32) (address : Ipv4Addr) :
    address ∈ addressRange first last ↔ first ≤ address.bits ∧ address.bits ≤ last := by
  unfold addressRange
  rw [List.mem_map, UInt32.le_iff_toNat_le, UInt32.le_iff_toNat_le]
  constructor
  · rintro ⟨n, hn, rfl⟩
    rw [List.mem_range'_1] at hn
    have hlast := last.toNat_lt
    have hn32 : n < 2 ^ 32 := by omega
    have hnat : (UInt32.ofNat n).toNat = n := UInt32.toNat_ofNat_of_lt' hn32
    dsimp only
    omega
  · rintro ⟨hfirst, hlast⟩
    refine ⟨address.bits.toNat, List.mem_range'_1.2 ⟨hfirst, by omega⟩, ?_⟩
    rw [UInt32.ofNat_toNat]

/-- **The probes of a network** are its hosts but its own address and the excluded ones. -/
theorem mem_probes_iff {excluded : List Ipv4Addr} {network : Network} {probes : List Ipv4Addr}
    (h : network.probes excluded = .ok probes) (address : Ipv4Addr) :
    address ∈ probes ↔ network.HasHost address ∧ address ≠ network.address ∧ address ∉ excluded := by
  unfold Network.probes at h
  cases hbounds : network.hostBounds with
  | error p => rw [hbounds] at h; cases h
  | ok bounds =>
    rw [hbounds] at h
    cases h
    rw [List.mem_filter, mem_addressRange, decide_eq_true_eq]
    constructor
    · rintro ⟨⟨hfirst, hlast⟩, hrest⟩
      exact ⟨⟨bounds.1, bounds.2, hbounds, hfirst, hlast⟩, hrest⟩
    · rintro ⟨⟨first, last, hbounds', hfirst, hlast⟩, hrest⟩
      rw [hbounds] at hbounds'
      cases hbounds'
      exact ⟨⟨hfirst, hlast⟩, hrest⟩

/-- **What a scan has done when its passes are over.** -/
theorem passes_cases {networks : List Network} {options : ScanOptions} {calls : ScanCalls}
    {map : Map Ipv4Addr (Option Text)} {sent : List Ipv4Addr}
    (h : scanPasses networks options calls = .ok (map, sent)) :
    ∃ table, calls.before = .ok table ∧ map = beforeMap networks table ∧
      ∃ probes, networks.mapM (Network.probes options.excluded) = .ok probes ∧
        sent = (List.replicate options.retries.toNat probes.flatten).flatten := by
  unfold scanPasses at h
  obtain ⟨targetCount, -, h⟩ := (Outcome.bind_eq_ok_iff _ _ _).1 h
  split at h
  · cases h
  · split at h
    · cases h
    · obtain ⟨table, htable, h⟩ := (Outcome.bind_eq_ok_iff _ _ _).1 h
      obtain ⟨u, -, h⟩ := (Outcome.bind_eq_ok_iff _ _ _).1 h
      obtain ⟨probes, hprobes, h⟩ := (Outcome.bind_eq_ok_iff _ _ _).1 h
      rw [Outcome.ofChecked_eq_ok_iff] at hprobes
      cases h
      exact ⟨table, htable, rfl, probes, hprobes, rfl⟩

/-- **Every datagram of a scan goes to a host of one of its networks**, neither the own address of that network nor an
excluded one. -/
theorem host_of_mem_sent {networks : List Network} {options : ScanOptions} {calls : ScanCalls} {address : Ipv4Addr}
    (h : address ∈ (Scanner.scan networks options calls).2) :
    ∃ network ∈ networks, network.HasHost address ∧ address ≠ network.address ∧ address ∉ options.excluded := by
  unfold Scanner.scan at h
  cases hpasses : scanPasses networks options calls with
  | err e => rw [hpasses] at h; cases h
  | panicked p => rw [hpasses] at h; cases h
  | waiting => rw [hpasses] at h; cases h
  | ok passes =>
    obtain ⟨before, sent⟩ := passes
    rw [hpasses] at h
    obtain ⟨-, -, -, probes, hprobes, rfl⟩ := passes_cases hpasses
    obtain ⟨pass, hpass, haddress⟩ := List.mem_flatten.1 h
    rw [List.eq_of_mem_replicate hpass] at haddress
    obtain ⟨targets, htargets, haddress⟩ := List.mem_flatten.1 haddress
    obtain ⟨network, hnetwork, hok⟩ := exists_of_mem_mapM _ _ _ hprobes targets htargets
    exact ⟨network, hnetwork, (mem_probes_iff hok address).1 haddress⟩

/-! ## Changed link addresses -/

/-- The entries of a table for an address on the scanned networks. -/
def entriesAt (networks : List Network) (table : List Neighbor) (address : Ipv4Addr) : List Neighbor :=
  (table.filter (fun neighbor => isNeighborOnNetworks neighbor networks)).filter
    (fun neighbor => neighbor.address = .v4 address)

/-- Two entries of one interface and address with the same link address. -/
def SameEntry (m n : Neighbor) : Prop :=
  m.interfaceIndex = n.interfaceIndex ∧ m.address = n.address ∧ m.linkAddress = n.linkAddress

def HasNewEntry (networks : List Network) (before after : List Neighbor) (address : Ipv4Addr) : Prop :=
  ∃ n ∈ entriesAt networks after address, ∀ m ∈ before, ¬ SameEntry m n

theorem filter_ipv4Entry (address : Ipv4Addr) : ∀ (table : List Neighbor),
    (table.filterMap ipv4Entry).filter (fun p => p.1 = address) =
      (table.filter (fun n => n.address = .v4 address)).map (fun n => (address, n.linkAddress))
  | [] => rfl
  | n :: table => by
    have ih := filter_ipv4Entry address table
    cases hn : n.address with
    | v6 ip =>
      have hentry : ipv4Entry n = none := by rw [ipv4Entry, hn]
      rw [List.filterMap_cons_none hentry, ih, List.filter_cons_of_neg (by simp [hn])]
    | v4 ip =>
      have hentry : ipv4Entry n = some (ip, n.linkAddress) := by rw [ipv4Entry, hn]
      rw [List.filterMap_cons_some hentry]
      by_cases hip : ip = address
      · subst hip
        rw [List.filter_cons_of_pos (by simp), List.filter_cons_of_pos (by simp [hn]), List.map_cons, ih]
      · rw [List.filter_cons_of_neg (by simp [hip]), List.filter_cons_of_neg (by simp [hn, hip]), ih]

/-- **What the map before a scan holds for an address**: the link address of its last entry on the networks. -/
theorem beforeMap_eq (networks : List Network) (table : List Neighbor) (address : Ipv4Addr) :
    beforeMap networks table address = ((entriesAt networks table address).getLast?).map Neighbor.linkAddress := by
  unfold beforeMap entriesAt
  rw [collect_eq_getLast?, filter_ipv4Entry, List.getLast?_map, Option.map_map]
  rfl

theorem mem_changed_iff (networks : List Network) (before : Map Ipv4Addr (Option Text)) (table : List Neighbor)
    (address : Ipv4Addr) :
    address ∈ (scanResult networks before table).changed ↔
      ∃ n ∈ entriesAt networks table address, before address ≠ some n.linkAddress := by
  unfold scanResult entriesAt
  rw [List.mem_filterMap]
  constructor
  · rintro ⟨n, hn, hchanged⟩
    cases haddress : n.address with
    | v6 ip =>
      rw [haddress] at hchanged
      cases hchanged
    | v4 ip =>
      rw [haddress] at hchanged
      dsimp only at hchanged
      split at hchanged
      · rename_i hne
        cases hchanged
        exact ⟨n, List.mem_filter.2 ⟨hn, decide_eq_true haddress⟩, hne⟩
      · cases hchanged
  · rintro ⟨n, hn, hne⟩
    obtain ⟨hn, haddress⟩ := List.mem_filter.1 hn
    refine ⟨n, hn, ?_⟩
    rw [of_decide_eq_true haddress]
    exact if_pos hne

/-- An address with a new entry that the comparison misses: each of its entries after the scan has the link address of
its last one before, which may be the entry of another interface. -/
def ChangeMissed (networks : List Network) (before after : List Neighbor) (address : Ipv4Addr) : Prop :=
  HasNewEntry networks before after address ∧
    ∃ last, (entriesAt networks before address).getLast? = some last ∧
      ∀ n ∈ entriesAt networks after address, n.linkAddress = last.linkAddress

/-- An address without a new entry that the comparison reports: one of its entries has another link address than its
last one before the scan, which is then the entry of another interface. -/
def ChangeInvented (networks : List Network) (before after : List Neighbor) (address : Ipv4Addr) : Prop :=
  ¬ HasNewEntry networks before after address ∧
    ∃ last, (entriesAt networks before address).getLast? = some last ∧
      ∃ n ∈ entriesAt networks after address, n.linkAddress ≠ last.linkAddress

theorem mem_entriesAt_of_sameEntry {networks : List Network} {before after : List Neighbor} {address : Ipv4Addr}
    {m n : Neighbor} (hn : n ∈ entriesAt networks after address) (hm : m ∈ before) (hsame : SameEntry m n) :
    m ∈ entriesAt networks before address := by
  obtain ⟨hn, haddress⟩ := List.mem_filter.1 hn
  obtain ⟨-, hon⟩ := List.mem_filter.1 hn
  obtain ⟨hindex, hip, hlink⟩ := hsame
  refine List.mem_filter.2 ⟨List.mem_filter.2 ⟨hm, ?_⟩, ?_⟩
  · unfold isNeighborOnNetworks at hon ⊢
    rw [hindex, hip, hlink]
    exact hon
  · rw [hip]
    exact haddress

/-- **An address is reported exactly when it has a new entry, unless its change is missed or invented.** -/
theorem reported_iff (networks : List Network) (before after : List Neighbor) (address : Ipv4Addr) :
    (address ∈ (scanResult networks (beforeMap networks before) after).changed ↔
        HasNewEntry networks before after address) ↔
      ¬ ChangeMissed networks before after address ∧ ¬ ChangeInvented networks before after address := by
  rw [mem_changed_iff, beforeMap_eq]
  cases hlast : (entriesAt networks before address).getLast? with
  | none =>
    -- an address without entries before the scan: all its entries are new, and all are reported
    have hnil : entriesAt networks before address = [] := List.getLast?_eq_none_iff.1 hlast
    refine iff_of_true ⟨?_, ?_⟩ ⟨?_, ?_⟩
    · rintro ⟨n, hn, -⟩
      refine ⟨n, hn, fun m hm hsame => ?_⟩
      have := mem_entriesAt_of_sameEntry hn hm hsame
      rw [hnil] at this
      cases this
    · rintro ⟨n, hn, -⟩
      exact ⟨n, hn, by simp⟩
    · rintro ⟨-, last, hlast', -⟩
      rw [hlast] at hlast'
      cases hlast'
    · rintro ⟨-, last, hlast', -⟩
      rw [hlast] at hlast'
      cases hlast'
  | some last =>
    have hreported : (∃ n ∈ entriesAt networks after address,
        (some last).map Neighbor.linkAddress ≠ some n.linkAddress) ↔
          ∃ n ∈ entriesAt networks after address, n.linkAddress ≠ last.linkAddress := by
      simp [eq_comm]
    have hmissed : ChangeMissed networks before after address ↔ HasNewEntry networks before after address ∧
        ∀ n ∈ entriesAt networks after address, n.linkAddress = last.linkAddress := by
      unfold ChangeMissed
      simp [hlast]
    have hinvented : ChangeInvented networks before after address ↔ ¬ HasNewEntry networks before after address ∧
        ∃ n ∈ entriesAt networks after address, n.linkAddress ≠ last.linkAddress := by
      unfold ChangeInvented
      simp [hlast]
    rw [hreported, hmissed, hinvented]
    by_cases hnew : HasNewEntry networks before after address
    · simp [hnew]
    · simp [hnew]

/-- **One interface an address is enough**: of an address whose entries are all on one interface, at most one of them
before the scan, no change is missed or invented. -/
theorem exact_of_one_interface {networks : List Network} {before after : List Neighbor} {address : Ipv4Addr}
    (hafter : ∀ m ∈ entriesAt networks before address, ∀ n ∈ entriesAt networks after address,
      m.interfaceIndex = n.interfaceIndex)
    (hbefore : ∀ m ∈ entriesAt networks before address, ∀ n ∈ entriesAt networks before address, m = n) :
    ¬ ChangeMissed networks before after address ∧ ¬ ChangeInvented networks before after address := by
  constructor
  · rintro ⟨⟨n, hn, hnew⟩, last, hlast, hall⟩
    have hmem : last ∈ entriesAt networks before address := List.mem_of_getLast? hlast
    obtain ⟨htable, hlastAddress⟩ := List.mem_filter.1 hmem
    have hnAddress := (List.mem_filter.1 hn).2
    refine hnew last (List.mem_filter.1 htable).1 ⟨hafter last hmem n hn, ?_, (hall n hn).symm⟩
    rw [of_decide_eq_true hlastAddress, of_decide_eq_true hnAddress]
  · rintro ⟨hnone, last, hlast, n, hn, hlink⟩
    refine hnone ⟨n, hn, fun m hm hsame => hlink ?_⟩
    have hmem := mem_entriesAt_of_sameEntry hn hm hsame
    rw [hbefore last (List.mem_of_getLast? hlast) m hmem]
    exact hsame.2.2.symm

theorem result_of_scan {networks : List Network} {options : ScanOptions} {calls : ScanCalls}
    {before after : List Neighbor} {result : ScanResult} (hbefore : calls.before = .ok before)
    (hafter : calls.after = .ok after) (hscan : (Scanner.scan networks options calls).1 = .ok result) :
    result = scanResult networks (beforeMap networks before) after := by
  unfold Scanner.scan at hscan
  cases hpasses : scanPasses networks options calls with
  | err e => rw [hpasses] at hscan; cases hscan
  | panicked p => rw [hpasses] at hscan; cases hscan
  | waiting => rw [hpasses] at hscan; cases hscan
  | ok passes =>
    obtain ⟨map, sent⟩ := passes
    rw [hpasses] at hscan
    dsimp only at hscan
    rw [hafter, Outcome.map_ok] at hscan
    obtain rfl := Outcome.ok.inj hscan
    obtain ⟨table, htable, rfl, -⟩ := passes_cases hpasses
    rw [hbefore] at htable
    cases htable
    rfl

/-- **When change detection is exact**: exactly when the change of no address is missed or invented. -/
theorem changed_exact_iff (networks : List Network) (options : ScanOptions) (calls : ScanCalls)
    {before after : List Neighbor} {result : ScanResult} (hbefore : calls.before = .ok before)
    (hafter : calls.after = .ok after) (hscan : (Scanner.scan networks options calls).1 = .ok result) :
    (∀ address, address ∈ result.changed ↔ HasNewEntry networks before after address) ↔
      ∀ address, ¬ ChangeMissed networks before after address ∧ ¬ ChangeInvented networks before after address := by
  rw [result_of_scan hbefore hafter hscan]
  exact forall_congr' (fun address => reported_iff networks before after address)

/-- Each address is on one interface, which has at most one entry for it before the scan. -/
structure OneInterface (before after : List Neighbor) : Prop where
  unique : (before.map (fun n => (n.interfaceIndex, n.address))).Nodup
  known : ∀ m ∈ before, ∀ n ∈ before, m.address = n.address → m.interfaceIndex = n.interfaceIndex
  found : ∀ m ∈ before, ∀ n ∈ after, m.address = n.address → m.interfaceIndex = n.interfaceIndex

theorem mem_entriesAt {networks : List Network} {table : List Neighbor} {address : Ipv4Addr} {n : Neighbor}
    (h : n ∈ entriesAt networks table address) : n ∈ table ∧ n.address = .v4 address := by
  obtain ⟨htable, haddress⟩ := List.mem_filter.1 h
  exact ⟨(List.mem_filter.1 htable).1, of_decide_eq_true haddress⟩

theorem OneInterface.exact {networks : List Network} {before after : List Neighbor} (h : OneInterface before after)
    (address : Ipv4Addr) :
    ¬ ChangeMissed networks before after address ∧ ¬ ChangeInvented networks before after address := by
  refine exact_of_one_interface (fun m hm n hn => ?_) (fun m hm n hn => ?_)
  · obtain ⟨hm, hmAddress⟩ := mem_entriesAt hm
    obtain ⟨hn, hnAddress⟩ := mem_entriesAt hn
    exact h.found m hm n hn (hmAddress.trans hnAddress.symm)
  · obtain ⟨hm, hmAddress⟩ := mem_entriesAt hm
    obtain ⟨hn, hnAddress⟩ := mem_entriesAt hn
    have haddress := hmAddress.trans hnAddress.symm
    exact List.inj_on_of_nodup_map h.unique hm hn (Prod.ext (h.known m hm n hn haddress) haddress)

/-- **Change detection is exact** when no address is on two interfaces. -/
theorem OneInterface.changed_exact {networks : List Network} {options : ScanOptions} {calls : ScanCalls}
    {before after : List Neighbor} {result : ScanResult} (h : OneInterface before after)
    (hbefore : calls.before = .ok before) (hafter : calls.after = .ok after)
    (hscan : (Scanner.scan networks options calls).1 = .ok result) (address : Ipv4Addr) :
    address ∈ result.changed ↔ HasNewEntry networks before after address := by
  rw [result_of_scan hbefore hafter hscan]
  exact (reported_iff networks before after address).2 (h.exact address)

def lanNetwork (interface : Text) (interfaceIndex : Int32) (host : UInt8) : Network :=
  ⟨interface, interfaceIndex, Ipv4Addr.new 192 168 1 host, 24, 0xc0a80100, 0xc0a801ff⟩

def lanNeighbor (interfaceIndex : Int32) (linkAddress : Text) : Neighbor :=
  ⟨.v4 (Ipv4Addr.new 192 168 1 5), some linkAddress, interfaceIndex, "reachable", "none", none, "unicast", none, none,
    none, none, none, none⟩

def lanNetworks : List Network := [lanNetwork "eth0" 2 10, lanNetwork "eth1" 3 11]

def lanTable : List Neighbor := [lanNeighbor 2 "02:00:00:00:00:01", lanNeighbor 3 "02:00:00:00:00:02"]

def lanCalls : ScanCalls := ⟨.ok lanTable, .ok (), .ok lanTable⟩

/-- The same host with another link address on the one interface, and on two interfaces with equal tables. -/
theorem changed_exact_iff_lan :
    (∀ address, address ∈ [Ipv4Addr.new 192 168 1 5] ↔
      HasNewEntry lanNetworks [lanNeighbor 2 "02:00:00:00:00:01"] [lanNeighbor 2 "02:00:00:00:00:02"] address) ∧
    ((∀ address, address ∈ [Ipv4Addr.new 192 168 1 5] ↔ HasNewEntry lanNetworks lanTable lanTable address) ↔
      ∀ address, ¬ ChangeMissed lanNetworks lanTable lanTable address ∧
        ¬ ChangeInvented lanNetworks lanTable lanTable address) := by
  have hone : OneInterface [lanNeighbor 2 "02:00:00:00:00:01"] [lanNeighbor 2 "02:00:00:00:00:02"] :=
    ⟨by decide, by decide, by decide⟩
  constructor
  · exact (@changed_exact_iff lanNetworks ⟨1, []⟩
      ⟨.ok [lanNeighbor 2 "02:00:00:00:00:01"], .ok (), .ok [lanNeighbor 2 "02:00:00:00:00:02"]⟩ _ _
      ⟨[lanNeighbor 2 "02:00:00:00:00:02"], [Ipv4Addr.new 192 168 1 5]⟩ rfl rfl (by decide +kernel)).2
      (fun address => hone.exact address)
  · exact @changed_exact_iff lanNetworks ⟨1, []⟩ lanCalls lanTable lanTable ⟨lanTable, [Ipv4Addr.new 192 168 1 5]⟩
      rfl rfl (by decide +kernel)

/-- A scan between two equal tables, each with one entry an interface and address, reports a change. -/
theorem equal_tables_report_change :
    Network.new "eth0" 2 (Ipv4Addr.new 192 168 1 10) 24 = .ok (lanNetwork "eth0" 2 10) ∧
      Network.new "eth1" 3 (Ipv4Addr.new 192 168 1 11) 24 = .ok (lanNetwork "eth1" 3 11) ∧
      lanTable.Pairwise (fun m n => ¬ (m.interfaceIndex = n.interfaceIndex ∧ m.address = n.address)) ∧
      (Scanner.scan lanNetworks ⟨1, []⟩ lanCalls).1 = .ok ⟨lanTable, [Ipv4Addr.new 192 168 1 5]⟩ ∧
      ¬ ∀ address, address ∈ [Ipv4Addr.new 192 168 1 5] ↔ HasNewEntry lanNetworks lanTable lanTable address := by
  refine ⟨by decide +kernel, by decide +kernel, by decide +kernel, by decide +kernel, fun h => ?_⟩
  obtain ⟨n, hn, hnew⟩ := (h (Ipv4Addr.new 192 168 1 5)).1 List.mem_cons_self
  have hmem : n ∈ lanTable := (List.mem_filter.1 (List.mem_filter.1 hn).1).1
  exact hnew n hmem ⟨rfl, rfl, rfl⟩

end Networkrs
