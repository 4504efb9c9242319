import Mathlib.Algebra.Order.BigOperators.Group.List
import Networkrs.Arguments
import Networkrs.ScanCidr
import Networkrs.System
/-!
# ScanTraffic — how much a scan sends, and where

The count of targets a scan is refused by, against the datagrams its passes send.  On a network made for a CIDR the
count is the number of its targets (`targetCount_eq`), and what a pass sends on it is at most that many.  So a scan is
bounded as it documents, as long as the sum of the counts fits 64 bits (`traffic_bounded_iff`).
-/
namespace Networkrs

open Machine Collect Keyed

/-- The hosts of a network but its own address. -/
def Network.targets (network : Network) : List Ipv4Addr :=
  match network.hostBounds with
  | .ok (first, last) => (addressRange first last).filter (fun address => address ≠ network.address)
  | .error _ => []

def combinedTargets (networks : List Network) : Nat := (networks.map (fun network => network.targets.length)).sum

/-- A network made by `Network::for_cidr` with a prefix of at most 32 bits, as `Network::new` makes one too. -/
def Network.Built (network : Network) : Prop :=
  ∃ interface interfaceIndex address cidrAddress prefixLength, prefixLength ≤ 32 ∧
    Network.forCidr interface interfaceIndex address cidrAddress prefixLength = .ok network

theorem nodup_addressRange (first last : UInt32) : (addressRange first last).Nodup := by
  unfold addressRange
  refine List.Nodup.map_on (fun m hm n hn h => ?_) (List.nodup_range' 1)
  have hlast := last.toNat_lt
  rw [List.mem_range'_1] at hm hn
  have hbits := congrArg UInt32.toNat (Ipv4Addr.mk.inj h)
  rw [UInt32.toNat_ofNat_of_lt' (show m < 2 ^ 32 by omega),
    UInt32.toNat_ofNat_of_lt' (show n < 2 ^ 32 by omega)] at hbits
  exact hbits

theorem length_addressRange (first last : UInt32) :
    (addressRange first last).length = last.toNat + 1 - first.toNat := by
  rw [addressRange, List.length_map, List.length_range']

/-- Leaving one entry out of a list that holds each entry once. -/
theorem length_filter_ne {l : List Ipv4Addr} (h : l.Nodup) (a : Ipv4Addr) :
    (l.filter (fun x => x ≠ a)).length = l.length - if a ∈ l then 1 else 0 := by
  have herase : l.filter (fun x => x ≠ a) = l.erase a := by
    rw [h.erase_eq_filter]
    apply List.filter_congr
    intro x _
    exact Bool.eq_iff_iff.2 (by simp)
  rw [herase, List.length_erase]
  split <;> rfl

/-- **The host bounds of a network made for a CIDR** lie in order between its network and broadcast addresses. -/
theorem Network.Built.bounds {network : Network} (h : network.Built) :
    ∃ first last, network.hostBounds = .ok (first, last) ∧ first.toNat ≤ last.toNat ∧
      network.network ≤ first ∧ last ≤ network.broadcast := by
  obtain ⟨interface, interfaceIndex, address, cidrAddress, prefixLength, hprefix, hbuilt⟩ := h
  obtain ⟨network', hok, -, hcovers⟩ := Network.forCidr_spec interface interfaceIndex address cidrAddress hprefix
  rw [hbuilt] at hok
  obtain rfl := Except.ok.inj hok
  obtain ⟨hprefixLength, hnetwork, hbroadcast⟩ := hcovers
  obtain ⟨first, last, hbounds, hfirst, hlast⟩ := hostBoundsOf_spec hnetwork hbroadcast
  rw [← hprefixLength] at hbounds
  refine ⟨first, last, hbounds, ?_⟩
  rw [UInt32.le_iff_toNat_le, UInt32.le_iff_toNat_le, hnetwork, hbroadcast, hfirst, hlast]
  unfold hostFirst hostLast blockEnd
  by_cases h30 : prefixLength ≤ 30
  · have hle : prefixLength.toNat ≤ 30 := UInt32.le_iff_toNat_le.1 h30
    have hfour : 2 ^ 2 ≤ 2 ^ (32 - prefixLength.toNat) := Nat.pow_le_pow_right (by decide) (by omega)
    rw [if_pos h30]
    omega
  · rw [if_neg h30]
    omega

/-- **What the targets of a network are**: its hosts but its own address, each once. -/
theorem Network.Built.mem_targets_iff {network : Network} (h : network.Built) :
    network.targets.Nodup ∧
      ∀ address, address ∈ network.targets ↔ network.HasHost address ∧ address ≠ network.address := by
  obtain ⟨first, last, hbounds, -⟩ := h.bounds
  unfold Network.targets Network.HasHost
  rw [hbounds]
  refine ⟨(nodup_addressRange first last).filter _, fun address => ?_⟩
  rw [List.mem_filter, mem_addressRange, decide_eq_true_eq]
  constructor
  · rintro ⟨⟨hfirst, hlast⟩, hne⟩
    exact ⟨⟨first, last, rfl, hfirst, hlast⟩, hne⟩
  · rintro ⟨⟨first', last', heq, hfirst, hlast⟩, hne⟩
    cases heq
    exact ⟨⟨hfirst, hlast⟩, hne⟩

/-- **The count of targets is their number.** -/
theorem targetCount_eq {network : Network} (h : network.Built) : network.targetCount = .ok network.targets.length := by
  obtain ⟨first, last, hbounds, hle, -⟩ := h.bounds
  have hlast := last.toNat_lt
  have hlength := length_filter_ne (nodup_addressRange first last) network.address
  rw [length_addressRange] at hlength
  unfold Network.targetCount Network.targets
  rw [hbounds]
  dsimp only
  rw [hlength, ok_bind]
  simp only [mem_addressRange]
  rw [usizeSub_eq hle, ok_bind, u64Add, if_pos (by omega), ok_bind, usizeSub_eq (by split <;> omega)]
  congr 2
  omega

/-- The probes of a pass are the targets that are not excluded. -/
theorem probes_eq {network : Network} (h : network.Built) (excluded : List Ipv4Addr) :
    network.probes excluded = .ok (network.targets.filter (fun address => address ∉ excluded)) := by
  obtain ⟨first, last, hbounds, -⟩ := h.bounds
  unfold Network.probes Network.targets
  rw [hbounds, List.filter_filter]
  refine congrArg Except.ok (List.filter_congr (fun address _ => ?_))
  exact Bool.eq_iff_iff.2 (by simp [and_comm])

/-- The addresses of one pass, network by network. -/
def passAddresses (networks : List Network) (excluded : List Ipv4Addr) : List (List Ipv4Addr) :=
  networks.map (fun network => network.targets.filter (fun address => address ∉ excluded))

theorem mapM_probes {networks : List Network} (hbuilt : ∀ network ∈ networks, network.Built)
    (excluded : List Ipv4Addr) :
    networks.mapM (Network.probes excluded) = .ok (passAddresses networks excluded) :=
  mapM_of_ok networks (fun network hnetwork => probes_eq (hbuilt network hnetwork) excluded)

theorem mapM_targetCount {networks : List Network} (hbuilt : ∀ network ∈ networks, network.Built) :
    (networks.mapM Network.targetCount >>= u64Sum) =
      if combinedTargets networks < 2 ^ 64 then .ok (combinedTargets networks) else .error .overflow := by
  rw [mapM_of_ok networks (fun network hnetwork => targetCount_eq (hbuilt network hnetwork)), ok_bind, u64Sum_eq]
  rfl

section
variable {networks : List Network} (hbuilt : ∀ network ∈ networks, network.Built) (options : ScanOptions)
  (calls : ScanCalls)
include hbuilt

/-- **A scan whose counts do not fit 64 bits panics.** -/
theorem scan_of_overflow (h : 2 ^ 64 ≤ combinedTargets networks) :
    Scanner.scan networks options calls = (.panicked .overflow, []) := by
  unfold Scanner.scan scanPasses
  rw [mapM_targetCount hbuilt, if_neg (Nat.not_lt.2 h)]
  rfl

theorem scan_of_refused (hfits : combinedTargets networks < 2 ^ 64)
    (h : combinedTargets networks = 0 ∨ maxTargets < combinedTargets networks) :
    (Scanner.scan networks options calls).1.IsErr ∧ (Scanner.scan networks options calls).2 = [] := by
  have hpasses : ∃ e, scanPasses networks options calls = .err e := by
    unfold scanPasses
    rw [mapM_targetCount hbuilt, if_pos hfits]
    show ∃ e, (if combinedTargets networks = 0 then _ else if maxTargets < combinedTargets networks then _ else _) =
      Outcome.err e
    by_cases hzero : combinedTargets networks = 0
    · rw [if_pos hzero]
      exact ⟨_, rfl⟩
    · rw [if_neg hzero, if_pos (h.resolve_left hzero)]
      exact ⟨_, rfl⟩
  obtain ⟨e, he⟩ := hpasses
  unfold Scanner.scan
  rw [he]
  exact ⟨⟨e, rfl⟩, rfl⟩

/-- A scan that sends has a count within the limit. -/
theorem count_of_sent (h : (Scanner.scan networks options calls).2 ≠ []) : combinedTargets networks ≤ maxTargets := by
  by_cases hfits : combinedTargets networks < 2 ^ 64
  · by_cases hrefused : combinedTargets networks = 0 ∨ maxTargets < combinedTargets networks
    · exact absurd (scan_of_refused hbuilt options calls hfits hrefused).2 h
    · exact Nat.not_lt.1 (fun hlt => hrefused (.inr hlt))
  · rw [scan_of_overflow hbuilt options calls (Nat.not_lt.1 hfits)] at h
    exact absurd rfl h

/-- **A scan sends at most one datagram a target and pass.** -/
theorem length_sent_le :
    (Scanner.scan networks options calls).2.length ≤ options.retries.toNat * combinedTargets networks := by
  unfold Scanner.scan
  cases hpasses : scanPasses networks options calls with
  | err e => exact Nat.zero_le _
  | panicked p => exact Nat.zero_le _
  | waiting => exact Nat.zero_le _
  | ok passes =>
    obtain ⟨before, sent⟩ := passes
    obtain ⟨-, -, -, probes, hprobes, rfl⟩ := passes_cases hpasses
    rw [mapM_probes hbuilt] at hprobes
    obtain rfl := Except.ok.inj hprobes
    have hpass : (passAddresses networks options.excluded).flatten.length ≤ combinedTargets networks := by
      rw [passAddresses, List.length_flatten, List.map_map]
      exact List.sum_le_sum (fun network _ => List.length_filter_le _ _)
    dsimp only
    rw [List.length_flatten, List.map_replicate, List.sum_replicate_nat]
    exact Nat.mul_le_mul_left _ hpass

theorem contains_of_sent {address : Ipv4Addr} (h : address ∈ (Scanner.scan networks options calls).2) :
    ∃ network ∈ networks, network.contains address = true ∧ network.HasHost address ∧ address ≠ network.address ∧
      address ∉ options.excluded := by
  obtain ⟨network, hnetwork, hhost, hown, hexcluded⟩ := host_of_mem_sent h
  refine ⟨network, hnetwork, ?_, hhost, hown, hexcluded⟩
  obtain ⟨first, last, hbounds, -, hfirst, hlast⟩ := (hbuilt network hnetwork).bounds
  obtain ⟨first', last', hbounds', hge, hle⟩ := hhost
  rw [hbounds] at hbounds'
  cases hbounds'
  exact decide_eq_true ⟨UInt32.le_trans hfirst hge, UInt32.le_trans hle hlast⟩

end

/-- **The documented bounds of the scans of a list of networks**: the counts are the numbers of targets, a scan with no
target or more than 4096 is refused before it sends, and any other sends to targets only, each once a pass. -/
def TrafficBounded (networks : List Network) : Prop :=
  (∀ network ∈ networks, network.targetCount = .ok network.targets.length ∧ network.targets.Nodup ∧
    ∀ address, address ∈ network.targets ↔ network.HasHost address ∧ address ≠ network.address) ∧
  ∀ (options : ScanOptions) (calls : ScanCalls),
    (combinedTargets networks = 0 ∨ maxTargets < combinedTargets networks →
      (Scanner.scan networks options calls).1.IsErr ∧ (Scanner.scan networks options calls).2 = []) ∧
    (¬ (combinedTargets networks = 0 ∨ maxTargets < combinedTargets networks) →
      (Scanner.scan networks options calls).2.length ≤ options.retries.toNat * combinedTargets networks ∧
      (Scanner.scan networks options calls).2.length ≤ maxTargets * options.retries.toNat ∧
      ∀ address ∈ (Scanner.scan networks options calls).2, ∃ network ∈ networks, network.contains address = true ∧
        network.HasHost address ∧ address ≠ network.address ∧ address ∉ options.excluded)

theorem trafficBounded_iff {networks : List Network} (hbuilt : ∀ network ∈ networks, network.Built) :
    TrafficBounded networks ↔ combinedTargets networks < 2 ^ 64 := by
  constructor
  · intro h
    by_contra hover
    obtain ⟨e, he⟩ := ((h.2 ⟨1, []⟩ ⟨.ok [], .ok (), .ok []⟩).1 (.inr (by unfold maxTargets; omega))).1
    rw [scan_of_overflow hbuilt _ _ (Nat.not_lt.1 hover)] at he
    cases he
  · intro hfits
    refine ⟨fun network hnetwork => ⟨targetCount_eq (hbuilt network hnetwork),
      (hbuilt network hnetwork).mem_targets_iff⟩, fun options calls => ⟨?_, fun hallowed => ⟨?_, ?_, ?_⟩⟩⟩
    · exact scan_of_refused hbuilt options calls hfits
    · exact length_sent_le hbuilt options calls
    · refine Nat.le_trans (length_sent_le hbuilt options calls) ?_
      rw [Nat.mul_comm]
      exact Nat.mul_le_mul_right _ (Nat.not_lt.1 (fun hlt => hallowed (.inr hlt)))
    · exact fun address h => contains_of_sent hbuilt options calls h

/-! ## Scans of the command line -/

/-- What the calls of `networkrs scan` return. -/
structure ScanMachine where
  system : System
  ipv4Addresses : IoResult (List Address)
  ipv4Route : Ipv4Addr → IoResult Route
  calls : ScanCalls

def ScanMachine.cidrCalls (machine : ScanMachine) : CidrCalls :=
  ⟨machine.ipv4Addresses, machine.ipv4Route, interfaceNames machine.system⟩

/-- A network of an interface: its name and index, its address and the length of its prefix. -/
abbrev InterfaceAddress := Text × Int32 × Ipv4Addr × UInt32

def newNetwork (i : InterfaceAddress) : Checked Network := Network.new i.1 i.2.1 i.2.2.1 i.2.2.2

variable (machine : ScanMachine)

def scanInterface (name : Text) : IoResult Network :=
  let path := pathJoin sysClassNet name
  if !machine.system.exists_ path then
    .err (.custom .notFound ("interface " ++ name ++ " does not exist"))
  else if interfaceKind machine.system path = some ("loopback" : Text) then
    invalidInput "loopback is not a scannable network"
  else if readTrimmed machine.system (pathJoin path "carrier") ≠ some ("1" : Text) then
    .err (.custom .notConnected ("interface " ++ name ++ " has no carrier"))
  else
    match ipv4Address machine.system name with
    | none => .err (.custom .addrNotAvailable ("interface " ++ name ++ " has no IPv4 address"))
    | some (address, prefixLength) =>
      match (readTrimmed machine.system (pathJoin path "ifindex")).bind parseI32 with
      | none => .err (.custom .invalidData "invalid interface index")
      | some interfaceIndex => .ofChecked (newNetwork (name, interfaceIndex, address, prefixLength))

/-- The interface of a directory entry, if it is one to scan. -/
def activeInterface (preferred : Option Text) (name : Text) : Option InterfaceAddress :=
  let path := pathJoin sysClassNet name
  if preferred.any (· ≠ name) ∨ interfaceKind machine.system path = some ("loopback" : Text) ∨
      readTrimmed machine.system (pathJoin path "carrier") ≠ some ("1" : Text) then none
  else do
    let (address, prefixLength) ← ipv4Address machine.system name
    let index ← readTrimmed machine.system (pathJoin path "ifindex")
    let interfaceIndex ← parseI32 index
    return (name, interfaceIndex, address, prefixLength)

def scanNetworks (selection : Option Text) : IoResult (List Network) :=
  match selection with
  | some selection =>
    if '/' ∈ selection then (scanCidr machine.cidrCalls selection).map (fun network => [network])
    else (scanInterface machine selection).map (fun network => [network])
  | none =>
    match machine.system.readDir sysClassNet with
    | .error e => .err e
    | .ok names => do
      let preferred := defaultIpv4Interface machine.system
      let networks ← .ofChecked
        (((names.mergeSort textLe).filterMap (activeInterface machine preferred)).mapM newNetwork)
      if networks.isEmpty then .err (.custom .notFound "no active non-loopback IPv4 network found")
      else return networks

/-- `networkrs scan`, up to the result of its scan, with the addresses its datagrams go to. -/
def scanCommand (arguments : List Text) : IoResult ScanResult × List Ipv4Addr :=
  match parseScanArguments arguments with
  | .error e => (.err e, [])
  | .ok parsed =>
    match scanNetworks machine parsed.selection with
    | .ok networks => Scanner.scan networks ⟨parsed.retries, parsed.excluded⟩ machine.calls
    | .err e => (.err e, [])
    | .panicked p => (.panicked p, [])
    | .waiting => (.waiting, [])

theorem built_of_newNetwork {i : InterfaceAddress} {network : Network} (hle : i.2.2.2 ≤ 32)
    (h : newNetwork i = .ok network) : network.Built :=
  ⟨i.1, i.2.1, i.2.2.1, i.2.2.1, i.2.2.2, hle, h⟩

/-- The prefix of an interface address is the number of bits of a mask. -/
theorem prefixLength_le_of_ipv4Address {system : System} {interface : Text} {address : Ipv4Addr} {prefixLength : UInt32}
    (h : ipv4Address system interface = some (address, prefixLength)) : prefixLength ≤ 32 := by
  unfold ipv4Address at h
  simp only [Option.bind_eq_bind, Option.bind_eq_some_iff] at h
  obtain ⟨-, -, address', -, mask, -, hvalue⟩ := h
  cases hvalue
  have hones := countOnes_le mask.bits
  have hsize : UInt32.size = 2 ^ 32 := rfl
  have h32 : (32 : UInt32).toNat = 32 := rfl
  rw [UInt32.le_iff_toNat_le, UInt32.toNat_ofNat_of_lt' (by omega), h32]
  exact hones

theorem built_of_scanInterface {name : Text} {network : Network} (h : scanInterface machine name = .ok network) :
    network.Built := by
  unfold scanInterface invalidInput at h
  dsimp only at h
  split at h
  · cases h
  split at h
  · cases h
  split at h
  · cases h
  split at h
  · cases h
  · next address prefixLength haddress =>
    split at h
    · cases h
    · exact built_of_newNetwork (prefixLength_le_of_ipv4Address haddress) ((Outcome.ofChecked_eq_ok_iff _ _).1 h)

theorem built_of_scanCidr {calls : CidrCalls} {value : Text} {network : Network}
    (h : scanCidr calls value = .ok network) : network.Built := by
  obtain ⟨subnet, prefixLength, configured, hparse, hconfigured⟩ := read_of_scanCidr calls h
  have hprefix := prefixLength_le_of_parseIpv4Cidr hparse
  obtain ⟨networkAddress, broadcast, -, ⟨first, -, hscan⟩ | ⟨-, hscan⟩⟩ := scanCidr_eq hparse hconfigured
  · rw [hscan] at h
    obtain ⟨route, -, hok⟩ := (Outcome.bind_eq_ok_iff _ _ _).1 h
    unfold networkOfRoute invalidInput at hok
    split at hok
    · cases hok
    split at hok
    · cases hok
    split at hok
    · cases hok
    · cases hok
    · exact ⟨_, _, _, _, prefixLength, hprefix, (Outcome.ofChecked_eq_ok_iff _ _).1 hok⟩
  · rw [hscan] at h
    unfold networkOfLocal at h
    split at h
    · cases h
    · exact ⟨_, _, _, _, prefixLength, hprefix, (Outcome.ofChecked_eq_ok_iff _ _).1 h⟩

theorem prefixLength_le_of_activeInterface {preferred : Option Text} {name : Text} {i : InterfaceAddress}
    (h : activeInterface machine preferred name = some i) : i.2.2.2 ≤ 32 := by
  unfold activeInterface at h
  dsimp only at h
  split at h
  · cases h
  · simp only [Option.bind_eq_bind, Option.bind_eq_some_iff] at h
    obtain ⟨⟨address, prefixLength⟩, haddress, index, -, interfaceIndex, -, hvalue⟩ := h
    cases hvalue
    exact prefixLength_le_of_ipv4Address haddress

/-- **Every network the command line scans is made for a CIDR with a prefix of at most 32 bits.** -/
theorem built_of_scanNetworks {selection : Option Text} {networks : List Network}
    (h : scanNetworks machine selection = .ok networks) : ∀ network ∈ networks, network.Built := by
  unfold scanNetworks at h
  intro network hnetwork
  cases selection with
  | some selection =>
    dsimp only at h
    split at h
    · obtain ⟨network', hscan, hlist⟩ := (Outcome.map_eq_ok_iff _ _ _).1 h
      subst hlist
      rw [List.mem_singleton.1 hnetwork]
      exact built_of_scanCidr hscan
    · obtain ⟨network', hscan, hlist⟩ := (Outcome.map_eq_ok_iff _ _ _).1 h
      subst hlist
      rw [List.mem_singleton.1 hnetwork]
      exact built_of_scanInterface machine hscan
  | none =>
    dsimp only at h
    split at h
    · cases h
    · next names _ =>
      obtain ⟨all, hall, h⟩ := (Outcome.bind_eq_ok_iff _ _ _).1 h
      split at h
      · cases h
      · cases h
        obtain ⟨i, hi, hnew⟩ := exists_of_mem_mapM _ _ _ ((Outcome.ofChecked_eq_ok_iff _ _).1 hall) network hnetwork
        obtain ⟨name, -, hactive⟩ := List.mem_filterMap.1 hi
        exact built_of_newNetwork (prefixLength_le_of_activeInterface machine hactive) hnew

/-- **No scan of the command line sends more than 40960 datagrams.** -/
theorem length_scanCommand_le (arguments : List Text) : (scanCommand machine arguments).2.length ≤ 40960 := by
  unfold scanCommand
  cases hparsed : parseScanArguments arguments with
  | error e => exact Nat.zero_le _
  | ok parsed =>
    dsimp only
    cases hnetworks : scanNetworks machine parsed.selection with
    | err e => exact Nat.zero_le _
    | panicked p => exact Nat.zero_le _
    | waiting => exact Nat.zero_le _
    | ok networks =>
      have hbuilt := built_of_scanNetworks machine hnetworks
      have hlength := length_sent_le hbuilt ⟨parsed.retries, parsed.excluded⟩ machine.calls
      by_cases hsent : (Scanner.scan networks ⟨parsed.retries, parsed.excluded⟩ machine.calls).2 = []
      · rw [hsent]
        exact Nat.zero_le _
      · have hcount : combinedTargets networks ≤ 4096 := count_of_sent hbuilt _ _ hsent
        have hretries := (retries_of_parseScanArguments hparsed).2
        exact Nat.le_trans hlength (Nat.mul_le_mul hretries hcount)

/-- **When scan traffic is bounded as documented**: exactly when the sum of the counts of targets fits 64 bits.  The
scans of the command line stay below 40960 datagrams in any case. -/
theorem traffic_bounded_iff (networks : List Network) (hbuilt : ∀ network ∈ networks, network.Built) :
    (TrafficBounded networks ↔ combinedTargets networks < 2 ^ 64) ∧
      ∀ (machine : ScanMachine) (arguments : List Text), (scanCommand machine arguments).2.length ≤ 40960 :=
  ⟨trafficBounded_iff hbuilt, length_scanCommand_le⟩

theorem traffic_bounded_iff_lan : TrafficBounded lanNetworks := by
  have hbuilt : ∀ network ∈ lanNetworks, network.Built := by
    intro network hnetwork
    rcases List.mem_cons.1 hnetwork with rfl | hnetwork
    · exact ⟨"eth0", 2, Ipv4Addr.new 192 168 1 10, Ipv4Addr.new 192 168 1 10, 24, by decide, by decide +kernel⟩
    · rw [List.mem_singleton.1 hnetwork]
      exact ⟨"eth1", 3, Ipv4Addr.new 192 168 1 11, Ipv4Addr.new 192 168 1 11, 24, by decide, by decide +kernel⟩
  exact (traffic_bounded_iff lanNetworks hbuilt).1.2 (by decide +kernel)

/-- The network of all addresses. -/
def wholeNetwork : Network := ⟨"eth0", 2, ⟨0⟩, 0, 0, 0xffffffff⟩

theorem combinedTargets_replicate (n : Nat) : combinedTargets (List.replicate n wholeNetwork) = n * 4294967294 := by
  have hbuilt : wholeNetwork.Built := ⟨"eth0", 2, ⟨0⟩, ⟨0⟩, 0, by decide, by decide +kernel⟩
  have hcount : wholeNetwork.targetCount = .ok 4294967294 := by decide +kernel
  rw [targetCount_eq hbuilt] at hcount
  rw [combinedTargets, List.map_replicate, List.sum_replicate_nat, Except.ok.inj hcount]

/-- More than 2³² networks of all addresses are not refused: their count overflows. -/
theorem whole_networks_overflow :
    Network.new "eth0" 2 ⟨0⟩ 0 = .ok wholeNetwork ∧
      maxTargets < combinedTargets (List.replicate (2 ^ 32 + 3) wholeNetwork) ∧
      (∀ options calls, Scanner.scan (List.replicate (2 ^ 32 + 3) wholeNetwork) options calls =
        (.panicked .overflow, [])) ∧
      ¬ TrafficBounded (List.replicate (2 ^ 32 + 3) wholeNetwork) := by
  have hnew : Network.new "eth0" 2 ⟨0⟩ 0 = .ok wholeNetwork := by decide +kernel
  have hbuilt : ∀ network ∈ List.replicate (2 ^ 32 + 3) wholeNetwork, network.Built := fun network h => by
    rw [List.eq_of_mem_replicate h]
    exact ⟨"eth0", 2, ⟨0⟩, ⟨0⟩, 0, by decide, hnew⟩
  have hover : ¬ combinedTargets (List.replicate (2 ^ 32 + 3) wholeNetwork) < 2 ^ 64 := by
    rw [combinedTargets_replicate]
    decide
  refine ⟨hnew, ?_, fun options calls => scan_of_overflow hbuilt options calls (Nat.not_lt.1 hover), fun h => ?_⟩
  · rw [combinedTargets_replicate]
    decide
  · exact hover ((trafficBounded_iff hbuilt).1 h)

end Networkrs
