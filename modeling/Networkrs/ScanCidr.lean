import Networkrs.Scanner
/-!
# ScanCidr — choosing the network of a CIDR

`scan_cidr` of the command line: it takes the route of one address of the CIDR, the first host that is not an address
of this machine, for the route of all (`scanCidr_eq`).  So a CIDR is refused for being routed exactly when that one
address is, and a network that is accepted is directly connected exactly when its other hosts happen to be
(`accepted_is_direct_iff`).
-/
namespace Networkrs

open Machine Collect Keyed

def invalidInput {α : Type} (message : Text) : IoResult α := .err (.custom .invalidInput message)

/-- `parse_ipv4_cidr`. -/
def parseIpv4Cidr (value : Text) : IoResult (Ipv4Addr × UInt32) :=
  match splitOnce '/' value with
  | none => invalidInput "CIDR must contain a prefix length"
  | some (address, prefixLength) =>
    if '/' ∈ prefixLength then invalidInput "invalid IPv4 CIDR"
    else
      match Ipv4Addr.parse address with
      | none => invalidInput "CIDR address must be IPv4"
      | some address =>
        match parseUnsigned 10 (2 ^ 32 - 1) prefixLength with
        | none => invalidInput "CIDR prefix must be a number"
        | some prefixLength =>
          if 32 < prefixLength then invalidInput "CIDR prefix must be between 0 and 32"
          else .ok (address, UInt32.ofNat prefixLength)

/-- The loop of `first_non_local_scan_address`. -/
def firstNonLocalFrom (localAddresses : List Ipv4Addr) (candidate last : UInt32) : Checked (Option Ipv4Addr) :=
  if _hle : candidate ≤ last then
    if (⟨candidate⟩ : Ipv4Addr) ∉ localAddresses then .ok (some ⟨candidate⟩)
    else if candidate = last then .ok none
    else
      match _h : u32Add candidate 1 with
      | .error p => .error p
      | .ok next => firstNonLocalFrom localAddresses next last
  else .ok none
termination_by last.toNat + 1 - candidate.toNat
decreasing_by
  have hnext := (u32Add_eq_ok_iff _ _ _).1 _h
  have hone : (1 : UInt32).toNat = 1 := rfl
  rw [UInt32.le_iff_toNat_le] at _hle
  omega

def firstNonLocalScanAddress (network broadcast : Ipv4Addr) (prefixLength : UInt32) (localAddresses : List Ipv4Addr) :
    Checked (Option Ipv4Addr) := do
  let candidate ← if prefixLength ≤ 30 then u32Add network.bits 1 else pure network.bits
  let last ← if prefixLength ≤ 30 then u32Sub broadcast.bits 1 else pure broadcast.bits
  firstNonLocalFrom localAddresses candidate last

/-- What the calls of `scan_cidr` return. -/
structure CidrCalls where
  ipv4Addresses : IoResult (List Address)
  ipv4Route : Ipv4Addr → IoResult Route
  interfaceNames : Map Int32 Text

def localIpv4 (address : Address) : Option Ipv4Addr :=
  match address.local with
  | .v4 ip => some ip
  | .v6 _ => none

/-- The first configured address of a range, with its interface. -/
def findLocalIn (network broadcast : Ipv4Addr) (configured : List Address) : Option (Ipv4Addr × Int32) :=
  configured.findSome? (fun address =>
    match address.local with
    | .v4 ip =>
      if network.bits ≤ ip.bits ∧ ip.bits ≤ broadcast.bits then some (ip, address.interfaceIndex) else none
    | .v6 _ => none)

/-- The network of a CIDR by the route of its probe address. -/
def networkOfRoute (calls : CidrCalls) (value : Text) (networkAddress : Ipv4Addr) (prefixLength : UInt32)
    (route : Route) : IoResult Network :=
  match route.gateway with
  | some gateway =>
    invalidInput (value ++ " is reached through gateway " ++ gateway.display ++ ", not directly connected")
  | none =>
    match route.interfaceIndex with
    | none => .err (.custom .notFound "kernel route has no output interface")
    | some interfaceIndex =>
      match route.source with
      | none => .err (.custom .addrNotAvailable "kernel route has no source address")
      | some (.v6 _) => .err (.custom .invalidData "kernel returned a non-IPv4 source for an IPv4 route")
      | some (.v4 source) =>
        .ofChecked (Network.forCidr (interfaceLabel calls.interfaceNames interfaceIndex) interfaceIndex source
          networkAddress prefixLength)

/-- The network of a CIDR all of whose hosts are addresses of this machine. -/
def networkOfLocal (calls : CidrCalls) (configured : List Address) (networkAddress broadcast : Ipv4Addr)
    (prefixLength : UInt32) : IoResult Network :=
  match findLocalIn networkAddress broadcast configured with
  | none => .err (.custom .addrNotAvailable "CIDR contains no address that can be used for route selection")
  | some (address, interfaceIndex) =>
    .ofChecked (Network.forCidr (interfaceLabel calls.interfaceNames interfaceIndex) interfaceIndex address
      networkAddress prefixLength)

def scanCidr (calls : CidrCalls) (value : Text) : IoResult Network := do
  let (cidrAddress, prefixLength) ← parseIpv4Cidr value
  let mask ← .ofChecked (subnetMask prefixLength)
  let networkAddress : Ipv4Addr := ⟨cidrAddress.bits &&& mask⟩
  let broadcast : Ipv4Addr := ⟨networkAddress.bits ||| ~~~mask⟩
  let configured ← calls.ipv4Addresses
  let probe ← .ofChecked
    (firstNonLocalScanAddress networkAddress broadcast prefixLength (configured.filterMap localIpv4))
  match probe with
  | none => networkOfLocal calls configured networkAddress broadcast prefixLength
  | some probeAddress =>
    let route ← calls.ipv4Route probeAddress
    networkOfRoute calls value networkAddress prefixLength route

/-! ## The probe address -/

def IsFirstHost (prefixLength : UInt32) (subnet : Ipv4Addr) (localAddresses : List Ipv4Addr) (first : Ipv4Addr) :
    Prop :=
  IsHost prefixLength subnet first ∧ first ∉ localAddresses ∧
    ∀ address, IsHost prefixLength subnet address → address ∉ localAddresses →
      first.bits.toNat ≤ address.bits.toNat

/-- **The loop finds the least address of its range that is not local**, and its additions do not overflow. -/
theorem firstNonLocalFrom_spec (localAddresses : List Ipv4Addr) (last : UInt32) : ∀ (fuel : Nat) (candidate : UInt32),
    last.toNat + 1 - candidate.toNat ≤ fuel →
    (∃ first, firstNonLocalFrom localAddresses candidate last = .ok (some first) ∧
        candidate.toNat ≤ first.bits.toNat ∧ first.bits.toNat ≤ last.toNat ∧ first ∉ localAddresses ∧
        ∀ address : Ipv4Addr, candidate.toNat ≤ address.bits.toNat → address ∉ localAddresses →
          first.bits.toNat ≤ address.bits.toNat) ∨
      firstNonLocalFrom localAddresses candidate last = .ok none ∧
        ∀ address : Ipv4Addr, candidate.toNat ≤ address.bits.toNat → address.bits.toNat ≤ last.toNat →
          address ∈ localAddresses
  | fuel, candidate, hfuel => by
    rw [firstNonLocalFrom]
    by_cases hle : candidate ≤ last
    · rw [dif_pos hle]
      rw [UInt32.le_iff_toNat_le] at hle
      by_cases hlocal : (⟨candidate⟩ : Ipv4Addr) ∉ localAddresses
      · rw [if_pos hlocal]
        exact .inl ⟨⟨candidate⟩, rfl, Nat.le_refl _, hle, hlocal, fun address h _ => h⟩
      · rw [if_neg hlocal]
        have hmem : (⟨candidate⟩ : Ipv4Addr) ∈ localAddresses := Classical.not_not.1 hlocal
        by_cases hlast : candidate = last
        · rw [if_pos hlast]
          refine .inr ⟨rfl, fun address hge hle' => ?_⟩
          have heq : address = ⟨candidate⟩ := by
            cases address
            rw [Ipv4Addr.mk.injEq, ← UInt32.toNat_inj]
            rw [hlast] at hge ⊢
            exact Nat.le_antisymm hle' hge
          rw [heq]
          exact hmem
        · rw [if_neg hlast]
          have hlt : candidate.toNat < last.toNat := by
            have hne : candidate.toNat ≠ last.toNat := fun h => hlast (UInt32.toNat_inj.1 h)
            omega
          have hadd : u32Add candidate 1 = .ok (candidate + 1) := u32Add_of_le hlt
          have hnext : (candidate + 1).toNat = candidate.toNat + 1 := (u32Add_eq_ok_iff _ _ _).1 hadd
          -- an address from the candidate on is the candidate, which is local, or from the next one on
          have hstep : ∀ address : Ipv4Addr, candidate.toNat ≤ address.bits.toNat →
              address ∈ localAddresses ∨ (candidate + 1).toNat ≤ address.bits.toNat := by
            intro address hge
            by_cases heq : address.bits = candidate
            · refine .inl ?_
              cases address
              dsimp only at heq
              rw [heq]
              exact hmem
            · refine .inr ?_
              have hne : address.bits.toNat ≠ candidate.toNat := fun h => heq (UInt32.toNat_inj.1 h)
              omega
          cases fuel with
          | zero => omega
          | succ fuel =>
            have hrec : (match _h : u32Add candidate 1 with
                | .error p => .error p
                | .ok next => firstNonLocalFrom localAddresses next last) =
                firstNonLocalFrom localAddresses (candidate + 1) last := by
              rw [hadd]
            rw [hrec]
            rcases firstNonLocalFrom_spec localAddresses last fuel (candidate + 1) (by omega) with
              ⟨first, hfirst, hge, hle', hout, hleast⟩ | ⟨hnone, hall⟩
            · refine .inl ⟨first, hfirst, by omega, hle', hout, fun address haddress hnot => ?_⟩
              rcases hstep address haddress with hin | hge'
              · exact absurd hin hnot
              · exact hleast address hge' hnot
            · refine .inr ⟨hnone, fun address haddress hle' => ?_⟩
              rcases hstep address haddress with hin | hge'
              · exact hin
              · exact hall address hge' hle'
    · rw [dif_neg hle]
      rw [UInt32.le_iff_toNat_le] at hle
      exact .inr ⟨rfl, fun address hge hle' => by omega⟩

/-- Its bounds are those of a network. -/
theorem firstNonLocalScanAddress_eq (network broadcast : Ipv4Addr) (prefixLength : UInt32)
    (localAddresses : List Ipv4Addr) :
    firstNonLocalScanAddress network broadcast prefixLength localAddresses =
      hostBoundsOf prefixLength network.bits broadcast.bits >>= fun bounds =>
        firstNonLocalFrom localAddresses bounds.1 bounds.2 := by
  unfold firstNonLocalScanAddress hostBoundsOf
  by_cases h : prefixLength ≤ 30
  · simp only [if_pos h]
    cases u32Add network.bits 1 with
    | error p => rfl
    | ok candidate => cases u32Sub broadcast.bits 1 <;> rfl
  · simp only [if_neg h]
    rfl

/-- **The probe address** is the first host that is not local, and there is none exactly when all hosts are. -/
theorem firstNonLocalScanAddress_spec {prefixLength : UInt32} {subnet network broadcast : Ipv4Addr}
    (hnetwork : network.bits.toNat = blockStart (32 - prefixLength.toNat) subnet.bits.toNat)
    (hbroadcast : broadcast.bits.toNat = blockEnd (32 - prefixLength.toNat) subnet.bits.toNat)
    (localAddresses : List Ipv4Addr) :
    (∃ first, firstNonLocalScanAddress network broadcast prefixLength localAddresses = .ok (some first) ∧
        IsFirstHost prefixLength subnet localAddresses first) ∨
      firstNonLocalScanAddress network broadcast prefixLength localAddresses = .ok none ∧
        ∀ address, IsHost prefixLength subnet address → address ∈ localAddresses := by
  obtain ⟨candidate, last, hbounds, hcandidate, hlast⟩ := hostBoundsOf_spec hnetwork hbroadcast
  rw [firstNonLocalScanAddress_eq, hbounds]
  show (∃ first, firstNonLocalFrom localAddresses candidate last = .ok (some first) ∧ _) ∨
    firstNonLocalFrom localAddresses candidate last = .ok none ∧ _
  rcases firstNonLocalFrom_spec localAddresses last _ candidate (Nat.le_refl _) with
    ⟨first, hfirst, hge, hle, hout, hleast⟩ | ⟨hnone, hall⟩
  · refine .inl ⟨first, hfirst, ⟨hcandidate ▸ hge, hlast ▸ hle⟩, hout, fun address haddress hnot => ?_⟩
    exact hleast address (hcandidate.symm ▸ haddress.1) hnot
  · exact .inr ⟨hnone, fun address haddress => hall address (hcandidate.symm ▸ haddress.1) (hlast.symm ▸ haddress.2)⟩

theorem IsFirstHost.unique {prefixLength : UInt32} {subnet : Ipv4Addr} {localAddresses : List Ipv4Addr}
    {first first' : Ipv4Addr} (h : IsFirstHost prefixLength subnet localAddresses first)
    (h' : IsFirstHost prefixLength subnet localAddresses first') : first = first' := by
  have hle := h.2.2 first' h'.1 h'.2.1
  have hge := h'.2.2 first h.1 h.2.1
  cases first
  cases first'
  rw [Ipv4Addr.mk.injEq, ← UInt32.toNat_inj]
  exact Nat.le_antisymm hle hge

/-- A network made for the start of a subnet covers the subnet. -/
theorem covers_of_forCidr {interface : Text} {interfaceIndex : Int32} {address subnet networkAddress : Ipv4Addr}
    {prefixLength : UInt32} {network : Network} (h : prefixLength ≤ 32)
    (hstart : networkAddress.bits.toNat = blockStart (32 - prefixLength.toNat) subnet.bits.toNat)
    (hnetwork : Network.forCidr interface interfaceIndex address networkAddress prefixLength = .ok network) :
    network.Covers prefixLength subnet := by
  obtain ⟨network', hok, -, hcovers⟩ := Network.forCidr_spec interface interfaceIndex address networkAddress h
  rw [hnetwork] at hok
  cases hok
  exact ⟨hcovers.prefixLength_eq, by rw [hcovers.network_eq, hstart, blockStart_blockStart],
    by rw [hcovers.broadcast_eq, hstart, blockEnd_blockStart]⟩

/-- **Probe-address selection is exact**: with the network and broadcast addresses of `scan_cidr`, it finds the least
address within the bounds of the network that is not local, and none exactly when all of them are; no sum overflows. -/
theorem firstNonLocalScanAddress_exact (cidrAddress : Ipv4Addr) (prefixLength : UInt32) (h : prefixLength ≤ 32)
    (localAddresses : List Ipv4Addr) (interface : Text) (interfaceIndex : Int32) (address : Ipv4Addr) :
    ∃ mask, subnetMask prefixLength = .ok mask ∧
      mask = (if prefixLength = 0 then 0 else (0xffffffff : UInt32) <<< (32 - prefixLength)) ∧
      ∃ network found first last,
        Network.forCidr interface interfaceIndex address ⟨cidrAddress.bits &&& mask⟩ prefixLength = .ok network ∧
        network.hostBounds = .ok (first, last) ∧
        firstNonLocalScanAddress ⟨cidrAddress.bits &&& mask⟩ ⟨(cidrAddress.bits &&& mask) ||| ~~~mask⟩ prefixLength
          localAddresses = .ok found ∧
        (∀ a : Ipv4Addr, found = some a ↔ (first ≤ a.bits ∧ a.bits ≤ last ∧ a ∉ localAddresses ∧
          ∀ b : Ipv4Addr, first ≤ b.bits → b.bits ≤ last → b ∉ localAddresses → a.bits ≤ b.bits)) ∧
        (found = none ↔ ∀ b : Ipv4Addr, first ≤ b.bits → b.bits ≤ last → b ∈ localAddresses) := by
  obtain ⟨mask, hmask, hvalue⟩ := subnetMask_spec h
  obtain ⟨hstart, hend⟩ := mask_spec hvalue cidrAddress.bits
  have hshift : mask = (if prefixLength = 0 then 0 else (0xffffffff : UInt32) <<< (32 - prefixLength)) := by
    unfold subnetMask at hmask
    split at hmask
    · next hzero => rw [if_pos hzero, ← Except.ok.inj hmask]
    · next hzero =>
      rw [u32Sub_of_le (UInt32.le_iff_toNat_le.1 h), ok_bind] at hmask
      rw [if_neg hzero, eq_of_u32Shl hmask]
  obtain ⟨network, hnetwork, -, -⟩ := Network.forCidr_spec interface interfaceIndex address
    ⟨cidrAddress.bits &&& mask⟩ h
  have hcovers : network.Covers prefixLength cidrAddress := covers_of_forCidr h hstart hnetwork
  obtain ⟨first, last, hbounds, hfirst, hlast⟩ := hostBoundsOf_spec hcovers.network_eq hcovers.broadcast_eq
  rw [← hcovers.prefixLength_eq] at hbounds
  have hhost : ∀ b : Ipv4Addr, IsHost prefixLength cidrAddress b ↔ first ≤ b.bits ∧ b.bits ≤ last := by
    intro b
    rw [UInt32.le_iff_toNat_le, UInt32.le_iff_toNat_le, hfirst, hlast]
    rfl
  have hselected : ∀ a : Ipv4Addr, IsFirstHost prefixLength cidrAddress localAddresses a ↔
      (first ≤ a.bits ∧ a.bits ≤ last ∧ a ∉ localAddresses ∧
        ∀ b : Ipv4Addr, first ≤ b.bits → b.bits ≤ last → b ∉ localAddresses → a.bits ≤ b.bits) := by
    intro a
    unfold IsFirstHost
    rw [hhost, and_assoc]
    simp only [hhost, and_imp, UInt32.le_iff_toNat_le]
  refine ⟨mask, hmask, hshift, network, ?_⟩
  rcases @firstNonLocalScanAddress_spec prefixLength cidrAddress ⟨cidrAddress.bits &&& mask⟩
    ⟨(cidrAddress.bits &&& mask) ||| ~~~mask⟩ hstart hend localAddresses with
    ⟨found, hfound, hleast⟩ | ⟨hnone, hall⟩
  · refine ⟨some found, first, last, hnetwork, hbounds, hfound, fun a => ?_, ?_⟩
    · rw [← hselected]
      constructor
      · intro heq
        exact Option.some.inj heq ▸ hleast
      · intro ha
        rw [IsFirstHost.unique hleast ha]
    · refine iff_of_false (fun heq => by cases heq) (fun hlocal => ?_)
      obtain ⟨hge, hle, hout, -⟩ := (hselected found).1 hleast
      exact hout (hlocal found hge hle)
  · have hlocal : ∀ b : Ipv4Addr, first ≤ b.bits → b.bits ≤ last → b ∈ localAddresses :=
      fun b hge hle => hall b ((hhost b).2 ⟨hge, hle⟩)
    refine ⟨none, first, last, hnetwork, hbounds, hnone, fun a => ?_, iff_of_true rfl hlocal⟩
    refine iff_of_false (fun heq => by cases heq) (fun ⟨hge, hle, hout, _⟩ => ?_)
    exact hout (hlocal a hge hle)

/-- The last address of all is probed when the other one of its network is local. -/
theorem firstNonLocalScanAddress_last :
    firstNonLocalScanAddress ⟨0xfffffffe⟩ ⟨0xffffffff⟩ 31 [⟨0xfffffffe⟩] = .ok (some ⟨0xffffffff⟩) := by
  obtain ⟨mask, -, rfl, network, found, first, last, hnetwork, hbounds, hfound, hsome, -⟩ :=
    firstNonLocalScanAddress_exact ⟨0xffffffff⟩ 31 (by decide) [⟨0xfffffffe⟩] "eth0" 2 ⟨0xfffffffe⟩
  cases hnetwork
  cases hbounds
  have hlast : found = some ⟨0xffffffff⟩ := by
    refine (hsome _).2 ⟨by decide, by decide, by decide, fun b hge hle hout => ?_⟩
    rw [UInt32.le_iff_toNat_le] at hge ⊢
    have hne : b.bits.toNat ≠ 0xfffffffe := fun heq => hout (by
      cases b
      rw [List.mem_singleton, Ipv4Addr.mk.injEq, ← UInt32.toNat_inj]
      exact heq)
    have hge' : 0xfffffffe ≤ b.bits.toNat := hge
    show 0xffffffff ≤ b.bits.toNat
    omega
  rw [hlast] at hfound
  exact hfound

/-! ## `scan_cidr` -/

theorem prefixLength_le_of_parseIpv4Cidr {value : Text} {cidrAddress : Ipv4Addr} {prefixLength : UInt32}
    (h : parseIpv4Cidr value = .ok (cidrAddress, prefixLength)) : prefixLength ≤ 32 := by
  unfold parseIpv4Cidr invalidInput at h
  split at h
  · cases h
  · split at h
    · cases h
    · split at h
      · cases h
      · split at h
        · cases h
        · split at h
          · cases h
          · rename_i n _ hle
            cases h
            have hsize : UInt32.size = 2 ^ 32 := rfl
            have h32 : (32 : UInt32).toNat = 32 := rfl
            rw [UInt32.le_iff_toNat_le, UInt32.toNat_ofNat_of_lt' (by omega)]
            omega

/-- A route without a gateway, with an interface and an IPv4 source. -/
def Connects (route : Route) : Prop :=
  route.gateway = none ∧ (∃ interfaceIndex, route.interfaceIndex = some interfaceIndex) ∧
    ∃ source, route.source = some (.v4 source)

/-- **A route gives a network exactly when it connects to its destination.** -/
theorem networkOfRoute_eq_ok_iff (calls : CidrCalls) (value : Text) {networkAddress : Ipv4Addr}
    {prefixLength : UInt32} (h : prefixLength ≤ 32) (route : Route) :
    (∃ network, networkOfRoute calls value networkAddress prefixLength route = .ok network) ↔ Connects route := by
  unfold networkOfRoute Connects invalidInput
  cases hgateway : route.gateway with
  | some gateway => simp
  | none =>
    cases hinterface : route.interfaceIndex with
    | none => simp
    | some interfaceIndex =>
      cases hsource : route.source with
      | none => simp
      | some source =>
        cases source with
        | v6 ip => simp
        | v4 ip =>
          obtain ⟨network, hnetwork, -⟩ := Network.forCidr_spec
            (interfaceLabel calls.interfaceNames interfaceIndex) interfaceIndex ip networkAddress h
          refine iff_of_true ⟨network, ?_⟩ ⟨rfl, ⟨interfaceIndex, rfl⟩, ip, rfl⟩
          dsimp only
          rw [hnetwork]
          rfl

theorem covers_of_networkOfRoute {calls : CidrCalls} {value : Text} {subnet networkAddress : Ipv4Addr}
    {prefixLength : UInt32} {route : Route} {network : Network} (h : prefixLength ≤ 32)
    (hstart : networkAddress.bits.toNat = blockStart (32 - prefixLength.toNat) subnet.bits.toNat)
    (hnetwork : networkOfRoute calls value networkAddress prefixLength route = .ok network) :
    network.Covers prefixLength subnet := by
  unfold networkOfRoute invalidInput at hnetwork
  split at hnetwork
  · cases hnetwork
  · split at hnetwork
    · cases hnetwork
    · split at hnetwork
      · cases hnetwork
      · cases hnetwork
      · exact covers_of_forCidr h hstart ((Outcome.ofChecked_eq_ok_iff _ _).1 hnetwork)

theorem covers_of_networkOfLocal {calls : CidrCalls} {configured : List Address}
    {subnet networkAddress broadcast : Ipv4Addr} {prefixLength : UInt32} {network : Network} (h : prefixLength ≤ 32)
    (hstart : networkAddress.bits.toNat = blockStart (32 - prefixLength.toNat) subnet.bits.toNat)
    (hnetwork : networkOfLocal calls configured networkAddress broadcast prefixLength = .ok network) :
    network.Covers prefixLength subnet := by
  unfold networkOfLocal at hnetwork
  split at hnetwork
  · cases hnetwork
  · exact covers_of_forCidr h hstart ((Outcome.ofChecked_eq_ok_iff _ _).1 hnetwork)

section
variable {calls : CidrCalls} {value : Text} {subnet : Ipv4Addr} {prefixLength : UInt32} {configured : List Address}

/-- **`scan_cidr` once its input is read**: the network of the route of the first host that is not local, or the one of
a local address. -/
theorem scanCidr_eq (hparse : parseIpv4Cidr value = .ok (subnet, prefixLength))
    (hconfigured : calls.ipv4Addresses = .ok configured) :
    ∃ networkAddress broadcast : Ipv4Addr,
      networkAddress.bits.toNat = blockStart (32 - prefixLength.toNat) subnet.bits.toNat ∧
      ((∃ first, IsFirstHost prefixLength subnet (configured.filterMap localIpv4) first ∧
          scanCidr calls value =
            calls.ipv4Route first >>= networkOfRoute calls value networkAddress prefixLength) ∨
        (∀ address, IsHost prefixLength subnet address → address ∈ configured.filterMap localIpv4) ∧
          scanCidr calls value = networkOfLocal calls configured networkAddress broadcast prefixLength) := by
  obtain ⟨mask, hmask, hvalue⟩ := subnetMask_spec (prefixLength_le_of_parseIpv4Cidr hparse)
  obtain ⟨hstart, hend⟩ := mask_spec hvalue subnet.bits
  refine ⟨⟨subnet.bits &&& mask⟩, ⟨(subnet.bits &&& mask) ||| ~~~mask⟩, hstart, ?_⟩
  have hscan : scanCidr calls value =
      ((.ofChecked (firstNonLocalScanAddress ⟨subnet.bits &&& mask⟩ ⟨(subnet.bits &&& mask) ||| ~~~mask⟩ prefixLength
        (configured.filterMap localIpv4)) : IoResult (Option Ipv4Addr)) >>= fun probe =>
        match probe with
        | none => networkOfLocal calls configured ⟨subnet.bits &&& mask⟩ ⟨(subnet.bits &&& mask) ||| ~~~mask⟩
            prefixLength
        | some probeAddress => do
            let route ← calls.ipv4Route probeAddress
            networkOfRoute calls value ⟨subnet.bits &&& mask⟩ prefixLength route) := by
    unfold scanCidr
    rw [hparse]
    show (.ofChecked (subnetMask prefixLength) : IoResult UInt32) >>= _ = _
    rw [hmask, hconfigured]
    rfl
  rcases firstNonLocalScanAddress_spec hstart hend (configured.filterMap localIpv4) with
    ⟨first, hok, hfirst⟩ | ⟨hok, hall⟩
  · refine .inl ⟨first, hfirst, ?_⟩
    rw [hscan, hok]
    rfl
  · refine .inr ⟨hall, ?_⟩
    rw [hscan, hok]
    rfl

/-- **When `scan_cidr` accepts a CIDR**, by the route of its first host. -/
theorem accepts_iff (hparse : parseIpv4Cidr value = .ok (subnet, prefixLength))
    (hconfigured : calls.ipv4Addresses = .ok configured) {first : Ipv4Addr}
    (hfirst : IsFirstHost prefixLength subnet (configured.filterMap localIpv4) first) :
    (∃ network, scanCidr calls value = .ok network) ↔ ∃ route, calls.ipv4Route first = .ok route ∧ Connects route := by
  have hprefix := prefixLength_le_of_parseIpv4Cidr hparse
  obtain ⟨networkAddress, broadcast, -, ⟨first', hfirst', hscan⟩ | ⟨hall, -⟩⟩ := scanCidr_eq hparse hconfigured
  · obtain rfl := hfirst.unique hfirst'
    rw [hscan]
    constructor
    · rintro ⟨network, hnetwork⟩
      obtain ⟨route, hroute, hok⟩ := (Outcome.bind_eq_ok_iff _ _ _).1 hnetwork
      exact ⟨route, hroute, (networkOfRoute_eq_ok_iff calls value hprefix route).1 ⟨network, hok⟩⟩
    · rintro ⟨route, hroute, hconnects⟩
      obtain ⟨network, hok⟩ := (networkOfRoute_eq_ok_iff calls value hprefix route).2 hconnects
      exact ⟨network, (Outcome.bind_eq_ok_iff _ _ _).2 ⟨route, hroute, hok⟩⟩
  · exact absurd (hall first hfirst.1) hfirst.2.1

/-- **What an accepted network covers.** -/
theorem covers_of_scanCidr (hparse : parseIpv4Cidr value = .ok (subnet, prefixLength))
    (hconfigured : calls.ipv4Addresses = .ok configured) {network : Network}
    (h : scanCidr calls value = .ok network) : network.Covers prefixLength subnet := by
  have hprefix := prefixLength_le_of_parseIpv4Cidr hparse
  obtain ⟨networkAddress, broadcast, hstart, ⟨first, -, hscan⟩ | ⟨-, hscan⟩⟩ := scanCidr_eq hparse hconfigured
  · rw [hscan] at h
    obtain ⟨route, -, hok⟩ := (Outcome.bind_eq_ok_iff _ _ _).1 h
    exact covers_of_networkOfRoute hprefix hstart hok
  · rw [hscan] at h
    exact covers_of_networkOfLocal hprefix hstart h

end

/-! ## What an accepted network reaches -/

section
variable (calls : CidrCalls)

def IsLocal (address : Ipv4Addr) : Prop :=
  ∃ configured, calls.ipv4Addresses = .ok configured ∧ address ∈ configured.filterMap localIpv4

def DirectlyRouted (address : Ipv4Addr) : Prop := ∃ route, calls.ipv4Route address = .ok route ∧ route.gateway = none

/-- **The promise of `scan_cidr`**: the hosts of an accepted network that are not local are routed directly. -/
def RefusesRouted (value : Text) : Prop :=
  ∀ network, scanCidr calls value = .ok network →
    ∀ address, network.HasHost address → ¬ IsLocal calls address → DirectlyRouted calls address

/-- The hosts of a CIDR that are not local are routed directly, once the route of the first of them connects. -/
def RoutedLikeFirst (value : Text) : Prop :=
  ∀ subnet prefixLength configured first route, parseIpv4Cidr value = .ok (subnet, prefixLength) →
    calls.ipv4Addresses = .ok configured →
    IsFirstHost prefixLength subnet (configured.filterMap localIpv4) first →
    calls.ipv4Route first = .ok route → Connects route →
    ∀ address, IsHost prefixLength subnet address → address ∉ configured.filterMap localIpv4 → address ≠ first →
      DirectlyRouted calls address

theorem isLocal_iff {configured : List Address} (hconfigured : calls.ipv4Addresses = .ok configured)
    (address : Ipv4Addr) : IsLocal calls address ↔ address ∈ configured.filterMap localIpv4 := by
  unfold IsLocal
  rw [hconfigured]
  constructor
  · rintro ⟨configured', heq, hmem⟩
    cases heq
    exact hmem
  · exact fun hmem => ⟨configured, rfl, hmem⟩

/-- Nothing is accepted before the CIDR is parsed and the addresses of the machine are known. -/
theorem read_of_scanCidr {value : Text} {network : Network} (h : scanCidr calls value = .ok network) :
    ∃ subnet prefixLength configured, parseIpv4Cidr value = .ok (subnet, prefixLength) ∧
      calls.ipv4Addresses = .ok configured := by
  unfold scanCidr at h
  obtain ⟨⟨subnet, prefixLength⟩, hparse, h⟩ := (Outcome.bind_eq_ok_iff _ _ _).1 h
  obtain ⟨mask, -, h⟩ := (Outcome.bind_eq_ok_iff _ _ _).1 h
  obtain ⟨configured, hconfigured, -⟩ := (Outcome.bind_eq_ok_iff _ _ _).1 h
  exact ⟨subnet, prefixLength, configured, hparse, hconfigured⟩

/-- **When routed CIDRs are refused**: exactly when all hosts are routed like the first.  What is then sent for an
accepted network goes to this machine or leaves without a gateway. -/
theorem accepted_is_direct_iff (value : Text) :
    (RefusesRouted calls value ↔ RoutedLikeFirst calls value) ∧
      (RefusesRouted calls value → ∀ network, scanCidr calls value = .ok network →
        ∀ (options : ScanOptions) (scanCalls : ScanCalls), ∀ address ∈ (Scanner.scan [network] options scanCalls).2,
          IsLocal calls address ∨ DirectlyRouted calls address) := by
  refine ⟨⟨?_, ?_⟩, ?_⟩
  · intro h subnet prefixLength configured first route hparse hconfigured hfirst hroute hconnects address hhost hnot _
    obtain ⟨network, hnetwork⟩ := (accepts_iff hparse hconfigured hfirst).2 ⟨route, hroute, hconnects⟩
    refine h network hnetwork address ?_ (fun hlocal => hnot ((isLocal_iff calls hconfigured address).1 hlocal))
    exact ((covers_of_scanCidr hparse hconfigured hnetwork).hasHost_iff address).2 hhost
  · intro h network hnetwork address hhas hnot
    obtain ⟨subnet, prefixLength, configured, hparse, hconfigured⟩ := read_of_scanCidr calls hnetwork
    have hhost := ((covers_of_scanCidr hparse hconfigured hnetwork).hasHost_iff address).1 hhas
    have hout : address ∉ configured.filterMap localIpv4 := fun hmem =>
      hnot ((isLocal_iff calls hconfigured address).2 hmem)
    obtain ⟨networkAddress, broadcast, -, ⟨first, hfirst, -⟩ | ⟨hall, -⟩⟩ := scanCidr_eq hparse hconfigured
    · obtain ⟨route, hroute, hconnects⟩ := (accepts_iff hparse hconfigured hfirst).1 ⟨network, hnetwork⟩
      by_cases heq : address = first
      · rw [heq]
        exact ⟨route, hroute, hconnects.1⟩
      · exact h subnet prefixLength configured first route hparse hconfigured hfirst hroute hconnects address hhost
          hout heq
    · exact absurd (hall address hhost) hout
  · intro h network hnetwork options scanCalls address hsent
    obtain ⟨network', hmem, hhas, -, -⟩ := host_of_mem_sent hsent
    rw [List.mem_singleton.1 hmem] at hhas
    by_cases hlocal : IsLocal calls address
    · exact .inl hlocal
    · exact .inr (h network hnetwork address hhas hlocal)

end

def lanRoute (gateway : Option IpAddr) (destination : Ipv4Addr) : Route :=
  ⟨.v4 destination, 32, none, gateway, some 2, none, some (.v4 (Ipv4Addr.new 192 168 0 2)), 254, "unspecified",
    "global", "unicast", []⟩

/-- A machine with the address 192.168.0.2/24, whose other destinations are behind 192.168.0.254. -/
def lanMachine : CidrCalls where
  ipv4Addresses := .ok
    [⟨.v4 (Ipv4Addr.new 192 168 0 2), 24, none, none, 2, none, "global", "permanent", none, none⟩]
  ipv4Route destination :=
    if destination.bits / 256 = 0xc0a800 then .ok (lanRoute none destination)
    else .ok (lanRoute (some (.v4 (Ipv4Addr.new 192 168 0 254))) destination)
  interfaceNames index := if index = 2 then some "eth0" else none

/-- A CIDR wider than the connected subnet is accepted, and 192.168.1.7 in it is probed through the gateway. -/
theorem wide_cidr_is_accepted :
    ∃ network, scanCidr lanMachine "192.168.0.0/23" = .ok network ∧ network.HasHost (Ipv4Addr.new 192 168 1 7) ∧
      ¬ IsLocal lanMachine (Ipv4Addr.new 192 168 1 7) ∧ ¬ DirectlyRouted lanMachine (Ipv4Addr.new 192 168 1 7) ∧
      Ipv4Addr.new 192 168 1 7 ∈ (Scanner.scan [network] ⟨1, []⟩ ⟨.ok [], .ok (), .ok []⟩).2 := by
  refine ⟨⟨"eth0", 2, Ipv4Addr.new 192 168 0 2, 23, 0xc0a80000, 0xc0a801ff⟩, by decide +kernel,
    ⟨0xc0a80001, 0xc0a801fe, by decide +kernel, by decide, by decide⟩, ?_, ?_, by decide +kernel⟩
  · rintro ⟨configured, hconfigured, hmem⟩
    cases hconfigured
    revert hmem
    decide +kernel
  · rintro ⟨route, hroute, hgateway⟩
    cases hroute
    cases hgateway

end Networkrs
