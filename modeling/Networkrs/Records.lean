import Networkrs.Address
import Networkrs.Names
/-!
# Records — the route-netlink record parsers

`parse_link`, `parse_address`, `parse_route`, `parse_rule` and `parse_neighbor` of `netlink.rs`, with the fixed structs
they read and the attributes they pick.  A parser returns nothing for a record it skips: a struct cut short, another
address family, attributes whose framing breaks, or a required attribute that is missing.
-/
namespace Networkrs

open Machine Framing

/-! ## Attribute kinds -/

def ndaDst : UInt16 := 1
def ndaLladdr : UInt16 := 2
def ndaCacheinfo : UInt16 := 3
def ndaProbes : UInt16 := 4
def ndaMaster : UInt16 := 9
def ndaProtocol : UInt16 := 12
def ndaFlagsExt : UInt16 := 15
def ifaAddress : UInt16 := 1
def ifaLocal : UInt16 := 2
def ifaLabel : UInt16 := 3
def ifaBroadcast : UInt16 := 4
def ifaCacheinfo : UInt16 := 6
def ifaFlags : UInt16 := 8
def iflaIfname : UInt16 := 3
def iflaMtu : UInt16 := 4
def iflaLink : UInt16 := 5
def iflaQdisc : UInt16 := 6
def iflaMaster : UInt16 := 10
def iflaTxqlen : UInt16 := 13
def iflaOperstate : UInt16 := 16
def iflaLinkinfo : UInt16 := 18
def iflaIfalias : UInt16 := 20
def iflaGroup : UInt16 := 27
def iflaPromiscuity : UInt16 := 30
def iflaNumTxQueues : UInt16 := 31
def iflaNumRxQueues : UInt16 := 32
def iflaCarrier : UInt16 := 33
def iflaCarrierChanges : UInt16 := 35
def iflaPhysPortName : UInt16 := 38
def iflaCarrierUpCount : UInt16 := 47
def iflaCarrierDownCount : UInt16 := 48
def iflaMinMtu : UInt16 := 50
def iflaMaxMtu : UInt16 := 51
def iflaPropList : UInt16 := 52
def iflaAltIfname : UInt16 := 53
def iflaParentDevName : UInt16 := 56
def iflaParentDevBusName : UInt16 := 57
def iflaInfoKind : UInt16 := 1
def iflaInfoData : UInt16 := 2
def iflaVlanId : UInt16 := 1
def rtaDst : UInt16 := 1
def rtaSrc : UInt16 := 2
def rtaOif : UInt16 := 4
def rtaGateway : UInt16 := 5
def rtaPriority : UInt16 := 6
def rtaPrefsrc : UInt16 := 7
def rtaMultipath : UInt16 := 9
def rtaTable : UInt16 := 15
def fraDst : UInt16 := 1
def fraSrc : UInt16 := 2
def fraIifname : UInt16 := 3
def fraGoto : UInt16 := 4
def fraPriority : UInt16 := 6
def fraFwmark : UInt16 := 10
def fraTable : UInt16 := 15
def fraFwmask : UInt16 := 16
def fraOifname : UInt16 := 17

/-! ## Records -/

structure Neighbor where
  address : IpAddr
  linkAddress : Option Text
  interfaceIndex : Int32
  state : Text
  flags : Text
  protocol : Option Text
  kind : Text
  probes : Option UInt32
  confirmedMsAgo : Option UInt64
  usedMsAgo : Option UInt64
  updatedMsAgo : Option UInt64
  referenceCount : Option UInt32
  masterIndex : Option Int32
  deriving DecidableEq, Repr

structure NextHop where
  gateway : Option IpAddr
  interfaceIndex : Int32
  weight : UInt16
  flags : Text
  deriving DecidableEq, Repr

structure Route where
  destination : IpAddr
  prefixLength : UInt8
  sourcePrefix : Option (IpAddr × UInt8)
  gateway : Option IpAddr
  interfaceIndex : Option Int32
  metric : Option UInt32
  source : Option IpAddr
  table : UInt32
  protocol : Text
  scope : Text
  kind : Text
  nextHops : List NextHop
  deriving DecidableEq, Repr

inductive IpFamily where
  | ipv4
  | ipv6
  deriving DecidableEq, Repr

structure Rule where
  family : IpFamily
  priority : UInt32
  source : Option (IpAddr × UInt8)
  destination : Option (IpAddr × UInt8)
  inputInterface : Option Text
  outputInterface : Option Text
  fwmark : Option UInt32
  fwmask : Option UInt32
  table : UInt32
  action : Text
  «goto» : Option UInt32
  flags : Text
  deriving DecidableEq, Repr

structure Link where
  interfaceIndex : Int32
  name : Text
  kind : Option Text
  hardwareType : UInt16
  flags : Text
  operationalState : Text
  carrier : Option Bool
  mtu : Option UInt32
  minimumMtu : Option UInt32
  maximumMtu : Option UInt32
  parentIndex : Option Int32
  masterIndex : Option Int32
  qdisc : Option Text
  transmitQueueLength : Option UInt32
  «alias» : Option Text
  alternativeNames : List Text
  vlanId : Option UInt16
  group : Option UInt32
  promiscuity : Option UInt32
  transmitQueues : Option UInt32
  receiveQueues : Option UInt32
  carrierChanges : Option UInt32
  carrierUpCount : Option UInt32
  carrierDownCount : Option UInt32
  physicalPortName : Option Text
  parentDeviceName : Option Text
  parentDeviceBusName : Option Text
  deriving DecidableEq, Repr

structure Address where
  «local» : IpAddr
  prefixLength : UInt8
  peer : Option IpAddr
  broadcast : Option IpAddr
  interfaceIndex : Int32
  label : Option Text
  scope : Text
  flags : Text
  preferredLifetime : Option UInt32
  validLifetime : Option UInt32
  deriving DecidableEq, Repr

/-! ## Values -/

def getFrom (l : Bytes) (i : Nat) : Option Bytes := if i ≤ l.length then some (l.drop i) else none

/-- `nul_terminated_string`: the text up to the first zero byte. -/
def nulTerminatedString (value : Bytes) : Option Text := fromUtf8 (value.takeWhile (· != 0))

def ipv4FromBytes (value : Bytes) : Option Ipv4Addr := do
  let a ← value[0]?
  let b ← value[1]?
  let c ← value[2]?
  let d ← value[3]?
  return Ipv4Addr.new a b c d

def ipv6FromBytes (value : Bytes) : Option Ipv6Addr :=
  if h : 16 ≤ value.length then some ⟨value.take 16, by simpa using h⟩ else none

def ipFromBytes (family : UInt8) (value : Bytes) : Option IpAddr :=
  if family = afInet then (ipv4FromBytes value).map .v4
  else if family = afInet6 then (ipv6FromBytes value).map .v6
  else none

def unspecifiedAddress (family : UInt8) : IpAddr :=
  if family = afInet6 then .v6 Ipv6Addr.unspecified else .v4 Ipv4Addr.unspecified

def finiteLifetime (seconds : UInt32) : Option UInt32 := if seconds ≠ 0xffffffff then some seconds else none

/-- `dedup`: of equal neighbours, the first stays. -/
def dedup : List Text → List Text
  | a :: b :: rest => if a = b then dedup (b :: rest) else a :: dedup (b :: rest)
  | rest => rest

variable (host : Host)

def attributes (message : Bytes) (payloadSize : Nat) : Checked (Option (List (UInt16 × Bytes))) :=
  attributesFromOffset host message (alignTo4 (MessageHeader.size + payloadSize))

/-- `find_map` on the values of one kind: the first that `f` accepts. -/
def findValue {β : Type} (attributes : List (UInt16 × Bytes)) (expected : UInt16) (f : Bytes → Option β) : Option β :=
  attributes.findSome? (fun a => if a.1 = expected then f a.2 else none)

def firstValue (attributes : List (UInt16 × Bytes)) (expected : UInt16) : Option Bytes :=
  findValue attributes expected some

def findNativeU32 (attributes : List (UInt16 × Bytes)) (expected : UInt16) : Option UInt32 :=
  findValue attributes expected (nativeU32 host)

def findU8 (attributes : List (UInt16 × Bytes)) (expected : UInt16) : Option UInt8 :=
  findValue attributes expected List.head?

def findString (attributes : List (UInt16 × Bytes)) (expected : UInt16) : Option Text :=
  findValue attributes expected nulTerminatedString

/-! ## Links -/

structure LinkMessage where
  linkType : UInt16
  interfaceIndex : Int32
  flags : UInt32
  deriving DecidableEq, Repr

def LinkMessage.size : Nat := 16

def LinkMessage.read (bytes : Bytes) : Option LinkMessage :=
  if bytes.length < LinkMessage.size then none
  else some
    { linkType := host.byteOrder.u16At bytes 2
      interfaceIndex := host.byteOrder.i32At bytes 4
      flags := host.byteOrder.u32At bytes 8 }

/-- `parse_link_info`: the link kind and the VLAN identifier. -/
def parseLinkInfo (value : Bytes) : Checked (Option (Option Text × Option UInt16)) := do
  match ← attributesFromOffset host value 0 with
  | none => return none
  | some attributes =>
    let data ← match firstValue attributes iflaInfoData with
      | none => pure none
      | some data => attributesFromOffset host data 0
    let vlanId := data.bind (fun attributes => findValue attributes iflaVlanId (nativeU16 host))
    return some (findString attributes iflaInfoKind, vlanId)

/-- The alternative names in a list of properties. -/
def altNames (attributes : List (UInt16 × Bytes)) : List Text :=
  attributes.filterMap (fun a => if a.1 = iflaAltIfname then nulTerminatedString a.2 else none)

/-- The record `parse_link` makes of a struct, its attributes and the sections nested in them. -/
def linkOf (link : LinkMessage) (attributes : List (UInt16 × Bytes)) (name : Text)
    (info : Option (Option Text × Option UInt16)) (properties : Option (List (UInt16 × Bytes))) : Link :=
  let state := (findValue attributes iflaOperstate (fun value => value.head?.map operationalState)).getD "unknown"
  { interfaceIndex := link.interfaceIndex
    name := name
    kind := (info.getD (none, none)).1
    hardwareType := link.linkType
    flags := linkFlags link.flags
    operationalState := if state = ("unknown" : Text) ∧ link.flags &&& 0x09 = 0x09 then "up" else state
    carrier := (findU8 attributes iflaCarrier).map (· != 0)
    mtu := findNativeU32 host attributes iflaMtu
    minimumMtu := findNativeU32 host attributes iflaMinMtu
    maximumMtu := findNativeU32 host attributes iflaMaxMtu
    parentIndex := (findNativeU32 host attributes iflaLink).map UInt32.toInt32
    masterIndex := (findNativeU32 host attributes iflaMaster).map UInt32.toInt32
    qdisc := findString attributes iflaQdisc
    transmitQueueLength := findNativeU32 host attributes iflaTxqlen
    «alias» := (findString attributes iflaIfalias).filter (fun text => !text.isEmpty)
    alternativeNames := dedup ((altNames attributes ++ altNames (properties.getD [])).mergeSort textLe)
    vlanId := (info.getD (none, none)).2
    group := findNativeU32 host attributes iflaGroup
    promiscuity := findNativeU32 host attributes iflaPromiscuity
    transmitQueues := findNativeU32 host attributes iflaNumTxQueues
    receiveQueues := findNativeU32 host attributes iflaNumRxQueues
    carrierChanges := findNativeU32 host attributes iflaCarrierChanges
    carrierUpCount := findNativeU32 host attributes iflaCarrierUpCount
    carrierDownCount := findNativeU32 host attributes iflaCarrierDownCount
    physicalPortName := findString attributes iflaPhysPortName
    parentDeviceName := findString attributes iflaParentDevName
    parentDeviceBusName := findString attributes iflaParentDevBusName }

def parseLink (message : Bytes) : Checked (Option Link) := do
  match (getFrom message MessageHeader.size).bind (LinkMessage.read host) with
  | none => return none
  | some link =>
    match ← attributes host message LinkMessage.size with
    | none => return none
    | some attributes =>
      match findString attributes iflaIfname with
      | none => return none
      | some name =>
        let info ← match firstValue attributes iflaLinkinfo with
          | none => pure none
          | some value => parseLinkInfo host value
        let properties ← match firstValue attributes iflaPropList with
          | none => pure none
          | some propertyList => attributesFromOffset host propertyList 0
        return some (linkOf host link attributes name info properties)

/-! ## Addresses -/

structure AddressMessage where
  family : UInt8
  prefixLength : UInt8
  flags : UInt8
  scope : UInt8
  interfaceIndex : UInt32
  deriving DecidableEq, Repr

def AddressMessage.size : Nat := 8

def AddressMessage.read (bytes : Bytes) : Option AddressMessage :=
  if bytes.length < AddressMessage.size then none
  else some
    { family := u8At bytes 0
      prefixLength := u8At bytes 1
      flags := u8At bytes 2
      scope := u8At bytes 3
      interfaceIndex := host.byteOrder.u32At bytes 4 }

structure AddressCacheInfo where
  preferred : UInt32
  valid : UInt32
  deriving DecidableEq, Repr

def AddressCacheInfo.size : Nat := 16

def AddressCacheInfo.read (bytes : Bytes) : Option AddressCacheInfo :=
  if bytes.length < AddressCacheInfo.size then none
  else some
    { preferred := host.byteOrder.u32At bytes 0
      valid := host.byteOrder.u32At bytes 4 }

def parseAddress (message : Bytes) : Checked (Option Address) := do
  match (getFrom message MessageHeader.size).bind (AddressMessage.read host) with
  | none => return none
  | some addressMessage =>
    if addressMessage.family ≠ afInet ∧ addressMessage.family ≠ afInet6 then return none
    else
      match ← attributes host message AddressMessage.size with
      | none => return none
      | some attributes =>
        let ip := ipFromBytes addressMessage.family
        let prefixAddress := findValue attributes ifaAddress ip
        match (findValue attributes ifaLocal ip).or prefixAddress with
        | none => return none
        | some localAddress =>
          let cache := findValue attributes ifaCacheinfo (AddressCacheInfo.read host)
          return some
            { «local» := localAddress
              prefixLength := addressMessage.prefixLength
              peer := prefixAddress.filter (· != localAddress)
              broadcast := findValue attributes ifaBroadcast ip
              interfaceIndex := addressMessage.interfaceIndex.toInt32
              label := findString attributes ifaLabel
              scope := addressScope addressMessage.scope
              flags := addressFlags ((findNativeU32 host attributes ifaFlags).getD addressMessage.flags.toUInt32)
              preferredLifetime := cache.bind (fun cache => finiteLifetime cache.preferred)
              validLifetime := cache.bind (fun cache => finiteLifetime cache.valid) }

/-! ## Routes -/

structure RouteMessage where
  family : UInt8
  destinationPrefix : UInt8
  sourcePrefix : UInt8
  table : UInt8
  protocol : UInt8
  scope : UInt8
  routeType : UInt8
  deriving DecidableEq, Repr

def RouteMessage.size : Nat := 12

def RouteMessage.read (bytes : Bytes) : Option RouteMessage :=
  if bytes.length < RouteMessage.size then none
  else some
    { family := u8At bytes 0
      destinationPrefix := u8At bytes 1
      sourcePrefix := u8At bytes 2
      table := u8At bytes 4
      protocol := u8At bytes 5
      scope := u8At bytes 6
      routeType := u8At bytes 7 }

structure RouteNextHop where
  length : UInt16
  flags : UInt8
  hops : UInt8
  interfaceIndex : Int32
  deriving DecidableEq, Repr

def RouteNextHop.size : Nat := 8

def RouteNextHop.read (bytes : Bytes) : Option RouteNextHop :=
  if bytes.length < RouteNextHop.size then none
  else some
    { length := host.byteOrder.u16At bytes 0
      flags := u8At bytes 2
      hops := u8At bytes 3
      interfaceIndex := host.byteOrder.i32At bytes 4 }

theorem RouteNextHop.read_take (bytes : Bytes) (n : Nat) (h : RouteNextHop.size ≤ n) :
    RouteNextHop.read host (bytes.take n) = RouteNextHop.read host bytes := by
  unfold RouteNextHop.size at h
  by_cases hb : bytes.length < RouteNextHop.size
  · have hb' : bytes.length < 8 := hb
    rw [RouteNextHop.read, RouteNextHop.read, if_pos hb, if_pos (by simp [RouteNextHop.size]; omega)]
  · have hb' : ¬ bytes.length < 8 := hb
    have hu8 : ∀ i, i < n → u8At (bytes.take n) i = u8At bytes i := fun i hi => by
      simp [u8At, hi]
    rw [RouteNextHop.read, RouteNextHop.read, if_neg hb, if_neg (by simp [RouteNextHop.size]; omega)]
    rw [host.byteOrder.u16At_take bytes (by omega), hu8 2 (by omega), hu8 3 (by omega), ByteOrder.i32At,
      ByteOrder.i32At, host.byteOrder.u32At_take bytes (by omega)]

def nextHopFormat : Format UInt8 RouteNextHop where
  size := RouteNextHop.size
  read := RouteNextHop.read host
  length := fun header => header.length.toNat
  align := alignTo4
  padding := 3
  size_pos := by decide
  read_isSome := fun l => by
    unfold RouteNextHop.read
    split
    · rename_i h
      simp only [Option.isSome_none, Bool.false_eq_true, false_iff]
      omega
    · rename_i h
      simp only [Option.isSome_some, true_iff]
      omega
  read_take := RouteNextHop.read_take host
  le_align := le_alignTo4
  align_le := alignTo4_le
  padding_le := by decide

def pushNextHop (family : UInt8) (nextHops : List NextHop) (nextHop : RouteNextHop) (payload : Bytes) :
    Checked (Flow (List NextHop) (List NextHop)) := do
  let attributes ← attributesFromOffset host payload RouteNextHop.size
  let hop :=
    { gateway := attributes.bind (fun attributes => findValue attributes rtaGateway (ipFromBytes family))
      interfaceIndex := nextHop.interfaceIndex
      weight := nextHop.hops.toUInt16 + 1
      flags := nextHopFlags nextHop.flags }
  return .next (nextHops ++ [hop])

/-- `parse_next_hops`: a record that breaks the framing ends the list. -/
def parseNextHops (value : Bytes) (family : UInt8) : Checked (List NextHop) := do
  match ← walk (nextHopFormat host) (pushNextHop host family) (fun nextHops _ => nextHops) value 0 [] with
  | .next nextHops => return nextHops
  | .stop nextHops => return nextHops

def routeOf (route : RouteMessage) (attributes : List (UInt16 × Bytes)) (nextHops : List NextHop) : Route :=
  let ip := ipFromBytes route.family
  { destination := (findValue attributes rtaDst ip).getD (unspecifiedAddress route.family)
    prefixLength := route.destinationPrefix
    sourcePrefix :=
      ((findValue attributes rtaSrc ip).map (fun source => (source, route.sourcePrefix))).filter (fun s => s.2 != 0)
    gateway := findValue attributes rtaGateway ip
    interfaceIndex := (findNativeU32 host attributes rtaOif).map UInt32.toInt32
    metric := findNativeU32 host attributes rtaPriority
    source := findValue attributes rtaPrefsrc ip
    table := (findNativeU32 host attributes rtaTable).getD route.table.toUInt32
    protocol := routeProtocol route.protocol
    scope := routeScope route.scope
    kind := routeKind route.routeType
    nextHops := nextHops }

def parseRoute (message : Bytes) : Checked (Option Route) := do
  match (getFrom message MessageHeader.size).bind (RouteMessage.read) with
  | none => return none
  | some route =>
    if route.family ≠ afInet ∧ route.family ≠ afInet6 then return none
    else
      match ← attributes host message RouteMessage.size with
      | none => return none
      | some attributes =>
        let nextHops ← match firstValue attributes rtaMultipath with
          | none => pure []
          | some value => parseNextHops host value route.family
        return some (routeOf host route attributes nextHops)

theorem attributes_eq (message : Bytes) (payloadSize : Nat) :
    attributes host message payloadSize =
      .ok (attributesIn host (message.drop (alignTo4 (MessageHeader.size + payloadSize)))) :=
  attributesFromOffset_eq host message _

/-- A message with a complete struct of a family the library knows. -/
def isOwn {S : Type} (read : Bytes → Option S) (family : S → UInt8) (message : Bytes) : Bool :=
  match (getFrom message MessageHeader.size).bind read with
  | none => false
  | some record => family record = afInet || family record = afInet6

theorem isOwn_eq_true {S : Type} {read : Bytes → Option S} {family : S → UInt8} {message : Bytes}
    (h : isOwn read family message = true) :
    ∃ record, (getFrom message MessageHeader.size).bind read = some record ∧
      ¬ (family record ≠ afInet ∧ family record ≠ afInet6) := by
  unfold isOwn at h
  cases hread : (getFrom message MessageHeader.size).bind read with
  | none => rw [hread] at h; cases h
  | some record =>
    rw [hread] at h
    refine ⟨record, rfl, fun hne => ?_⟩
    simp [hne.1, hne.2] at h

theorem isOwn_eq_false {S : Type} {read : Bytes → Option S} {family : S → UInt8} {message : Bytes} {record : S}
    (h : isOwn read family message = false)
    (hread : (getFrom message MessageHeader.size).bind read = some record) :
    family record ≠ afInet ∧ family record ≠ afInet6 := by
  unfold isOwn at h
  rw [hread] at h
  simpa using h

section
variable {S T : Type} (read : Bytes → Option S) (family : S → UInt8) (size : Nat)
  (build : S → List (UInt16 × Bytes) → Checked (Option T)) (parse : Bytes → Checked (Option T))

/-- **A parser of the common shape**: a struct, its family, the attributes behind it, and a record of both. -/
def ParsesStruct : Prop :=
  ∀ message, parse message =
    match (getFrom message MessageHeader.size).bind read with
    | none => .ok none
    | some record =>
      if family record ≠ afInet ∧ family record ≠ afInet6 then .ok none
      else
        match attributesIn host (message.drop (alignTo4 (MessageHeader.size + size))) with
        | none => .ok none
        | some attributes => build record attributes

variable {read family size build parse}

theorem ParsesStruct.readsRecords (h : ParsesStruct host read family size build parse)
    (hbuild : ∀ record attributes, ¬ (family record ≠ afInet ∧ family record ≠ afInet6) →
      ∃ value, build record attributes = .ok (some value)) :
    ReadsRecords host parse (isOwn read family) (alignTo4 (MessageHeader.size + size)) := by
  refine ⟨fun message hown => ?_, fun message hown hattributes => ?_, fun message hown hattributes => ?_⟩
  · rw [h]
    cases hread : (getFrom message MessageHeader.size).bind read with
    | none => rfl
    | some record => exact if_pos (isOwn_eq_false hown hread)
  · obtain ⟨record, hread, hfamily⟩ := isOwn_eq_true hown
    rw [h, hread]
    dsimp only
    rw [if_neg hfamily, hattributes]
  · obtain ⟨record, hread, hfamily⟩ := isOwn_eq_true hown
    obtain ⟨as, has⟩ := Option.isSome_iff_exists.1 hattributes
    rw [h, hread]
    dsimp only
    rw [if_neg hfamily, has]
    exact hbuild record as hfamily

/-- What a record was built of. -/
theorem ParsesStruct.exists_build (h : ParsesStruct host read family size build parse) {message : Bytes} {record : T}
    (hrecord : parse message = .ok (some record)) :
    ∃ s attributes, (getFrom message MessageHeader.size).bind read = some s ∧
      ¬ (family s ≠ afInet ∧ family s ≠ afInet6) ∧ build s attributes = .ok (some record) := by
  rw [h] at hrecord
  cases hread : (getFrom message MessageHeader.size).bind read with
  | none =>
    rw [hread] at hrecord
    cases hrecord
  | some s =>
    rw [hread] at hrecord
    dsimp only at hrecord
    split at hrecord
    · cases hrecord
    · next hfamily =>
      split at hrecord
      · cases hrecord
      · next attributes _ => exact ⟨s, attributes, rfl, hfamily, hrecord⟩

end

theorem parseNextHops_isOk (value : Bytes) (family : UInt8) : ∃ hops, parseNextHops host value family = .ok hops := by
  have hstep : ∀ (nextHops : List NextHop), ∀ i ∈ items (nextHopFormat host) (value.drop 0),
      ∃ flow, itemStep (pushNextHop host family) (fun nextHops _ => nextHops) nextHops i = .ok flow := by
    intro nextHops i _
    cases i with
    | fault f => exact ⟨_, rfl⟩
    | record header body =>
      simp only [itemStep, pushNextHop, attributesFromOffset_eq]
      exact ⟨_, rfl⟩
  obtain ⟨flow, hflow⟩ := scan_of_next hstep []
  unfold parseNextHops
  rw [walk_eq_scan, hflow]
  cases flow <;> exact ⟨_, rfl⟩

def isOwnRoute : Bytes → Bool := isOwn RouteMessage.read RouteMessage.family

def routeOffset : Nat := alignTo4 (MessageHeader.size + RouteMessage.size)

def buildRoute (route : RouteMessage) (attributes : List (UInt16 × Bytes)) : Checked (Option Route) := do
  let nextHops ← match firstValue attributes rtaMultipath with
    | none => pure []
    | some value => parseNextHops host value route.family
  return some (routeOf host route attributes nextHops)

theorem parseRoute_parses :
    ParsesStruct host RouteMessage.read RouteMessage.family RouteMessage.size (buildRoute host) (parseRoute host) := by
  intro message
  unfold parseRoute
  cases (getFrom message MessageHeader.size).bind RouteMessage.read with
  | none => rfl
  | some route =>
    dsimp only
    split
    · rfl
    · rw [attributes_eq]
      cases attributesIn host (message.drop (alignTo4 (MessageHeader.size + RouteMessage.size))) <;> rfl

/-- The next hops of a route do not stop it from being built. -/
theorem exists_buildRoute (route : RouteMessage) (attributes : List (UInt16 × Bytes)) :
    ∃ nextHops, buildRoute host route attributes = .ok (some (routeOf host route attributes nextHops)) := by
  unfold buildRoute
  cases hvalue : firstValue attributes rtaMultipath with
  | none => exact ⟨[], rfl⟩
  | some value =>
    obtain ⟨hops, hhops⟩ := parseNextHops_isOk host value route.family
    exact ⟨hops, by simp only [hhops]; rfl⟩

theorem parseRoute_reads : ReadsRecords host (parseRoute host) isOwnRoute routeOffset := by
  refine (parseRoute_parses host).readsRecords host (fun route attributes _ => ?_)
  obtain ⟨nextHops, hbuild⟩ := exists_buildRoute host route attributes
  exact ⟨_, hbuild⟩

/-! ## Rules -/

structure RuleMessage where
  family : UInt8
  destinationPrefix : UInt8
  sourcePrefix : UInt8
  table : UInt8
  action : UInt8
  flags : UInt32
  deriving DecidableEq, Repr

def RuleMessage.size : Nat := 12

def RuleMessage.read (bytes : Bytes) : Option RuleMessage :=
  if bytes.length < RuleMessage.size then none
  else some
    { family := u8At bytes 0
      destinationPrefix := u8At bytes 1
      sourcePrefix := u8At bytes 2
      table := u8At bytes 4
      action := u8At bytes 7
      flags := host.byteOrder.u32At bytes 8 }

def ruleOf (rule : RuleMessage) (attributes : List (UInt16 × Bytes)) : Rule :=
  let ip := ipFromBytes rule.family
  { family := if rule.family = afInet then .ipv4 else .ipv6
    priority := (findNativeU32 host attributes fraPriority).getD 0
    source := (findValue attributes fraSrc ip).map (fun address => (address, rule.sourcePrefix))
    destination := (findValue attributes fraDst ip).map (fun address => (address, rule.destinationPrefix))
    inputInterface := findString attributes fraIifname
    outputInterface := findString attributes fraOifname
    fwmark := findNativeU32 host attributes fraFwmark
    fwmask := findNativeU32 host attributes fraFwmask
    table := (findNativeU32 host attributes fraTable).getD rule.table.toUInt32
    action := ruleAction rule.action
    «goto» := findNativeU32 host attributes fraGoto
    flags := ruleFlags rule.flags }

def parseRule (message : Bytes) : Checked (Option Rule) := do
  match (getFrom message MessageHeader.size).bind (RuleMessage.read host) with
  | none => return none
  | some rule =>
    if rule.family ≠ afInet ∧ rule.family ≠ afInet6 then return none
    else
      match ← attributes host message RuleMessage.size with
      | none => return none
      | some attributes => return some (ruleOf host rule attributes)

def isOwnRule : Bytes → Bool := isOwn (RuleMessage.read host) RuleMessage.family

def ruleOffset : Nat := alignTo4 (MessageHeader.size + RuleMessage.size)

theorem parseRule_parses :
    ParsesStruct host (RuleMessage.read host) RuleMessage.family RuleMessage.size
      (fun rule attributes => .ok (some (ruleOf host rule attributes))) (parseRule host) := by
  intro message
  unfold parseRule
  cases (getFrom message MessageHeader.size).bind (RuleMessage.read host) with
  | none => rfl
  | some rule =>
    dsimp only
    split
    · rfl
    · rw [attributes_eq]
      cases attributesIn host (message.drop (alignTo4 (MessageHeader.size + RuleMessage.size))) <;> rfl

theorem parseRule_reads : ReadsRecords host (parseRule host) (isOwnRule host) ruleOffset :=
  (parseRule_parses host).readsRecords host (fun _ _ _ => ⟨_, rfl⟩)

/-! ## Neighbors -/

structure NeighborMessage where
  family : UInt8
  interfaceIndex : Int32
  state : UInt16
  flags : UInt8
  messageType : UInt8
  deriving DecidableEq, Repr

def NeighborMessage.size : Nat := 12

def NeighborMessage.read (bytes : Bytes) : Option NeighborMessage :=
  if bytes.length < NeighborMessage.size then none
  else some
    { family := u8At bytes 0
      interfaceIndex := host.byteOrder.i32At bytes 4
      state := host.byteOrder.u16At bytes 8
      flags := u8At bytes 10
      messageType := u8At bytes 11 }

structure NeighborCacheInfo where
  confirmed : UInt32
  used : UInt32
  updated : UInt32
  referenceCount : UInt32
  deriving DecidableEq, Repr

def NeighborCacheInfo.size : Nat := 16

def NeighborCacheInfo.read (bytes : Bytes) : Option NeighborCacheInfo :=
  if bytes.length < NeighborCacheInfo.size then none
  else some
    { confirmed := host.byteOrder.u32At bytes 0
      used := host.byteOrder.u32At bytes 4
      updated := host.byteOrder.u32At bytes 8
      referenceCount := host.byteOrder.u32At bytes 12 }

structure NeighborAttributes where
  address : Option IpAddr
  linkAddress : Option Text
  cache : Option NeighborCacheInfo
  probes : Option UInt32
  masterIndex : Option Int32
  protocol : Option Text
  extendedFlags : UInt32
  deriving DecidableEq, Repr

def NeighborAttributes.none : NeighborAttributes := ⟨.none, .none, .none, .none, .none, .none, 0⟩

/-- One arm of the loop: a later attribute of a kind replaces an earlier one. -/
def NeighborAttributes.set (family : UInt8) (read : NeighborAttributes) (kind : UInt16) (value : Bytes) :
    NeighborAttributes :=
  if kind = ndaDst then { read with address := ipFromBytes family value }
  else if kind = ndaLladdr ∧ value ≠ [] then { read with linkAddress := some (formatLinkAddress value) }
  else if kind = ndaCacheinfo then { read with cache := NeighborCacheInfo.read host value }
  else if kind = ndaProbes then { read with probes := nativeU32 host value }
  else if kind = ndaMaster then { read with masterIndex := (nativeU32 host value).map UInt32.toInt32 }
  else if kind = ndaProtocol then { read with protocol := value.head?.map routeProtocol }
  else if kind = ndaFlagsExt then { read with extendedFlags := (nativeU32 host value).getD 0 }
  else read

def setNeighborAttribute (family : UInt8) (read : NeighborAttributes) (header : AttributeHeader) (body : Bytes) :
    Checked (Flow NeighborAttributes Unit) := do
  let value ← sliceFrom body AttributeHeader.size
  return .next (read.set host family (header.kind &&& nlaTypeMask) value)

def parseNeighbor (removed : Bool) (message : Bytes) : Checked (Option Neighbor) := do
  match (getFrom message MessageHeader.size).bind (NeighborMessage.read host) with
  | none => return none
  | some neighborMessage =>
    if neighborMessage.family ≠ afInet ∧ neighborMessage.family ≠ afInet6 then return none
    else
      let offset := alignTo4 (MessageHeader.size + NeighborMessage.size)
      match ← walk (attributeFormat host) (setNeighborAttribute host neighborMessage.family) (fun _ _ => ()) message
          offset .none with
      | .stop () => return none
      | .next read =>
        if !isReportableNeighbor neighborMessage.family neighborMessage.state removed read.linkAddress.isSome then
          return none
        else
          match read.address with
          | none => return none
          | some address =>
            return some
              { address := address
                linkAddress := read.linkAddress
                interfaceIndex := neighborMessage.interfaceIndex
                state := neighborState neighborMessage.state
                flags := neighborFlags neighborMessage.flags read.extendedFlags
                protocol := read.protocol
                kind := routeKind neighborMessage.messageType
                probes := read.probes
                confirmedMsAgo := read.cache.map (fun cache => clockTicksToMs host cache.confirmed)
                usedMsAgo := read.cache.map (fun cache => clockTicksToMs host cache.used)
                updatedMsAgo := read.cache.map (fun cache => clockTicksToMs host cache.updated)
                referenceCount := read.cache.map (·.referenceCount)
                masterIndex := read.masterIndex }

end Networkrs
