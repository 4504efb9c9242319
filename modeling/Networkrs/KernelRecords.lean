import Networkrs.DualStack
import Networkrs.Ethtool
import Networkrs.KernelDump
import Networkrs.ProcNet
/-!
# KernelRecords — the records a kernel sends and what the parsers read

A kernel sends a route, an address, a rule or a neighbor as a struct with a section of attributes behind it, in any
order and among attributes of any other kinds (`Carries`).  Each parser reads back every value the struct and the
attributes carry: `parseRoute_sends`, `parseAddress_sends`, `parseRule_sends` and `parseNeighbor_sends`.
-/
namespace Networkrs

open Machine Framing

variable {host : Host}

/-! ## Fields -/

/-- **A section presents fields**: the value of each field that has one, once, in any order and among attributes of
other kinds. -/
def Presents (fields : List (UInt16 × Option Bytes)) (l : List (UInt16 × Bytes)) : Prop :=
  ∀ f ∈ fields, l.filter (fun a => a.1 = f.1) = (f.2.map (fun value => (f.1, value))).toList

/-- A message carries a struct and a section that presents fields. -/
def Carries (host : Host) (struct : Bytes) (fields : List (UInt16 × Option Bytes)) (m : WireMessage) : Prop :=
  ∃ bytes l, Encodes host l bytes ∧ Presents fields l ∧ m.payload = struct ++ bytes

/-- **A lookup finds the value of its field.** -/
theorem Presents.findValue_eq {β : Type} {fields : List (UInt16 × Option Bytes)} {l : List (UInt16 × Bytes)}
    (h : Presents fields l) (kind : UInt16) {value : Option Bytes} (hfield : fields.lookup kind = some value)
    (f : Bytes → Option β) : findValue l kind f = value.bind f := by
  obtain ⟨before, after, hsplit, -⟩ := List.lookup_eq_some_iff.1 hfield
  have hfilter := h (kind, value) (by rw [hsplit]; simp)
  dsimp only at hfilter
  rw [findValue_eq_findSome?, hfilter]
  cases value with
  | none => rfl
  | some value => rw [Option.map_some, Option.toList_some, List.findSome?_singleton, Option.bind_some]

/-- The bytes of a `u32` value. -/
def u32Value (host : Host) (n : Option UInt32) : Option Bytes := n.map host.byteOrder.u32Bytes

def addressValue (address : Option IpAddr) : Option Bytes := address.map IpAddr.octets

/-- A text, with the zero byte that ends it. -/
def textValue (text : Option Text) : Option Bytes := text.map (fun text => utf8Bytes text ++ [0])

theorem bind_u32Value (n : Option UInt32) : (u32Value host n).bind (nativeU32 host) = n := by
  cases n with
  | none => rfl
  | some n => exact nativeU32_u32Bytes host n

theorem ipAddressMatchesFamily_family (address : IpAddr) : ipAddressMatchesFamily address address.family = true := by
  cases address <;> rfl

theorem bind_addressValue {address : Option IpAddr} {family : UInt8} (h : ∀ a ∈ address, a.family = family) :
    (addressValue address).bind (ipFromBytes family) = address := by
  cases address with
  | none => rfl
  | some a =>
    obtain rfl := h a rfl
    exact ipFromBytes_octets (ipAddressMatchesFamily_family a)

theorem bind_textValue {text : Option Text} (h : ∀ t ∈ text, '\x00' ∉ t) :
    (textValue text).bind nulTerminatedString = text := by
  cases text with
  | none => rfl
  | some t => exact nulTerminatedString_utf8Bytes (h t rfl)

theorem family_known (address : IpAddr) : ¬ (address.family ≠ afInet ∧ address.family ≠ afInet6) := by
  cases address with
  | v4 address => exact fun h => h.1 rfl
  | v6 address => exact fun h => h.2 rfl

/-- **A message that carries a struct and fields is parsed as what is built of them.** -/
theorem ParsesStruct.of_carries {S T : Type} {read : Bytes → Option S} {family : S → UInt8} {fixedSize : Nat}
    {build : S → List (UInt16 × Bytes) → Checked (Option T)} {parse : Bytes → Checked (Option T)}
    (hparse : ParsesStruct host read family fixedSize build parse) {struct : Bytes} {record : S}
    (hread : ∀ rest, read (struct ++ rest) = some record) (hstruct : struct.length = fixedSize)
    (hsize : fixedSize % 4 = 0) (hfamily : ¬ (family record ≠ afInet ∧ family record ≠ afInet6))
    {fields : List (UInt16 × Option Bytes)} {m : WireMessage} (h : Carries host struct fields m) :
    ∃ l, Presents fields l ∧ parse (m.message host) = build record l := by
  obtain ⟨bytes, l, hbytes, hl, hpayload⟩ := h
  refine ⟨l, hl, ?_⟩
  rw [WireMessage.message, hpayload]
  exact hparse.eq_build (m.header.length_bytes host) hstruct hsize (hread bytes) hfamily hbytes

/-! ## Routes -/

/-- A route of the kernel's tables. -/
structure KernelRoute where
  destination : IpAddr
  prefixLength : UInt8
  tos : UInt8
  source : Option (IpAddr × UInt8)
  gateway : Option IpAddr
  interfaceIndex : Option UInt32
  metric : Option UInt32
  preferredSource : Option IpAddr
  table : UInt32
  protocol : UInt8
  scope : UInt8
  routeType : UInt8
  flags : UInt32
  nextHops : List HopRecord
  default_eq : prefixLength = 0 → destination = unspecifiedAddress destination.family
  source_family : ∀ s ∈ source, s.1.family = destination.family ∧ s.2 ≠ 0
  gateway_family : ∀ a ∈ gateway, a.family = destination.family
  preferred_family : ∀ a ∈ preferredSource, a.family = destination.family

namespace KernelRoute

/-- `struct rtmsg`; a table whose number does not fit in a byte is written as `RT_TABLE_COMPAT`. -/
def struct (host : Host) (route : KernelRoute) : Bytes :=
  [route.destination.family, route.prefixLength, (route.source.map Prod.snd).getD 0, route.tos,
    if route.table < 256 then route.table.toUInt8 else 252, route.protocol, route.scope, route.routeType] ++
    host.byteOrder.u32Bytes route.flags

def fields (host : Host) (route : KernelRoute) (hopBytes : Option Bytes) : List (UInt16 × Option Bytes) :=
  [(rtaDst, if route.prefixLength = 0 then none else some route.destination.octets),
    (rtaSrc, addressValue (route.source.map Prod.fst)), (rtaOif, u32Value host route.interfaceIndex),
    (rtaGateway, addressValue route.gateway), (rtaPriority, u32Value host route.metric),
    (rtaPrefsrc, addressValue route.preferredSource), (rtaMultipath, hopBytes),
    (rtaTable, u32Value host (some route.table))]

/-- **A message sends a route.** -/
def Sends (host : Host) (route : KernelRoute) (m : WireMessage) : Prop :=
  ∃ hopBytes : Option Bytes,
    hopBytes.elim (route.nextHops = []) (EncodesHops host route.destination.family route.nextHops) ∧
    Carries host (route.struct host) (route.fields host hopBytes) m

/-- What the program holds of a route. -/
def record (route : KernelRoute) : Route where
  destination := route.destination
  prefixLength := route.prefixLength
  sourcePrefix := route.source
  gateway := route.gateway
  interfaceIndex := route.interfaceIndex.map UInt32.toInt32
  metric := route.metric
  source := route.preferredSource
  table := route.table
  protocol := routeProtocol route.protocol
  scope := routeScope route.scope
  kind := routeKind route.routeType
  nextHops := route.nextHops.map HopRecord.nextHop

theorem read_struct (route : KernelRoute) (rest : Bytes) :
    RouteMessage.read (route.struct host ++ rest) = some
      { family := route.destination.family
        destinationPrefix := route.prefixLength
        sourcePrefix := (route.source.map Prod.snd).getD 0
        table := if route.table < 256 then route.table.toUInt8 else 252
        protocol := route.protocol
        scope := route.scope
        routeType := route.routeType } := by
  have hlength : ¬ (route.struct host ++ rest).length < RouteMessage.size := by
    simp [KernelRoute.struct, RouteMessage.size]
  rw [RouteMessage.read, if_neg hlength]
  rfl

end KernelRoute

/-- The next hops of a route are read from its multipath attribute. -/
theorem buildRoute_of_hops (route : RouteMessage) {l : List (UInt16 × Bytes)} {nextHops : List HopRecord}
    {hopBytes : Option Bytes} (hvalue : firstValue l rtaMultipath = hopBytes)
    (h : hopBytes.elim (nextHops = []) (EncodesHops host route.family nextHops)) :
    buildRoute host route l = .ok (some (routeOf host route l (nextHops.map HopRecord.nextHop))) := by
  unfold buildRoute
  rw [hvalue]
  cases hopBytes with
  | none =>
    obtain rfl : nextHops = [] := h
    rfl
  | some value =>
    have hscan := scan_of_encodesHops host (show EncodesHops host route.family nextHops value from h) [] []
    rw [List.append_nil, items_of_short (nextHopFormat host) (l := []) (nextHopFormat host).size_pos] at hscan
    dsimp only
    rw [parseNextHops_eq_scan, hscan]
    rfl

/-- A route without a destination attribute is the default one of its family. -/
theorem KernelRoute.destination_read (route : KernelRoute) :
    ((if route.prefixLength = 0 then none else some route.destination.octets : Option Bytes).bind
      (ipFromBytes route.destination.family)).getD (unspecifiedAddress route.destination.family) =
      route.destination := by
  by_cases h : route.prefixLength = 0
  · rw [if_pos h]
    exact (route.default_eq h).symm
  · rw [if_neg h, Option.bind_some, ipFromBytes_octets (ipAddressMatchesFamily_family _)]
    rfl

theorem KernelRoute.source_read (route : KernelRoute) :
    (((addressValue (route.source.map Prod.fst)).bind (ipFromBytes route.destination.family)).map
      (fun source => (source, (route.source.map Prod.snd).getD 0))).filter (fun s => s.2 != 0) = route.source := by
  cases hsource : route.source with
  | none => rfl
  | some s =>
    obtain ⟨hfamily, hne⟩ := route.source_family s hsource
    have hip : (addressValue (some s.1)).bind (ipFromBytes route.destination.family) = some s.1 :=
      bind_addressValue (by
        rintro a ⟨⟩
        exact hfamily)
    simp only [Option.map_some, hip, Option.getD_some]
    exact if_pos (by simpa using hne)

/-- **A route is read as it was sent.** -/
theorem parseRoute_sends (route : KernelRoute) (m : WireMessage) (h : route.Sends host m) :
    parseRoute host (m.message host) = .ok (some route.record) := by
  obtain ⟨hopBytes, hhops, hcarries⟩ := h
  obtain ⟨l, hl, hparse⟩ := (parseRoute_parses host).of_carries route.read_struct
    (by simp [KernelRoute.struct, RouteMessage.size]) rfl (family_known route.destination) hcarries
  have hip : ∀ {a : Option IpAddr}, (∀ x ∈ a, x.family = route.destination.family) →
      (addressValue a).bind (ipFromBytes route.destination.family) = a := bind_addressValue
  have hmultipath : firstValue l rtaMultipath = hopBytes :=
    (hl.findValue_eq rtaMultipath rfl some).trans (Option.bind_fun_some hopBytes)
  have hdestination := hl.findValue_eq rtaDst rfl (ipFromBytes route.destination.family)
  have hsource := hl.findValue_eq rtaSrc rfl (ipFromBytes route.destination.family)
  have hgateway := hl.findValue_eq rtaGateway rfl (ipFromBytes route.destination.family)
  have hpreferred := hl.findValue_eq rtaPrefsrc rfl (ipFromBytes route.destination.family)
  have hinterface := hl.findValue_eq rtaOif rfl (nativeU32 host)
  have hmetric := hl.findValue_eq rtaPriority rfl (nativeU32 host)
  have htable := hl.findValue_eq rtaTable rfl (nativeU32 host)
  rw [hip route.gateway_family] at hgateway
  rw [hip route.preferred_family] at hpreferred
  rw [bind_u32Value] at hinterface hmetric htable
  rw [hparse, buildRoute_of_hops _ hmultipath hhops]
  simp only [routeOf, findNativeU32, hdestination, hsource, hgateway, hpreferred, hinterface, hmetric, htable,
    route.destination_read, route.source_read]
  rfl

/-! ## Rules -/

/-- A routing rule of the kernel. -/
structure KernelRule where
  family : UInt8
  priority : UInt32
  source : Option (IpAddr × UInt8)
  destination : Option (IpAddr × UInt8)
  tos : UInt8
  inputInterface : Option Text
  outputInterface : Option Text
  fwmark : Option UInt32
  fwmask : Option UInt32
  table : UInt32
  action : UInt8
  «goto» : Option UInt32
  flags : UInt32
  family_known : ¬ (family ≠ afInet ∧ family ≠ afInet6)
  source_family : ∀ s ∈ source, s.1.family = family
  destination_family : ∀ s ∈ destination, s.1.family = family
  input_text : ∀ t ∈ inputInterface, '\x00' ∉ t
  output_text : ∀ t ∈ outputInterface, '\x00' ∉ t

namespace KernelRule

/-- `struct fib_rule_hdr`. -/
def struct (host : Host) (rule : KernelRule) : Bytes :=
  [rule.family, (rule.destination.map Prod.snd).getD 0, (rule.source.map Prod.snd).getD 0, rule.tos,
    if rule.table < 256 then rule.table.toUInt8 else 252, 0, 0, rule.action] ++ host.byteOrder.u32Bytes rule.flags

/-- The attributes; a priority of zero has none. -/
def fields (host : Host) (rule : KernelRule) : List (UInt16 × Option Bytes) :=
  [(fraDst, addressValue (rule.destination.map Prod.fst)), (fraSrc, addressValue (rule.source.map Prod.fst)),
    (fraIifname, textValue rule.inputInterface), (fraGoto, u32Value host rule.goto),
    (fraPriority, u32Value host (if rule.priority = 0 then none else some rule.priority)),
    (fraFwmark, u32Value host rule.fwmark), (fraTable, u32Value host (some rule.table)),
    (fraFwmask, u32Value host rule.fwmask), (fraOifname, textValue rule.outputInterface)]

def Sends (host : Host) (rule : KernelRule) (m : WireMessage) : Prop :=
  Carries host (rule.struct host) (rule.fields host) m

def record (rule : KernelRule) : Rule where
  family := if rule.family = afInet then .ipv4 else .ipv6
  priority := rule.priority
  source := rule.source
  destination := rule.destination
  inputInterface := rule.inputInterface
  outputInterface := rule.outputInterface
  fwmark := rule.fwmark
  fwmask := rule.fwmask
  table := rule.table
  action := ruleAction rule.action
  «goto» := rule.goto
  flags := ruleFlags rule.flags

theorem read_struct (rule : KernelRule) (rest : Bytes) :
    RuleMessage.read host (rule.struct host ++ rest) = some
      { family := rule.family
        destinationPrefix := (rule.destination.map Prod.snd).getD 0
        sourcePrefix := (rule.source.map Prod.snd).getD 0
        table := if rule.table < 256 then rule.table.toUInt8 else 252
        action := rule.action
        flags := rule.flags } := by
  have hlength : ¬ (rule.struct host ++ rest).length < RuleMessage.size := by
    simp [KernelRule.struct, RuleMessage.size]
  unfold RuleMessage.read
  rw [if_neg hlength]
  simp (disch := simp) only [KernelRule.struct, List.append_assoc, ByteOrder.u32At_skip, ByteOrder.u32At_front,
    List.length_cons, List.length_nil, Nat.reduceAdd, Nat.reduceSub]
  rfl

end KernelRule

/-- An address with the length of its prefix is read from its attribute and the struct. -/
theorem prefix_read {family : UInt8} {address : Option (IpAddr × UInt8)} (h : ∀ a ∈ address, a.1.family = family) :
    ((addressValue (address.map Prod.fst)).bind (ipFromBytes family)).map
      (fun a => (a, (address.map Prod.snd).getD 0)) = address := by
  have hip : (addressValue (address.map Prod.fst)).bind (ipFromBytes family) = address.map Prod.fst := by
    refine bind_addressValue (fun a ha => ?_)
    obtain ⟨x, hx, rfl⟩ := Option.mem_map.1 ha
    exact h x hx
  rw [hip]
  cases address <;> rfl

theorem KernelRule.priority_read (rule : KernelRule) :
    (if rule.priority = 0 then none else some rule.priority).getD 0 = rule.priority := by
  by_cases h : rule.priority = 0
  · rw [if_pos h, h]
    rfl
  · rw [if_neg h]
    rfl

/-- **A rule is read as it was sent.** -/
theorem parseRule_sends (rule : KernelRule) (m : WireMessage) (h : rule.Sends host m) :
    parseRule host (m.message host) = .ok (some rule.record) := by
  obtain ⟨l, hl, hparse⟩ := (parseRule_parses host).of_carries rule.read_struct
    (by simp [KernelRule.struct, RuleMessage.size]) rfl rule.family_known h
  have hsource := hl.findValue_eq fraSrc rfl (ipFromBytes rule.family)
  have hdestination := hl.findValue_eq fraDst rfl (ipFromBytes rule.family)
  have hinput := hl.findValue_eq fraIifname rfl nulTerminatedString
  have houtput := hl.findValue_eq fraOifname rfl nulTerminatedString
  have hpriority := hl.findValue_eq fraPriority rfl (nativeU32 host)
  have hfwmark := hl.findValue_eq fraFwmark rfl (nativeU32 host)
  have hfwmask := hl.findValue_eq fraFwmask rfl (nativeU32 host)
  have htable := hl.findValue_eq fraTable rfl (nativeU32 host)
  have hgoto := hl.findValue_eq fraGoto rfl (nativeU32 host)
  rw [bind_textValue rule.input_text] at hinput
  rw [bind_textValue rule.output_text] at houtput
  rw [bind_u32Value] at hpriority hfwmark hfwmask htable hgoto
  rw [hparse]
  simp only [ruleOf, findNativeU32, findString, hsource, hdestination, hinput, houtput, hpriority, hfwmark, hfwmask,
    htable, hgoto, prefix_read rule.source_family, prefix_read rule.destination_family, rule.priority_read]
  rfl

/-! ## Addresses -/

/-- An address of an interface.  An IPv6 address stands in `IFA_ADDRESS` alone, unless it has a peer. -/
structure KernelAddress where
  «local» : IpAddr
  prefixLength : UInt8
  peer : Option IpAddr
  broadcast : Option IpAddr
  interfaceIndex : UInt32
  label : Option Text
  scope : UInt8
  flags : UInt32
  cache : Option (UInt32 × UInt32 × UInt32 × UInt32)
  peer_ne : ∀ a ∈ peer, a.family = «local».family ∧ a ≠ «local»
  broadcast_family : ∀ a ∈ broadcast, a.family = «local».family
  label_text : ∀ t ∈ label, '\x00' ∉ t

namespace KernelAddress

/-- `struct ifaddrmsg`; the flags that do not fit in its byte are in `IFA_FLAGS` alone. -/
def struct (host : Host) (address : KernelAddress) : Bytes :=
  [address.local.family, address.prefixLength, address.flags.toUInt8, address.scope] ++
    host.byteOrder.u32Bytes address.interfaceIndex

/-- `struct ifa_cacheinfo`. -/
def cacheBytes (host : Host) (cache : UInt32 × UInt32 × UInt32 × UInt32) : Bytes :=
  host.byteOrder.u32Bytes cache.1 ++ (host.byteOrder.u32Bytes cache.2.1 ++
    (host.byteOrder.u32Bytes cache.2.2.1 ++ host.byteOrder.u32Bytes cache.2.2.2))

def localField (address : KernelAddress) : Option IpAddr :=
  if address.local.family = afInet ∨ address.peer.isSome then some address.local else none

def fields (host : Host) (address : KernelAddress) : List (UInt16 × Option Bytes) :=
  [(ifaAddress, addressValue (some (address.peer.getD address.local))), (ifaLocal, addressValue address.localField),
    (ifaLabel, textValue address.label), (ifaBroadcast, addressValue address.broadcast),
    (ifaCacheinfo, address.cache.map (cacheBytes host)), (ifaFlags, u32Value host (some address.flags))]

def Sends (host : Host) (address : KernelAddress) (m : WireMessage) : Prop :=
  Carries host (address.struct host) (address.fields host) m

def record (address : KernelAddress) : Address where
  «local» := address.local
  prefixLength := address.prefixLength
  peer := address.peer
  broadcast := address.broadcast
  interfaceIndex := address.interfaceIndex.toInt32
  label := address.label
  scope := addressScope address.scope
  flags := addressFlags address.flags
  preferredLifetime := address.cache.bind (fun cache => finiteLifetime cache.1)
  validLifetime := address.cache.bind (fun cache => finiteLifetime cache.2.1)

theorem read_struct (address : KernelAddress) (rest : Bytes) :
    AddressMessage.read host (address.struct host ++ rest) = some
      { family := address.local.family
        prefixLength := address.prefixLength
        flags := address.flags.toUInt8
        scope := address.scope
        interfaceIndex := address.interfaceIndex } := by
  have hlength : ¬ (address.struct host ++ rest).length < AddressMessage.size := by
    simp [KernelAddress.struct, AddressMessage.size]
  unfold AddressMessage.read
  rw [if_neg hlength]
  simp (disch := simp) only [KernelAddress.struct, List.append_assoc, ByteOrder.u32At_skip, ByteOrder.u32At_front,
    List.length_cons, List.length_nil, Nat.reduceAdd, Nat.reduceSub]
  rfl

theorem read_cacheBytes (cache : UInt32 × UInt32 × UInt32 × UInt32) :
    AddressCacheInfo.read host (cacheBytes host cache) = some ⟨cache.1, cache.2.1⟩ := by
  unfold AddressCacheInfo.read
  rw [if_neg (by simp [cacheBytes, AddressCacheInfo.size])]
  simp (disch := simp) only [cacheBytes, ByteOrder.u32At_skip, ByteOrder.u32At_front, ByteOrder.length_u32Bytes,
    Nat.reduceSub]

end KernelAddress

/-- The record `parse_address` makes of a struct and its attributes. -/
def buildAddress (host : Host) (addressMessage : AddressMessage) (attributes : List (UInt16 × Bytes)) :
    Option Address :=
  let ip := ipFromBytes addressMessage.family
  let prefixAddress := findValue attributes ifaAddress ip
  match (findValue attributes ifaLocal ip).or prefixAddress with
  | none => none
  | some localAddress =>
    let cache := findValue attributes ifaCacheinfo (AddressCacheInfo.read host)
    some
      { «local» := localAddress
        prefixLength := addressMessage.prefixLength
        peer := prefixAddress.filter (· != localAddress)
        broadcast := findValue attributes ifaBroadcast ip
        interfaceIndex := addressMessage.interfaceIndex.toInt32
        label := findString attributes ifaLabel
        scope := addressScope addressMessage.scope
        flags := addressFlags ((findNativeU32 host attributes ifaFlags).getD addressMessage.flags.toUInt32)
        preferredLifetime := cache.bind (fun cache => finiteLifetime cache.preferred)
        validLifetime := cache.bind (fun cache => finiteLifetime cache.valid) }

theorem parseAddress_parses :
    ParsesStruct host (AddressMessage.read host) AddressMessage.family AddressMessage.size
      (fun addressMessage attributes => .ok (buildAddress host addressMessage attributes)) (parseAddress host) := by
  intro message
  unfold parseAddress
  cases (getFrom message MessageHeader.size).bind (AddressMessage.read host) with
  | none => rfl
  | some addressMessage =>
    dsimp only
    split
    · rfl
    · rw [attributes_eq, ok_bind]
      cases attributesIn host (message.drop (alignTo4 (MessageHeader.size + AddressMessage.size))) with
      | none => rfl
      | some l =>
        unfold buildAddress
        dsimp only
        cases (findValue l ifaLocal (ipFromBytes addressMessage.family)).or
          (findValue l ifaAddress (ipFromBytes addressMessage.family)) <;> rfl

/-- The address of the interface is in its own attribute, or else in that of the prefix. -/
theorem KernelAddress.localField_or (address : KernelAddress) :
    address.localField.or (some (address.peer.getD address.local)) = some address.local := by
  unfold KernelAddress.localField
  by_cases h : address.local.family = afInet ∨ address.peer.isSome
  · rw [if_pos h, Option.some_or]
  · rw [if_neg h, Option.none_or]
    rw [not_or, Bool.not_eq_true, Option.isSome_eq_false_iff, Option.isNone_iff_eq_none] at h
    rw [h.2]
    rfl

/-- A prefix of the address itself is no peer. -/
theorem KernelAddress.filter_peer (address : KernelAddress) :
    (some (address.peer.getD address.local)).filter (· != address.local) = address.peer := by
  cases hpeer : address.peer with
  | none => exact if_neg (by simp)
  | some a => exact if_pos (by simpa using (address.peer_ne a hpeer).2)

/-- **An address is read as it was sent.** -/
theorem parseAddress_sends (address : KernelAddress) (m : WireMessage) (h : address.Sends host m) :
    parseAddress host (m.message host) = .ok (some address.record) := by
  obtain ⟨l, hl, hparse⟩ := parseAddress_parses.of_carries address.read_struct
    (by simp [KernelAddress.struct, AddressMessage.size]) rfl (family_known address.local) h
  have hnetwork := hl.findValue_eq ifaAddress rfl (ipFromBytes address.local.family)
  have hlocal := hl.findValue_eq ifaLocal rfl (ipFromBytes address.local.family)
  have hlabel := hl.findValue_eq ifaLabel rfl nulTerminatedString
  have hbroadcast := hl.findValue_eq ifaBroadcast rfl (ipFromBytes address.local.family)
  have hcache := hl.findValue_eq ifaCacheinfo rfl (AddressCacheInfo.read host)
  have hflags := hl.findValue_eq ifaFlags rfl (nativeU32 host)
  rw [bind_addressValue (by
    rintro a ⟨⟩
    cases hpeer : address.peer with
    | none => rfl
    | some a => exact (address.peer_ne a hpeer).1)] at hnetwork
  rw [bind_addressValue (by
    intro a ha
    unfold KernelAddress.localField at ha
    split at ha
    · rw [Option.some.inj ha]
    · cases ha)] at hlocal
  rw [bind_textValue address.label_text] at hlabel
  rw [bind_addressValue address.broadcast_family] at hbroadcast
  rw [bind_u32Value] at hflags
  rw [hparse]
  simp only [buildAddress, findString, findNativeU32, hnetwork, hlocal, hlabel, hbroadcast, hcache, hflags,
    address.localField_or, address.filter_peer]
  unfold KernelAddress.record
  cases hvalue : address.cache with
  | none => rfl
  | some cache =>
    simp only [Option.map_some, Option.bind_some, KernelAddress.read_cacheBytes]
    rfl

/-! ## Neighbors -/

/-- A neighbor of the kernel's table. -/
structure KernelNeighbor where
  address : IpAddr
  interfaceIndex : Int32
  state : UInt16
  flags : UInt8
  messageType : UInt8
  linkAddress : Option Bytes
  cache : Option NeighborCacheInfo
  probes : Option UInt32
  masterIndex : Option UInt32
  protocol : Option UInt8
  extendedFlags : Option UInt32

namespace KernelNeighbor

/-- `struct ndmsg`. -/
def struct (host : Host) (neighbor : KernelNeighbor) : Bytes :=
  [neighbor.address.family, 0, 0, 0] ++ (host.byteOrder.u32Bytes neighbor.interfaceIndex.toUInt32 ++
    (host.byteOrder.u16Bytes neighbor.state ++ [neighbor.flags, neighbor.messageType]))

/-- `struct nda_cacheinfo`. -/
def cacheBytes (host : Host) (cache : NeighborCacheInfo) : Bytes :=
  host.byteOrder.u32Bytes cache.confirmed ++ (host.byteOrder.u32Bytes cache.used ++
    (host.byteOrder.u32Bytes cache.updated ++ host.byteOrder.u32Bytes cache.referenceCount))

def fields (host : Host) (neighbor : KernelNeighbor) : List (UInt16 × Option Bytes) :=
  [(ndaDst, some neighbor.address.octets), (ndaLladdr, neighbor.linkAddress),
    (ndaCacheinfo, neighbor.cache.map (cacheBytes host)), (ndaProbes, u32Value host neighbor.probes),
    (ndaMaster, u32Value host neighbor.masterIndex), (ndaProtocol, neighbor.protocol.map (fun protocol => [protocol])),
    (ndaFlagsExt, u32Value host neighbor.extendedFlags)]

def Sends (host : Host) (neighbor : KernelNeighbor) (m : WireMessage) : Prop :=
  Carries host (neighbor.struct host) (neighbor.fields host) m

/-- The link address, which a device without addresses sends as no bytes. -/
def linkBytes (neighbor : KernelNeighbor) : Option Bytes := neighbor.linkAddress.filter (fun bytes => bytes ≠ [])

/-- What the program holds of a neighbor that it lists. -/
def record (host : Host) (neighbor : KernelNeighbor) : Neighbor where
  address := neighbor.address
  linkAddress := neighbor.linkBytes.map formatLinkAddress
  interfaceIndex := neighbor.interfaceIndex
  state := neighborState neighbor.state
  flags := neighborFlags neighbor.flags (neighbor.extendedFlags.getD 0)
  protocol := neighbor.protocol.map routeProtocol
  kind := routeKind neighbor.messageType
  probes := neighbor.probes
  confirmedMsAgo := neighbor.cache.map (fun cache => clockTicksToMs host cache.confirmed)
  usedMsAgo := neighbor.cache.map (fun cache => clockTicksToMs host cache.used)
  updatedMsAgo := neighbor.cache.map (fun cache => clockTicksToMs host cache.updated)
  referenceCount := neighbor.cache.map (·.referenceCount)
  masterIndex := neighbor.masterIndex.map UInt32.toInt32

def isListed (neighbor : KernelNeighbor) : Bool :=
  isReportableNeighbor neighbor.address.family neighbor.state false neighbor.linkBytes.isSome

theorem read_struct (neighbor : KernelNeighbor) (rest : Bytes) :
    NeighborMessage.read host (neighbor.struct host ++ rest) = some
      { family := neighbor.address.family
        interfaceIndex := neighbor.interfaceIndex
        state := neighbor.state
        flags := neighbor.flags
        messageType := neighbor.messageType } := by
  have hlength : ¬ (neighbor.struct host ++ rest).length < NeighborMessage.size := by
    simp [KernelNeighbor.struct, NeighborMessage.size]
    omega
  unfold NeighborMessage.read
  rw [if_neg hlength]
  simp (disch := simp) only [KernelNeighbor.struct, List.append_assoc, ByteOrder.i32At, ByteOrder.u32At_skip,
    ByteOrder.u32At_front, ByteOrder.u16At_skip, ByteOrder.u16At_front, u8At_skip, ByteOrder.length_u32Bytes,
    ByteOrder.length_u16Bytes, List.length_cons, List.length_nil, Nat.reduceAdd, Nat.reduceSub,
    Int32.toInt32_toUInt32]
  rfl

theorem read_cacheBytes (cache : NeighborCacheInfo) :
    NeighborCacheInfo.read host (cacheBytes host cache) = some cache := by
  unfold NeighborCacheInfo.read
  rw [if_neg (by simp [cacheBytes, NeighborCacheInfo.size])]
  simp (disch := simp) only [cacheBytes, ByteOrder.u32At_skip, ByteOrder.u32At_front, ByteOrder.length_u32Bytes,
    Nat.reduceSub, ByteOrder.u32At_u32Bytes]

end KernelNeighbor

/-- **A local that one kind of attributes sets** holds, behind a section, what the attributes of that kind left. -/
theorem foldl_of_kind {σ β : Type} (step : σ → UInt16 × Bytes → σ) (held : σ → β) (kind : UInt16)
    (f : Bytes → β → β) (hstep : ∀ s a, held (step s a) = if a.1 = kind then f a.2 (held s) else held s) :
    ∀ (l : List (UInt16 × Bytes)) (s : σ),
      held (l.foldl step s) = (l.filter (fun a => a.1 = kind)).foldl (fun x a => f a.2 x) (held s)
  | [], s => rfl
  | a :: l, s => by
    rw [List.foldl_cons, foldl_of_kind step held kind f hstep l, hstep]
    by_cases h : a.1 = kind
    · rw [if_pos h, List.filter_cons_of_pos (by simpa using h), List.foldl_cons]
    · rw [if_neg h, List.filter_cons_of_neg (by simpa using h)]

theorem Presents.foldl_eq {σ β : Type} {fields : List (UInt16 × Option Bytes)} {l : List (UInt16 × Bytes)}
    (h : Presents fields l) (kind : UInt16) {value : Option Bytes} (hfield : fields.lookup kind = some value)
    (step : σ → UInt16 × Bytes → σ) (held : σ → β) (f : Bytes → β → β)
    (hstep : ∀ s a, held (step s a) = if a.1 = kind then f a.2 (held s) else held s) (s : σ) :
    held (l.foldl step s) = value.elim (held s) (fun value => f value (held s)) := by
  obtain ⟨before, after, hsplit, -⟩ := List.lookup_eq_some_iff.1 hfield
  have hfilter := h (kind, value) (by rw [hsplit]; simp)
  dsimp only at hfilter
  rw [foldl_of_kind step held kind f hstep, hfilter]
  cases value <;> rfl

/-- What the loop of `parse_neighbor` holds behind the attributes of a neighbor. -/
theorem KernelNeighbor.foldl_set (neighbor : KernelNeighbor) {l : List (UInt16 × Bytes)}
    (hl : Presents (neighbor.fields host) l) :
    l.foldl (fun read a => read.set host neighbor.address.family a.1 a.2) NeighborAttributes.none =
      { address := some neighbor.address
        linkAddress := neighbor.linkBytes.map formatLinkAddress
        cache := neighbor.cache
        probes := neighbor.probes
        masterIndex := neighbor.masterIndex.map UInt32.toInt32
        protocol := neighbor.protocol.map routeProtocol
        extendedFlags := neighbor.extendedFlags.getD 0 } := by
  let step := fun (read : NeighborAttributes) (a : UInt16 × Bytes) =>
    read.set host neighbor.address.family a.1 a.2
  have hset := fun (read : NeighborAttributes) (a : UInt16 × Bytes) =>
    @NeighborAttributes.set_eq host neighbor.address.family read a.1 a.2
  have haddress := hl.foldl_eq ndaDst rfl step NeighborAttributes.address
    (fun value _ => ipFromBytes neighbor.address.family value)
    (fun read a => congrArg NeighborAttributes.address (hset read a)) .none
  have hlinkAddress := hl.foldl_eq ndaLladdr rfl step NeighborAttributes.linkAddress
    (fun value held => if value ≠ [] then some (formatLinkAddress value) else held)
    (fun read a => (congrArg NeighborAttributes.linkAddress (hset read a)).trans (ite_and ..)) .none
  have hcache := hl.foldl_eq ndaCacheinfo rfl step NeighborAttributes.cache
    (fun value _ => NeighborCacheInfo.read host value)
    (fun read a => congrArg NeighborAttributes.cache (hset read a)) .none
  have hprobes := hl.foldl_eq ndaProbes rfl step NeighborAttributes.probes (fun value _ => nativeU32 host value)
    (fun read a => congrArg NeighborAttributes.probes (hset read a)) .none
  have hmaster := hl.foldl_eq ndaMaster rfl step NeighborAttributes.masterIndex
    (fun value _ => (nativeU32 host value).map UInt32.toInt32)
    (fun read a => congrArg NeighborAttributes.masterIndex (hset read a)) .none
  have hprotocol := hl.foldl_eq ndaProtocol rfl step NeighborAttributes.protocol
    (fun value _ => value.head?.map routeProtocol)
    (fun read a => congrArg NeighborAttributes.protocol (hset read a)) .none
  have hflags := hl.foldl_eq ndaFlagsExt rfl step NeighborAttributes.extendedFlags
    (fun value _ => (nativeU32 host value).getD 0)
    (fun read a => congrArg NeighborAttributes.extendedFlags (hset read a)) .none
  show l.foldl step .none = _
  generalize l.foldl step .none = read at *
  obtain ⟨address, linkAddress, cache, probes, masterIndex, protocol, extendedFlags⟩ := read
  simp only [NeighborAttributes.mk.injEq]
  refine ⟨?_, ?_, ?_, ?_, ?_, ?_, ?_⟩
  · exact haddress.trans (ipFromBytes_octets (ipAddressMatchesFamily_family _))
  · refine hlinkAddress.trans ?_
    unfold KernelNeighbor.linkBytes
    cases neighbor.linkAddress with
    | none => rfl
    | some bytes => cases bytes <;> rfl
  · refine hcache.trans ?_
    cases neighbor.cache with
    | none => rfl
    | some cache => exact KernelNeighbor.read_cacheBytes cache
  · refine hprobes.trans ?_
    cases neighbor.probes with
    | none => rfl
    | some n => exact nativeU32_u32Bytes host n
  · refine hmaster.trans ?_
    cases neighbor.masterIndex with
    | none => rfl
    | some n => exact congrArg (Option.map UInt32.toInt32) (nativeU32_u32Bytes host n)
  · refine hprotocol.trans ?_
    cases neighbor.protocol <;> rfl
  · refine hflags.trans ?_
    cases neighbor.extendedFlags with
    | none => rfl
    | some n => exact congrArg (fun flags => flags.getD 0) (nativeU32_u32Bytes host n)

/-- **A neighbor is read as it was sent**, when it is one that is listed. -/
theorem parseNeighbor_sends (neighbor : KernelNeighbor) (m : WireMessage) (h : neighbor.Sends host m) :
    parseNeighbor host false (m.message host) =
      .ok (if neighbor.isListed then some (neighbor.record host) else none) := by
  obtain ⟨bytes, l, hbytes, hl, hpayload⟩ := h
  have hheader : (m.header.bytes host).length = MessageHeader.size := m.header.length_bytes host
  have hstruct : (neighbor.struct host).length = NeighborMessage.size := by
    simp [KernelNeighbor.struct, NeighborMessage.size]
  unfold parseNeighbor
  rw [WireMessage.message, hpayload, getFrom_behind hheader, Option.bind_some, neighbor.read_struct]
  dsimp only
  rw [if_neg (family_known neighbor.address), walk_setNeighborAttribute, attributesIn_behind hheader hstruct rfl hbytes]
  dsimp only
  rw [neighbor.foldl_set hl]
  rw [ok_bind]
  dsimp only
  rw [Option.isSome_map]
  unfold KernelNeighbor.isListed
  cases isReportableNeighbor neighbor.address.family neighbor.state false neighbor.linkBytes.isSome <;> rfl

end Networkrs
