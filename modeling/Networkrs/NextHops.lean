import Networkrs.AttributeOrder
/-!
# NextHops — multipath next hops, encoded and read back

The value of a multipath attribute is a list of `rtnexthop` records, each with an attribute section of its own whose end
is the record's declared length (`EncodesHops`).  `parse_next_hops` reads one next hop per record, in order, whatever
other attributes stand beside the gateway, and stops at a record whose length it cannot have
(`parseNextHops_reads_encoded`).
-/
namespace Networkrs

open Machine Framing

/-- `ip_address_matches_family`. -/
def ipAddressMatchesFamily : IpAddr → UInt8 → Bool
  | .v4 _, family => family = afInet
  | .v6 _, family => family = afInet6

theorem ipv4FromBytes_octets (address : Ipv4Addr) : ipv4FromBytes address.octets = some address := by
  obtain ⟨bits⟩ := address
  have hlt := bits.toNat_lt
  have hnew : (ipv4FromBytes (Ipv4Addr.octets ⟨bits⟩)) = some (Ipv4Addr.new (UInt8.ofNat (bits.toNat / 2 ^ 24))
      (UInt8.ofNat (bits.toNat / 2 ^ 16)) (UInt8.ofNat (bits.toNat / 2 ^ 8)) (UInt8.ofNat bits.toNat)) := rfl
  rw [hnew, Ipv4Addr.new]
  simp only [UInt8.toNat_ofNat', Option.some.injEq, Ipv4Addr.mk.injEq]
  apply UInt32.toNat_inj.1
  rw [UInt32.toNat_ofNat']
  omega

theorem ipFromBytes_octets {address : IpAddr} {family : UInt8} (h : ipAddressMatchesFamily address family = true) :
    ipFromBytes family address.octets = some address := by
  cases address with
  | v4 address =>
    obtain rfl := of_decide_eq_true h
    rw [ipFromBytes, if_pos rfl, IpAddr.octets, ipv4FromBytes_octets]
    rfl
  | v6 address =>
    obtain rfl := of_decide_eq_true h
    rw [ipFromBytes, if_neg (by decide), if_pos rfl, IpAddr.octets, ipv6FromBytes,
      dif_pos (Nat.le_of_eq address.length_octets.symm)]
    have htake : address.octets.take 16 = address.octets := List.take_of_length_le (Nat.le_of_eq address.length_octets)
    simp only [htake, Option.map_some]

/-! ## Records -/

/-- A next hop as it is sent: its gateway, and the other attributes in front of it and behind it. -/
structure HopRecord where
  flags : UInt8
  hops : UInt8
  interfaceIndex : Int32
  gateway : Option IpAddr
  before : List (UInt16 × Bytes)
  after : List (UInt16 × Bytes)
  deriving DecidableEq, Repr

namespace HopRecord

def attributes (hop : HopRecord) : List (UInt16 × Bytes) :=
  hop.before ++ (hop.gateway.toList.map (fun address => (rtaGateway, address.octets)) ++ hop.after)

/-- The gateway is of the family of its route, and the other attributes are no gateways. -/
structure WellFormed (family : UInt8) (hop : HopRecord) : Prop where
  gateway : ∀ address, hop.gateway = some address → ipAddressMatchesFamily address family = true
  before : ∀ a ∈ hop.before, a.1 ≠ rtaGateway
  after : ∀ a ∈ hop.after, a.1 ≠ rtaGateway

/-- The next hop a record stands for. -/
def nextHop (hop : HopRecord) : NextHop where
  gateway := hop.gateway
  interfaceIndex := hop.interfaceIndex
  weight := hop.hops.toUInt16 + 1
  flags := nextHopFlags hop.flags

/-- The weight is one more than the hops byte, without a wrap. -/
theorem toNat_weight (hop : HopRecord) : hop.nextHop.weight.toNat = hop.hops.toNat + 1 := by
  have hlt := hop.hops.toNat_lt
  rw [nextHop, UInt16.toNat_add, UInt8.toNat_toUInt16]
  simp only [UInt16.toNat_one]
  omega

end HopRecord

theorem findValue_of_ne {β : Type} (f : Bytes → Option β) {expected : UInt16} {l : List (UInt16 × Bytes)}
    (h : ∀ a ∈ l, a.1 ≠ expected) : findValue l expected f = none :=
  List.findSome?_eq_none_iff.2 (fun a ha => if_neg (h a ha))

/-- **The gateway is found** among the attributes of its record, and no other attribute is taken for it. -/
theorem HopRecord.WellFormed.findValue_gateway {family : UInt8} {hop : HopRecord} (h : hop.WellFormed family) :
    findValue hop.attributes rtaGateway (ipFromBytes family) = hop.gateway := by
  have hbefore := findValue_of_ne (ipFromBytes family) h.before
  have hafter := findValue_of_ne (ipFromBytes family) h.after
  unfold findValue at hbefore hafter ⊢
  rw [HopRecord.attributes, List.findSome?_append, hbefore, List.findSome?_append, hafter]
  cases hgateway : hop.gateway with
  | none => rfl
  | some address =>
    have hip := ipFromBytes_octets (h.gateway address hgateway)
    rw [Option.toList_some, List.map_singleton, List.findSome?_singleton]
    dsimp only
    rw [if_pos rfl, hip]
    rfl

variable (host : Host)

def RouteNextHop.bytes (nextHop : RouteNextHop) : Bytes :=
  host.byteOrder.u16Bytes nextHop.length ++
    ([nextHop.flags, nextHop.hops] ++ host.byteOrder.u32Bytes nextHop.interfaceIndex.toUInt32)

@[simp] theorem RouteNextHop.length_bytes (nextHop : RouteNextHop) : (nextHop.bytes host).length = 8 := by
  simp [RouteNextHop.bytes]

theorem RouteNextHop.read_bytes (nextHop : RouteNextHop) (rest : Bytes) :
    RouteNextHop.read host (nextHop.bytes host ++ rest) = some nextHop := by
  have h0 := host.byteOrder.u16At_append [] ([nextHop.flags, nextHop.hops] ++
    (host.byteOrder.u32Bytes nextHop.interfaceIndex.toUInt32 ++ rest)) nextHop.length (k := 0) rfl
  have h4 := host.byteOrder.u32At_append (host.byteOrder.u16Bytes nextHop.length ++ [nextHop.flags, nextHop.hops]) rest
    nextHop.interfaceIndex.toUInt32 (k := 4) (by simp)
  have h2 : u8At (host.byteOrder.u16Bytes nextHop.length ++ ([nextHop.flags, nextHop.hops] ++
      (host.byteOrder.u32Bytes nextHop.interfaceIndex.toUInt32 ++ rest))) 2 = nextHop.flags := by
    simp [u8At]
  have h3 : u8At (host.byteOrder.u16Bytes nextHop.length ++ ([nextHop.flags, nextHop.hops] ++
      (host.byteOrder.u32Bytes nextHop.interfaceIndex.toUInt32 ++ rest))) 3 = nextHop.hops := by
    simp [u8At, List.getElem?_append]
  simp only [List.append_assoc, List.nil_append] at h0 h4
  unfold RouteNextHop.read RouteNextHop.bytes
  rw [if_neg (by simp [RouteNextHop.size]; omega)]
  simp only [List.append_assoc, h0, h2, h3, ByteOrder.i32At, h4, Int32.toInt32_toUInt32]

/-- **Next hops encoded one after another**: each a record of the length it declares, with a well-formed attribute
section, padded to four bytes. -/
inductive EncodesHops (family : UInt8) : List HopRecord → Bytes → Prop where
  | nil : EncodesHops family [] []
  | cons (hop : HopRecord) (length : UInt16) (attributes padding : Bytes) {hops : List HopRecord} {rest : Bytes} :
      hop.WellFormed family → Encodes host hop.attributes attributes →
      length.toNat = RouteNextHop.size + attributes.length →
      RouteNextHop.size + attributes.length + padding.length = alignTo4 (RouteNextHop.size + attributes.length) →
      EncodesHops family hops rest →
      EncodesHops family (hop :: hops)
        (RouteNextHop.bytes host ⟨length, hop.flags, hop.hops, hop.interfaceIndex⟩ ++ attributes ++ (padding ++ rest))

/-! ## Reading -/

abbrev hopStep (family : UInt8) :
    List NextHop → Item UInt8 RouteNextHop → Checked (Flow (List NextHop) (List NextHop)) :=
  itemStep (pushNextHop host family) (fun nextHops _ => nextHops)

theorem parseNextHops_eq_scan (value : Bytes) (family : UInt8) :
    parseNextHops host value family = (do
      match ← scan (hopStep host family) (items (nextHopFormat host) value) [] with
      | .next nextHops => return nextHops
      | .stop nextHops => return nextHops) := by
  have hwalk : walk (nextHopFormat host) (pushNextHop host family) (fun nextHops _ => nextHops) value 0 [] =
      scan (hopStep host family) (items (nextHopFormat host) value) [] := by
    rw [walk_eq_scan, List.drop_zero]
  exact congrArg (fun flow : Checked (Flow (List NextHop) (List NextHop)) => flow >>= fun
    | .next nextHops => return nextHops
    | .stop nextHops => return nextHops) hwalk

/-- **Records in front of other bytes** are read into their next hops first. -/
theorem scan_of_encodesHops {family : UInt8} {hops : List HopRecord} {value : Bytes}
    (h : EncodesHops host family hops value) (rest : Bytes) (held : List NextHop) :
    scan (hopStep host family) (items (nextHopFormat host) (value ++ rest)) held =
      scan (hopStep host family) (items (nextHopFormat host) rest) (held ++ hops.map HopRecord.nextHop) := by
  induction h generalizing held with
  | nil => rw [List.map_nil, List.append_nil, List.nil_append]
  | cons hop length attributes padding hwell hencodes hlength hpad _ ih =>
    have hsize : (RouteNextHop.bytes host ⟨length, hop.flags, hop.hops, hop.interfaceIndex⟩ ++ attributes).length =
        RouteNextHop.size + attributes.length := by
      simp [RouteNextHop.size]
    have hbody : (RouteNextHop.bytes host ⟨length, hop.flags, hop.hops, hop.interfaceIndex⟩ ++ attributes).drop
        RouteNextHop.size = attributes :=
      List.drop_left' (RouteNextHop.length_bytes host _)
    rw [List.append_assoc, List.append_assoc padding, items_append (nextHopFormat host) _ padding _
      (RouteNextHop.read_bytes host ⟨length, hop.flags, hop.hops, hop.interfaceIndex⟩ attributes)
      (hlength.trans hsize.symm) (by rw [hsize]; exact hpad)]
    rw [scan, hopStep, itemStep, pushNextHop, attributesFromOffset_eq, hbody, attributesIn_of_encodes hencodes, ok_bind]
    dsimp only [Option.bind_some, pure, Except.pure]
    rw [hwell.findValue_gateway, ih, List.map_cons, List.append_assoc]
    rfl

/-- **Encoded next hops are read back**, one per record and in order; and a record whose declared length is below its
header or past the end stops the list, whatever follows it. -/
theorem parseNextHops_reads_encoded {family : UInt8} {hops : List HopRecord} {value : Bytes}
    (h : EncodesHops host family hops value) :
    parseNextHops host value family = .ok (hops.map HopRecord.nextHop) ∧
    ∀ (broken : RouteNextHop) (rest : Bytes),
      broken.length.toNat < RouteNextHop.size ∨ RouteNextHop.size + rest.length < broken.length.toNat →
      parseNextHops host (value ++ (broken.bytes host ++ rest)) family = .ok (hops.map HopRecord.nextHop) := by
  constructor
  · have hscan := scan_of_encodesHops host h [] []
    rw [List.append_nil, items_of_short (nextHopFormat host) (l := []) (nextHopFormat host).size_pos] at hscan
    rw [parseNextHops_eq_scan, hscan]
    rfl
  · intro broken rest hbroken
    have hlength : (broken.bytes host ++ rest).length = RouteNextHop.size + rest.length := by
      simp [RouteNextHop.size]
    have hitems : items (nextHopFormat host) (broken.bytes host ++ rest) = [.fault .invalidLength] :=
      items_of_invalid (nextHopFormat host) (by rw [hlength]; exact Nat.le_add_right _ _)
        (RouteNextHop.read_bytes host broken rest) (by rw [hlength]; exact hbroken)
    rw [parseNextHops_eq_scan, scan_of_encodesHops host h, hitems]
    rfl

/-! ### Two hops -/

/-- A hop over a gateway, with a flow attribute behind it, and a hop over an interface. -/
def twoHops : List HopRecord :=
  [⟨0x04, 1, 2, some (.v4 (Ipv4Addr.new 192 168 1 1)), [], [(11, [1, 0, 0])]⟩, ⟨0, 255, 3, none, [], []⟩]

def twoHopBytes : Bytes :=
  [23, 0, 4, 1, 2, 0, 0, 0, 8, 0, 5, 0, 192, 168, 1, 1, 7, 0, 11, 0, 1, 0, 0, 0, 8, 0, 0, 255, 3, 0, 0, 0]

theorem encodes_twoHops : EncodesHops hostX86 afInet twoHops twoHopBytes := by
  refine .cons _ 23 [8, 0, 5, 0, 192, 168, 1, 1, 7, 0, 11, 0, 1, 0, 0] [0] ⟨?_, ?_, ?_⟩ ?_ rfl rfl
    (.cons _ 8 [] [] ⟨?_, ?_, ?_⟩ .nil rfl rfl .nil)
  · intro address haddress
    obtain rfl := Option.some.inj haddress
    rfl
  · decide
  · decide
  · exact .cons ⟨8, 5⟩ [192, 168, 1, 1] [] rfl rfl (.last ⟨7, 11⟩ [1, 0, 0] [] rfl (by decide))
  · intro address haddress
    cases haddress
  · decide
  · decide

theorem parseNextHops_reads_twoHops :
    parseNextHops hostX86 twoHopBytes afInet =
      .ok [⟨some (.v4 (Ipv4Addr.new 192 168 1 1)), 2, 2, "onlink"⟩, ⟨none, 3, 256, "none"⟩] ∧
    parseNextHops hostX86 (twoHopBytes ++ (RouteNextHop.bytes hostX86 ⟨7, 0, 0, 9⟩ ++ twoHopBytes)) afInet =
      .ok [⟨some (.v4 (Ipv4Addr.new 192 168 1 1)), 2, 2, "onlink"⟩, ⟨none, 3, 256, "none"⟩] :=
  ⟨(parseNextHops_reads_encoded hostX86 encodes_twoHops).1,
    (parseNextHops_reads_encoded hostX86 encodes_twoHops).2 ⟨7, 0, 0, 9⟩ twoHopBytes (Or.inl (by decide))⟩

end Networkrs
