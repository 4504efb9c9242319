import Networkrs.AddressText
import Networkrs.Dns
import Networkrs.EthtoolDevices
import Networkrs.CommandLine
import Networkrs.JsonRoundTrip
import Networkrs.Watch
/-!
# JsonReports — what the JSON records say

`main.rs` prints links, addresses, routes, rules, neighbors and devices as JSON records, and all but the devices in one
report.  No field of a record is left out and no text of one stands for two values, so that a line decodes to the
records it was printed of (`json_reports_lossless`).
-/
namespace Networkrs

open Machine Rfc8259 Collect

/-! ## Formats that lose nothing -/

namespace Json

/-- **A format loses nothing**: its values are valid JSON, and different ones for different records. -/
structure Lossless {α : Type} (json : α → Value) : Prop where
  valid : ∀ a, (json a).Valid
  injective : Function.Injective json

variable {α : Type} {json : α → Value}

theorem Lossless.array (h : Lossless json) : Lossless (fun records : List α => Value.array (records.map json)) where
  valid _ := .array (List.forall_mem_map.2 (fun a _ => h.valid a))
  injective _ _ heq := List.map_injective_iff.2 h.injective (Value.array.inj heq)

/-- **What is printed of a record is read back**: it is one line, which decodes to the value of the record, and is
that of no other record. -/
def ReadsBack {α : Type} (json : α → Value) : Prop :=
  ∀ a, decode builder (json a).render = some (json a) ∧ (∀ c ∈ (json a).render, ' ' ≤ c) ∧
    ∀ a', (json a').render = (json a).render ↔ a' = a

theorem Lossless.readsBack (h : Lossless json) : ReadsBack json := by
  intro a
  refine ⟨decode_render (h.valid a), le_of_mem_render (h.valid a), fun a' => ⟨fun heq => ?_, fun heq => by rw [heq]⟩⟩
  exact h.injective (render_injective (h.valid a') (h.valid a) heq)

theorem decimal_injective : Function.Injective decimal := by
  intro m n h
  have hm : parseUnsigned 10 (m + n) (decimal m) = some m :=
    parseUnsigned_toDigits (by decide) (by decide) (Nat.le_add_right m n)
  have hn : parseUnsigned 10 (m + n) (decimal n) = some n :=
    parseUnsigned_toDigits (by decide) (by decide) (Nat.le_add_left n m)
  rw [h, hn] at hm
  exact (Option.some.inj hm).symm

theorem not_mem_decimal (n : Nat) : '-' ∉ decimal n ∧ '/' ∉ decimal n := by
  have hdigits : ∀ c ∈ decimal n, c ≠ '-' ∧ c ≠ '/' := fun c hc =>
    of_mem_toDigits (p := fun c => c ≠ '-' ∧ c ≠ '/') (by decide) (by decide) (by decide) hc
  exact ⟨fun hmem => (hdigits _ hmem).1 rfl, fun hmem => (hdigits _ hmem).2 rfl⟩

theorem decimalInt_injective : Function.Injective decimalInt := by
  intro m n h
  unfold decimalInt at h
  have hsign : ∀ (k : Nat) (text : Text), '-' :: text ≠ decimal k := fun k text heq =>
    (not_mem_decimal k).1 (heq ▸ List.mem_cons_self)
  split at h <;> split at h
  · have := decimal_injective (List.cons.inj h).2
    omega
  · exact absurd h (hsign _ _)
  · exact absurd h.symm (hsign _ _)
  · have := decimal_injective h
    omega

theorem isDigit_decimal (n : Nat) : ∀ c ∈ decimal n, isDigit c = true := by
  intro c hc
  obtain ⟨digit, hdigit, rfl⟩ := exists_of_mem_toDigits (by decide) n c hc
  have hdigits : ∀ digit < 10, isDigit (Nat.digitChar digit) = true := by decide
  exact hdigits digit hdigit

theorem isInt_decimal (n : Nat) : isInt (decimal n) = true := by
  have hdigits := isDigit_decimal n
  have hzero : (decimal n).head? = some '0' → n = 0 := eq_zero_of_head?_toDigits (by decide) (by decide) n
  cases htext : decimal n with
  | nil => exact absurd htext Nat.toDigits_ne_nil
  | cons c cs =>
    rw [htext] at hdigits hzero
    have hc := hdigits c List.mem_cons_self
    have hcs : cs.all isDigit = true := List.all_eq_true.2 (fun d hd => hdigits d (List.mem_cons_of_mem c hd))
    rw [isInt, hc, hcs]
    by_cases h0 : c = '0'
    · obtain rfl := hzero (by rw [h0]; rfl)
      obtain ⟨rfl, rfl⟩ : c = '0' ∧ cs = [] := by
        rw [decimal, Nat.toDigits_zero] at htext
        cases htext
        exact ⟨rfl, rfl⟩
      rfl
    · simp [h0]

theorem isNumber_of_isDigit {sign : Bool} {c : Char} {text cs : Text} (htext : text = c :: cs)
    (hint : isInt text = true)
    (hdigits : ∀ d ∈ text, isDigit d = true) : isNumber (if sign then '-' :: text else text) = true := by
  have htake : text.takeWhile isDigit = text := by
    rw [List.takeWhile_eq_self_iff]
    exact hdigits
  have hdrop : text.dropWhile isDigit = [] := by
    rw [List.dropWhile_eq_nil_iff]
    exact hdigits
  have hminus : c ≠ '-' := by
    rintro rfl
    exact absurd (hdigits '-' (by rw [htext]; exact List.mem_cons_self)) (by decide)
  cases sign with
  | true =>
    rw [if_pos rfl, isNumber, if_pos rfl, htake, hdrop, hint]
    rfl
  | false =>
    rw [if_neg (by decide), htext, isNumber, if_neg hminus, ← htext, htake, hdrop, hint]
    rfl

@[simp] theorem valid_ofNat (n : Nat) : (ofNat n).Valid := by
  obtain ⟨c, cs, htext⟩ := List.exists_cons_of_ne_nil (show decimal n ≠ [] from Nat.toDigits_ne_nil)
  exact .number (@isNumber_of_isDigit false c _ cs htext (isInt_decimal n) (isDigit_decimal n))

@[simp] theorem valid_ofInt (n : Int) : (ofInt n).Valid := by
  obtain ⟨c, cs, htext⟩ := List.exists_cons_of_ne_nil (show decimal n.natAbs ≠ [] from Nat.toDigits_ne_nil)
  have hnumber := fun sign => @isNumber_of_isDigit sign c _ cs htext (isInt_decimal n.natAbs) (isDigit_decimal n.natAbs)
  unfold ofInt decimalInt
  split
  · exact .number (hnumber true)
  · exact .number (hnumber false)

/-! ### Parts of records -/

@[simp] theorem valid_string (text : Text) : (Value.string text).Valid := .string text

theorem valid_getD {β : Type} {f : β → Value} (hf : ∀ b, (f b).Valid) (value : Option β) :
    ((value.map f).getD .null).Valid := by
  cases value with
  | none => exact .null
  | some b => exact hf b

@[simp] theorem valid_optionalString (value : Option Text) : (optionalString value).Valid := valid_getD .string value
@[simp] theorem valid_optionalNumber (value : Option Nat) : (optionalNumber value).Valid := valid_getD valid_ofNat value
@[simp] theorem valid_optionalInt (value : Option Int) : (optionalInt value).Valid := valid_getD valid_ofInt value

@[simp] theorem valid_strings (values : List Text) : (strings values).Valid :=
  .array (List.forall_mem_map.2 (fun text _ => .string text))

@[simp] theorem valid_object_cons {name : Text} {value : Value} {fields : List (Text × Value)} :
    (Value.object ((name, value) :: fields)).Valid ↔ value.Valid ∧ (Value.object fields).Valid := by
  constructor
  · rintro (_ | _ | _ | _ | _ | h)
    exact ⟨h _ List.mem_cons_self, .object (fun field hfield => h field (List.mem_cons_of_mem _ hfield))⟩
  · rintro ⟨hvalue, _ | _ | _ | _ | _ | h⟩
    exact .object (List.forall_mem_cons.2 ⟨hvalue, h⟩)

@[simp] theorem valid_object_nil : (Value.object []).Valid := .object (fun _ hmem => (nomatch hmem))

@[simp] theorem ofNat_inj {m n : Nat} : ofNat m = ofNat n ↔ m = n := by
  rw [ofNat, ofNat, Value.number.injEq, decimal_injective.eq_iff]

@[simp] theorem ofInt_inj {m n : Int} : ofInt m = ofInt n ↔ m = n := by
  rw [ofInt, ofInt, Value.number.injEq, decimalInt_injective.eq_iff]

/-- An optional value and `null`. -/
theorem getD_null_inj {β : Type} {f : β → Value} (hf : Function.Injective f) (hnull : ∀ b, f b ≠ .null)
    {value value' : Option β} : (value.map f).getD .null = (value'.map f).getD .null ↔ value = value' := by
  cases value with
  | none =>
    cases value' with
    | none => simp
    | some b => simpa using (hnull b).symm
  | some b =>
    cases value' with
    | none => simpa using hnull b
    | some b' => simpa using hf.eq_iff

@[simp] theorem optionalString_inj {value value' : Option Text} :
    optionalString value = optionalString value' ↔ value = value' :=
  getD_null_inj (fun _ _ => Value.string.inj) (fun _ h => (nomatch h))

@[simp] theorem optionalNumber_inj {value value' : Option Nat} :
    optionalNumber value = optionalNumber value' ↔ value = value' :=
  getD_null_inj (fun _ _ => ofNat_inj.1) (fun _ h => (nomatch h))

@[simp] theorem optionalInt_inj {value value' : Option Int} : optionalInt value = optionalInt value' ↔ value = value' :=
  getD_null_inj (fun _ _ => ofInt_inj.1) (fun _ h => (nomatch h))

theorem array_map_inj {β : Type} {f : β → Value} (hf : Function.Injective f) {l l' : List β} :
    Value.array (l.map f) = Value.array (l'.map f) ↔ l = l' := by
  rw [Value.array.injEq]
  exact (List.map_injective_iff.2 hf).eq_iff

end Json

open Json

/-! ## The records of `main.rs` -/

def jsonLink (link : Link) : Value :=
  .object
    [("index", ofInt link.interfaceIndex.toInt), ("name", .string link.name), ("kind", optionalString link.kind),
      ("hardwareType", ofNat link.hardwareType.toNat), ("flags", .string link.flags),
      ("state", .string link.operationalState), ("carrier", (link.carrier.map Value.bool).getD .null),
      ("mtu", optionalNumber (link.mtu.map UInt32.toNat)),
      ("minimumMtu", optionalNumber (link.minimumMtu.map UInt32.toNat)),
      ("maximumMtu", optionalNumber (link.maximumMtu.map UInt32.toNat)),
      ("parentIndex", optionalInt (link.parentIndex.map Int32.toInt)),
      ("masterIndex", optionalInt (link.masterIndex.map Int32.toInt)), ("qdisc", optionalString link.qdisc),
      ("transmitQueueLength", optionalNumber (link.transmitQueueLength.map UInt32.toNat)),
      ("alias", optionalString link.alias), ("alternativeNames", strings link.alternativeNames),
      ("vlanId", optionalNumber (link.vlanId.map UInt16.toNat)),
      ("group", optionalNumber (link.group.map UInt32.toNat)),
      ("promiscuity", optionalNumber (link.promiscuity.map UInt32.toNat)),
      ("transmitQueues", optionalNumber (link.transmitQueues.map UInt32.toNat)),
      ("receiveQueues", optionalNumber (link.receiveQueues.map UInt32.toNat)),
      ("carrierChanges", optionalNumber (link.carrierChanges.map UInt32.toNat)),
      ("carrierUpCount", optionalNumber (link.carrierUpCount.map UInt32.toNat)),
      ("carrierDownCount", optionalNumber (link.carrierDownCount.map UInt32.toNat)),
      ("physicalPort", optionalString link.physicalPortName), ("parentDevice", optionalString link.parentDeviceName),
      ("parentBus", optionalString link.parentDeviceBusName)]

def jsonAddress (address : Address) : Value :=
  .object
    [("family", .string (jsonIpFamily address.local)), ("address", .string address.local.display),
      ("prefix", ofNat address.prefixLength.toNat), ("peer", optionalString (address.peer.map IpAddr.display)),
      ("broadcast", optionalString (address.broadcast.map IpAddr.display)),
      ("interfaceIndex", ofInt address.interfaceIndex.toInt), ("label", optionalString address.label),
      ("scope", .string address.scope), ("flags", .string address.flags),
      ("preferredLifetimeSeconds", optionalNumber (address.preferredLifetime.map UInt32.toNat)),
      ("validLifetimeSeconds", optionalNumber (address.validLifetime.map UInt32.toNat))]

/-- `format!("{address}/{prefix}")`. -/
def networkText (network : IpAddr × UInt8) : Text := network.1.display ++ '/' :: decimal network.2.toNat

def jsonRuleFamily : IpFamily → Text
  | .ipv4 => "ipv4"
  | .ipv6 => "ipv6"

def jsonRule (rule : Rule) : Value :=
  .object
    [("family", .string (jsonRuleFamily rule.family)),
      ("priority", ofNat rule.priority.toNat),
      ("source", (rule.source.map (fun network => Value.string (networkText network))).getD .null),
      ("destination", (rule.destination.map (fun network => Value.string (networkText network))).getD .null),
      ("inputInterface", optionalString rule.inputInterface),
      ("outputInterface", optionalString rule.outputInterface),
      ("fwmark", optionalNumber (rule.fwmark.map UInt32.toNat)),
      ("fwmask", optionalNumber (rule.fwmask.map UInt32.toNat)), ("table", ofNat rule.table.toNat),
      ("action", .string rule.action), ("goto", optionalNumber (rule.goto.map UInt32.toNat)),
      ("flags", .string rule.flags)]

def optionalJsonBool (value : Option Bool) : Value := (value.map Value.bool).getD .null

def jsonStatistic (statistic : Statistic) : Value :=
  .object [("group", .string statistic.group), ("name", .string statistic.name), ("value", ofNat statistic.value.toNat)]

def jsonHardware (device : Ethtool.Device) : Value :=
  .object
    [("interfaceIndex", ofNat device.interfaceIndex.toNat), ("interface", .string device.name),
      ("driver", optionalString device.driver), ("driverModule", optionalString device.driverModule),
      ("driverVersion", optionalString device.driverVersion), ("port", optionalString device.port),
      ("phyAddress", optionalNumber (device.phyAddress.map UInt8.toNat)), ("mdiX", optionalString device.mdix),
      ("transceiver", optionalString device.transceiver),
      ("speedMbps", optionalNumber (device.speedMbps.map UInt32.toNat)), ("duplex", optionalString device.duplex),
      ("autonegotiation", optionalJsonBool device.autonegotiation),
      ("lanes", optionalNumber (device.lanes.map UInt32.toNat)), ("supportedModes", strings device.supportedModes),
      ("peerModes", strings device.peerModes), ("hardwareFeatures", strings device.hardwareFeatures),
      ("wantedFeatures", strings device.wantedFeatures), ("activeFeatures", strings device.activeFeatures),
      ("eeeEnabled", optionalJsonBool device.eeeEnabled), ("eeeActive", optionalJsonBool device.eeeActive),
      ("eeeTxLpiEnabled", optionalJsonBool device.eeeTxLpiEnabled),
      ("eeeTxLpiTimerMicroseconds", optionalNumber (device.eeeTxLpiTimerUs.map UInt32.toNat)),
      ("eeeModes", strings device.eeeModes), ("eeePeerModes", strings device.eeePeerModes),
      ("statistics", .array (device.statistics.map jsonStatistic))]

/-! ### They lose nothing -/

/-- An optional field of a type that is printed through its value. -/
theorem map_inj_iff {α β : Type} {f : α → β} (hf : Function.Injective f) {value value' : Option α} :
    value.map f = value'.map f ↔ value = value' :=
  (Option.map_injective hf).eq_iff

@[simp] theorem map_toNat8_inj {n n' : Option UInt8} : n.map UInt8.toNat = n'.map UInt8.toNat ↔ n = n' :=
  map_inj_iff (fun _ _ => UInt8.toNat_inj.1)

@[simp] theorem map_toNat16_inj {n n' : Option UInt16} : n.map UInt16.toNat = n'.map UInt16.toNat ↔ n = n' :=
  map_inj_iff (fun _ _ => UInt16.toNat_inj.1)

@[simp] theorem map_toNat32_inj {n n' : Option UInt32} : n.map UInt32.toNat = n'.map UInt32.toNat ↔ n = n' :=
  map_inj_iff (fun _ _ => UInt32.toNat_inj.1)

@[simp] theorem map_toNat64_inj {n n' : Option UInt64} : n.map UInt64.toNat = n'.map UInt64.toNat ↔ n = n' :=
  map_inj_iff (fun _ _ => UInt64.toNat_inj.1)

@[simp] theorem map_toInt_inj {n n' : Option Int32} : n.map Int32.toInt = n'.map Int32.toInt ↔ n = n' :=
  map_inj_iff (fun _ _ => Int32.toInt_inj.1)

@[simp] theorem display_inj {address address' : IpAddr} : address.display = address'.display ↔ address = address' :=
  display_injective.eq_iff

@[simp] theorem map_display_inj {address address' : Option IpAddr} :
    address.map IpAddr.display = address'.map IpAddr.display ↔ address = address' :=
  map_inj_iff display_injective

theorem networkText_injective : Function.Injective networkText := by
  rintro ⟨address, prefixLength⟩ ⟨address', prefixLength'⟩ h
  -- the length of the prefix has no slash, so that the last one of the text is the separator
  have hreverse : ∀ network : IpAddr × UInt8, splitOnce '/' (networkText network).reverse =
      some ((decimal network.2.toNat).reverse, network.1.display.reverse) := by
    intro network
    have htext : (networkText network).reverse =
        (decimal network.2.toNat).reverse ++ '/' :: network.1.display.reverse := by
      simp [networkText]
    rw [htext]
    apply splitOnce_append
    rw [List.mem_reverse]
    exact (not_mem_decimal _).2
  have hparts := hreverse (address, prefixLength)
  rw [h, hreverse] at hparts
  simp only [Option.some.injEq, Prod.mk.injEq, List.reverse_inj, decimal_injective.eq_iff, display_inj,
    UInt8.toNat_inj] at hparts
  rw [hparts.1, hparts.2]

@[simp] theorem network_inj {network network' : Option (IpAddr × UInt8)} :
    (network.map (fun network => Value.string (network.1.display ++ '/' :: decimal network.2.toNat))).getD .null =
        (network'.map (fun network => Value.string (network.1.display ++ '/' :: decimal network.2.toNat))).getD .null ↔
      network = network' :=
  getD_null_inj (fun _ _ h => networkText_injective (Value.string.inj h)) (fun _ h => (nomatch h))

@[simp] theorem valid_network (network : Option (IpAddr × UInt8)) :
    ((network.map (fun network => Value.string (network.1.display ++ '/' :: decimal network.2.toNat))).getD
      .null).Valid :=
  valid_getD (fun _ => .string _) network

@[simp] theorem valid_optionalJsonBool (value : Option Bool) : (optionalJsonBool value).Valid := valid_getD .bool value

@[simp] theorem optionalJsonBool_inj {value value' : Option Bool} :
    optionalJsonBool value = optionalJsonBool value' ↔ value = value' :=
  getD_null_inj (fun _ _ => Value.bool.inj) (fun _ h => (nomatch h))

theorem lossless_jsonAddress : Lossless jsonAddress where
  valid address := by simp [jsonAddress]
  injective address address' h := by
    simp only [jsonAddress, Value.object.injEq, List.cons.injEq, Prod.mk.injEq, true_and, and_true,
      Value.string.injEq] at h
    cases address
    cases address'
    simpa [UInt8.toNat_inj, Int32.toInt_inj] using h.2

theorem lossless_jsonLink : Lossless jsonLink where
  valid link := by simp [jsonLink, ← optionalJsonBool.eq_def]
  injective link link' h := by
    cases link
    cases link'
    simpa [jsonLink, ← optionalJsonBool.eq_def, strings_inj, UInt16.toNat_inj, Int32.toInt_inj] using h

theorem jsonRuleFamily_injective : Function.Injective jsonRuleFamily := by
  intro family family' h
  cases family <;> cases family' <;> first | rfl | exact absurd h (by decide)

theorem lossless_jsonRule : Lossless jsonRule where
  valid rule := by simp [jsonRule, networkText]
  injective rule rule' h := by
    cases rule
    cases rule'
    simpa [jsonRule, networkText, UInt32.toNat_inj, jsonRuleFamily_injective.eq_iff] using h

theorem lossless_jsonStatistic : Lossless jsonStatistic where
  valid statistic := by simp [jsonStatistic]
  injective statistic statistic' h := by
    cases statistic
    cases statistic'
    simpa [jsonStatistic, UInt64.toNat_inj] using h

theorem lossless_jsonHardware : Lossless jsonHardware where
  valid device := by simp [jsonHardware, lossless_jsonStatistic.array.valid]
  injective device device' h := by
    cases device
    cases device'
    simpa [jsonHardware, strings_inj, UInt32.toNat_inj, array_map_inj lossless_jsonStatistic.injective] using h

theorem lossless_jsonNextHop : Lossless jsonNextHop where
  valid nextHop := by simp [jsonNextHop]
  injective nextHop nextHop' h := by
    cases nextHop
    cases nextHop'
    simpa [jsonNextHop, UInt16.toNat_inj, Int32.toInt_inj] using h

theorem lossless_jsonRoute : Lossless jsonRoute where
  valid route := by simp [jsonRoute, lossless_jsonNextHop.array.valid]
  injective route route' h := by
    simp only [jsonRoute, Value.object.injEq, List.cons.injEq] at h
    cases route
    cases route'
    simpa [UInt8.toNat_inj, UInt32.toNat_inj, array_map_inj lossless_jsonNextHop.injective] using h.2

/-- The record of a neighbor says the name of its interface, beside the neighbor. -/
theorem jsonNeighbor_inj {names names' : InterfaceNames} {neighbor neighbor' : Neighbor} :
    jsonNeighbor neighbor names = jsonNeighbor neighbor' names' ↔
      neighbor = neighbor' ∧
        interfaceLabel names neighbor.interfaceIndex = interfaceLabel names' neighbor'.interfaceIndex := by
  constructor
  · intro h
    simp only [jsonNeighbor, Value.object.injEq, List.cons.injEq, Prod.mk.injEq, true_and, and_true,
      Value.string.injEq, ofInt_inj, optionalString_inj, optionalNumber_inj, optionalInt_inj, display_inj,
      map_toNat32_inj, map_toNat64_inj, map_toInt_inj, Int32.toInt_inj] at h
    obtain ⟨-, haddress, hlink, hindex, hlabel, h⟩ := h
    refine ⟨?_, hlabel⟩
    cases neighbor
    cases neighbor'
    simp only [Neighbor.mk.injEq]
    exact ⟨haddress, hlink, hindex, h⟩
  · rintro ⟨rfl, hlabel⟩
    rw [jsonNeighbor, jsonNeighbor, hlabel]

theorem lossless_jsonNeighbor (names : InterfaceNames) : Lossless (fun neighbor => jsonNeighbor neighbor names) where
  valid neighbor := by simp [jsonNeighbor]
  injective _ _ h := (jsonNeighbor_inj.1 h).1

/-! ## `json_interfaces` -/

/-- `read_number`. -/
def System.readNumber (system : System) (path : Text) : Option UInt64 :=
  ((readTrimmed system path).bind (parseUnsigned 10 (2 ^ 64 - 1))).map UInt64.ofNat

/-- What `json_interfaces` reads for a link. -/
structure InterfaceRecord where
  link : Link
  mac : Option Text
  speedMbps : Option UInt64
  duplex : Option Text
  rxBytes : Option UInt64
  txBytes : Option UInt64
  rxPackets : Option UInt64
  txPackets : Option UInt64
  rxErrors : Option UInt64
  txErrors : Option UInt64
  rxDropped : Option UInt64
  txDropped : Option UInt64
  collisions : Option UInt64
  deriving DecidableEq, Repr

def interfaceRecord (system : System) (link : Link) : InterfaceRecord :=
  let path := pathJoin sysClassNet link.name
  { link := link
    mac := readTrimmed system (pathJoin path "address")
    speedMbps := system.readNumber (pathJoin path "speed")
    duplex := readTrimmed system (pathJoin path "duplex")
    rxBytes := system.readNumber (pathJoin path "statistics/rx_bytes")
    txBytes := system.readNumber (pathJoin path "statistics/tx_bytes")
    rxPackets := system.readNumber (pathJoin path "statistics/rx_packets")
    txPackets := system.readNumber (pathJoin path "statistics/tx_packets")
    rxErrors := system.readNumber (pathJoin path "statistics/rx_errors")
    txErrors := system.readNumber (pathJoin path "statistics/tx_errors")
    rxDropped := system.readNumber (pathJoin path "statistics/rx_dropped")
    txDropped := system.readNumber (pathJoin path "statistics/tx_dropped")
    collisions := system.readNumber (pathJoin path "statistics/collisions") }

def jsonInterfaceRecord (record : InterfaceRecord) : Value :=
  .object
    [("link", jsonLink record.link), ("mac", optionalString record.mac),
      ("speedMbps", optionalNumber (record.speedMbps.map UInt64.toNat)), ("duplex", optionalString record.duplex),
      ("rxBytes", optionalNumber (record.rxBytes.map UInt64.toNat)),
      ("txBytes", optionalNumber (record.txBytes.map UInt64.toNat)),
      ("rxPackets", optionalNumber (record.rxPackets.map UInt64.toNat)),
      ("txPackets", optionalNumber (record.txPackets.map UInt64.toNat)),
      ("rxErrors", optionalNumber (record.rxErrors.map UInt64.toNat)),
      ("txErrors", optionalNumber (record.txErrors.map UInt64.toNat)),
      ("rxDropped", optionalNumber (record.rxDropped.map UInt64.toNat)),
      ("txDropped", optionalNumber (record.txDropped.map UInt64.toNat)),
      ("collisions", optionalNumber (record.collisions.map UInt64.toNat))]

def jsonInterfaces (system : System) (links : IoResult (List Link)) : IoResult (List Value) := do
  let links ← links
  return links.map (fun link => jsonInterfaceRecord (interfaceRecord system link))

theorem lossless_jsonInterfaceRecord : Lossless jsonInterfaceRecord where
  valid record := by simp [jsonInterfaceRecord, lossless_jsonLink.valid]
  injective record record' h := by
    cases record
    cases record'
    simpa [jsonInterfaceRecord, lossless_jsonLink.injective.eq_iff] using h

/-! ## `json_all` -/

/-- What the calls of the report return. -/
structure ReportCalls where
  system : System
  canonical : Except IoError Text
  osError : Int32 → Text
  links : IoResult (List Link)
  ipAddresses : IoResult (List Address)
  ipRoutes : IoResult (List Route)
  ipRules : IoResult (List Rule)
  ipNeighbors : IoResult (List Neighbor)

def etcHostname : Text := "/etc/hostname"

/-- `map_err(|error| format!("cannot read {what}: {error}"))`. -/
def cannotRead {α : Type} (osError : Int32 → Text) (what : Text) : IoResult α → Outcome Text α
  | .ok a => .ok a
  | .err e => .err ("cannot read " ++ what ++ ": " ++ e.display osError)
  | .panicked p => .panicked p
  | .waiting => .waiting

def jsonAll (calls : ReportCalls) : Outcome Text Value := do
  let names := interfaceNames calls.system
  let interfaces ← cannotRead calls.osError "interfaces" (jsonInterfaces calls.system calls.links)
  let addresses ← cannotRead calls.osError "addresses" calls.ipAddresses
  let routes ← cannotRead calls.osError "routes" calls.ipRoutes
  let rules ← cannotRead calls.osError "rules" calls.ipRules
  let neighbors ← cannotRead calls.osError "neighbors" calls.ipNeighbors
  return .object
    [("system", .object [("hostname", optionalString (readTrimmed calls.system etcHostname))]),
      ("interfaces", .array interfaces), ("addresses", .array (addresses.map jsonAddress)),
      ("routes", .array (routes.map jsonRoute)), ("rules", .array (rules.map jsonRule)),
      ("neighbors", .array (neighbors.map (fun neighbor => jsonNeighbor neighbor names))),
      ("dns", Dns.jsonDns calls.system calls.canonical)]

/-- **What a report says**: each neighbor is beside the name of its interface. -/
structure Report where
  hostname : Option Text
  interfaces : List InterfaceRecord
  addresses : List Address
  routes : List Route
  rules : List Rule
  neighbors : List (Neighbor × Text)
  configuration : Text
  dns : DnsEntries

/-- **The calls of a report read it.** -/
structure ReportCalls.Reads (calls : ReportCalls) (report : Report) : Prop where
  hostname : report.hostname = readTrimmed calls.system etcHostname
  interfaces : ∃ links, calls.links = .ok links ∧ report.interfaces = links.map (interfaceRecord calls.system)
  addresses : calls.ipAddresses = .ok report.addresses
  routes : calls.ipRoutes = .ok report.routes
  rules : calls.ipRules = .ok report.rules
  neighbors : ∃ neighbors, calls.ipNeighbors = .ok neighbors ∧
    report.neighbors = neighbors.map (fun neighbor =>
      (neighbor, interfaceLabel (interfaceNames calls.system) neighbor.interfaceIndex))
  configuration : report.configuration = calls.canonical.toOption.getD resolvConf
  dns : report.dns = dnsEntries calls.system

theorem cannotRead_eq_ok_iff {α : Type} {osError : Int32 → Text} {what : Text} {r : IoResult α} {a : α} :
    cannotRead osError what r = .ok a ↔ r = .ok a := by
  cases r <;> simp [cannotRead]

theorem ReportCalls.Reads.unique {calls : ReportCalls} {report report' : Report} (h : calls.Reads report)
    (h' : calls.Reads report') : report = report' := by
  obtain ⟨links, hlinks, hinterfaces⟩ := h.interfaces
  obtain ⟨links', hlinks', hinterfaces'⟩ := h'.interfaces
  obtain ⟨neighbors, hneighbors, hnames⟩ := h.neighbors
  obtain ⟨neighbors', hneighbors', hnames'⟩ := h'.neighbors
  obtain rfl := Outcome.ok.inj (hlinks.symm.trans hlinks')
  obtain rfl := Outcome.ok.inj (hneighbors.symm.trans hneighbors')
  have haddresses := Outcome.ok.inj (h.addresses.symm.trans h'.addresses)
  have hroutes := Outcome.ok.inj (h.routes.symm.trans h'.routes)
  have hrules := Outcome.ok.inj (h.rules.symm.trans h'.rules)
  have hhostname := h.hostname.trans h'.hostname.symm
  have hconfiguration := h.configuration.trans h'.configuration.symm
  have hdns := h.dns.trans h'.dns.symm
  cases report
  cases report'
  simp only at hinterfaces hinterfaces' hnames hnames' haddresses hroutes hrules hhostname hconfiguration hdns
  rw [hinterfaces, hinterfaces', hnames, hnames', haddresses, hroutes, hrules, hhostname, hconfiguration, hdns]

/-! ### The report as JSON -/

/-- The record of a neighbor, from the name of its interface. -/
def Report.neighborValue (entry : Neighbor × Text) : Value := jsonNeighbor entry.1 (fun _ => some entry.2)

def Report.dnsValue (configuration : Text) (dns : DnsEntries) : Value :=
  .object
    [("configuration", .string configuration), ("nameservers", strings dns.nameservers),
      ("searchDomains", strings dns.search), ("domain", optionalString dns.domain),
      ("options", strings dns.options)]

def Report.json (report : Report) : Value :=
  .object
    [("system", .object [("hostname", optionalString report.hostname)]),
      ("interfaces", .array (report.interfaces.map jsonInterfaceRecord)),
      ("addresses", .array (report.addresses.map jsonAddress)), ("routes", .array (report.routes.map jsonRoute)),
      ("rules", .array (report.rules.map jsonRule)),
      ("neighbors", .array (report.neighbors.map Report.neighborValue)),
      ("dns", Report.dnsValue report.configuration report.dns)]

theorem Report.lossless_neighborValue : Lossless Report.neighborValue where
  valid entry := (lossless_jsonNeighbor _).valid entry.1
  injective entry entry' h := by
    obtain ⟨hneighbor, hlabel⟩ := jsonNeighbor_inj.1 h
    exact Prod.ext hneighbor hlabel

theorem Report.lossless_json : Lossless Report.json where
  valid report := by
    simp [Report.json, Report.dnsValue, lossless_jsonInterfaceRecord.array.valid, lossless_jsonAddress.array.valid,
      lossless_jsonRoute.array.valid, lossless_jsonRule.array.valid, Report.lossless_neighborValue.array.valid]
  injective report report' h := by
    obtain ⟨_, _, _, _, _, _, _, dns⟩ := report
    obtain ⟨_, _, _, _, _, _, _, dns'⟩ := report'
    cases dns
    cases dns'
    simpa [Report.json, Report.dnsValue, strings_inj, array_map_inj lossless_jsonInterfaceRecord.injective,
      array_map_inj lossless_jsonAddress.injective, array_map_inj lossless_jsonRoute.injective,
      array_map_inj lossless_jsonRule.injective, array_map_inj Report.lossless_neighborValue.injective,
      and_assoc] using h

theorem jsonNeighbors_eq (names : InterfaceNames) (neighbors : List Neighbor) :
    neighbors.map (fun neighbor => jsonNeighbor neighbor names) =
      (neighbors.map (fun neighbor => (neighbor, interfaceLabel names neighbor.interfaceIndex))).map
        Report.neighborValue := by
  rw [List.map_map]
  apply List.map_congr_left
  intro neighbor _
  exact jsonNeighbor_inj.2 ⟨rfl, rfl⟩

theorem jsonInterfaces_eq (system : System) (links : List Link) :
    links.map (fun link => jsonInterfaceRecord (interfaceRecord system link)) =
      (links.map (interfaceRecord system)).map jsonInterfaceRecord := by
  rw [List.map_map]
  rfl

/-- **The report is that of what its calls read**, and there is one whenever all of them succeed. -/
theorem jsonAll_eq_ok_iff (calls : ReportCalls) (value : Value) :
    jsonAll calls = .ok value ↔ ∃ report, calls.Reads report ∧ value = report.json := by
  constructor
  · intro h
    unfold jsonAll at h
    obtain ⟨interfaces, hinterfaces, h⟩ := (Outcome.bind_eq_ok_iff _ _ _).1 h
    obtain ⟨addresses, haddresses, h⟩ := (Outcome.bind_eq_ok_iff _ _ _).1 h
    obtain ⟨routes, hroutes, h⟩ := (Outcome.bind_eq_ok_iff _ _ _).1 h
    obtain ⟨rules, hrules, h⟩ := (Outcome.bind_eq_ok_iff _ _ _).1 h
    obtain ⟨neighbors, hneighbors, h⟩ := (Outcome.bind_eq_ok_iff _ _ _).1 h
    rw [cannotRead_eq_ok_iff] at hinterfaces haddresses hroutes hrules hneighbors
    obtain ⟨links, hlinks, hrecords⟩ := (Outcome.bind_eq_ok_iff _ _ _).1 hinterfaces
    obtain rfl := Outcome.ok.inj hrecords
    obtain rfl := Outcome.ok.inj h
    refine ⟨⟨readTrimmed calls.system etcHostname, links.map (interfaceRecord calls.system), addresses, routes, rules,
      neighbors.map (fun neighbor => (neighbor, interfaceLabel (interfaceNames calls.system) neighbor.interfaceIndex)),
      calls.canonical.toOption.getD resolvConf, dnsEntries calls.system⟩,
      ⟨rfl, ⟨links, hlinks, rfl⟩, haddresses, hroutes, hrules, ⟨neighbors, hneighbors, rfl⟩, rfl, rfl⟩, ?_⟩
    rw [jsonNeighbors_eq, jsonInterfaces_eq]
    rfl
  · rintro ⟨report, hreads, rfl⟩
    obtain ⟨links, hlinks, hinterfaces⟩ := hreads.interfaces
    obtain ⟨neighbors, hneighbors, hnames⟩ := hreads.neighbors
    unfold jsonAll jsonInterfaces
    rw [hlinks, hreads.addresses, hreads.routes, hreads.rules, hneighbors]
    dsimp only [cannotRead, bind, Outcome.bind, pure]
    rw [jsonNeighbors_eq, ← hnames, jsonInterfaces_eq, ← hinterfaces, Report.json, hreads.hostname,
      hreads.configuration, hreads.dns]
    rfl

/-! ## What a line says -/

/-- **JSON reports lose nothing.**  Each record decodes to its value, on one line, and is that of no other record; a
whole report is the line of exactly the machines that read the same; and `networkrs route` takes the addresses it
shows. -/
theorem json_reports_lossless :
    (Lossless jsonLink ∧ Lossless jsonAddress ∧ Lossless jsonRoute ∧ Lossless jsonRule ∧ Lossless jsonHardware ∧
      ∀ names, Lossless (fun neighbor => jsonNeighbor neighbor names)) ∧
    (ReadsBack jsonLink ∧ ReadsBack jsonAddress ∧ ReadsBack jsonRoute ∧ ReadsBack jsonRule ∧ ReadsBack jsonHardware ∧
      ∀ names, ReadsBack (fun neighbor => jsonNeighbor neighbor names)) ∧
    (∀ calls value, jsonAll calls = .ok value → ∃ report, calls.Reads report ∧
      decode builder value.render = some value ∧ (∀ c ∈ value.render, ' ' ≤ c) ∧
      ∀ calls' value', jsonAll calls' = .ok value' → (value'.render = value.render ↔ calls'.Reads report)) ∧
    (∀ calls report, ReportCalls.Reads calls report → ∃ value, jsonAll calls = .ok value) ∧
    ∀ address, routeDestination address.display = .ok (.route address) := by
  refine ⟨⟨lossless_jsonLink, lossless_jsonAddress, lossless_jsonRoute, lossless_jsonRule, lossless_jsonHardware,
    lossless_jsonNeighbor⟩, ⟨lossless_jsonLink.readsBack, lossless_jsonAddress.readsBack, lossless_jsonRoute.readsBack,
    lossless_jsonRule.readsBack, lossless_jsonHardware.readsBack, fun names => (lossless_jsonNeighbor names).readsBack⟩,
    ?_, ?_, ?_⟩
  · intro calls value h
    obtain ⟨report, hreads, rfl⟩ := (jsonAll_eq_ok_iff calls value).1 h
    obtain ⟨hdecode, hline, hsame⟩ := Report.lossless_json.readsBack report
    refine ⟨report, hreads, hdecode, hline, ?_⟩
    intro calls' value' h'
    obtain ⟨report', hreads', rfl⟩ := (jsonAll_eq_ok_iff calls' value').1 h'
    rw [hsame]
    exact ⟨fun heq => heq ▸ hreads', fun hsame => hreads'.unique hsame⟩
  · intro calls report hreads
    exact ⟨report.json, (jsonAll_eq_ok_iff calls report.json).2 ⟨report, hreads, rfl⟩⟩
  · intro address
    rw [routeDestination, parse_display]

def loopbackAddress : Address :=
  ⟨.v4 (Ipv4Addr.new 127 0 0 1), 8, none, none, 1, some "lo", "host", "permanent", none, none⟩

/-- A machine with one address and no files. -/
def loopbackReport : ReportCalls where
  system := Ethtool.emptyFiles.toSystem
  canonical := .error (.os 2)
  osError _ := []
  links := .ok []
  ipAddresses := .ok [loopbackAddress]
  ipRoutes := .ok []
  ipRules := .ok []
  ipNeighbors := .ok []

/-- A VLAN link with an alias to be escaped. -/
def uplink : Link where
  interfaceIndex := 3
  name := "eth0.100"
  kind := some "vlan"
  hardwareType := 1
  flags := "UP"
  operationalState := "up"
  carrier := some true
  mtu := some 1500
  minimumMtu := none
  maximumMtu := none
  parentIndex := some 2
  masterIndex := none
  qdisc := some "noqueue"
  transmitQueueLength := some 1000
  «alias» := some "up\"link\n"
  alternativeNames := ["wan"]
  vlanId := some 100
  group := none
  promiscuity := none
  transmitQueues := none
  receiveQueues := none
  carrierChanges := none
  carrierUpCount := none
  carrierDownCount := none
  physicalPortName := none
  parentDeviceName := none
  parentDeviceBusName := none

/-- A route over two next hops. -/
def multipath : Route :=
  ⟨.v4 Ipv4Addr.unspecified, 0, none, none, none, some 100, none, 254, "static", "universe", "unicast",
    [⟨some (.v4 (Ipv4Addr.new 10 0 0 1)), 3, 1, "none"⟩, ⟨none, 4, 2, "onlink"⟩]⟩

def hop : Neighbor :=
  ⟨.v4 (Ipv4Addr.new 10 0 0 1), some "02:00:00:00:00:01", 3, "reachable", "router", some "static", "unicast", none,
    none, none, none, none, none⟩

def localRuleRecord : Rule := ⟨.ipv4, 0, none, none, none, none, none, none, 255, "lookup", none, "none"⟩

def routerReport : ReportCalls where
  system :=
    { Ethtool.emptyFiles.toSystem with
      readToString := fun path =>
        if path = etcHostname then .ok "router\n"
        else if path = resolvConf then .ok "nameserver 10.0.0.1\nsearch lan\n"
        else .error (.os 2) }
  canonical := .ok "/run/resolv.conf"
  osError _ := []
  links := .ok [uplink]
  ipAddresses := .ok [loopbackAddress, { loopbackAddress with interfaceIndex := 3, label := some "eth0.100" }]
  ipRoutes := .ok [multipath]
  ipRules := .ok [localRuleRecord]
  ipNeighbors := .ok [hop]

/-- The report of a router is read back, and is not that of a machine with one address. -/
theorem json_reports_lossless_router :
    ∃ value value', jsonAll routerReport = .ok value ∧ jsonAll loopbackReport = .ok value' ∧
      decode builder value.render = some value ∧ (∀ c ∈ value.render, ' ' ≤ c) ∧ value'.render ≠ value.render := by
  obtain ⟨value, hvalue⟩ := json_reports_lossless.2.2.2.1 routerReport
    ⟨some "router", [interfaceRecord routerReport.system uplink], _, _, _, [(hop, "ifindex 3")], "/run/resolv.conf",
      ⟨["10.0.0.1"], ["lan"], none, []⟩⟩
    ⟨by decide +kernel, ⟨_, rfl, rfl⟩, rfl, rfl, rfl, ⟨_, rfl, by decide +kernel⟩, rfl, by decide +kernel⟩
  obtain ⟨value', hvalue'⟩ := json_reports_lossless.2.2.2.1 loopbackReport
    ⟨none, [], [loopbackAddress], [], [], [], resolvConf, .none⟩
    ⟨rfl, ⟨[], rfl, rfl⟩, rfl, rfl, rfl, ⟨[], rfl, rfl⟩, rfl, rfl⟩
  obtain ⟨report, hreads, hdecode, hline, hsame⟩ := json_reports_lossless.2.2.1 routerReport value hvalue
  refine ⟨value, value', hvalue, hvalue', hdecode, hline, fun heq => ?_⟩
  have hrules := ((hsame loopbackReport value' hvalue').1 heq).rules.trans hreads.rules.symm
  cases hrules

end Networkrs
