import Networkrs.GenlKernel
import Networkrs.Ssid
/-!
# WifiRecords — the nl80211 records a kernel sends and what the parsers read

An interface, a scan entry, a station and a bitrate are attributes, some of them nested, in any order and among
attributes of any other kinds.  The parsers of `wifi.rs` read back what each record carries: `parseInterface_sends`,
`parseConnectedBss_sends`, `parseStation_sends` and `parseBitrate_nests`.
-/
namespace Networkrs

open Machine Framing

variable {host : Host}

/-! ## Fields -/

/-- A value nests fields. -/
def NestsFields (host : Host) (fields : List (UInt16 × Option Bytes)) (value : Bytes) : Prop :=
  ∃ l, Encodes host l value ∧ Presents fields l

theorem nestedAttributes_of_nests {fields : List (UInt16 × Option Bytes)} {value : Bytes}
    (h : NestsFields host fields value) :
    ∃ attributes, nestedAttributes host value = .ok (some attributes) ∧ PresentsFields fields attributes := by
  obtain ⟨l, hvalue, hl⟩ := h
  have hattributes := attributesIn_of_encodes hvalue
  rw [attributesIn, Option.map_eq_some_iff] at hattributes
  obtain ⟨records, hrecords, hmap⟩ := hattributes
  refine ⟨_, by rw [nestedAttributes, parseAttributes_eq, List.drop_zero, hrecords]; rfl, ?_⟩
  rw [PresentsFields, List.map_map]
  simpa only [Function.comp_def, hmap] using hl

theorem PresentsFields.bytesAttribute_eq {fields : List (UInt16 × Option Bytes)} {message : Message}
    (h : PresentsFields fields message.attributes) (kind : UInt16) {value : Option Bytes}
    (hfield : fields.lookup kind = some value) : bytesAttribute message kind = value := h.nestedBytes_eq kind hfield

/-- The bytes of a `u8` value. -/
def u8Value (n : Option UInt8) : Option Bytes := n.map (fun n => [n])

/-- The bytes of a `u64` value. -/
def u64Value (host : Host) (n : Option UInt64) : Option Bytes := n.map (fun n => host.byteOrder.write 8 n.toNat)

/-- A flag is an attribute without a value. -/
def flagValue (flag : Bool) : Option Bytes := if flag then some [] else none

theorem bind_u8Value (n : Option UInt8) : (u8Value n).bind List.head? = n := by
  cases n <;> rfl

namespace Wifi

theorem bind_u64Value (n : Option UInt64) : (u64Value host n).bind (nativeU64 host) = n := by
  cases n with
  | none => rfl
  | some n =>
    have hread := nativeU64_write host n []
    rwa [List.append_nil] at hread

section
variable {fields : List (UInt16 × Option Bytes)} {attributes : List Attribute} (h : PresentsFields fields attributes)
  (kind : UInt16)

include h

theorem nestedU8_presents {n : Option UInt8} (hfield : fields.lookup kind = some (u8Value n)) :
    nestedU8 attributes kind = n := by
  rw [nestedU8, h.nestedBytes_eq kind hfield, bind_u8Value]

theorem nestedI8_presents {n : Option Int8} (hfield : fields.lookup kind = some (u8Value (n.map Int8.toUInt8))) :
    nestedI8 attributes kind = n := by
  rw [nestedI8, nestedU8_presents h kind hfield]
  cases n <;> simp

theorem nestedU32_presents {n : Option UInt32} (hfield : fields.lookup kind = some (u32Value host n)) :
    nestedU32 host attributes kind = n := by
  rw [nestedU32, h.nestedBytes_eq kind hfield, bind_u32Value]

theorem nestedU64_presents {n : Option UInt64} (hfield : fields.lookup kind = some (u64Value host n)) :
    nestedU64 host attributes kind = n := by
  rw [nestedU64, h.nestedBytes_eq kind hfield, bind_u64Value]

theorem hasAttribute_presents {flag : Bool} (hfield : fields.lookup kind = some (flagValue flag)) :
    hasAttribute attributes kind = flag := by
  have hbytes := h.nestedBytes_eq kind hfield
  rw [nestedBytes] at hbytes
  rw [Bool.eq_iff_iff, hasAttribute, List.any_eq_true]
  have hsome : (flagValue flag).isSome = flag := by cases flag <;> rfl
  rw [← hsome, ← hbytes, List.findSome?_isSome_iff]
  simp

end

/-! ## Bitrates -/

inductive ChannelWidth where
  | mhz20
  | mhz40
  | mhz80
  | mhz160
  deriving DecidableEq, Repr

def ChannelWidth.mhz : ChannelWidth → UInt16
  | .mhz20 => 20
  | .mhz40 => 40
  | .mhz80 => 80
  | .mhz160 => 160

/-- How a rate is modulated: by an index alone, or by an index for each number of spatial streams. -/
inductive Modulation where
  | legacy
  | ht (mcs : UInt8)
  | vht (mcs streams : UInt8)
  | he (mcs streams : UInt8)
  deriving DecidableEq, Repr

structure KernelBitrate where
  tenths : UInt32
  width : ChannelWidth
  modulation : Modulation
  deriving DecidableEq, Repr

/-- The attributes of a rate; one of sixteen bits beside it is not looked at. -/
def KernelBitrate.fields (host : Host) (rate : KernelBitrate) : List (UInt16 × Option Bytes) :=
  [(rateBitrate32, u32Value host (some rate.tenths)),
    (rateWidth40, flagValue (rate.width = .mhz40)), (rateWidth80, flagValue (rate.width = .mhz80)),
    (rateWidth160, flagValue (rate.width = .mhz160)),
    (rateMcs, u8Value (match rate.modulation with | .ht mcs => some mcs | _ => none)),
    (rateVhtMcs, u8Value (match rate.modulation with | .vht mcs _ => some mcs | _ => none)),
    (rateVhtNss, u8Value (match rate.modulation with | .vht _ streams => some streams | _ => none)),
    (rateHeMcs, u8Value (match rate.modulation with | .he mcs _ => some mcs | _ => none)),
    (rateHeNss, u8Value (match rate.modulation with | .he _ streams => some streams | _ => none))]

/-- What the program holds of a rate. -/
def KernelBitrate.record (rate : KernelBitrate) : Bitrate where
  tenths := rate.tenths
  widthMhz := some rate.width.mhz
  mcs :=
    match rate.modulation with
    | .legacy => none
    | .ht mcs | .vht mcs _ | .he mcs _ => some mcs
  spatialStreams :=
    match rate.modulation with
    | .legacy | .ht _ => none
    | .vht _ streams | .he _ streams => some streams
  encoding :=
    match rate.modulation with
    | .legacy | .ht _ => none
    | .vht _ _ => some "VHT"
    | .he _ _ => some "HE"

/-- **A nested bitrate is read back.** -/
theorem parseBitrate_nests {rate : KernelBitrate} {value : Bytes} (h : NestsFields host (rate.fields host) value) :
    parseBitrate host value = .ok (some rate.record) := by
  obtain ⟨attributes, hattributes, hfields⟩ := nestedAttributes_of_nests h
  have htenths := nestedU32_presents hfields rateBitrate32 rfl
  have h40 := hasAttribute_presents hfields rateWidth40 rfl
  have h80 := hasAttribute_presents hfields rateWidth80 rfl
  have h160 := hasAttribute_presents hfields rateWidth160 rfl
  have hmcs := nestedU8_presents hfields rateMcs rfl
  have hvhtMcs := nestedU8_presents hfields rateVhtMcs rfl
  have hvhtNss := nestedU8_presents hfields rateVhtNss rfl
  have hheMcs := nestedU8_presents hfields rateHeMcs rfl
  have hheNss := nestedU8_presents hfields rateHeNss rfl
  obtain ⟨tenths, width, modulation⟩ := rate
  unfold parseBitrate
  rw [hattributes, ok_bind]
  dsimp only
  simp only [htenths, h40, h80, h160, hmcs, hvhtMcs, hvhtNss, hheMcs, hheNss]
  cases modulation <;> cases width <;> rfl

/-! ## Stations -/

structure KernelStation where
  inactiveMs : Option UInt32
  signalDbm : Option Int8
  averageSignalDbm : Option Int8
  receiveBytes : Option UInt64
  transmitBytes : Option UInt64
  receivePackets : Option UInt32
  transmitPackets : Option UInt32
  transmitRetries : Option UInt32
  transmitFailures : Option UInt32
  receiveBitrate : Option KernelBitrate
  transmitBitrate : Option KernelBitrate

/-- A value nests a rate if there is one. -/
def NestsBitrate (host : Host) (rate : Option KernelBitrate) (value : Option Bytes) : Prop :=
  match rate, value with
  | none, none => True
  | some rate, some value => NestsFields host (rate.fields host) value
  | _, _ => False

namespace KernelStation

def fields (host : Host) (station : KernelStation) (receive transmit : Option Bytes) :
    List (UInt16 × Option Bytes) :=
  [(staInactiveTime, u32Value host station.inactiveMs), (staSignal, u8Value (station.signalDbm.map Int8.toUInt8)),
    (staSignalAvg, u8Value (station.averageSignalDbm.map Int8.toUInt8)),
    (staRxBytes64, u64Value host station.receiveBytes), (staTxBytes64, u64Value host station.transmitBytes),
    (staRxPackets, u32Value host station.receivePackets), (staTxPackets, u32Value host station.transmitPackets),
    (staTxRetries, u32Value host station.transmitRetries), (staTxFailed, u32Value host station.transmitFailures),
    (staRxBitrate, receive), (staTxBitrate, transmit)]

/-- **A message sends a station.** -/
def Sends (host : Host) (station : KernelStation) (message : Message) : Prop :=
  ∃ value receive transmit, PresentsFields [(attrStaInfo, some value)] message.attributes ∧
    NestsFields host (station.fields host receive transmit) value ∧
    NestsBitrate host station.receiveBitrate receive ∧ NestsBitrate host station.transmitBitrate transmit

/-- What the program holds of a station. -/
def record (station : KernelStation) : Station where
  inactiveMs := station.inactiveMs
  signalDbm := station.signalDbm
  averageSignalDbm := station.averageSignalDbm
  receiveBytes := station.receiveBytes
  transmitBytes := station.transmitBytes
  receivePackets := station.receivePackets
  transmitPackets := station.transmitPackets
  transmitRetries := station.transmitRetries
  transmitFailures := station.transmitFailures
  receiveBitrate := station.receiveBitrate.map KernelBitrate.record
  transmitBitrate := station.transmitBitrate.map KernelBitrate.record

end KernelStation

theorem nestedBitrate_presents {fields : List (UInt16 × Option Bytes)} {attributes : List Attribute}
    (h : PresentsFields fields attributes) (kind : UInt16) {rate : Option KernelBitrate} {value : Option Bytes}
    (hfield : fields.lookup kind = some value) (hvalue : NestsBitrate host rate value) :
    nestedBitrate host attributes kind = .ok (rate.map KernelBitrate.record) := by
  rw [nestedBitrate, h.nestedBytes_eq kind hfield]
  cases rate with
  | none =>
    cases value with
    | none => rfl
    | some value => exact absurd hvalue (fun h => h)
  | some rate =>
    cases value with
    | none => exact absurd hvalue (fun h => h)
    | some value => exact parseBitrate_nests hvalue

/-- **A station is read back.** -/
theorem parseStation_sends {station : KernelStation} {message : Message} (h : station.Sends host message) :
    parseStation host message = .ok (some station.record) := by
  obtain ⟨value, receive, transmit, hinfo, hvalue, hreceive, htransmit⟩ := h
  obtain ⟨attributes, hattributes, hfields⟩ := nestedAttributes_of_nests hvalue
  have hnested : andThenNested host (bytesAttribute message attrStaInfo) = .ok (some attributes) := by
    rw [hinfo.bytesAttribute_eq attrStaInfo rfl]
    exact hattributes
  have hinactive := nestedU32_presents hfields staInactiveTime rfl
  have hsignal := nestedI8_presents hfields staSignal rfl
  have haverage := nestedI8_presents hfields staSignalAvg rfl
  have hreceiveBytes := nestedU64_presents hfields staRxBytes64 rfl
  have htransmitBytes := nestedU64_presents hfields staTxBytes64 rfl
  have hreceivePackets := nestedU32_presents hfields staRxPackets rfl
  have htransmitPackets := nestedU32_presents hfields staTxPackets rfl
  have hretries := nestedU32_presents hfields staTxRetries rfl
  have hfailures := nestedU32_presents hfields staTxFailed rfl
  unfold parseStation
  rw [hnested, ok_bind]
  dsimp only
  rw [nestedBitrate_presents hfields staRxBitrate rfl hreceive, ok_bind,
    nestedBitrate_presents hfields staTxBitrate rfl htransmit, ok_bind]
  simp only [hinactive, hsignal, haverage, hreceiveBytes, htransmitBytes, hreceivePackets, htransmitPackets, hretries,
    hfailures]
  rfl

/-! ## Scan entries -/

structure KernelBss where
  status : Option UInt32
  frequencyMhz : Option UInt32
  bssid : Option Bytes
  elements : Option (List Element)
  signalMbm : Option Int32
  signalUnspecified : Option UInt8
  seenMsAgo : Option UInt32

namespace KernelBss

def fields (host : Host) (bss : KernelBss) : List (UInt16 × Option Bytes) :=
  [(bssStatus, u32Value host bss.status), (bssFrequency, u32Value host bss.frequencyMhz), (bssBssid, bss.bssid),
    (bssInformationElements, bss.elements.map encodeElements),
    (bssSignalMbm, u32Value host (bss.signalMbm.map Int32.toUInt32)),
    (bssSignalUnspec, u8Value bss.signalUnspecified), (bssSeenMsAgo, u32Value host bss.seenMsAgo)]

/-- **A message sends a scan entry.** -/
def Sends (host : Host) (bss : KernelBss) (message : Message) : Prop :=
  ∃ value, PresentsFields [(attrBss, some value)] message.attributes ∧ NestsFields host (bss.fields host) value

/-- The network name of a beacon: the body of its first element with the id 0, if that is a text. -/
def ssid (bss : KernelBss) : Option Text :=
  bss.elements.bind (fun elements =>
    (elements.find? (fun element => element.id = 0)).bind (fun element => fromUtf8 element.body))

/-- The interface is associated with the entry, or authenticated. -/
def Connected (bss : KernelBss) : Prop :=
  bss.status = some bssStatusAssociated ∨ bss.status = some bssStatusAuthenticated

instance (bss : KernelBss) : Decidable bss.Connected := inferInstanceAs (Decidable (_ ∨ _))

/-- What the program holds of an entry. -/
def record (bss : KernelBss) : Option ConnectedBss :=
  if bss.Connected then
    some
      { frequencyMhz := bss.frequencyMhz
        ssid := bss.ssid
        bssid := bss.bssid.map formatMac
        signalMbm := bss.signalMbm
        signalUnspecified := bss.signalUnspecified
        seenMsAgo := bss.seenMsAgo }
  else none

end KernelBss

theorem parseSsid_encodeElements (elements : List Element) : parseSsid (encodeElements elements) =
    .ok ((elements.find? (fun element => element.id = 0)).bind (fun element => fromUtf8 element.body)) := by
  have hnil : ¬ BeginsWithElement [] := by
    rintro ⟨element, rest, h⟩
    rw [Element.encode] at h
    cases h
  have hparse := parseSsid_eq elements []
  rw [List.append_nil, parseSsid_of_incomplete hnil] at hparse
  rw [hparse]
  cases elements.find? (fun element => element.id = 0) <;> rfl

/-- **A scan entry is read back.** -/
theorem parseConnectedBss_sends {bss : KernelBss} {message : Message} (h : bss.Sends host message) :
    parseConnectedBss host message = .ok bss.record := by
  obtain ⟨value, hentry, hvalue⟩ := h
  obtain ⟨attributes, hattributes, hfields⟩ := nestedAttributes_of_nests hvalue
  have hnested : andThenNested host (bytesAttribute message attrBss) = .ok (some attributes) := by
    rw [hentry.bytesAttribute_eq attrBss rfl]
    exact hattributes
  have hstatus := nestedU32_presents hfields bssStatus rfl
  have hfrequency := nestedU32_presents hfields bssFrequency rfl
  have hbssid := hfields.nestedBytes_eq bssBssid rfl
  have helements := hfields.nestedBytes_eq bssInformationElements rfl
  have hsignal := nestedU32_presents hfields bssSignalMbm rfl
  have hunspecified := hfields.nestedBytes_eq bssSignalUnspec rfl
  have hseen := nestedU32_presents hfields bssSeenMsAgo rfl
  unfold parseConnectedBss KernelBss.record
  rw [hnested, ok_bind]
  dsimp only
  rw [hstatus]
  by_cases hconnected : bss.Connected
  · rw [if_pos hconnected]
    obtain ⟨status, hknown, hother⟩ : ∃ status, bss.status = some status ∧
        ¬ (status ≠ bssStatusAssociated ∧ status ≠ bssStatusAuthenticated) := by
      rcases hconnected with h | h
      · exact ⟨_, h, fun hne => hne.1 rfl⟩
      · exact ⟨_, h, fun hne => hne.2 rfl⟩
    rw [hknown]
    dsimp only
    rw [if_neg hother, hfrequency, hbssid, helements, hsignal, hunspecified, hseen, bind_u8Value, KernelBss.ssid]
    have hsigned : (bss.signalMbm.map Int32.toUInt32).map UInt32.toInt32 = bss.signalMbm := by
      cases bss.signalMbm <;> simp
    rw [hsigned]
    cases bss.elements with
    | none => rfl
    | some elements =>
      rw [Option.map_some, Option.bind_some]
      dsimp only
      rw [parseSsid_encodeElements, ok_bind]
      rfl
  · rw [if_neg hconnected]
    cases hknown : bss.status with
    | none => rfl
    | some status =>
      dsimp only
      rw [if_pos]
      · rfl
      · constructor
        · rintro rfl
          exact hconnected (.inl hknown)
        · rintro rfl
          exact hconnected (.inr hknown)

/-! ## Interfaces -/

structure KernelInterface where
  interfaceIndex : Option UInt32
  name : Option Text
  kind : Option UInt32
  mac : Option Bytes
  wiphy : Option UInt32
  frequencyMhz : Option UInt32
  name_text : ∀ t ∈ name, '\x00' ∉ t

namespace KernelInterface

def fields (host : Host) (interface : KernelInterface) : List (UInt16 × Option Bytes) :=
  [(attrIfindex, u32Value host interface.interfaceIndex), (attrIfname, textValue interface.name),
    (attrIftype, u32Value host interface.kind), (attrMac, interface.mac), (attrWiphy, u32Value host interface.wiphy),
    (attrWiphyFreq, u32Value host interface.frequencyMhz)]

/-- **A message sends an interface.** -/
def Sends (host : Host) (interface : KernelInterface) (message : Message) : Prop :=
  PresentsFields (interface.fields host) message.attributes

/-- What the program holds of an interface before it asks for more: one without an index, a name or a type is passed
over. -/
def record (wiphys : Keyed.Map UInt32 Text) (interface : KernelInterface) : Option WifiInterface :=
  match interface.interfaceIndex, interface.name, interface.kind with
  | some interfaceIndex, some name, some kind =>
    some
      { interfaceIndex := interfaceIndex
        name := name
        interfaceType := interfaceType kind
        mac := interface.mac.map formatMac
        wiphy := interface.wiphy
        wiphyName := interface.wiphy.bind wiphys
        frequencyMhz := interface.frequencyMhz
        ssid := none
        bssid := none
        signalMbm := none
        signalUnspecified := none
        seenMsAgo := none
        powerSave := none
        station := none }
  | _, _, _ => none

end KernelInterface

section
variable {fields : List (UInt16 × Option Bytes)} {message : Message}
  (h : PresentsFields fields message.attributes) (kind : UInt16)

include h

theorem u32Attribute_presents {n : Option UInt32} (hfield : fields.lookup kind = some (u32Value host n)) :
    u32Attribute host message kind = n := by
  rw [u32Attribute, h.bytesAttribute_eq kind hfield, bind_u32Value]

theorem stringAttribute_presents {text : Option Text} (htext : ∀ t ∈ text, '\x00' ∉ t)
    (hfield : fields.lookup kind = some (textValue text)) : stringAttribute message kind = text := by
  rw [stringAttribute, h.bytesAttribute_eq kind hfield, bind_textValue htext]

end

/-- **An interface is read back.** -/
theorem parseInterface_sends (wiphys : Keyed.Map UInt32 Text) {interface : KernelInterface} {message : Message}
    (h : interface.Sends host message) : parseInterface host wiphys message = interface.record wiphys := by
  have hindex := u32Attribute_presents h attrIfindex rfl
  have hname := stringAttribute_presents h attrIfname interface.name_text rfl
  have hkind := u32Attribute_presents h attrIftype rfl
  have hmac := h.bytesAttribute_eq attrMac rfl
  have hwiphy := u32Attribute_presents h attrWiphy rfl
  have hfrequency := u32Attribute_presents h attrWiphyFreq rfl
  unfold parseInterface KernelInterface.record
  rw [hindex, hname, hkind, hmac, hwiphy, hfrequency]
  cases interface.interfaceIndex with
  | none => rfl
  | some interfaceIndex =>
    cases interface.name with
    | none => rfl
    | some name => cases interface.kind <;> rfl

end Wifi

end Networkrs
