import Networkrs.Events
import Networkrs.KernelTables
/-!
# KernelLinks — the links of a kernel, listed

A kernel sends a link with two nested sections in its attributes: what kind of link it is, and its alternative names.
`parse_link` reads every value of all three sections (`parseLink_sends`), and `links` lists the whole table of links in
the order of their indexes (`links_exact`).
-/
namespace Networkrs

open Machine Framing Collect

def rtmGetlink : UInt16 := 18

def linkDumpSequence : UInt32 := 6

variable {host : Host}

/-- `links`: the request is for all families. -/
def linkDump (host : Host) (calls : DumpCalls) : IoResult (List Link) :=
  familyDump calls (dumpRequest host rtmGetlink linkDumpSequence 0 LinkMessage.size)
    (receiveDump host linkDumpSequence rtmNewlink "link" (parseLink host))

def linkKey (link : Link) : ℤ := link.interfaceIndex.toInt

def links (host : Host) (calls : DumpCalls) : IoResult (List Link) := do
  let links ← linkDump host calls
  return sortByKey linkKey links

/-! ## Links -/

/-- The data of a link: that of a VLAN has its identifier as attribute 1, that of another kind something of its own. -/
inductive LinkData where
  | vlan (id : UInt16)
  | other (first : Option Bytes)

def LinkData.first (host : Host) : LinkData → Option Bytes
  | .vlan id => some (host.byteOrder.u16Bytes id)
  | .other first => first

/-- The VLAN identifier the program shows: of a link of another kind, the first two bytes of attribute 1. -/
def LinkData.shownId (host : Host) : LinkData → Option UInt16
  | .vlan id => some id
  | .other first => first.bind (nativeU16 host)

/-- What a kernel says of the kind of a link: a name, and data that means what that kind makes of it. -/
structure LinkInfo where
  kind : Option Text
  data : Option LinkData
  kind_text : ∀ t ∈ kind, '\x00' ∉ t

/-- A link of the kernel's table. -/
structure KernelLink where
  linkType : UInt16
  interfaceIndex : Int32
  flags : UInt32
  change : UInt32
  name : Text
  info : Option LinkInfo
  operationalState : Option UInt8
  carrier : Option UInt8
  mtu : Option UInt32
  minimumMtu : Option UInt32
  maximumMtu : Option UInt32
  parentIndex : Option UInt32
  masterIndex : Option UInt32
  qdisc : Option Text
  transmitQueueLength : Option UInt32
  «alias» : Option Text
  alternativeNames : List Text
  group : Option UInt32
  promiscuity : Option UInt32
  transmitQueues : Option UInt32
  receiveQueues : Option UInt32
  carrierChanges : Option UInt32
  carrierUpCount : Option UInt32
  carrierDownCount : Option UInt32
  physicalPortName : Option Text
  parentDeviceName : Option Text
  parentDeviceBusName : Option Text
  name_text : '\x00' ∉ name
  texts : ∀ text ∈ [qdisc, «alias», physicalPortName, parentDeviceName, parentDeviceBusName], ∀ t ∈ text, '\x00' ∉ t
  alternatives_text : ∀ t ∈ alternativeNames, '\x00' ∉ t

/-- **A section sends what kind a link is of.** -/
def LinkInfo.Sends (host : Host) (info : LinkInfo) (bytes : Bytes) : Prop :=
  ∃ l dataBytes, Encodes host l bytes ∧
    Presents [(iflaInfoKind, textValue info.kind), (iflaInfoData, dataBytes)] l ∧
    match info.data, dataBytes with
    | some data, some dataBytes =>
      ∃ l', Encodes host l' dataBytes ∧ Presents [(iflaVlanId, data.first host)] l'
    | none, none => True
    | _, _ => False

/-- **A section sends alternative names**, among properties of other kinds. -/
def SendsNames (host : Host) (names : List Text) (bytes : Bytes) : Prop :=
  ∃ l, Encodes host l bytes ∧
    l.filter (fun a => a.1 = iflaAltIfname) = names.map (fun name => (iflaAltIfname, utf8Bytes name ++ [0]))

namespace KernelLink

/-- `struct ifinfomsg`. -/
def struct (host : Host) (link : KernelLink) : Bytes :=
  [0, 0] ++ (host.byteOrder.u16Bytes link.linkType ++ (host.byteOrder.u32Bytes link.interfaceIndex.toUInt32 ++
    (host.byteOrder.u32Bytes link.flags ++ host.byteOrder.u32Bytes link.change)))

def fields (host : Host) (link : KernelLink) (infoBytes nameBytes : Option Bytes) : List (UInt16 × Option Bytes) :=
  [(iflaIfname, textValue (some link.name)), (iflaLinkinfo, infoBytes), (iflaAltIfname, none),
    (iflaPropList, nameBytes), (iflaOperstate, link.operationalState.map (fun state => [state])),
    (iflaCarrier, link.carrier.map (fun carrier => [carrier])), (iflaMtu, u32Value host link.mtu),
    (iflaMinMtu, u32Value host link.minimumMtu), (iflaMaxMtu, u32Value host link.maximumMtu),
    (iflaLink, u32Value host link.parentIndex), (iflaMaster, u32Value host link.masterIndex),
    (iflaQdisc, textValue link.qdisc), (iflaTxqlen, u32Value host link.transmitQueueLength),
    (iflaIfalias, textValue link.alias), (iflaGroup, u32Value host link.group),
    (iflaPromiscuity, u32Value host link.promiscuity), (iflaNumTxQueues, u32Value host link.transmitQueues),
    (iflaNumRxQueues, u32Value host link.receiveQueues), (iflaCarrierChanges, u32Value host link.carrierChanges),
    (iflaCarrierUpCount, u32Value host link.carrierUpCount),
    (iflaCarrierDownCount, u32Value host link.carrierDownCount), (iflaPhysPortName, textValue link.physicalPortName),
    (iflaParentDevName, textValue link.parentDeviceName),
    (iflaParentDevBusName, textValue link.parentDeviceBusName)]

/-- **A message sends a link.** -/
def Sends (host : Host) (link : KernelLink) (m : WireMessage) : Prop :=
  ∃ infoBytes nameBytes : Option Bytes,
    (match link.info, infoBytes with
      | some info, some infoBytes => info.Sends host infoBytes
      | none, none => True
      | _, _ => False) ∧
    nameBytes.elim (link.alternativeNames = []) (SendsNames host link.alternativeNames) ∧
    Carries host (link.struct host) (link.fields host infoBytes nameBytes) m

/-- What the program holds of a link: the state of a loopback that is up is read from its flags. -/
def record (host : Host) (link : KernelLink) : Link where
  interfaceIndex := link.interfaceIndex
  name := link.name
  kind := link.info.bind LinkInfo.kind
  hardwareType := link.linkType
  flags := linkFlags link.flags
  operationalState :=
    let state := (link.operationalState.map Networkrs.operationalState).getD "unknown"
    if state = ("unknown" : Text) ∧ link.flags &&& 0x09 = 0x09 then "up" else state
  carrier := link.carrier.map (· != 0)
  mtu := link.mtu
  minimumMtu := link.minimumMtu
  maximumMtu := link.maximumMtu
  parentIndex := link.parentIndex.map UInt32.toInt32
  masterIndex := link.masterIndex.map UInt32.toInt32
  qdisc := link.qdisc
  transmitQueueLength := link.transmitQueueLength
  «alias» := link.alias.filter (fun text => !text.isEmpty)
  alternativeNames := dedup (link.alternativeNames.mergeSort textLe)
  vlanId := (link.info.bind LinkInfo.data).bind (LinkData.shownId host)
  group := link.group
  promiscuity := link.promiscuity
  transmitQueues := link.transmitQueues
  receiveQueues := link.receiveQueues
  carrierChanges := link.carrierChanges
  carrierUpCount := link.carrierUpCount
  carrierDownCount := link.carrierDownCount
  physicalPortName := link.physicalPortName
  parentDeviceName := link.parentDeviceName
  parentDeviceBusName := link.parentDeviceBusName

theorem read_struct (link : KernelLink) (rest : Bytes) :
    LinkMessage.read host (link.struct host ++ rest) = some ⟨link.linkType, link.interfaceIndex, link.flags⟩ := by
  have hlength : ¬ (link.struct host ++ rest).length < LinkMessage.size := by
    simp [KernelLink.struct, LinkMessage.size]
    omega
  unfold LinkMessage.read
  rw [if_neg hlength]
  simp (disch := simp) only [KernelLink.struct, List.append_assoc, ByteOrder.i32At, ByteOrder.u32At_skip,
    ByteOrder.u32At_front, ByteOrder.u16At_skip, ByteOrder.u16At_front, ByteOrder.length_u32Bytes,
    ByteOrder.length_u16Bytes, List.length_cons, List.length_nil, Nat.reduceAdd, Nat.reduceSub,
    Int32.toInt32_toUInt32]

end KernelLink

/-! ## Nested sections -/

theorem LinkData.bind_first (data : LinkData) : (data.first host).bind (nativeU16 host) = data.shownId host := by
  cases data with
  | vlan id => exact nativeU16_u16Bytes host id
  | other first => rfl

/-- **The kind of a link is read as it was sent.** -/
theorem parseLinkInfo_sends {info : LinkInfo} {bytes : Bytes} (h : info.Sends host bytes) :
    parseLinkInfo host bytes = .ok (some (info.kind, info.data.bind (LinkData.shownId host))) := by
  obtain ⟨l, dataBytes, hbytes, hl, hdata⟩ := h
  have hkind := hl.findValue_eq iflaInfoKind rfl nulTerminatedString
  have hvalue := hl.findValue_eq iflaInfoData rfl some
  rw [bind_textValue info.kind_text] at hkind
  rw [Option.bind_fun_some] at hvalue
  unfold parseLinkInfo
  rw [attributesFromOffset_eq, List.drop_zero, attributesIn_of_encodes hbytes, ok_bind]
  dsimp only
  rw [firstValue, hvalue, findString, hkind]
  cases hd : info.data with
  | none =>
    rw [hd] at hdata
    cases dataBytes with
    | none => rfl
    | some dataBytes => exact absurd hdata id
  | some data =>
    rw [hd] at hdata
    cases dataBytes with
    | none => exact absurd hdata id
    | some dataBytes =>
      obtain ⟨l', hdataBytes, hl'⟩ := hdata
      have hid := hl'.findValue_eq iflaVlanId rfl (nativeU16 host)
      rw [data.bind_first] at hid
      dsimp only
      rw [attributesFromOffset_eq, List.drop_zero, attributesIn_of_encodes hdataBytes]
      dsimp only [ok_bind, Option.bind_some]
      rw [hid]
      rfl

theorem altNames_of_filter {l : List (UInt16 × Bytes)} {names : List Text} (hnames : ∀ t ∈ names, '\x00' ∉ t)
    (h : l.filter (fun a => a.1 = iflaAltIfname) = names.map (fun name => (iflaAltIfname, utf8Bytes name ++ [0]))) :
    altNames l = names := by
  have hread : ∀ name ∈ names, nulTerminatedString (utf8Bytes name ++ [0]) = some name :=
    fun name hname => nulTerminatedString_utf8Bytes (hnames name hname)
  unfold altNames
  rw [filterMap_kind_eq, h, List.filterMap_map]
  exact (List.filterMap_congr hread).trans List.filterMap_some

/-- **The alternative names are read from their own section.** -/
theorem properties_read {names : List Text} (hnames : ∀ t ∈ names, '\x00' ∉ t) {nameBytes : Option Bytes}
    (h : nameBytes.elim (names = []) (SendsNames host names)) :
    ∃ properties : Option (List (UInt16 × Bytes)),
      (∀ value, nameBytes = some value → attributesFromOffset host value 0 = .ok properties) ∧
        (nameBytes = none → properties = none) ∧ altNames (properties.getD []) = names := by
  cases nameBytes with
  | none =>
    refine ⟨none, fun value hvalue => absurd hvalue (by simp), fun _ => rfl, ?_⟩
    rw [show names = [] from h]
    rfl
  | some value =>
    obtain ⟨l, hbytes, hl⟩ := (show SendsNames host names value from h)
    refine ⟨some l, ?_, fun hnone => absurd hnone (by simp), altNames_of_filter hnames hl⟩
    rintro value ⟨⟩
    rw [attributesFromOffset_eq, List.drop_zero, attributesIn_of_encodes hbytes]

/-! ## The parser -/

/-- **The record of a link that is sent.** -/
theorem KernelLink.linkOf_eq (link : KernelLink) {infoBytes nameBytes : Option Bytes} {l : List (UInt16 × Bytes)}
    (hl : Presents (link.fields host infoBytes nameBytes) l) {properties : Option (List (UInt16 × Bytes))}
    (hnames : altNames (properties.getD []) = link.alternativeNames) :
    linkOf host ⟨link.linkType, link.interfaceIndex, link.flags⟩ l link.name
      (link.info.map (fun info => (info.kind, info.data.bind (LinkData.shownId host)))) properties =
      link.record host := by
  have hu32 : ∀ (kind : UInt16) {n : Option UInt32},
      (link.fields host infoBytes nameBytes).lookup kind = some (u32Value host n) → findNativeU32 host l kind = n :=
    fun kind n hfield => (hl.findValue_eq kind hfield (nativeU32 host)).trans (bind_u32Value n)
  have htext : ∀ (kind : UInt16) {text : Option Text},
      (link.fields host infoBytes nameBytes).lookup kind = some (textValue text) →
      text ∈ [link.qdisc, link.alias, link.physicalPortName, link.parentDeviceName, link.parentDeviceBusName] →
      findString l kind = text :=
    fun kind text hfield hmem =>
      (hl.findValue_eq kind hfield nulTerminatedString).trans (bind_textValue (link.texts text hmem))
  have hstate : findValue l iflaOperstate (fun value => value.head?.map Networkrs.operationalState) =
      link.operationalState.map Networkrs.operationalState := by
    refine (hl.findValue_eq iflaOperstate rfl _).trans ?_
    cases link.operationalState <;> rfl
  have hcarrier : findU8 l iflaCarrier = link.carrier := by
    refine (hl.findValue_eq iflaCarrier rfl _).trans ?_
    cases link.carrier <;> rfl
  have hnone : altNames l = [] := by
    refine altNames_of_filter (by simp) ?_
    exact hl (iflaAltIfname, none) (by simp [KernelLink.fields])
  unfold linkOf KernelLink.record
  rw [hstate, hcarrier, hnone, hnames, List.nil_append, hu32 iflaMtu rfl, hu32 iflaMinMtu rfl, hu32 iflaMaxMtu rfl,
    hu32 iflaLink rfl, hu32 iflaMaster rfl, hu32 iflaTxqlen rfl, hu32 iflaGroup rfl, hu32 iflaPromiscuity rfl,
    hu32 iflaNumTxQueues rfl, hu32 iflaNumRxQueues rfl, hu32 iflaCarrierChanges rfl, hu32 iflaCarrierUpCount rfl,
    hu32 iflaCarrierDownCount rfl, htext iflaQdisc rfl (by simp), htext iflaIfalias rfl (by simp),
    htext iflaPhysPortName rfl (by simp), htext iflaParentDevName rfl (by simp),
    htext iflaParentDevBusName rfl (by simp)]
  cases link.info <;> rfl

/-- **A link is read as it was sent.** -/
theorem parseLink_sends (link : KernelLink) (m : WireMessage) (h : link.Sends host m) :
    parseLink host (m.message host) = .ok (some (link.record host)) := by
  obtain ⟨infoBytes, nameBytes, hinfo, hnames, bytes, l, hbytes, hl, hpayload⟩ := h
  have hheader : (m.header.bytes host).length = MessageHeader.size := m.header.length_bytes host
  have hstruct : (link.struct host).length = LinkMessage.size := by
    simp [KernelLink.struct, LinkMessage.size]
  have hname : findString l iflaIfname = some link.name :=
    (hl.findValue_eq iflaIfname rfl nulTerminatedString).trans (nulTerminatedString_utf8Bytes link.name_text)
  have hinfoValue : firstValue l iflaLinkinfo = infoBytes :=
    (hl.findValue_eq iflaLinkinfo rfl some).trans (Option.bind_fun_some infoBytes)
  have hnameValue : firstValue l iflaPropList = nameBytes :=
    (hl.findValue_eq iflaPropList rfl some).trans (Option.bind_fun_some nameBytes)
  have hparse : ∃ properties, altNames (properties.getD []) = link.alternativeNames ∧
      parseLink host (m.message host) = .ok (some (linkOf host ⟨link.linkType, link.interfaceIndex, link.flags⟩ l
        link.name (link.info.map (fun info => (info.kind, info.data.bind (LinkData.shownId host)))) properties)) := by
    unfold parseLink
    rw [WireMessage.message, hpayload, getFrom_behind hheader, Option.bind_some, link.read_struct]
    dsimp only
    rw [attributes_eq, attributesIn_behind hheader hstruct rfl hbytes, ok_bind]
    dsimp only
    rw [hname, hinfoValue, hnameValue]
    dsimp only
    obtain ⟨properties, hread, hproperties⟩ := properties_read link.alternatives_text hnames
    refine ⟨properties, hproperties.2, ?_⟩
    cases hi : link.info with
    | none =>
      rw [hi] at hinfo
      cases infoBytes with
      | some value => exact absurd hinfo id
      | none =>
        cases nameBytes with
        | none =>
          rw [hproperties.1 rfl]
          rfl
        | some value =>
          dsimp only
          rw [hread value rfl]
          rfl
    | some info =>
      rw [hi] at hinfo
      cases infoBytes with
      | none => exact absurd hinfo id
      | some value =>
        dsimp only
        rw [parseLinkInfo_sends hinfo]
        cases nameBytes with
        | none =>
          rw [hproperties.1 rfl]
          rfl
        | some value =>
          dsimp only
          rw [hread value rfl]
          rfl
  obtain ⟨properties, hproperties, hparse⟩ := hparse
  rw [hparse, link.linkOf_eq hl hproperties]

/-! ## The table -/

/-- What `links` returns of a kernel that serves it. -/
theorem links_serves {host : Host} {calls : DumpCalls}
    {kernel : DumpKernel (fun _ : KernelLink => (0 : UInt8)) rtmGetlink}
    (h : kernel.Serves host (KernelLink.Sends host) rtmNewlink
      (dumpRequest host rtmGetlink linkDumpSequence 0 LinkMessage.size) calls) :
    links host calls = .ok (sortByKey linkKey (kernel.table.map (KernelLink.record host))) := by
  have hloop : ∀ entries : List KernelLink,
      Answers host linkDumpSequence rtmNewlink (KernelLink.Sends host) entries calls.replies →
      (receiveDump host linkDumpSequence rtmNewlink "link" (parseLink host) calls.replies).1 =
        .ok (entries.filterMap (fun link => some (link.record host))) :=
    fun entries h => receiveDump_answers (by decide) parseLink_sends h "link"
  obtain ⟨entries, hdump, hentries⟩ := familyDump_serves (by decide) (by decide) h hloop
  have htable : entries = kernel.table := by simpa using hentries
  rw [links, linkDump, hdump, htable]
  have hmap := congrFun (List.filterMap_eq_map (f := KernelLink.record host)) kernel.table
  exact congrArg (fun records => Outcome.ok (sortByKey linkKey records)) hmap

/-- **The links of a kernel are listed**, in the order of their indexes. -/
theorem links_exact (host : Host) (calls : DumpCalls)
    (kernel : DumpKernel (fun _ : KernelLink => (0 : UInt8)) rtmGetlink)
    (h : kernel.Serves host (KernelLink.Sends host) rtmNewlink
      (dumpRequest host rtmGetlink linkDumpSequence 0 LinkMessage.size) calls) :
    ∃ shown, links host calls = .ok shown ∧ InOrder linkKey (kernel.table.map (KernelLink.record host)) shown :=
  ⟨_, links_serves h, inOrder_sortByKey linkKey _⟩

def vlanLink : KernelLink where
  linkType := 1
  interfaceIndex := 7
  flags := 0x11043
  change := 0
  name := "eth0.10"
  info := some ⟨some "vlan", some (.vlan 10), by
    rintro t ⟨⟩
    decide⟩
  operationalState := some 6
  carrier := some 1
  mtu := some 1500
  minimumMtu := none
  maximumMtu := none
  parentIndex := some 2
  masterIndex := none
  qdisc := none
  transmitQueueLength := none
  «alias» := none
  alternativeNames := ["lan"]
  group := none
  promiscuity := none
  transmitQueues := none
  receiveQueues := none
  carrierChanges := none
  carrierUpCount := none
  carrierDownCount := none
  physicalPortName := none
  parentDeviceName := none
  parentDeviceBusName := none
  name_text := by decide
  texts := by
    intro text htext t ht
    simp only [List.mem_cons, List.not_mem_nil, or_false, or_self] at htext
    rw [htext] at ht
    cases ht
  alternatives_text := by decide

def vlanInfo : Bytes :=
  AttributeHeader.bytes hostX86 ⟨9, iflaInfoKind⟩ ++ utf8Bytes ("vlan" ++ ['\x00']) ++
    ([0, 0, 0] ++ (AttributeHeader.bytes hostX86 ⟨10, iflaInfoData⟩ ++
      (AttributeHeader.bytes hostX86 ⟨6, iflaVlanId⟩ ++ [10, 0] ++ []) ++ []))

def vlanNames : Bytes := AttributeHeader.bytes hostX86 ⟨8, iflaAltIfname⟩ ++ utf8Bytes ("lan" ++ ['\x00']) ++ []

def vlanMessage : WireMessage where
  header := ⟨116, rtmNewlink, 2, linkDumpSequence, 0⟩
  payload := vlanLink.struct hostX86 ++
    (AttributeHeader.bytes hostX86 ⟨12, iflaIfname⟩ ++ utf8Bytes ("eth0.10" ++ ['\x00']) ++
      ([] ++ (AttributeHeader.bytes hostX86 ⟨26, iflaLinkinfo⟩ ++ vlanInfo ++
        ([0, 0] ++ (AttributeHeader.bytes hostX86 ⟨5, iflaOperstate⟩ ++ [6] ++
          ([0, 0, 0] ++ (AttributeHeader.bytes hostX86 ⟨5, iflaCarrier⟩ ++ [1] ++
            ([0, 0, 0] ++ (AttributeHeader.bytes hostX86 ⟨8, iflaMtu⟩ ++ [0xdc, 5, 0, 0] ++
              ([] ++ (AttributeHeader.bytes hostX86 ⟨8, iflaLink⟩ ++ [2, 0, 0, 0] ++
                ([] ++ (AttributeHeader.bytes hostX86 ⟨12, iflaPropList⟩ ++ vlanNames ++ [])))))))))))))
  padding := []
  length_eq := by decide
  padding_eq := by decide

theorem sends_vlanInfo :
    LinkInfo.Sends hostX86
      ⟨some "vlan", some (.vlan 10), by
        rintro t ⟨⟩
        decide⟩ vlanInfo := by
  refine ⟨_, some _, .cons ⟨9, iflaInfoKind⟩ (utf8Bytes ("vlan" ++ ['\x00'])) [0, 0, 0] (by decide) (by decide)
    (.last ⟨10, iflaInfoData⟩ (AttributeHeader.bytes hostX86 ⟨6, iflaVlanId⟩ ++ [10, 0] ++ []) [] (by decide)
      (by decide)), ?_, _, .last ⟨6, iflaVlanId⟩ [10, 0] [] (by decide) (by decide), ?_⟩
  all_goals
    unfold Presents
    decide +kernel

theorem sends_vlanNames : SendsNames hostX86 ["lan"] vlanNames :=
  ⟨_, .last ⟨8, iflaAltIfname⟩ (utf8Bytes ("lan" ++ ['\x00'])) [] (by decide) (by decide), by decide +kernel⟩

theorem sends_vlanLink : vlanLink.Sends hostX86 vlanMessage := by
  refine ⟨some vlanInfo, some vlanNames, sends_vlanInfo, sends_vlanNames, _, _,
    .cons ⟨12, iflaIfname⟩ (utf8Bytes ("eth0.10" ++ ['\x00'])) [] (by decide) (by decide)
      (.cons ⟨26, iflaLinkinfo⟩ vlanInfo [0, 0] (by decide) (by decide)
        (.cons ⟨5, iflaOperstate⟩ [6] [0, 0, 0] (by decide) (by decide)
          (.cons ⟨5, iflaCarrier⟩ [1] [0, 0, 0] (by decide) (by decide)
            (.cons ⟨8, iflaMtu⟩ [0xdc, 5, 0, 0] [] (by decide) (by decide)
              (.cons ⟨8, iflaLink⟩ [2, 0, 0, 0] [] (by decide) (by decide)
                (.last ⟨12, iflaPropList⟩ vlanNames [] (by decide) (by decide))))))), ?_, rfl⟩
  unfold Presents
  decide +kernel

def vlanCalls : DumpCalls :=
  ⟨.ok (), .ok (), .bytes 32, [.datagram (datagramOf hostX86 [vlanMessage, doneMessage linkDumpSequence])]⟩

/-- A kernel with one VLAN link. -/
theorem links_exact_vlan :
    ∃ shown, links hostX86 vlanCalls = .ok shown ∧ InOrder linkKey [vlanLink.record hostX86] shown := by
  have answers : Answers hostX86 linkDumpSequence rtmNewlink (KernelLink.Sends hostX86) [vlanLink]
      vlanCalls.replies := oneEntry (by decide) (by decide) sends_vlanLink (by decide +kernel)
  exact links_exact hostX86 vlanCalls (.ofTable _ _ [vlanLink])
    (DumpKernel.serves_ofTable (by decide) (by decide) rfl rfl rfl answers)

end Networkrs
