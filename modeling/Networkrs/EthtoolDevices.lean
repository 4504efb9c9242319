import Networkrs.FlagWords
import Networkrs.GenlKernel
import Networkrs.KernelLinks
import Networkrs.Statistics
import Networkrs.System
import Networkrs.Wifi
/-!
# EthtoolDevices — the devices of a kernel, over one socket

`devices` of `ethtool.rs` lists the links, and asks five questions about each that is not a loopback, all over one
client.  A question that the kernel refuses, loses or does not take leaves out what it asks for and nothing else: there
is one device for each of these links, in the order of their indexes, and each part of it is read from the answer to its
own question (`devices_exact`).
-/
namespace Networkrs

open Machine Framing Collect

namespace Ethtool

def cmdLinkinfoGet : UInt8 := 2
def cmdLinkmodesGet : UInt8 := 4
def cmdFeaturesGet : UInt8 := 11
def cmdEeeGet : UInt8 := 23
def cmdStatsGet : UInt8 := 32
def headerDevIndex : UInt16 := 1
def linkinfoPort : UInt16 := 2
def linkinfoPhyAddress : UInt16 := 3
def linkinfoTpMdix : UInt16 := 4
def linkinfoTransceiver : UInt16 := 6
def linkmodesAutoneg : UInt16 := 2
def linkmodesOurs : UInt16 := 3
def linkmodesPeer : UInt16 := 4
def linkmodesSpeed : UInt16 := 5
def linkmodesDuplex : UInt16 := 6
def linkmodesLanes : UInt16 := 9
def featuresHw : UInt16 := 2
def featuresWanted : UInt16 := 3
def featuresActive : UInt16 := 4
def eeeModesOurs : UInt16 := 2
def eeeModesPeer : UInt16 := 3
def eeeActive : UInt16 := 4
def eeeEnabled : UInt16 := 5
def eeeTxLpiEnabled : UInt16 := 6
def eeeTxLpiTimer : UInt16 := 7
def statsHeader : UInt16 := 2
def statsGroups : UInt16 := 3
def bitsetSize : UInt16 := 2

structure Device where
  interfaceIndex : UInt32
  name : Text
  driver : Option Text
  driverModule : Option Text
  driverVersion : Option Text
  port : Option Text
  phyAddress : Option UInt8
  mdix : Option Text
  transceiver : Option Text
  speedMbps : Option UInt32
  duplex : Option Text
  autonegotiation : Option Bool
  lanes : Option UInt32
  supportedModes : List Text
  peerModes : List Text
  hardwareFeatures : List Text
  wantedFeatures : List Text
  activeFeatures : List Text
  eeeEnabled : Option Bool
  eeeActive : Option Bool
  eeeTxLpiEnabled : Option Bool
  eeeTxLpiTimerUs : Option UInt32
  eeeModes : List Text
  eeePeerModes : List Text
  statistics : List Statistic
  deriving DecidableEq, Repr

/-- The questions about a link. -/
inductive Question where
  | linkInfo
  | linkModes
  | features
  | eee
  | statistics
  deriving DecidableEq, Repr

/-- What the kernel does at the requests of a list of devices; the questions are for each link, by its place. -/
structure Calls where
  links : DumpCalls
  connect : KernelCall
  ask : Nat → Question → KernelCall

/-- The files of a machine, and the targets of its symbolic links. -/
structure Files extends System where
  readLink : Text → Option Bytes

/-! ## Names -/

def portName (port : UInt8) : Text :=
  let names : List (UInt8 × Text) :=
    [(0, "twisted-pair"), (1, "aui"), (2, "mii"), (3, "fibre"), (4, "bnc"), (5, "direct-attach"), (0xef, "none"),
      (0xff, "other")]
  (names.lookup port).getD ("port-" ++ decimal port.toNat)

def mdixName (mdix : UInt8) : Text :=
  let names : List (UInt8 × Text) := [(0, "invalid"), (1, "mdi"), (2, "mdi-x"), (3, "automatic")]
  (names.lookup mdix).getD ("mdix-" ++ decimal mdix.toNat)

def transceiverName (transceiver : UInt8) : Text :=
  let names : List (UInt8 × Text) := [(0, "internal"), (1, "external")]
  (names.lookup transceiver).getD ("transceiver-" ++ decimal transceiver.toNat)

def duplexName (duplex : UInt8) : Text :=
  let names : List (UInt8 × Text) := [(0, "half"), (1, "full"), (0xff, "unknown")]
  (names.lookup duplex).getD ("duplex-" ++ decimal duplex.toNat)

/-- `Path::file_name`: the last component, without separators and dots behind it, unless it is `..`. -/
def fileName (path : Bytes) : Option Bytes :=
  ((path.splitOn 47).filter (fun component => component ≠ [] ∧ component ≠ [46])).getLast?.filter
    (fun component => component ≠ [46, 46])

variable (files : Files)

def symlinkName (path : Text) : Option Text := ((files.readLink path).bind fileName).bind fromUtf8

/-! ## One device -/

variable (host : Host)

def u8Attribute (message : Message) (kind : UInt16) : Option UInt8 := (bytesAttribute message kind).bind List.head?

def u32Attribute (message : Message) (kind : UInt16) : Option UInt32 :=
  (bytesAttribute message kind).bind (nativeU32 host)

/-- `.map(|message| parse_statistics(&message)).unwrap_or_default()`. -/
def statisticsOf (message : Option Message) : Checked (List Statistic) :=
  match message with
  | none => return []
  | some message => parseStatistics host message

/-- `.as_ref().map(|message| bitset_entries(message, kind)).unwrap_or_default()`. -/
def entriesOf (message : Option Message) (kind : UInt16) : Checked (List (UInt32 × Text × Bool)) :=
  match message with
  | none => return []
  | some message => bitsetEntries host message kind

/-- `.as_ref().map(|message| bitset_names_with_reference(message, kind, reference)).unwrap_or_default()`. -/
def namesOf (message : Option Message) (kind : UInt16) (reference : List (UInt32 × Text × Bool)) :
    Checked (List Text) :=
  match message with
  | none => return []
  | some message => bitsetNamesWithReference host message kind reference

def requestedStatGroups : Attribute :=
  Attribute.nested host statsGroups
    [⟨bitsetNomask, []⟩, Attribute.u32 host bitsetSize 5, Attribute.u32 host bitsetValue 0x1f]

/-- The device of a link, from the replies to its questions. -/
def deviceOf (link : Link) (replies : Question → Option Message) : Checked Device := do
  let statistics ← statisticsOf host (replies .statistics)
  let sysfs := pathJoin (pathJoin sysClassNet link.name) "device"
  let linkModeNames ← entriesOf host (replies .linkModes) linkmodesOurs
  let featureNames ← entriesOf host (replies .features) featuresHw
  let eeeModeNames ← entriesOf host (replies .eee) eeeModesOurs
  let peerModes ← namesOf host (replies .linkModes) linkmodesPeer linkModeNames
  let wantedFeatures ← namesOf host (replies .features) featuresWanted featureNames
  let activeFeatures ← namesOf host (replies .features) featuresActive featureNames
  let eeePeerModes ← namesOf host (replies .eee) eeeModesPeer eeeModeNames
  return {
    interfaceIndex := link.interfaceIndex.toUInt32
    name := link.name
    driver := symlinkName files (pathJoin sysfs "driver")
    driverModule := symlinkName files (pathJoin sysfs "driver/module")
    driverVersion := readTrimmed files.toSystem (pathJoin sysfs "driver/module/version")
    port := (replies .linkInfo).bind (fun message => (u8Attribute message linkinfoPort).map portName)
    phyAddress := (replies .linkInfo).bind (fun message => u8Attribute message linkinfoPhyAddress)
    mdix := (replies .linkInfo).bind (fun message => (u8Attribute message linkinfoTpMdix).map mdixName)
    transceiver :=
      (replies .linkInfo).bind (fun message => (u8Attribute message linkinfoTransceiver).map transceiverName)
    speedMbps := ((replies .linkModes).bind (fun message => u32Attribute host message linkmodesSpeed)).filter
      (fun speed => speed ≠ 0xffffffff)
    duplex := (replies .linkModes).bind (fun message => (u8Attribute message linkmodesDuplex).map duplexName)
    autonegotiation :=
      ((replies .linkModes).bind (fun message => u8Attribute message linkmodesAutoneg)).map (fun value => value != 0)
    lanes := (replies .linkModes).bind (fun message => u32Attribute host message linkmodesLanes)
    supportedModes := selectedEntryNames linkModeNames
    peerModes := peerModes
    hardwareFeatures := selectedEntryNames featureNames
    wantedFeatures := wantedFeatures
    activeFeatures := activeFeatures
    eeeEnabled := ((replies .eee).bind (fun message => u8Attribute message eeeEnabled)).map (fun value => value != 0)
    eeeActive := ((replies .eee).bind (fun message => u8Attribute message eeeActive)).map (fun value => value != 0)
    eeeTxLpiEnabled :=
      ((replies .eee).bind (fun message => u8Attribute message eeeTxLpiEnabled)).map (fun value => value != 0)
    eeeTxLpiTimerUs := (replies .eee).bind (fun message => u32Attribute host message eeeTxLpiTimer)
    eeeModes := selectedEntryNames eeeModeNames
    eeePeerModes := eeePeerModes
    statistics := statistics }

/-! ## All devices -/

/-- `query`. -/
def query (client : Client) (x : Exchange) : IoResult (Option Message × Client) := do
  let (messages, client) ← attempt host client x
  return (messages.bind List.head?, client)

def deviceSelector (kind : UInt16) (link : Link) : Attribute :=
  Attribute.nested host kind [Attribute.u32 host headerDevIndex link.interfaceIndex.toUInt32]

def Question.command : Question → UInt8
  | .linkInfo => cmdLinkinfoGet
  | .linkModes => cmdLinkmodesGet
  | .features => cmdFeaturesGet
  | .eee => cmdEeeGet
  | .statistics => cmdStatsGet

def Question.selector (link : Link) : Question → List Attribute
  | .statistics => [deviceSelector host statsHeader link, requestedStatGroups host]
  | _ => [deviceSelector host 1 link]

/-- The exchange of a question about a link. -/
def question (calls : Calls) (i : Nat) (link : Link) (q : Question) : Exchange :=
  ⟨q.command, 1, false, q.selector host link, (calls.ask i q).sent, (calls.ask i q).replies⟩

/-- One turn of the loop over the links. -/
def deviceOn (calls : Calls) (i : Nat) (link : Link) (client : Client) : IoResult (Device × Client) := do
  let (linkInfo, client) ← query host client (question host calls i link .linkInfo)
  let (linkModes, client) ← query host client (question host calls i link .linkModes)
  let (features, client) ← query host client (question host calls i link .features)
  let (eee, client) ← query host client (question host calls i link .eee)
  let (statistics, client) ← query host client (question host calls i link .statistics)
  let replies : Question → Option Message
    | .linkInfo => linkInfo
    | .linkModes => linkModes
    | .features => features
    | .eee => eee
    | .statistics => statistics
  let device ← Outcome.ofChecked (deviceOf files host link replies)
  return (device, client)

def devicesOn (calls : Calls) : Nat → List Link → Client → IoResult (List Device)
  | _, [], _ => return []
  | i, link :: links, client => do
    let (device, client) ← deviceOn files host calls i link client
    let devices ← devicesOn calls (i + 1) links client
    return device :: devices

def devices (calls : Calls) : IoResult (List Device) := do
  let links ← links host calls.links
  let client ← Client.connect host "ethtool" calls.connect.sent calls.connect.replies
  devicesOn files host calls 0 (deviceLinks links) client

/-! ## Replies do not stop the program -/

variable {host files}

theorem bitEntry_ok (list : Bool) (attr : Attribute) : ∃ entry, bitEntry host list attr = .ok entry := by
  unfold bitEntry
  rw [nestedAttributes, parseAttributes_eq, ok_bind]
  split <;> exact ⟨_, rfl⟩

theorem flaggedIndex_ok (attr : Attribute) : ∃ index, flaggedIndex host attr = .ok index := by
  unfold flaggedIndex
  rw [nestedAttributes, parseAttributes_eq, ok_bind]
  split
  · exact ⟨_, rfl⟩
  · split <;> exact ⟨_, rfl⟩

theorem bitsetEntries_ok (message : Message) (kind : UInt16) :
    ∃ entries, bitsetEntries host message kind = .ok entries := by
  obtain ⟨bitset, hbitset⟩ := Wifi.andThenNested_isOk host (bytesAttribute message kind)
  unfold bitsetEntries
  rw [hbitset, ok_bind]
  cases bitset with
  | none => exact ⟨[], rfl⟩
  | some bitset =>
    obtain ⟨bits, hbits⟩ := Wifi.andThenNested_isOk host (nestedBytes bitset bitsetBits)
    dsimp only
    rw [hbits, ok_bind]
    cases bits with
    | none => exact ⟨[], rfl⟩
    | some bits =>
      obtain ⟨entries, hentries⟩ := (exists_mapM_iff _ (bits.filter (fun attr => attr.kind = bitsetBitsBit))).2
        (fun attr _ => @bitEntry_ok host (bitset.any (fun attr => attr.kind = bitsetNomask)) attr)
      dsimp only
      rw [hentries, ok_bind]
      exact ⟨_, rfl⟩

theorem bitsetNamesWithReference_ok (message : Message) (kind : UInt16)
    (reference : List (UInt32 × Text × Bool)) :
    ∃ names, bitsetNamesWithReference host message kind reference = .ok names := by
  obtain ⟨entries, hentries⟩ := @bitsetEntries_ok host message kind
  obtain ⟨bitset, hbitset⟩ := Wifi.andThenNested_isOk host (bytesAttribute message kind)
  unfold bitsetNamesWithReference
  rw [hentries, ok_bind]
  dsimp only
  split
  · exact ⟨_, rfl⟩
  · rw [hbitset, ok_bind]
    cases bitset with
    | none => exact ⟨[], rfl⟩
    | some bitset =>
      obtain ⟨bits, hbits⟩ := Wifi.andThenNested_isOk host (nestedBytes bitset bitsetBits)
      dsimp only
      rw [hbits, ok_bind]
      cases bits with
      | none =>
        dsimp only
        rw [pure_bind]
        split
        · exact ⟨_, rfl⟩
        · split <;> exact ⟨_, rfl⟩
      | some bits =>
        obtain ⟨indices, hindices⟩ := (exists_mapM_iff _ (bits.filter (fun attr => attr.kind = bitsetBitsBit))).2
          (fun attr _ => @flaggedIndex_ok host attr)
        dsimp only
        rw [hindices, ok_bind, pure_bind]
        split
        · exact ⟨_, rfl⟩
        · split <;> exact ⟨_, rfl⟩

/-- **A device can be built of any replies.** -/
theorem deviceOf_ok (files : Files) (link : Link) (replies : Question → Option Message) :
    ∃ device, deviceOf files host link replies = .ok device := by
  have hentries : ∀ (message : Option Message) (kind : UInt16),
      ∃ entries, entriesOf host message kind = .ok entries := by
    intro message kind
    cases message with
    | none => exact ⟨[], rfl⟩
    | some message => exact bitsetEntries_ok message kind
  have hnames : ∀ (message : Option Message) (kind : UInt16) (reference : List (UInt32 × Text × Bool)),
      ∃ names, namesOf host message kind reference = .ok names := by
    intro message kind reference
    cases message with
    | none => exact ⟨[], rfl⟩
    | some message => exact bitsetNamesWithReference_ok message kind reference
  obtain ⟨modes, hmodes⟩ := hentries (replies .linkModes) linkmodesOurs
  obtain ⟨features, hfeatures⟩ := hentries (replies .features) featuresHw
  obtain ⟨eee, heee⟩ := hentries (replies .eee) eeeModesOurs
  obtain ⟨peer, hpeer⟩ := hnames (replies .linkModes) linkmodesPeer modes
  obtain ⟨wanted, hwanted⟩ := hnames (replies .features) featuresWanted features
  obtain ⟨active, hactive⟩ := hnames (replies .features) featuresActive features
  obtain ⟨eeePeer, heeePeer⟩ := hnames (replies .eee) eeeModesPeer eee
  have hstatistics : ∃ statistics, statisticsOf host (replies .statistics) = .ok statistics := by
    cases replies .statistics with
    | none => exact ⟨[], rfl⟩
    | some message => exact ⟨_, parseStatistics_eq host message⟩
  obtain ⟨statistics, hstatistics⟩ := hstatistics
  unfold deviceOf
  simp only [hstatistics, hmodes, hfeatures, heee, hpeer, hwanted, hactive, heeePeer, ok_bind]
  exact ⟨_, rfl⟩

theorem entriesOf_none (kind : UInt16) : entriesOf host none kind = .ok [] := rfl

theorem namesOf_none (kind : UInt16) (reference : List (UInt32 × Text × Bool)) :
    namesOf host none kind reference = .ok [] := rfl

theorem statisticsOf_none : statisticsOf host none = .ok [] := rfl

theorem selectedEntryNames_nil : selectedEntryNames [] = [] := List.mergeSort_nil

/-- A device without what one question asks for. -/
def Device.without (device : Device) : Question → Device
  | .linkInfo => { device with port := none, phyAddress := none, mdix := none, transceiver := none }
  | .linkModes =>
    { device with
      speedMbps := none, duplex := none, autonegotiation := none, lanes := none, supportedModes := [],
      peerModes := [] }
  | .features => { device with hardwareFeatures := [], wantedFeatures := [], activeFeatures := [] }
  | .eee =>
    { device with
      eeeEnabled := none, eeeActive := none, eeeTxLpiEnabled := none, eeeTxLpiTimerUs := none, eeeModes := [],
      eeePeerModes := [] }
  | .statistics => { device with statistics := [] }

/-- **A question without a reply** leaves out what it asks for, and nothing else. -/
theorem deviceOf_without {files : Files} {link : Link} {replies : Question → Option Message} {device : Device}
    (h : deviceOf files host link replies = .ok device) (q : Question) :
    deviceOf files host link (Function.update replies q none) = .ok (device.without q) := by
  unfold deviceOf at h
  obtain ⟨statistics, hstatistics, h⟩ := (bind_eq_ok_iff _ _ _).1 h
  obtain ⟨modes, hmodes, h⟩ := (bind_eq_ok_iff _ _ _).1 h
  obtain ⟨features, hfeatures, h⟩ := (bind_eq_ok_iff _ _ _).1 h
  obtain ⟨eee, heee, h⟩ := (bind_eq_ok_iff _ _ _).1 h
  obtain ⟨peer, hpeer, h⟩ := (bind_eq_ok_iff _ _ _).1 h
  obtain ⟨wanted, hwanted, h⟩ := (bind_eq_ok_iff _ _ _).1 h
  obtain ⟨active, hactive, h⟩ := (bind_eq_ok_iff _ _ _).1 h
  obtain ⟨eeePeer, heeePeer, h⟩ := (bind_eq_ok_iff _ _ _).1 h
  cases h
  have hother : ∀ q' : Question, q' ≠ q → Function.update replies q none q' = replies q' :=
    fun q' hne => Function.update_of_ne hne none replies
  have hown : Function.update replies q none q = none := Function.update_self q none replies
  unfold deviceOf
  cases q with
  | linkInfo =>
    simp only [hother .linkModes (by decide), hother .features (by decide), hother .eee (by decide),
      hother .statistics (by decide), hown, hstatistics, hmodes, hfeatures, heee, hpeer, hwanted, hactive, heeePeer,
      ok_bind]
    rfl
  | linkModes =>
    simp only [hother .linkInfo (by decide), hother .features (by decide), hother .eee (by decide),
      hother .statistics (by decide), hown, hstatistics, hfeatures, heee, hwanted, hactive, heeePeer, entriesOf_none,
      namesOf_none, selectedEntryNames_nil, ok_bind]
    rfl
  | features =>
    simp only [hother .linkInfo (by decide), hother .linkModes (by decide), hother .eee (by decide),
      hother .statistics (by decide), hown, hstatistics, hmodes, heee, hpeer, heeePeer, entriesOf_none, namesOf_none,
      selectedEntryNames_nil, ok_bind]
    rfl
  | eee =>
    simp only [hother .linkInfo (by decide), hother .linkModes (by decide), hother .features (by decide),
      hother .statistics (by decide), hown, hstatistics, hmodes, hfeatures, hpeer, hwanted, hactive, entriesOf_none,
      namesOf_none, selectedEntryNames_nil, ok_bind]
    rfl
  | statistics =>
    simp only [hother .linkInfo (by decide), hother .linkModes (by decide), hother .features (by decide),
      hother .eee (by decide), hown, hmodes, hfeatures, heee, hpeer, hwanted, hactive, heeePeer, statisticsOf_none,
      ok_bind]
    rfl

/-! ## The kernel -/

/-- **A kernel with links and ethtool**: the messages it answers each question about a link with, or none where it fails
the question. -/
structure Kernel where
  familyId : UInt16
  links : DumpKernel (fun _ : KernelLink => (0 : UInt8)) rtmGetlink
  answers : Nat → Question → Option (List Message)
  familyId_not : isControl familyId = false

/-- The links that are asked about. -/
def Kernel.asked (kernel : Kernel) (host : Host) : List Link :=
  deviceLinks (sortByKey linkKey (kernel.links.table.map (KernelLink.record host)))

/-- The place of a question among those about a link. -/
def Question.place : Question → Nat
  | .linkInfo => 0
  | .linkModes => 1
  | .features => 2
  | .eee => 3
  | .statistics => 4

/-- **The kernel serves a list of devices**: the dump of its links, and every question as it answers it. -/
structure Kernel.Serves (kernel : Kernel) (host : Host) (calls : Calls) : Prop where
  links : kernel.links.Serves host (KernelLink.Sends host) rtmNewlink
    (dumpRequest host rtmGetlink linkDumpSequence 0 LinkMessage.size) calls.links
  connect : Nonempty (Registers host "ethtool" kernel.familyId calls.connect)
  ask : ∀ i link, (kernel.asked host)[i]? = some link → ∀ q : Question,
    ServesTable host kernel.familyId (UInt32.ofNat (2 + 5 * i + q.place)) Eq (question host calls i link q)
      (kernel.answers i q)

/-- What a question about a link comes to: the first message of its answer. -/
def Kernel.reply (kernel : Kernel) (i : Nat) (q : Question) : Option Message := (kernel.answers i q).bind List.head?

theorem query_serves {client : Client} {familyId : UInt16} {sequence : UInt32} {x : Exchange}
    {table : Option (List Message)} (hcontrol : isControl familyId = false)
    (hclient : client.IdleAt familyId sequence) (h : ServesTable host familyId (sequence + 1) Eq x table) :
    ∃ client', query host client x = .ok (table.bind List.head?, client') ∧
      client'.IdleAt familyId (sequence + 1) := by
  obtain ⟨reply, client', hattempt, htable, hclient'⟩ := attempt_serves hcontrol hclient h
  have hreply : reply = table := by
    cases htable with
    | none => rfl
    | some hmessages =>
      rw [List.forall₂_eq_eq_eq] at hmessages
      rw [hmessages]
  refine ⟨client', ?_, hclient'⟩
  rw [query, hattempt, hreply]
  rfl

/-- **The questions about one link** come to what the kernel answers for it. -/
theorem deviceOn_serves {kernel : Kernel} {calls : Calls} (h : kernel.Serves host calls) {i : Nat} {link : Link}
    (hi : (kernel.asked host)[i]? = some link) {client : Client}
    (hclient : client.IdleAt kernel.familyId (UInt32.ofNat (1 + 5 * i))) :
    ∃ device client', deviceOf files host link (kernel.reply i) = .ok device ∧
      deviceOn files host calls i link client = .ok (device, client') ∧
      client'.IdleAt kernel.familyId (UInt32.ofNat (1 + 5 * (i + 1))) := by
  have hnext : ∀ n, UInt32.ofNat n + 1 = UInt32.ofNat (n + 1) := fun n => by rw [UInt32.ofNat_add]; rfl
  -- each question takes the next sequence number
  have hstep : ∀ (q : Question) (client : Client),
      client.IdleAt kernel.familyId (UInt32.ofNat (1 + 5 * i + q.place)) →
      ∃ client', query host client (question host calls i link q) = .ok (kernel.reply i q, client') ∧
        client'.IdleAt kernel.familyId (UInt32.ofNat (1 + 5 * i + (q.place + 1))) := by
    intro q client hclient
    have hserved := h.ask i link hi q
    rw [show 2 + 5 * i + q.place = 1 + 5 * i + q.place + 1 by omega, ← hnext] at hserved
    obtain ⟨client', hquery, hclient'⟩ := query_serves kernel.familyId_not hclient hserved
    exact ⟨client', hquery, by rw [hnext] at hclient'; exact hclient'⟩
  obtain ⟨client1, hlinkInfo, hclient1⟩ := hstep .linkInfo client hclient
  obtain ⟨client2, hlinkModes, hclient2⟩ := hstep .linkModes client1 hclient1
  obtain ⟨client3, hfeatures, hclient3⟩ := hstep .features client2 hclient2
  obtain ⟨client4, heee, hclient4⟩ := hstep .eee client3 hclient3
  obtain ⟨client5, hstatistics, hclient5⟩ := hstep .statistics client4 hclient4
  obtain ⟨device, hdevice⟩ := @deviceOf_ok host files link (kernel.reply i)
  have hreplies : (fun q : Question => match q with
      | .linkInfo => kernel.reply i .linkInfo
      | .linkModes => kernel.reply i .linkModes
      | .features => kernel.reply i .features
      | .eee => kernel.reply i .eee
      | .statistics => kernel.reply i .statistics) = kernel.reply i := by
    funext q
    cases q <;> rfl
  refine ⟨device, client5, hdevice, ?_, hclient5⟩
  unfold deviceOn
  simp only [hlinkInfo, hlinkModes, hfeatures, heee, hstatistics, bind, Outcome.bind]
  rw [hreplies, hdevice]
  rfl

theorem devicesOn_serves {kernel : Kernel} {calls : Calls} (h : kernel.Serves host calls) :
    ∀ (links : List Link) (i : Nat) (client : Client),
      (∀ k link, links[k]? = some link → (kernel.asked host)[i + k]? = some link) →
      client.IdleAt kernel.familyId (UInt32.ofNat (1 + 5 * i)) →
      ∃ devices, devicesOn files host calls i links client = .ok devices ∧
        List.Forall₂ (fun entry device => deviceOf files host entry.1 (kernel.reply entry.2) = .ok device)
          (links.zipIdx i) devices
  | [], _, _, _, _ => ⟨[], rfl, .nil⟩
  | link :: links, i, client, hasked, hclient => by
    have hfirst : (kernel.asked host)[i]? = some link := hasked 0 link rfl
    obtain ⟨device, client', hdevice, hon, hclient'⟩ :=
      @deviceOn_serves files host kernel calls h i link hfirst _ hclient
    have hrest : ∀ k found, links[k]? = some found → (kernel.asked host)[i + 1 + k]? = some found := by
      intro k found hk
      have hnext := hasked (k + 1) found hk
      rwa [show i + (k + 1) = i + 1 + k by omega] at hnext
    obtain ⟨devices, hdevices, hread⟩ := devicesOn_serves h links (i + 1) client' hrest hclient'
    refine ⟨device :: devices, ?_, .cons hdevice hread⟩
    rw [devicesOn, hon]
    show devicesOn files host calls (i + 1) links client' >>= _ = _
    rw [hdevices]
    rfl

theorem deviceLinks_record (table : List KernelLink) : deviceLinks (table.map (KernelLink.record host)) =
    (table.filter (fun link => !link.flags.toNat.testBit 3)).map (KernelLink.record host) := by
  unfold deviceLinks
  rw [List.filter_map]
  congr 1
  apply List.filter_congr
  intro link _
  have hmem := mem_deviceLinks_iff (show (link.record host).flags = linkFlags link.flags from rfl) [link.record host]
    (List.mem_singleton_self _)
  unfold deviceLinks at hmem
  rw [List.mem_filter, List.mem_singleton, eq_self, true_and, ← Bool.not_eq_true'] at hmem
  exact Bool.eq_iff_iff.2 hmem

/-- **The devices of a kernel**: one for each link that is not a loopback, in the order of their indexes, each read from
the answers to the questions about that link.  No answer stops the list, and a question without one leaves out what it
asks for and nothing else. -/
theorem devices_exact (files : Files) (kernel : Kernel) (calls : Calls) (h : kernel.Serves host calls) :
    ∃ links shown, devices files host calls = .ok shown ∧
      InOrder linkKey
        ((kernel.links.table.filter (fun link => !link.flags.toNat.testBit 3)).map (KernelLink.record host)) links ∧
      List.Forall₂ (fun entry device => deviceOf files host entry.1 (kernel.reply entry.2) = .ok device)
        links.zipIdx shown ∧
      ∀ link replies device q, deviceOf files host link replies = .ok device →
        deviceOf files host link (Function.update replies q none) = .ok (device.without q) := by
  obtain ⟨connect⟩ := h.connect
  obtain ⟨client, hconnect, hclient⟩ := connect_registers connect
  have hlinks := links_serves h.links
  obtain ⟨shown, hshown, hread⟩ := @devicesOn_serves files host kernel calls h (kernel.asked host) 0 client
    (fun k link hk => by rwa [Nat.zero_add]) hclient
  refine ⟨kernel.asked host, shown, ?_, ?_, hread, fun _ _ _ q hdevice => deviceOf_without hdevice q⟩
  · unfold devices
    rw [hlinks]
    simp only [hconnect, bind, Outcome.bind]
    exact hshown
  · rw [← deviceLinks_record]
    exact InOrder.filter linkKey (inOrder_sortByKey linkKey _) _

/-! ## A kernel with one device -/

def portReply : Message := ⟨2, [⟨linkinfoPort, [3]⟩, ⟨linkinfoPhyAddress, [1]⟩]⟩

/-- Only the first question is answered. -/
def vlanKernel : Kernel where
  familyId := 21
  links := .ofTable _ _ [vlanLink]
  answers _ q := if q = .linkInfo then some [portReply] else none
  familyId_not := by decide

def vlanDeviceCalls : Calls where
  links := vlanCalls
  connect := ⟨.bytes (familyRequest hostX86 "ethtool").length, [.datagram (datagramOf hostX86 [familyWire hostX86 21])]⟩
  ask _ q :=
    if q = .linkInfo then
      ⟨.bytes 32, [.datagram (datagramOf hostX86 [portReply.wire hostX86 21 2 (by decide +kernel)])]⟩
    else ⟨.failed 105, []⟩

def emptyFiles : Files where
  readToString _ := .error (.os 2)
  exists_ _ := false
  readDir _ := .error (.os 2)
  bind := .error (.os 2)
  ioctl _ _ := none
  readLink _ := none

theorem asked_vlanKernel {i : Nat} {link : Link} (h : (vlanKernel.asked hostX86)[i]? = some link) :
    i = 0 ∧ link = vlanLink.record hostX86 := by
  have hasked : vlanKernel.asked hostX86 = [vlanLink.record hostX86] := by
    have hsorted : sortByKey linkKey ([vlanLink].map (KernelLink.record hostX86)) = [vlanLink].map
        (KernelLink.record hostX86) := List.mergeSort_singleton _
    have hplain : (!vlanLink.flags.toNat.testBit 3) = true := by decide
    show deviceLinks (sortByKey linkKey ([vlanLink].map (KernelLink.record hostX86))) = _
    rw [hsorted, deviceLinks_record, List.filter_eq_self.2]
    · rfl
    · intro link hlink
      rw [List.mem_singleton.1 hlink]
      exact hplain
  rw [hasked] at h
  obtain ⟨hi, rfl⟩ := List.getElem?_eq_some_iff.1 h
  obtain rfl : i = 0 := by simpa using hi
  exact ⟨rfl, rfl⟩

theorem serves_vlanDeviceCalls : vlanKernel.Serves hostX86 vlanDeviceCalls where
  links := DumpKernel.serves_ofTable (by decide) (by decide) rfl rfl rfl
    (oneEntry (by decide) (by decide) sends_vlanLink (by decide +kernel))
  connect := ⟨registersFamily hostX86 "ethtool" 21⟩
  ask i link hi q := by
    obtain ⟨rfl, rfl⟩ := asked_vlanKernel hi
    cases q with
    | linkInfo =>
      exact servesTable_answer vlanKernel.familyId_not (by decide +kernel) (show portReply = portReply from rfl)
        (by decide +kernel) rfl (by decide +kernel) rfl (by decide +kernel)
    | linkModes | features | eee | statistics => exact servesTable_unsent rfl rfl

/-- A kernel that answers one question of five. -/
theorem devices_exact_vlan :
    ∃ links shown, devices emptyFiles hostX86 vlanDeviceCalls = .ok shown ∧
      InOrder linkKey ((vlanKernel.links.table.filter (fun link => !link.flags.toNat.testBit 3)).map
        (KernelLink.record hostX86)) links ∧
      List.Forall₂ (fun entry device => deviceOf emptyFiles hostX86 entry.1 (vlanKernel.reply entry.2) = .ok device)
        links.zipIdx shown ∧
      ∀ link replies device q, deviceOf emptyFiles hostX86 link replies = .ok device →
        deviceOf emptyFiles hostX86 link (Function.update replies q none) = .ok (device.without q) :=
  devices_exact emptyFiles vlanKernel vlanDeviceCalls serves_vlanDeviceCalls

end Ethtool

end Networkrs
