import Networkrs.Ethtool
/-!
# Wifi — nl80211 interfaces and what they are associated with

`interfaces` of `wifi.rs` asks for the scan results, the station and the power saving of each interface.  Of the scan
results it stores the first entry that is authenticated or associated, so what it stores belongs to the associated
network exactly when no entry that is merely authenticated comes first (`stored_bss_is_associated_iff`).
-/
namespace Networkrs

open Machine Framing

namespace Wifi

def attrWiphy : UInt16 := 1
def attrWiphyName : UInt16 := 2
def attrIfindex : UInt16 := 3
def attrIfname : UInt16 := 4
def attrIftype : UInt16 := 5
def attrMac : UInt16 := 6
def attrStaInfo : UInt16 := 21
def attrWiphyFreq : UInt16 := 38
def attrBss : UInt16 := 47
def attrPsState : UInt16 := 93
def bssBssid : UInt16 := 1
def bssFrequency : UInt16 := 2
def bssInformationElements : UInt16 := 6
def bssSignalMbm : UInt16 := 7
def bssSignalUnspec : UInt16 := 8
def bssStatus : UInt16 := 9
def bssSeenMsAgo : UInt16 := 10
def bssStatusAuthenticated : UInt32 := 0
def bssStatusAssociated : UInt32 := 1
def staInactiveTime : UInt16 := 1
def staSignal : UInt16 := 7
def staTxBitrate : UInt16 := 8
def staRxPackets : UInt16 := 9
def staTxPackets : UInt16 := 10
def staTxRetries : UInt16 := 11
def staTxFailed : UInt16 := 12
def staSignalAvg : UInt16 := 13
def staRxBitrate : UInt16 := 14
def staRxBytes64 : UInt16 := 23
def staTxBytes64 : UInt16 := 24
def rateBitrate : UInt16 := 1
def rateMcs : UInt16 := 2
def rateWidth40 : UInt16 := 3
def rateBitrate32 : UInt16 := 5
def rateVhtMcs : UInt16 := 6
def rateVhtNss : UInt16 := 7
def rateWidth80 : UInt16 := 8
def rateWidth160 : UInt16 := 10
def rateHeMcs : UInt16 := 13
def rateHeNss : UInt16 := 14

/-- A decoded bitrate; `tenths` are tenths of a megabit per second, before the source's division by ten. -/
structure Bitrate where
  tenths : UInt32
  widthMhz : Option UInt16
  mcs : Option UInt8
  spatialStreams : Option UInt8
  encoding : Option Text
  deriving DecidableEq, Repr

structure Station where
  inactiveMs : Option UInt32
  signalDbm : Option Int8
  averageSignalDbm : Option Int8
  receiveBytes : Option UInt64
  transmitBytes : Option UInt64
  receivePackets : Option UInt32
  transmitPackets : Option UInt32
  transmitRetries : Option UInt32
  transmitFailures : Option UInt32
  receiveBitrate : Option Bitrate
  transmitBitrate : Option Bitrate
  deriving DecidableEq, Repr

/-- An interface; the signal is in mBm, before the source's division by a hundred. -/
structure WifiInterface where
  interfaceIndex : UInt32
  name : Text
  interfaceType : Text
  mac : Option Text
  wiphy : Option UInt32
  wiphyName : Option Text
  frequencyMhz : Option UInt32
  ssid : Option Text
  bssid : Option Text
  signalMbm : Option Int32
  signalUnspecified : Option UInt8
  seenMsAgo : Option UInt32
  powerSave : Option Bool
  station : Option Station
  deriving DecidableEq, Repr

structure ConnectedBss where
  frequencyMhz : Option UInt32
  ssid : Option Text
  bssid : Option Text
  signalMbm : Option Int32
  signalUnspecified : Option UInt8
  seenMsAgo : Option UInt32
  deriving DecidableEq, Repr

/-! ## Attributes -/

variable (host : Host)

def u32Attribute (message : Message) (kind : UInt16) : Option UInt32 :=
  (bytesAttribute message kind).bind (nativeU32 host)

def stringAttribute (message : Message) (kind : UInt16) : Option Text :=
  (bytesAttribute message kind).bind nulTerminatedString

def nestedU8 (attributes : List Attribute) (kind : UInt16) : Option UInt8 :=
  (nestedBytes attributes kind).bind List.head?

def nestedI8 (attributes : List Attribute) (kind : UInt16) : Option Int8 := (nestedU8 attributes kind).map UInt8.toInt8

def nestedU16 (attributes : List Attribute) (kind : UInt16) : Option UInt16 :=
  (nestedBytes attributes kind).bind (nativeU16 host)

def nestedU32 (attributes : List Attribute) (kind : UInt16) : Option UInt32 :=
  (nestedBytes attributes kind).bind (nativeU32 host)

def nestedU64 (attributes : List Attribute) (kind : UInt16) : Option UInt64 :=
  (nestedBytes attributes kind).bind (nativeU64 host)

def hasAttribute (attributes : List Attribute) (kind : UInt16) : Bool := attributes.any (fun attr => attr.kind = kind)

def formatMac (value : Bytes) : Text := formatLinkAddress value

def interfaceType (kind : UInt32) : Text :=
  if kind = 1 then "ad-hoc"
  else if kind = 2 then "station"
  else if kind = 3 then "access-point"
  else if kind = 4 then "access-point-vlan"
  else if kind = 5 then "wds"
  else if kind = 6 then "monitor"
  else if kind = 7 then "mesh"
  else if kind = 8 then "p2p-client"
  else if kind = 9 then "p2p-go"
  else if kind = 10 then "p2p-device"
  else if kind = 11 then "ocb"
  else if kind = 12 then "nan"
  else "type-" ++ decimal kind.toNat

/-! ## Parsers -/

/-- Information elements: a kind, the length of the data, and the data, without padding. -/
def elementFormat : Format UInt8 (UInt8 × UInt8) where
  size := 2
  read := fun
    | kind :: length :: _ => some (kind, length)
    | _ => none
  length := fun header => 2 + header.2.toNat
  align := id
  padding := 0
  size_pos := by decide
  read_isSome := fun l => by
    match l with
    | [] => simp
    | [_] => simp
    | _ :: _ :: _ => simp
  read_take := fun l n h => by
    match n, h with
    | n + 2, _ =>
      match l with
      | [] => rfl
      | [_] => rfl
      | _ :: _ :: _ => rfl
  le_align := fun n => Nat.le_refl n
  align_le := fun n => Nat.le_refl n
  padding_le := by decide

/-- One turn of the loop of `parse_ssid`: the first element of kind 0 is the network name. -/
def ssidStep (_ : Unit) (header : UInt8 × UInt8) (element : Bytes) : Checked (Flow Unit (Option Text)) := do
  if header.1 = 0 then
    let name ← sliceFrom element 2
    return .stop (fromUtf8 name)
  else return .next ()

def parseSsid (elements : Bytes) : Checked (Option Text) := do
  match ← walk elementFormat ssidStep (fun _ _ => none) elements 0 () with
  | .stop ssid => return ssid
  | .next () => return none

def parseInterface (wiphys : Keyed.Map UInt32 Text) (message : Message) : Option WifiInterface := do
  let wiphy := u32Attribute host message attrWiphy
  let interfaceIndex ← u32Attribute host message attrIfindex
  let name ← stringAttribute message attrIfname
  let kind ← u32Attribute host message attrIftype
  return {
    interfaceIndex := interfaceIndex
    name := name
    interfaceType := interfaceType kind
    mac := (bytesAttribute message attrMac).map formatMac
    wiphy := wiphy
    wiphyName := wiphy.bind wiphys
    frequencyMhz := u32Attribute host message attrWiphyFreq
    ssid := none
    bssid := none
    signalMbm := none
    signalUnspecified := none
    seenMsAgo := none
    powerSave := none
    station := none }

def parseConnectedBss (message : Message) : Checked (Option ConnectedBss) := do
  match ← andThenNested host (bytesAttribute message attrBss) with
  | none => return none
  | some attributes =>
    match nestedU32 host attributes bssStatus with
    | none => return none
    | some status =>
      if status ≠ bssStatusAssociated ∧ status ≠ bssStatusAuthenticated then return none
      else
        let ssid ← match nestedBytes attributes bssInformationElements with
          | none => pure none
          | some elements => parseSsid elements
        return some
          { frequencyMhz := nestedU32 host attributes bssFrequency
            ssid := ssid
            bssid := (nestedBytes attributes bssBssid).map formatMac
            signalMbm := (nestedU32 host attributes bssSignalMbm).map UInt32.toInt32
            signalUnspecified := (nestedBytes attributes bssSignalUnspec).bind List.head?
            seenMsAgo := nestedU32 host attributes bssSeenMsAgo }

def parseBitrate (value : Bytes) : Checked (Option Bitrate) := do
  match ← nestedAttributes host value with
  | none => return none
  | some attributes =>
    let tenths := nestedU32 host attributes rateBitrate32 <|>
      (nestedU16 host attributes rateBitrate).map UInt16.toUInt32
    match tenths with
    | none => return none
    | some tenths =>
      let (encoding, mcs) : Option Text × Option UInt8 :=
        match nestedU8 attributes rateHeMcs with
        | some mcs => (some "HE", some mcs)
        | none =>
          match nestedU8 attributes rateVhtMcs with
          | some mcs => (some "VHT", some mcs)
          | none => (none, nestedU8 attributes rateMcs)
      return some
        { tenths := tenths
          widthMhz :=
            if hasAttribute attributes rateWidth160 then some 160
            else if hasAttribute attributes rateWidth80 then some 80
            else if hasAttribute attributes rateWidth40 then some 40
            else some 20
          mcs := mcs
          spatialStreams := nestedU8 attributes rateHeNss <|> nestedU8 attributes rateVhtNss
          encoding := encoding }

/-- `nested_bytes(..).and_then(parse_bitrate)`. -/
def nestedBitrate (attributes : List Attribute) (kind : UInt16) : Checked (Option Bitrate) :=
  match nestedBytes attributes kind with
  | none => return none
  | some value => parseBitrate host value

def parseStation (message : Message) : Checked (Option Station) := do
  match ← andThenNested host (bytesAttribute message attrStaInfo) with
  | none => return none
  | some attributes =>
    let receiveBitrate ← nestedBitrate host attributes staRxBitrate
    let transmitBitrate ← nestedBitrate host attributes staTxBitrate
    return some
      { inactiveMs := nestedU32 host attributes staInactiveTime
        signalDbm := nestedI8 attributes staSignal
        averageSignalDbm := nestedI8 attributes staSignalAvg
        receiveBytes := nestedU64 host attributes staRxBytes64
        transmitBytes := nestedU64 host attributes staTxBytes64
        receivePackets := nestedU32 host attributes staRxPackets
        transmitPackets := nestedU32 host attributes staTxPackets
        transmitRetries := nestedU32 host attributes staTxRetries
        transmitFailures := nestedU32 host attributes staTxFailed
        receiveBitrate := receiveBitrate
        transmitBitrate := transmitBitrate }

/-- `iter().find_map(f)`: later messages are not parsed. -/
def findMap {β : Type} (f : Message → Checked (Option β)) : List Message → Checked (Option β)
  | [] => return none
  | message :: messages => do
    match ← f message with
    | some value => return some value
    | none => findMap f messages

/-! ## `interfaces` -/

/-- What the requests of a snapshot return: connecting, the two dumps, and the three requests for each interface, by its
place in the interface dump. -/
structure Replies where
  connect : Except IoError Unit
  wiphys : Except IoError (List Message)
  interfaces : Except IoError (List Message)
  scan : Nat → Except IoError (List Message)
  station : Nat → Except IoError (List Message)
  powerSave : Nat → Except IoError (List Message)

/-- What `interfaces` stores of a scan entry. -/
def WifiInterface.store (interface : WifiInterface) (bss : ConnectedBss) : WifiInterface :=
  { interface with
    frequencyMhz := bss.frequencyMhz <|> interface.frequencyMhz
    ssid := bss.ssid
    bssid := bss.bssid
    signalMbm := bss.signalMbm
    signalUnspecified := bss.signalUnspecified
    seenMsAgo := bss.seenMsAgo }

/-- The three steps of the loop over the interfaces; a request that fails leaves its fields as they are. -/
def queryScan (replies : Replies) (i : Nat) (interface : WifiInterface) : Checked WifiInterface :=
  match replies.scan i with
  | .error _ => return interface
  | .ok messages => do
    match ← findMap (parseConnectedBss host) messages with
    | none => return interface
    | some bss => return interface.store bss

def queryStation (replies : Replies) (i : Nat) (interface : WifiInterface) : Checked WifiInterface :=
  match replies.station i with
  | .error _ => return interface
  | .ok messages => do
    let station ← findMap (parseStation host) messages
    return { interface with station := station }

def queryPowerSave (replies : Replies) (i : Nat) (interface : WifiInterface) : WifiInterface :=
  match replies.powerSave i with
  | .error _ => interface
  | .ok messages =>
    let state := messages.findSome? (fun message => u32Attribute host message attrPsState)
    { interface with powerSave := state.map (fun state => state == 1) }

/-- One turn of the loop. -/
def queryInterface (replies : Replies) (interface : WifiInterface) (i : Nat) : Checked WifiInterface := do
  let interface ← queryScan host replies i interface
  let interface ← queryStation host replies i interface
  return queryPowerSave host replies i interface

/-- The interfaces of a snapshot, in the order of the dump. -/
def snapshots (replies : Replies) : Checked (Except IoError (List WifiInterface)) :=
  match replies.connect with
  | .error e => return .error e
  | .ok () =>
    match replies.wiphys with
    | .error e => return .error e
    | .ok wiphyMessages =>
      let wiphys := Keyed.collect (wiphyMessages.filterMap (fun message => do
        let wiphy ← u32Attribute host message attrWiphy
        let name ← stringAttribute message attrWiphyName
        return (wiphy, name)))
      match replies.interfaces with
      | .error e => return .error e
      | .ok messages => do
        let interfaces := messages.filterMap (parseInterface host wiphys)
        let interfaces ← interfaces.zipIdx.mapM (fun (interface, i) => queryInterface host replies interface i)
        return .ok interfaces

def interfaces (replies : Replies) : Checked (Except IoError (List WifiInterface)) := do
  match ← snapshots host replies with
  | .error e => return .error e
  | .ok interfaces => return .ok (interfaces.mergeSort (fun a b => a.interfaceIndex ≤ b.interfaceIndex))

/-! ## What an entry holds -/

theorem parseSsid_isOk (elements : Bytes) : ∃ ssid, parseSsid elements = .ok ssid := by
  have hstep : ∀ (u : Unit), ∀ i ∈ items elementFormat (elements.drop 0),
      ∃ flow, itemStep ssidStep (fun _ _ => none) u i = .ok flow := by
    intro u i hi
    cases i with
    | fault f => exact ⟨_, rfl⟩
    | record header element =>
      obtain ⟨-, -, hsize⟩ := mem_items_record elementFormat _ hi
      rw [itemStep, ssidStep]
      split
      · rw [sliceFrom_eq element (i := 2) hsize]
        exact ⟨_, rfl⟩
      · exact ⟨_, rfl⟩
  obtain ⟨flow, hflow⟩ := scan_of_next hstep ()
  rw [parseSsid, walk_eq_scan, hflow, ok_bind]
  cases flow <;> exact ⟨_, rfl⟩

theorem andThenNested_isOk (value : Option Bytes) : ∃ attributes, andThenNested host value = .ok attributes := by
  cases value with
  | none => exact ⟨none, rfl⟩
  | some value => exact ⟨_, parseAttributes_eq host value 0⟩

/-- The attributes of the BSS of an entry. -/
def bssAttributes (message : Message) : Option (List Attribute) :=
  match andThenNested host (bytesAttribute message attrBss) with
  | .ok attributes => attributes
  | .error _ => none

theorem andThenNested_bss (message : Message) :
    andThenNested host (bytesAttribute message attrBss) = .ok (bssAttributes host message) := by
  obtain ⟨attributes, h⟩ := andThenNested_isOk host (bytesAttribute message attrBss)
  rw [bssAttributes, h]

/-- The status of an entry. -/
def entryStatus (message : Message) : Option UInt32 :=
  (bssAttributes host message).bind (fun attributes => nestedU32 host attributes bssStatus)

/-- What `parse_connected_bss` makes of an entry. -/
def entryBss (message : Message) : Option ConnectedBss :=
  match parseConnectedBss host message with
  | .ok bss => bss
  | .error _ => none

/-- **An entry is parsed exactly when it is authenticated or associated.** -/
theorem parseConnectedBss_spec (message : Message) :
    parseConnectedBss host message = .ok (entryBss host message) ∧
      ((entryBss host message).isSome = true ↔ entryStatus host message = some bssStatusAssociated ∨
        entryStatus host message = some bssStatusAuthenticated) := by
  have hparse : ∃ bss, parseConnectedBss host message = .ok bss ∧
      (bss.isSome = true ↔ entryStatus host message = some bssStatusAssociated ∨
        entryStatus host message = some bssStatusAuthenticated) := by
    unfold parseConnectedBss entryStatus
    rw [andThenNested_bss, ok_bind]
    cases bssAttributes host message with
    | none => exact ⟨none, rfl, by simp⟩
    | some attributes =>
      dsimp only [Option.bind_some]
      cases hstatus : nestedU32 host attributes bssStatus with
      | none => exact ⟨none, rfl, by simp⟩
      | some status =>
        dsimp only
        by_cases hother : status ≠ bssStatusAssociated ∧ status ≠ bssStatusAuthenticated
        · rw [if_pos hother]
          exact ⟨none, rfl, by simp [hother.1, hother.2]⟩
        · rw [if_neg hother]
          have hknown : status = bssStatusAssociated ∨ status = bssStatusAuthenticated := by
            rcases Decidable.em (status = bssStatusAssociated) with h | h
            · exact Or.inl h
            · exact Or.inr (Decidable.not_not.1 (fun h' => hother ⟨h, h'⟩))
          cases nestedBytes attributes bssInformationElements with
          | none => exact ⟨_, rfl, by simp [hknown]⟩
          | some elements =>
            obtain ⟨ssid, hssid⟩ := parseSsid_isOk elements
            dsimp only
            rw [hssid, ok_bind]
            exact ⟨_, rfl, by simp [hknown]⟩
  obtain ⟨bss, hbss, hiff⟩ := hparse
  have hentry : entryBss host message = bss := by rw [entryBss, hbss]
  rw [hbss, hentry]
  exact ⟨rfl, hiff⟩

theorem findMap_eq {β : Type} {f : Message → Checked (Option β)} {g : Message → Option β} :
    ∀ (messages : List Message), (∀ message ∈ messages, f message = .ok (g message)) →
      findMap f messages = .ok (messages.findSome? g)
  | [], _ => rfl
  | message :: messages, h => by
    rw [findMap, h message List.mem_cons_self, ok_bind, List.findSome?_cons]
    cases g message with
    | none => exact findMap_eq messages (fun m hm => h m (List.mem_cons_of_mem _ hm))
    | some value => rfl

/-! ## What is stored -/

/-- The association data of a scan entry: network name, access point, signal and age. -/
def ConnectedBss.association (bss : ConnectedBss) :
    Option Text × Option Text × Option Int32 × Option UInt8 × Option UInt32 :=
  (bss.ssid, bss.bssid, bss.signalMbm, bss.signalUnspecified, bss.seenMsAgo)

def WifiInterface.association (interface : WifiInterface) :
    Option Text × Option Text × Option Int32 × Option UInt8 × Option UInt32 :=
  (interface.ssid, interface.bssid, interface.signalMbm, interface.signalUnspecified, interface.seenMsAgo)

/-- The later steps leave the association data as it is. -/
theorem association_of_queryStation {replies : Replies} {interface stored : WifiInterface} {i : Nat}
    (h : queryStation host replies i interface = .ok stored) : stored.association = interface.association := by
  unfold queryStation at h
  split at h
  · cases h
    rfl
  · obtain ⟨station, -, h⟩ := (bind_eq_ok_iff _ _ _).1 h
    cases h
    rfl

theorem association_queryPowerSave (replies : Replies) (i : Nat) (interface : WifiInterface) :
    (queryPowerSave host replies i interface).association = interface.association := by
  unfold queryPowerSave
  split <;> rfl

/-- **An interface stores the first entry that is authenticated or associated.** -/
theorem association_of_queryInterface {replies : Replies} {interface stored : WifiInterface} {i : Nat}
    {messages : List Message} {bss : ConnectedBss} (h : queryInterface host replies interface i = .ok stored)
    (hscan : replies.scan i = .ok messages) (hfirst : messages.findSome? (entryBss host) = some bss) :
    stored.association = bss.association := by
  have hquery : queryScan host replies i interface = .ok (interface.store bss) := by
    unfold queryScan
    rw [hscan]
    dsimp only
    rw [findMap_eq messages (fun m _ => (parseConnectedBss_spec host m).1), ok_bind, hfirst]
    rfl
  rw [queryInterface, hquery, ok_bind] at h
  obtain ⟨counted, hcounted, h⟩ := (bind_eq_ok_iff _ _ _).1 h
  obtain rfl := Except.ok.inj h
  rw [association_queryPowerSave, association_of_queryStation host hcounted]
  rfl

/-- **Stored data comes from an associated entry**: one of the entries is associated and has that data. -/
def FromAssociated (messages : List Message) (stored : WifiInterface) : Prop :=
  ∃ message ∈ messages, entryStatus host message = some bssStatusAssociated ∧
    ∃ bss, entryBss host message = some bss ∧ stored.association = bss.association

/-- The first entry that is authenticated or associated is associated, or has the data of one that is. -/
def AssociatedFirst (messages : List Message) : Prop :=
  ∀ pre first post bss, messages = pre ++ first :: post → (∀ message ∈ pre, entryBss host message = none) →
    entryBss host first = some bss → entryStatus host first = some bssStatusAuthenticated →
    ∃ message ∈ messages, entryStatus host message = some bssStatusAssociated ∧
      ∃ bss', entryBss host message = some bss' ∧ bss.association = bss'.association

theorem fromAssociated_iff {replies : Replies} {interface stored : WifiInterface} {i : Nat} {messages : List Message}
    (h : queryInterface host replies interface i = .ok stored) (hscan : replies.scan i = .ok messages)
    (hsome : ∃ message ∈ messages, entryStatus host message = some bssStatusAssociated) :
    FromAssociated host messages stored ↔ AssociatedFirst host messages := by
  have hparsed : (messages.findSome? (entryBss host)).isSome = true := by
    obtain ⟨message, hmessage, hstatus⟩ := hsome
    rw [List.findSome?_isSome_iff]
    exact ⟨message, hmessage, ((parseConnectedBss_spec host message).2).2 (Or.inl hstatus)⟩
  obtain ⟨bss, hfirst⟩ := Option.isSome_iff_exists.1 hparsed
  have hstored := association_of_queryInterface host h hscan hfirst
  obtain ⟨pre, first, post, hsplit, hbss, hpre⟩ := List.findSome?_eq_some_iff.1 hfirst
  unfold FromAssociated
  rw [hstored]
  constructor
  · rintro ⟨message, hmessage, hstatus, bss', hbss', heq⟩ pre' first' post' bss'' hsplit' hpre' hbss'' -
    have hfirst' : messages.findSome? (entryBss host) = some bss'' :=
      List.findSome?_eq_some_iff.2 ⟨pre', first', post', hsplit', hbss'', hpre'⟩
    obtain rfl := Option.some.inj (hfirst.symm.trans hfirst')
    exact ⟨message, hmessage, hstatus, bss', hbss', heq⟩
  · intro hfirstAssociated
    have hmem : first ∈ messages := hsplit ▸ List.mem_append_right _ List.mem_cons_self
    rcases ((parseConnectedBss_spec host first).2).1 (by rw [hbss]; rfl) with hstatus | hstatus
    · exact ⟨first, hmem, hstatus, bss, hbss, rfl⟩
    · exact hfirstAssociated pre first post bss hsplit hpre hbss hstatus

/-- **Wi-Fi association data comes from the associated entry exactly when no authenticated one with other data comes
first**: for each interface of a snapshot whose scan results hold an associated entry.  Sorting keeps the records. -/
theorem stored_bss_is_associated_iff {replies : Replies} {list : List WifiInterface}
    (h : snapshots host replies = .ok (.ok list)) :
    (∃ sorted, interfaces host replies = .ok (.ok sorted) ∧ sorted.Perm list) ∧
    ∀ (i : Nat) stored messages, list[i]? = some stored → replies.scan i = .ok messages →
      (∃ message ∈ messages, entryStatus host message = some bssStatusAssociated) →
        (FromAssociated host messages stored ↔ AssociatedFirst host messages) := by
  constructor
  · refine ⟨_, ?_, List.mergeSort_perm list (fun a b => a.interfaceIndex ≤ b.interfaceIndex)⟩
    rw [interfaces, h]
    rfl
  · intro i stored messages hi hscan hsome
    have hquery : ∃ interface, queryInterface host replies interface i = .ok stored := by
      unfold snapshots at h
      split at h
      · cases h
      split at h
      · cases h
      dsimp only at h
      split at h
      · cases h
      obtain ⟨queried, hqueried, h⟩ := (bind_eq_ok_iff _ _ _).1 h
      obtain rfl := Except.ok.inj (Except.ok.inj h)
      obtain ⟨⟨interface, j⟩, hplace, hinterface⟩ := getElem?_of_mapM i hqueried hi
      rw [List.getElem?_zipIdx, Option.map_eq_some_iff] at hplace
      obtain ⟨interface', -, hpair⟩ := hplace
      obtain ⟨rfl, rfl⟩ := Prod.mk.inj hpair
      rw [Nat.zero_add] at hinterface
      exact ⟨_, hinterface⟩
    obtain ⟨interface, hinterface⟩ := hquery
    exact fromAssociated_iff host hinterface hscan hsome

/-! ### An interface between two networks -/

/-- A scan entry with a status and an access point. -/
def scanEntry (status : UInt32) (mac : Bytes) : Message where
  command := 34
  attributes := [{
    kind := attrBss
    value := (Attribute.nested hostX86 attrBss
      [{ kind := bssStatus, value := hostX86.byteOrder.u32Bytes status }, { kind := bssBssid, value := mac }]).value }]

theorem bssAttributes_scanEntry (status : UInt32) {mac : Bytes} (h : mac.length = 6) :
    bssAttributes hostX86 (scanEntry status mac) =
      some [{ kind := bssStatus, value := hostX86.byteOrder.u32Bytes status }, { kind := bssBssid, value := mac }] := by
  have hnested := @nestedAttributes_nested hostX86 attrBss
    [{ kind := bssStatus, value := hostX86.byteOrder.u32Bytes status }, { kind := bssBssid, value := mac }]
    (fun a ha => by
      rcases List.mem_cons.1 ha with rfl | ha
      · simp [maxValue]
      · obtain rfl := List.mem_singleton.1 ha
        simp [h, maxValue])
  have hbytes : bytesAttribute (scanEntry status mac) attrBss = some (Attribute.nested hostX86 attrBss
      [{ kind := bssStatus, value := hostX86.byteOrder.u32Bytes status }, { kind := bssBssid, value := mac }]).value :=
    rfl
  have hstatus : bssStatus &&& nlaTypeMask = bssStatus := by decide
  have hbssid : bssBssid &&& nlaTypeMask = bssBssid := by decide
  rw [bssAttributes, hbytes, andThenNested, hnested]
  simp only [List.map_cons, List.map_nil, Attribute.masked, hstatus, hbssid]

theorem entryStatus_scanEntry (status : UInt32) {mac : Bytes} (h : mac.length = 6) :
    entryStatus hostX86 (scanEntry status mac) = some status := by
  have hread := hostX86.byteOrder.u32At_append [] [] status (k := 0) rfl
  rw [List.nil_append, List.append_nil] at hread
  have hlength : ¬ (hostX86.byteOrder.u32Bytes status).length < 4 := by simp
  rw [entryStatus, bssAttributes_scanEntry status h, Option.bind_some, nestedU32, nestedBytes, List.findSome?_cons,
    if_pos rfl]
  dsimp only [Option.bind_some]
  rw [nativeU32, if_neg hlength, hread]

theorem entryBss_scanEntry {status : UInt32} (hstatus : status = bssStatusAssociated ∨ status = bssStatusAuthenticated)
    {mac : Bytes} (h : mac.length = 6) :
    entryBss hostX86 (scanEntry status mac) = some ⟨none, none, some (formatMac mac), none, none, none⟩ := by
  have hknown : ¬ (status ≠ bssStatusAssociated ∧ status ≠ bssStatusAuthenticated) := by
    rintro ⟨hassociated, hauthenticated⟩
    exact hstatus.elim hassociated hauthenticated
  have hentry := entryStatus_scanEntry status h
  rw [entryStatus, bssAttributes_scanEntry status h, Option.bind_some] at hentry
  rw [entryBss, parseConnectedBss, andThenNested_bss, bssAttributes_scanEntry status h, ok_bind]
  dsimp only
  rw [hentry]
  dsimp only
  rw [if_neg hknown]
  rfl

def wlanMessage : Message where
  command := 7
  attributes := [⟨attrIfindex, [3, 0, 0, 0]⟩, ⟨attrIfname, [119, 108, 97, 110, 48, 0]⟩, ⟨attrIftype, [2, 0, 0, 0]⟩]

/-- An access point the interface is about to roam to comes before the one it is associated with. -/
def roamingEntries : List Message :=
  [scanEntry bssStatusAuthenticated [2, 0, 0, 0, 0, 1], scanEntry bssStatusAssociated [2, 0, 0, 0, 0, 2]]

def roaming : Replies where
  connect := .ok ()
  wiphys := .ok []
  interfaces := .ok [wlanMessage]
  scan := fun _ => .ok roamingEntries
  station := fun _ => .error (.os 95)
  powerSave := fun _ => .error (.os 95)

def roamingInterface : WifiInterface :=
  ⟨3, "wlan0", "station", none, none, none, none, none, some "02:00:00:00:00:01", none, none, none, none, none⟩

theorem snapshots_roaming : snapshots hostX86 roaming = .ok (.ok [roamingInterface]) := by
  have hwlan : parseInterface hostX86 (Keyed.collect []) wlanMessage =
      some ⟨3, "wlan0", "station", none, none, none, none, none, none, none, none, none, none, none⟩ := by
    decide +kernel
  have hfirst : roamingEntries.findSome? (entryBss hostX86) =
      some ⟨none, none, some (formatMac [2, 0, 0, 0, 0, 1]), none, none, none⟩ := by
    rw [roamingEntries, List.findSome?_cons, entryBss_scanEntry (Or.inr rfl) rfl]
  have hfind : findMap (parseConnectedBss hostX86) roamingEntries =
      .ok (some ⟨none, none, some (formatMac [2, 0, 0, 0, 0, 1]), none, none, none⟩) := by
    rw [findMap_eq roamingEntries (fun m _ => (parseConnectedBss_spec hostX86 m).1), hfirst]
  have hscan : ∀ i interface, queryScan hostX86 roaming i interface =
      .ok (interface.store ⟨none, none, some (formatMac [2, 0, 0, 0, 0, 1]), none, none, none⟩) := by
    intro i interface
    unfold queryScan roaming
    dsimp only
    rw [hfind]
    rfl
  have hparsed : [wlanMessage].filterMap (parseInterface hostX86 (Keyed.collect [])) =
      [⟨3, "wlan0", "station", none, none, none, none, none, none, none, none, none, none, none⟩] := by
    rw [List.filterMap_cons_some hwlan]
    rfl
  have hmac : formatMac [2, 0, 0, 0, 0, 1] = "02:00:00:00:00:01" := by decide
  have hquery : ∀ interface i, queryInterface hostX86 roaming interface i =
      .ok (interface.store ⟨none, none, some (formatMac [2, 0, 0, 0, 0, 1]), none, none, none⟩) := by
    intro interface i
    rw [queryInterface, hscan]
    rfl
  have hloop : snapshots hostX86 roaming = (do
      let interfaces := [wlanMessage].filterMap (parseInterface hostX86 (Keyed.collect []))
      let interfaces ← interfaces.zipIdx.mapM (fun (interface, i) => queryInterface hostX86 roaming interface i)
      return .ok interfaces) := rfl
  rw [hloop, hparsed]
  simp only [hquery, hmac]
  rfl

/-- The interface stores the access point it is not associated with. -/
theorem authenticated_entry_is_stored : ¬ ∀ (replies : Replies) (list : List WifiInterface),
    snapshots hostX86 replies = .ok (.ok list) → ∀ (i : Nat) stored messages, list[i]? = some stored →
      replies.scan i = .ok messages →
      (∃ message ∈ messages, entryStatus hostX86 message = some bssStatusAssociated) →
        FromAssociated hostX86 messages stored := by
  intro h
  have hassociated :
      entryStatus hostX86 (scanEntry bssStatusAssociated [2, 0, 0, 0, 0, 2]) = some bssStatusAssociated :=
    entryStatus_scanEntry bssStatusAssociated rfl
  have hfrom := h roaming [roamingInterface] snapshots_roaming 0 roamingInterface roamingEntries rfl rfl
    ⟨_, List.mem_cons_of_mem _ List.mem_cons_self, hassociated⟩
  obtain ⟨message, hmessage, hstatus, bss, hbss, heq⟩ := hfrom
  rcases List.mem_cons.1 hmessage with rfl | hmessage
  · rw [entryStatus_scanEntry bssStatusAuthenticated rfl] at hstatus
    exact absurd (Option.some.inj hstatus) (by decide)
  · obtain rfl := List.mem_singleton.1 hmessage
    rw [entryBss_scanEntry (Or.inl rfl) rfl] at hbss
    obtain rfl := Option.some.inj hbss
    exact absurd heq (by decide)

theorem stored_bss_is_associated_iff_roaming :
    (∃ sorted, interfaces hostX86 roaming = .ok (.ok sorted) ∧ sorted.Perm [roamingInterface]) ∧
    ∀ (i : Nat) stored messages, [roamingInterface][i]? = some stored → roaming.scan i = .ok messages →
      (∃ message ∈ messages, entryStatus hostX86 message = some bssStatusAssociated) →
        (FromAssociated hostX86 messages stored ↔ AssociatedFirst hostX86 messages) :=
  stored_bss_is_associated_iff hostX86 snapshots_roaming

end Wifi

end Networkrs
