import Networkrs.Lib.Sorted
import Networkrs.WifiRecords
/-!
# WifiSnapshot — the Wi-Fi interfaces of a kernel, over one socket

`interfaces` of `wifi.rs` sends all its requests over one client: two dumps, and three requests for each interface.
Every one comes to what the kernel makes of it, so the snapshot holds each interface of the kernel with the network, the
station and the power saving that the kernel reports for that interface, whichever of the other requests it refuses
(`interfaces_exact`).  Whatever the kernel does, a snapshot is that of the replies (`interfaces_of_interfacesOn`).
-/
namespace Networkrs

open Machine Framing Collect

namespace Wifi

def cmdGetWiphy : UInt8 := 1
def cmdGetInterface : UInt8 := 5
def cmdGetStation : UInt8 := 17
def cmdGetScan : UInt8 := 32
def cmdGetPowerSave : UInt8 := 62

/-- What the kernel does at the requests of a snapshot; the last three are for each interface, by its place. -/
structure Calls where
  connect : KernelCall
  wiphys : KernelCall
  interfaces : KernelCall
  scan : Nat → KernelCall
  station : Nat → KernelCall
  powerSave : Nat → KernelCall

variable (host : Host)

/-! ## The requests -/

def exchange (call : KernelCall) (command : UInt8) (dump : Bool) (selector : List Attribute) : Exchange :=
  ⟨command, 1, dump, selector, call.sent, call.replies⟩

/-- What the loop stores of each reply, or leaves where a request failed. -/
def storeScan (interface : WifiInterface) : Option (List Message) → Checked WifiInterface
  | none => return interface
  | some messages => do
    match ← findMap (parseConnectedBss host) messages with
    | none => return interface
    | some bss => return interface.store bss

def storeStation (interface : WifiInterface) : Option (List Message) → Checked WifiInterface
  | none => return interface
  | some messages => do
    let station ← findMap (parseStation host) messages
    return { interface with station := station }

def storePowerSave (interface : WifiInterface) : Option (List Message) → WifiInterface
  | none => interface
  | some messages =>
    let state := messages.findSome? (fun message => u32Attribute host message attrPsState)
    { interface with powerSave := state.map (fun state => state == 1) }

/-- One turn of the loop over the interfaces. -/
def queryInterfaceOn (calls : Calls) (i : Nat) (interface : WifiInterface) (client : Client) :
    IoResult (WifiInterface × Client) := do
  let selector := [Attribute.u32 host attrIfindex interface.interfaceIndex]
  let (scan, client) ← attempt host client (exchange (calls.scan i) cmdGetScan true selector)
  let interface ← Outcome.ofChecked (storeScan host interface scan)
  let (station, client) ← attempt host client (exchange (calls.station i) cmdGetStation true selector)
  let interface ← Outcome.ofChecked (storeStation host interface station)
  let (powerSave, client) ← attempt host client (exchange (calls.powerSave i) cmdGetPowerSave false selector)
  return (storePowerSave host interface powerSave, client)

def queryInterfacesOn (calls : Calls) : Nat → List WifiInterface → Client → IoResult (List WifiInterface)
  | _, [], _ => return []
  | i, interface :: interfaces, client => do
    let (interface, client) ← queryInterfaceOn host calls i interface client
    let interfaces ← queryInterfacesOn calls (i + 1) interfaces client
    return interface :: interfaces

def wiphyNames (messages : List Message) : Keyed.Map UInt32 Text :=
  Keyed.collect (messages.filterMap (fun message => do
    let wiphy ← u32Attribute host message attrWiphy
    let name ← stringAttribute message attrWiphyName
    return (wiphy, name)))

def interfaceKey (interface : WifiInterface) : Nat := interface.interfaceIndex.toNat

/-- `interfaces`, over the socket of its client. -/
def interfacesOn (calls : Calls) : IoResult (List WifiInterface) := do
  let client ← Client.connect host "nl80211" calls.connect.sent calls.connect.replies
  let (messages, client) ← require host client (exchange calls.wiphys cmdGetWiphy true [])
  let wiphys := wiphyNames host messages
  let (messages, client) ← require host client (exchange calls.interfaces cmdGetInterface true [])
  let interfaces ← queryInterfacesOn host calls 0 (messages.filterMap (parseInterface host wiphys)) client
  return sortByKey interfaceKey interfaces

/-! ## The kernel -/

/-- What a kernel answers to the requests for one interface, or none to one it fails. -/
structure InterfaceAnswers where
  scan : Option (List KernelBss)
  station : Option (List KernelStation)
  powerSave : Option (List UInt32)

/-- **A kernel with nl80211**: its radios, its interfaces, and what it knows of each. -/
structure Kernel where
  familyId : UInt16
  wiphys : List (UInt32 × Text)
  interfaces : List KernelInterface
  answers : Nat → InterfaceAnswers
  familyId_not : isControl familyId = false

/-- A message sends a radio, whose name is a text without zero bytes. -/
def SendsWiphy (host : Host) (wiphy : UInt32 × Text) (message : Message) : Prop :=
  '\x00' ∉ wiphy.2 ∧
    PresentsFields [(attrWiphy, u32Value host (some wiphy.1)), (attrWiphyName, textValue (some wiphy.2))]
      message.attributes

def SendsPowerSave (host : Host) (state : UInt32) (message : Message) : Prop :=
  PresentsFields [(attrPsState, u32Value host (some state))] message.attributes

/-- The interfaces a snapshot asks about, with the names of their radios. -/
def Kernel.shown (kernel : Kernel) : List WifiInterface :=
  kernel.interfaces.filterMap (KernelInterface.record (Keyed.collect kernel.wiphys))

/-- **The kernel serves a snapshot**: both dumps, and for every interface asked about the three requests it answers. -/
structure Kernel.Serves (kernel : Kernel) (host : Host) (calls : Calls) : Prop where
  connect : Nonempty (Registers host "nl80211" kernel.familyId calls.connect)
  wiphys : ServesTable host kernel.familyId 2 (SendsWiphy host) (exchange calls.wiphys cmdGetWiphy true [])
    (some kernel.wiphys)
  interfaces : ServesTable host kernel.familyId 3 (KernelInterface.Sends host)
    (exchange calls.interfaces cmdGetInterface true []) (some kernel.interfaces)
  scan : ∀ i interface, kernel.shown[i]? = some interface →
    ServesTable host kernel.familyId (UInt32.ofNat (4 + 3 * i)) (KernelBss.Sends host)
      (exchange (calls.scan i) cmdGetScan true [Attribute.u32 host attrIfindex interface.interfaceIndex])
      (kernel.answers i).scan
  station : ∀ i interface, kernel.shown[i]? = some interface →
    ServesTable host kernel.familyId (UInt32.ofNat (5 + 3 * i)) (KernelStation.Sends host)
      (exchange (calls.station i) cmdGetStation true [Attribute.u32 host attrIfindex interface.interfaceIndex])
      (kernel.answers i).station
  powerSave : ∀ i interface, kernel.shown[i]? = some interface →
    ServesTable host kernel.familyId (UInt32.ofNat (6 + 3 * i)) (SendsPowerSave host)
      (exchange (calls.powerSave i) cmdGetPowerSave false [Attribute.u32 host attrIfindex interface.interfaceIndex])
      (kernel.answers i).powerSave

/-! ## What a snapshot holds -/

/-- The first entry of a scan that the interface is associated with or authenticated to. -/
def connectedEntry (scan : Option (List KernelBss)) : Option ConnectedBss :=
  (scan.getD []).findSome? KernelBss.record

/-- **What a snapshot holds of an interface**: its own answers, each beside the others. -/
def InterfaceAnswers.holds (answers : InterfaceAnswers) (interface : WifiInterface) : WifiInterface where
  interfaceIndex := interface.interfaceIndex
  name := interface.name
  interfaceType := interface.interfaceType
  mac := interface.mac
  wiphy := interface.wiphy
  wiphyName := interface.wiphyName
  frequencyMhz := (connectedEntry answers.scan).bind ConnectedBss.frequencyMhz <|> interface.frequencyMhz
  ssid := (connectedEntry answers.scan).bind ConnectedBss.ssid
  bssid := (connectedEntry answers.scan).bind ConnectedBss.bssid
  signalMbm := (connectedEntry answers.scan).bind ConnectedBss.signalMbm
  signalUnspecified := (connectedEntry answers.scan).bind ConnectedBss.signalUnspecified
  seenMsAgo := (connectedEntry answers.scan).bind ConnectedBss.seenMsAgo
  powerSave := (answers.powerSave.bind List.head?).map (fun state => state == 1)
  station := (answers.station.bind List.head?).map KernelStation.record

variable {host}

theorem findMap_forall₂ {D β : Type} {f : Message → Checked (Option β)} {g : D → Option β}
    {sends : D → Message → Prop} {table : List D} {messages : List Message} (h : List.Forall₂ sends table messages)
    (hf : ∀ d message, sends d message → f message = .ok (g d)) :
    findMap f messages = .ok (table.findSome? g) := by
  induction h with
  | nil => rfl
  | @cons d message table messages hsends _ ih =>
    rw [findMap, hf d message hsends, ok_bind, List.findSome?_cons]
    cases g d with
    | none => exact ih
    | some value => rfl

theorem findSome?_forall₂ {D β : Type} {f : Message → Option β} {g : D → Option β} {sends : D → Message → Prop}
    {table : List D} {messages : List Message} (h : List.Forall₂ sends table messages)
    (hf : ∀ d message, sends d message → f message = g d) : messages.findSome? f = table.findSome? g := by
  induction h with
  | nil => rfl
  | cons hsends _ ih => rw [List.findSome?_cons, List.findSome?_cons, ih, hf _ _ hsends]

theorem findSome?_some {α β : Type} (f : α → β) (l : List α) : l.findSome? (fun a => some (f a)) = l.head?.map f := by
  cases l <;> rfl

/-! ## The requests for one interface -/

theorem storeScan_serves {scan : Option (List KernelBss)} (interface : WifiInterface) {reply : Option (List Message)}
    (h : Option.Rel (List.Forall₂ (KernelBss.Sends host)) scan reply) :
    storeScan host interface reply = .ok ((connectedEntry scan).elim interface interface.store) := by
  unfold connectedEntry
  cases h with
  | none => rfl
  | some hsends =>
    have hfind := findMap_forall₂ hsends (fun _ _ h => parseConnectedBss_sends h)
    rw [storeScan, hfind, ok_bind, Option.getD_some]
    cases List.findSome? KernelBss.record _ <;> rfl

theorem storeStation_serves {stations : Option (List KernelStation)} {interface : WifiInterface}
    {reply : Option (List Message)} (h : Option.Rel (List.Forall₂ (KernelStation.Sends host)) stations reply)
    (hfresh : interface.station = none) :
    storeStation host interface reply =
      .ok { interface with station := (stations.bind List.head?).map KernelStation.record } := by
  cases h with
  | none =>
    rw [Option.bind_none, Option.map_none, ← hfresh]
    rfl
  | some hsends =>
    have hfind := findMap_forall₂ hsends (fun _ _ h => parseStation_sends h)
    rw [storeStation, hfind, ok_bind, findSome?_some]
    rfl

theorem storePowerSave_serves {states : Option (List UInt32)} {interface : WifiInterface}
    {reply : Option (List Message)} (h : Option.Rel (List.Forall₂ (SendsPowerSave host)) states reply)
    (hfresh : interface.powerSave = none) :
    storePowerSave host interface reply =
      { interface with powerSave := (states.bind List.head?).map (fun state => state == 1) } := by
  cases h with
  | none =>
    rw [Option.bind_none, Option.map_none, ← hfresh]
    rfl
  | some hsends =>
    have hfind := findSome?_forall₂ hsends (fun state message hstate =>
      @u32Attribute_presents host _ message hstate attrPsState (some state) rfl)
    rw [storePowerSave, hfind, findSome?_some (fun state => state), Option.map_id']
    rfl

/-- An interface nothing has been stored for. -/
def Fresh (interface : WifiInterface) : Prop :=
  interface.ssid = none ∧ interface.bssid = none ∧ interface.signalMbm = none ∧ interface.signalUnspecified = none ∧
    interface.seenMsAgo = none ∧ interface.powerSave = none ∧ interface.station = none

theorem fresh_of_mem_shown {kernel : Kernel} {interface : WifiInterface} (h : interface ∈ kernel.shown) :
    Fresh interface := by
  obtain ⟨found, -, hrecord⟩ := List.mem_filterMap.1 h
  unfold KernelInterface.record at hrecord
  split at hrecord
  · cases hrecord
    exact ⟨rfl, rfl, rfl, rfl, rfl, rfl, rfl⟩
  · cases hrecord

/-- **The requests for one interface** come to what the kernel answers for it. -/
theorem queryInterfaceOn_serves {kernel : Kernel} {calls : Calls} (h : kernel.Serves host calls) {i : Nat}
    {interface : WifiInterface} (hi : kernel.shown[i]? = some interface) {client : Client}
    (hclient : client.IdleAt kernel.familyId (UInt32.ofNat (3 + 3 * i))) :
    ∃ client', queryInterfaceOn host calls i interface client = .ok ((kernel.answers i).holds interface, client') ∧
      client'.IdleAt kernel.familyId (UInt32.ofNat (3 + 3 * (i + 1))) := by
  have hnext : ∀ n, UInt32.ofNat n + 1 = UInt32.ofNat (n + 1) := fun n => by rw [UInt32.ofNat_add]; rfl
  obtain ⟨hssid, hbssid, hsignal, hunspecified, hseen, hpowerSave, hstation⟩ :=
    fresh_of_mem_shown (List.mem_of_getElem? hi)
  have hscanned := h.scan i interface hi
  have hstationed := h.station i interface hi
  have hpowered := h.powerSave i interface hi
  rw [show 4 + 3 * i = 3 + 3 * i + 1 by omega, ← hnext] at hscanned
  obtain ⟨scan, client1, hscan, hscanReply, hclient1⟩ := attempt_serves kernel.familyId_not hclient hscanned
  rw [hnext] at hclient1
  rw [show 5 + 3 * i = 3 + 3 * i + 1 + 1 by omega, ← hnext] at hstationed
  obtain ⟨station, client2, hstation', hstationReply, hclient2⟩ :=
    attempt_serves kernel.familyId_not hclient1 hstationed
  rw [hnext] at hclient2
  rw [show 6 + 3 * i = 3 + 3 * i + 1 + 1 + 1 by omega, ← hnext] at hpowered
  obtain ⟨powerSave, client3, hpower', hpowerReply, hclient3⟩ :=
    attempt_serves kernel.familyId_not hclient2 hpowered
  rw [hnext] at hclient3
  refine ⟨client3, ?_, by rw [show 3 + 3 * (i + 1) = 3 + 3 * i + 1 + 1 + 1 by omega]; exact hclient3⟩
  have hstored := storeScan_serves interface hscanReply
  unfold InterfaceAnswers.holds
  generalize connectedEntry (kernel.answers i).scan = entry at hstored ⊢
  unfold queryInterfaceOn
  simp only [hscan, hstored, hstation', hpower', bind, Outcome.bind, Outcome.ofChecked]
  cases entry with
  | none =>
    rw [Option.elim_none, storeStation_serves hstationReply hstation]
    dsimp only
    rw [storePowerSave_serves hpowerReply (by exact hpowerSave)]
    simp [hssid, hbssid, hsignal, hunspecified, hseen]
  | some bss =>
    rw [Option.elim_some, storeStation_serves hstationReply (by exact hstation)]
    dsimp only
    rw [storePowerSave_serves hpowerReply (by exact hpowerSave)]
    rfl

theorem queryInterfacesOn_serves {kernel : Kernel} {calls : Calls} (h : kernel.Serves host calls) :
    ∀ (interfaces : List WifiInterface) (i : Nat) (client : Client),
      (∀ k interface, interfaces[k]? = some interface → kernel.shown[i + k]? = some interface) →
      client.IdleAt kernel.familyId (UInt32.ofNat (3 + 3 * i)) →
      queryInterfacesOn host calls i interfaces client =
        .ok ((interfaces.zipIdx i).map (fun entry => (kernel.answers entry.2).holds entry.1))
  | [], _, _, _, _ => rfl
  | interface :: interfaces, i, client, hshown, hclient => by
    have hfirst : kernel.shown[i]? = some interface := hshown 0 interface rfl
    obtain ⟨client', hquery, hclient'⟩ := queryInterfaceOn_serves h hfirst hclient
    have hrest : ∀ k found, interfaces[k]? = some found → kernel.shown[i + 1 + k]? = some found := by
      intro k found hk
      have hnext := hshown (k + 1) found hk
      rwa [show i + (k + 1) = i + 1 + k by omega] at hnext
    have ih := queryInterfacesOn_serves h interfaces (i + 1) client' hrest hclient'
    rw [queryInterfacesOn, hquery]
    show queryInterfacesOn host calls (i + 1) interfaces client' >>= _ = _
    rw [ih]
    rfl

theorem wiphyName_sends {wiphy : UInt32 × Text} {message : Message} (h : SendsWiphy host wiphy message) :
    (do
      let index ← u32Attribute host message attrWiphy
      let name ← stringAttribute message attrWiphyName
      return (index, name)) = some wiphy := by
  obtain ⟨htext, hfields⟩ := h
  have hindex := @u32Attribute_presents host _ message hfields attrWiphy (some wiphy.1) rfl
  have hname := stringAttribute_presents hfields attrWiphyName (by simpa using htext) rfl
  rw [hindex, hname]
  rfl

/-- **A Wi-Fi snapshot holds the interfaces of the kernel**, in the order of their indexes, each with what the kernel
answers for it: the network of the first entry it is associated with or authenticated to, its first station, and its
power saving.  A request that fails leaves out its own values of its own interface. -/
theorem interfaces_exact (kernel : Kernel) (calls : Calls) (h : kernel.Serves host calls) :
    ∃ shown, interfacesOn host calls = .ok shown ∧
      InOrder interfaceKey (kernel.shown.zipIdx.map (fun entry => (kernel.answers entry.2).holds entry.1)) shown := by
  obtain ⟨connect⟩ := h.connect
  obtain ⟨client, hconnect, hclient⟩ := connect_registers connect
  obtain ⟨wiphyMessages, client1, hwiphys, hwiphyTable, hclient1⟩ :=
    require_serves kernel.familyId_not hclient h.wiphys
  obtain ⟨messages, client2, hinterfaces, htable, hclient2⟩ :=
    require_serves kernel.familyId_not hclient1 h.interfaces
  have hnames : wiphyNames host wiphyMessages = Keyed.collect kernel.wiphys := by
    have hpairs := filterMap_forall₂ hwiphyTable (fun wiphy message hsends => wiphyName_sends hsends)
    rw [wiphyNames, hpairs, List.filterMap_some]
  have hrecords : messages.filterMap (parseInterface host (Keyed.collect kernel.wiphys)) = kernel.shown :=
    filterMap_forall₂ htable (fun _ _ hsends => parseInterface_sends _ hsends)
  have hqueried := queryInterfacesOn_serves h kernel.shown 0 client2
    (fun k interface hk => by rwa [Nat.zero_add]) hclient2
  refine ⟨_, ?_, inOrder_sortByKey interfaceKey _⟩
  unfold interfacesOn
  simp only [hconnect, hwiphys, hinterfaces, hnames, hrecords, hqueried, bind, Outcome.bind]
  rfl

/-! ## The snapshot of the replies -/

theorem mapM_congr_mem {α β : Type} {f g : α → Checked β} : ∀ (l : List α), (∀ a ∈ l, f a = g a) →
    l.mapM f = l.mapM g
  | [], _ => rfl
  | a :: l, h => by
    rw [List.mapM_cons, List.mapM_cons, h a List.mem_cons_self,
      mapM_congr_mem l (fun x hx => h x (List.mem_cons_of_mem a hx))]

/-- The replies of an interface as `queryInterface` takes them: what a failed request returned is not looked at. -/
def replyOf (reply : Option (List Message)) : Except IoError (List Message) :=
  match reply with
  | some messages => .ok messages
  | none => .error (.custom .other [])

theorem queryInterface_replyOf {replies : Replies} {i : Nat} {interface : WifiInterface}
    {scan station powerSave : Option (List Message)} (hscan : replies.scan i = replyOf scan)
    (hstation : replies.station i = replyOf station) (hpowerSave : replies.powerSave i = replyOf powerSave) :
    queryInterface host replies interface i = do
      let interface ← storeScan host interface scan
      let interface ← storeStation host interface station
      return storePowerSave host interface powerSave := by
  have hone : queryScan host replies i interface = storeScan host interface scan := by
    rw [queryScan, hscan]
    cases scan <;> rfl
  have htwo : ∀ interface, queryStation host replies i interface = storeStation host interface station := by
    intro interface
    rw [queryStation, hstation]
    cases station <;> rfl
  have hthree : ∀ interface, queryPowerSave host replies i interface = storePowerSave host interface powerSave := by
    intro interface
    rw [queryPowerSave, hpowerSave]
    cases powerSave <;> rfl
  unfold queryInterface
  simp only [hone, htwo, hthree]

/-- **A loop over the interfaces that returns** stores what the requests of each one returned. -/
theorem queryInterfacesOn_eq_ok {calls : Calls} : ∀ {interfaces shown : List WifiInterface} {i : Nat} {client : Client},
    queryInterfacesOn host calls i interfaces client = .ok shown →
      ∃ replies : Replies, (interfaces.zipIdx i).mapM (fun (interface, i) => queryInterface host replies interface i) =
        .ok shown
  | [], shown, i, client, h => by
    cases h
    exact ⟨⟨.ok (), .ok [], .ok [], fun _ => .ok [], fun _ => .ok [], fun _ => .ok []⟩, rfl⟩
  | interface :: interfaces, shown, i, client, h => by
    obtain ⟨⟨stored, client'⟩, hquery, h⟩ := (Outcome.bind_eq_ok_iff _ _ _).1 h
    obtain ⟨rest, hrest, h⟩ := (Outcome.bind_eq_ok_iff _ _ _).1 h
    cases h
    obtain ⟨replies, hreplies⟩ := queryInterfacesOn_eq_ok hrest
    obtain ⟨⟨scan, _⟩, -, hquery⟩ := (Outcome.bind_eq_ok_iff _ _ _).1 hquery
    obtain ⟨scanned, hscanned, hquery⟩ := (Outcome.bind_eq_ok_iff _ _ _).1 hquery
    obtain ⟨⟨station, _⟩, -, hquery⟩ := (Outcome.bind_eq_ok_iff _ _ _).1 hquery
    obtain ⟨counted, hcounted, hquery⟩ := (Outcome.bind_eq_ok_iff _ _ _).1 hquery
    obtain ⟨⟨powerSave, _⟩, -, hquery⟩ := (Outcome.bind_eq_ok_iff _ _ _).1 hquery
    cases hquery
    rw [Outcome.ofChecked_eq_ok_iff] at hscanned hcounted
    -- the replies for this interface are put before those for the rest, which have greater places
    refine ⟨⟨.ok (), .ok [], .ok [], Function.update replies.scan i (replyOf scan),
      Function.update replies.station i (replyOf station),
      Function.update replies.powerSave i (replyOf powerSave)⟩, ?_⟩
    rw [List.zipIdx_cons, List.mapM_cons]
    dsimp only
    rw [queryInterface_replyOf (Function.update_self _ _ _) (Function.update_self _ _ _) (Function.update_self _ _ _),
      hscanned, ok_bind, hcounted, ok_bind]
    have hsame : ∀ entry ∈ interfaces.zipIdx (i + 1),
        queryInterface host ⟨.ok (), .ok [], .ok [], Function.update replies.scan i (replyOf scan),
          Function.update replies.station i (replyOf station),
          Function.update replies.powerSave i (replyOf powerSave)⟩ entry.1 entry.2 =
        queryInterface host replies entry.1 entry.2 := by
      intro entry hentry
      have hne : entry.2 ≠ i := by
        have hle := List.le_snd_of_mem_zipIdx hentry
        omega
      unfold queryInterface queryScan queryStation queryPowerSave
      simp only [Function.update_of_ne hne]
    rw [mapM_congr_mem _ hsame, hreplies]
    rfl

/-- **A snapshot over a socket is the snapshot of the replies to its requests**, whatever the kernel does. -/
theorem interfaces_of_interfacesOn {calls : Calls} {shown : List WifiInterface}
    (h : interfacesOn host calls = .ok shown) : ∃ replies, interfaces host replies = .ok (.ok shown) := by
  obtain ⟨client, -, h⟩ := (Outcome.bind_eq_ok_iff _ _ _).1 h
  obtain ⟨⟨wiphys, _⟩, -, h⟩ := (Outcome.bind_eq_ok_iff _ _ _).1 h
  obtain ⟨⟨messages, _⟩, -, h⟩ := (Outcome.bind_eq_ok_iff _ _ _).1 h
  obtain ⟨queried, hqueried, h⟩ := (Outcome.bind_eq_ok_iff _ _ _).1 h
  cases h
  obtain ⟨replies, hreplies⟩ := queryInterfacesOn_eq_ok hqueried
  refine ⟨{ replies with connect := .ok (), wiphys := .ok wiphys, interfaces := .ok messages }, ?_⟩
  have hsame : ∀ entry ∈ (messages.filterMap (parseInterface host (wiphyNames host wiphys))).zipIdx,
      queryInterface host { replies with connect := .ok (), wiphys := .ok wiphys, interfaces := .ok messages } entry.1
        entry.2 = queryInterface host replies entry.1 entry.2 := fun _ _ => rfl
  have hmapped := (mapM_congr_mem _ hsame).trans hreplies
  have hsorted : sortByKey interfaceKey queried =
      queried.mergeSort (fun a b => a.interfaceIndex ≤ b.interfaceIndex) := by
    unfold sortByKey interfaceKey
    congr
  unfold interfaces snapshots
  rw [hsorted]
  simp only [wiphyNames] at hmapped
  simp only [hmapped, ok_bind]
  rfl

/-! ## A kernel with one interface -/

def homeBss : KernelBss where
  status := some bssStatusAssociated
  frequencyMhz := some 5180
  bssid := some [2, 0, 0, 0, 0, 1]
  elements := some [⟨0, utf8Bytes "home", by decide⟩]
  signalMbm := some (-5400)
  signalUnspecified := none
  seenMsAgo := some 40

def wlanInterface : KernelInterface where
  interfaceIndex := some 3
  name := some "wlan0"
  kind := some 2
  mac := some [2, 0, 0, 0, 0, 2]
  wiphy := some 0
  frequencyMhz := none
  name_text := by
    rintro t ⟨⟩
    decide

/-- The station request fails. -/
def homeKernel : Kernel where
  familyId := 28
  wiphys := [(0, "phy0")]
  interfaces := [wlanInterface]
  answers _ := ⟨some [homeBss], none, some [1]⟩
  familyId_not := by decide

def phyMessage : Message := ⟨3, [⟨attrWiphy, [0, 0, 0, 0]⟩, ⟨attrWiphyName, utf8Bytes "phy0" ++ [0]⟩]⟩

def wlanReply : Message :=
  ⟨7, [⟨attrIfindex, [3, 0, 0, 0]⟩, ⟨attrIfname, utf8Bytes "wlan0" ++ [0]⟩, ⟨attrWiphy, [0, 0, 0, 0]⟩,
    ⟨attrIftype, [2, 0, 0, 0]⟩, ⟨attrMac, [2, 0, 0, 0, 0, 2]⟩]⟩

def homeEntry : List Attribute :=
  [⟨bssBssid, [2, 0, 0, 0, 0, 1]⟩, ⟨bssFrequency, [60, 20, 0, 0]⟩, ⟨bssInformationElements, 0 :: 4 :: utf8Bytes "home"⟩,
    ⟨bssSignalMbm, [232, 234, 255, 255]⟩, ⟨bssStatus, [1, 0, 0, 0]⟩, ⟨bssSeenMsAgo, [40, 0, 0, 0]⟩]

def scanReply : Message :=
  ⟨34, [⟨attrIfindex, [3, 0, 0, 0]⟩, ⟨attrBss, encodeAttributes hostX86 homeEntry⟩]⟩

def powerSaveReply : Message := ⟨62, [⟨attrPsState, [1, 0, 0, 0]⟩]⟩

def dumpCall (message : Message) (sequence : UInt32) (length : Nat)
    (h : (encodeAttributes hostX86 message.attributes).length < 65536) : KernelCall :=
  ⟨.bytes length, [.datagram (datagramOf hostX86 [message.wire hostX86 28 sequence h, doneMessage sequence])]⟩

def homeCalls : Calls where
  connect := ⟨.bytes (familyRequest hostX86 "nl80211").length, [.datagram (datagramOf hostX86 [familyWire hostX86 28])]⟩
  wiphys := dumpCall phyMessage 2 20 (by decide +kernel)
  interfaces := dumpCall wlanReply 3 20 (by decide +kernel)
  scan _ := dumpCall scanReply 4 28 (by decide +kernel)
  station _ := ⟨.failed 105, []⟩
  powerSave _ := ⟨.bytes 28, [.datagram (datagramOf hostX86 [powerSaveReply.wire hostX86 28 6 (by decide +kernel)])]⟩

theorem sends_homeBss : homeBss.Sends hostX86 scanReply :=
  ⟨_, by unfold PresentsFields Presents; decide +kernel, _,
    @encodes_encodeAttributes hostX86 homeEntry (by decide +kernel), by unfold Presents; decide +kernel⟩

theorem sends_wlanInterface : wlanInterface.Sends hostX86 wlanReply := by
  unfold KernelInterface.Sends PresentsFields Presents
  decide +kernel

theorem shown_homeKernel {i : Nat} {interface : WifiInterface} (h : homeKernel.shown[i]? = some interface) :
    i = 0 ∧ interface.interfaceIndex = 3 := by
  obtain ⟨hi, rfl⟩ := List.getElem?_eq_some_iff.1 h
  have hlength : homeKernel.shown.length = 1 := rfl
  obtain rfl : i = 0 := by omega
  exact ⟨rfl, rfl⟩

theorem serves_homeCalls : homeKernel.Serves hostX86 homeCalls where
  connect := ⟨registersFamily hostX86 "nl80211" 28⟩
  wiphys := servesTable_dump homeKernel.familyId_not (by decide +kernel) (show SendsWiphy hostX86 (0, "phy0") phyMessage
      from ⟨by decide, by unfold PresentsFields Presents; decide +kernel⟩) (by decide +kernel) rfl (by decide +kernel)
      rfl (by decide +kernel)
  interfaces := servesTable_dump homeKernel.familyId_not (by decide +kernel) sends_wlanInterface (by decide +kernel) rfl
      (by decide +kernel) rfl (by decide +kernel)
  scan i interface hi := by
    obtain ⟨rfl, hindex⟩ := shown_homeKernel hi
    rw [hindex]
    exact servesTable_dump homeKernel.familyId_not (by decide +kernel) sends_homeBss (by decide +kernel) rfl
      (by decide +kernel) rfl (by decide +kernel)
  station i interface hi := servesTable_unsent rfl rfl
  powerSave i interface hi := by
    obtain ⟨rfl, hindex⟩ := shown_homeKernel hi
    rw [hindex]
    exact servesTable_answer homeKernel.familyId_not (by decide +kernel)
      (show SendsPowerSave hostX86 1 powerSaveReply from by
        unfold SendsPowerSave PresentsFields Presents
        decide +kernel)
      (by decide +kernel) rfl (by decide +kernel) rfl (by decide +kernel)

/-- A kernel whose station request fails. -/
theorem interfaces_exact_home :
    ∃ shown, interfacesOn hostX86 homeCalls = .ok shown ∧
      InOrder interfaceKey (homeKernel.shown.zipIdx.map (fun entry => (homeKernel.answers entry.2).holds entry.1))
        shown :=
  interfaces_exact homeKernel homeCalls serves_homeCalls

end Wifi

end Networkrs
