import Networkrs.EthtoolDevices
import Networkrs.JsonReports
import Networkrs.ScanReport
/-!
# Selection — the neighbors and the hardware of one interface

`networkrs neighbors` and `networkrs hardware` take the name of an interface.  The first looks its index up in a hash
map, in whatever order that goes through its entries; the second keeps the devices of the name.  Text and JSON are
written apart, and show the same records (`selection_forms_agree`).
-/
namespace Networkrs

open Machine Keyed
open Collect (Outcome)

/-- What the calls of both commands return. -/
structure SelectionCalls extends NeighborCalls where
  system : System
  osError : Int32 → Text
  ipNeighbors : IoResult (List Neighbor)
  devices : IoResult (List Ethtool.Device)

/-! ## Neighbors -/

/-- `find_map` over the entries of a map of names. -/
def findIndex (order : List (Int32 × Text)) (name : Text) : Option Int32 :=
  (order.find? (fun entry => entry.2 = name)).map Prod.fst

section
variable (calls : SelectionCalls)

/-- `order` is that of the entries of `interface_names`. -/
def printNeighbors (order : List (Int32 × Text)) (selection : Option Text) : IoResult (List Text) := do
  let selectedIndex : Option Int32 ←
    match selection with
    | none => pure none
    | some selection =>
      match findIndex order selection with
      | some index => pure (some index)
      | none => .err (.custom .notFound ("interface " ++ selection ++ " does not exist"))
  let neighbors ← calls.ipNeighbors
  let neighbors :=
    match selectedIndex with
    | some index => neighbors.filter (fun neighbor => neighbor.interfaceIndex = index)
    | none => neighbors
  printNeighborEntries calls.toNeighborCalls calls.system neighbors false none "None cached"

/-- The `neighbors` command. -/
def neighborsText (order : List (Int32 × Text)) (selection : Option Text) : Outcome Text (List Text) :=
  cannotRead calls.osError "neighbors" (printNeighbors calls order selection)

/-- The `neighbors` command with `--json`. -/
def neighborsJson (order : List (Int32 × Text)) (selection : Option Text) : Outcome Text Json.Value := do
  let names := interfaceNames calls.system
  let selected : Option Int32 ←
    match selection with
    | none => pure none
    | some name =>
      match findIndex order name with
      | some index => pure (some index)
      | none => .err ("interface " ++ name ++ " does not exist")
  let neighbors ← cannotRead calls.osError "neighbors" calls.ipNeighbors
  return .array ((neighbors.filter (fun neighbor => selected.all (fun index => neighbor.interfaceIndex = index))).map
    (fun neighbor => jsonNeighbor neighbor names))

end

/-! ## Hardware -/

namespace Hardware

open Ethtool (Device)

def optionalNumber (value : Option UInt32) : Text := (value.map (fun value => decimal value.toNat)).getD "unknown"

def optionalBool : Option Bool → Text
  | some true => "yes"
  | some false => "no"
  | none => "unknown"

def printStringList (label : Text) (values : List Text) : List Text :=
  if values.isEmpty then [] else ["    " ++ label ++ ": " ++ join ", " values]

/-- The lines of a device. -/
def deviceLines (device : Device) : List Text :=
  [("  " : Text) ++ device.name ++ " index " ++ decimal device.interfaceIndex.toNat,
      "    Driver: " ++ device.driver.getD "unknown" ++ " module " ++ device.driverModule.getD "unknown" ++
        " version " ++ device.driverVersion.getD "unknown",
      "    Link: speed " ++ optionalNumber device.speedMbps ++ " Mbit/s, duplex " ++ device.duplex.getD "unknown" ++
        ", autonegotiation " ++ optionalBool device.autonegotiation ++ ", lanes " ++ optionalNumber device.lanes,
      "    Port: " ++ device.port.getD "unknown" ++ " PHY address " ++
        (device.phyAddress.map (fun address => decimal address.toNat)).getD "unknown" ++ " MDI-X " ++
        device.mdix.getD "unknown" ++ " transceiver " ++ device.transceiver.getD "unknown"] ++
    printStringList "Supported modes" device.supportedModes ++ printStringList "Peer modes" device.peerModes ++
    printStringList "Hardware features" device.hardwareFeatures ++
    printStringList "Wanted features" device.wantedFeatures ++
    printStringList "Active features" device.activeFeatures ++
    (if device.eeeEnabled.isSome ∨ device.eeeActive.isSome then
      ["    EEE: enabled " ++ optionalBool device.eeeEnabled ++ ", active " ++ optionalBool device.eeeActive ++
        ", TX LPI " ++ optionalBool device.eeeTxLpiEnabled ++ ", timer " ++ optionalNumber device.eeeTxLpiTimerUs ++
        "us"] ++
        printStringList "EEE modes" device.eeeModes ++ printStringList "EEE peer modes" device.eeePeerModes
    else []) ++
    (if device.statistics.isEmpty then []
    else ("    Standard hardware statistics:" : Text) :: device.statistics.map (fun statistic =>
      "      " ++ statistic.group ++ "." ++ statistic.name ++ ": " ++ decimal statistic.value.toNat))

/-- The lines of a list of devices. -/
def hardwareLines (devices : List Device) : List Text :=
  ("Link hardware" : Text) :: (if devices.isEmpty then ["  None available"] else []) ++ devices.flatMap deviceLines

end Hardware

section
variable (calls : SelectionCalls)

def printHardware (selection : Option Text) : IoResult (List Text) := do
  let devices ← calls.devices
  let devices ←
    match selection with
    | none => pure devices
    | some selection =>
      let devices := devices.filter (fun device => device.name = selection)
      if devices.isEmpty then .err (.custom .notFound ("no ethtool device named " ++ selection)) else pure devices
  return Hardware.hardwareLines devices

/-- The `hardware` command. -/
def hardwareText (selection : Option Text) : Outcome Text (List Text) :=
  cannotRead calls.osError "link hardware" (printHardware calls selection)

/-- The `hardware` command with `--json`. -/
def hardwareJson (selection : Option Text) : Outcome Text Json.Value := do
  let devices ← cannotRead calls.osError "link hardware" calls.devices
  let devices ←
    match selection with
    | none => pure devices
    | some selection =>
      let devices := devices.filter (fun device => device.name = selection)
      if devices.isEmpty then .err ("no ethtool device named " ++ selection) else pure devices
  return .array (devices.map jsonHardware)

end

/-! ## The index of a name -/

/-- **No two interfaces have one name**: the names are those of the entries of a directory. -/
theorem interfaceNames_unique {system : System} {i j : Int32} {name : Text}
    (hi : interfaceNames system i = some name) (hj : interfaceNames system j = some name) : i = j := by
  unfold interfaceNames at hi hj
  cases hnames : system.readDir sysClassNet with
  | error e =>
    rw [hnames] at hi
    cases hi
  | ok names =>
    rw [hnames] at hi hj
    dsimp only at hi hj
    have hindex : ∀ {k : Int32}, collect (names.filterMap (fun name => do
        let index ← readTrimmed system (pathJoin (pathJoin sysClassNet name) "ifindex")
        let index ← parseI32 index
        return (index, name))) k = some name →
        (readTrimmed system (pathJoin (pathJoin sysClassNet name) "ifindex")).bind parseI32 = some k := by
      intro k hk
      rw [collect_eq_getLast?] at hk
      obtain ⟨pair, hpair, hname⟩ := Option.map_eq_some_iff.1 hk
      obtain ⟨hmem, hkey⟩ := List.mem_filter.1 (List.mem_of_getLast? hpair)
      obtain ⟨entry, -, hentry⟩ := List.mem_filterMap.1 hmem
      obtain ⟨text, htext, hentry⟩ := Option.bind_eq_some_iff.1 hentry
      obtain ⟨index, hindex, hentry⟩ := Option.bind_eq_some_iff.1 hentry
      cases hentry
      obtain rfl : entry = name := hname
      obtain rfl : index = k := of_decide_eq_true hkey
      rw [htext]
      exact hindex
    exact Option.some.inj ((hindex hi).symm.trans (hindex hj))

/-- **An order of the entries of a map**, in which iteration may go through them. -/
def Lists (order : List (Int32 × Text)) (names : InterfaceNames) : Prop :=
  ∀ index name, (index, name) ∈ order ↔ names index = some name

theorem findIndex_eq_some_iff {order : List (Int32 × Text)} {system : System} (h : Lists order (interfaceNames system))
    {name : Text} {index : Int32} : findIndex order name = some index ↔ interfaceNames system index = some name := by
  unfold findIndex
  constructor
  · intro hfind
    obtain ⟨⟨i, other⟩, hentry, rfl⟩ := Option.map_eq_some_iff.1 hfind
    have hother := List.find?_some hentry
    obtain rfl : other = name := by simpa using hother
    exact (h i other).1 (List.mem_of_find?_eq_some hentry)
  · intro hname
    have hmem := (h index name).2 hname
    cases hentry : order.find? (fun entry => entry.2 = name) with
    | none => exact absurd (decide_eq_true rfl) (List.find?_eq_none.1 hentry _ hmem)
    | some entry =>
      obtain ⟨i, other⟩ := entry
      have hother := List.find?_some hentry
      obtain rfl : other = name := by simpa using hother
      have hi := (h i other).1 (List.mem_of_find?_eq_some hentry)
      exact congrArg some (interfaceNames_unique hi hname)

theorem findIndex_eq_none {order : List (Int32 × Text)} {system : System} (h : Lists order (interfaceNames system))
    {name : Text} (hname : ∀ index, interfaceNames system index ≠ some name) : findIndex order name = none := by
  cases hindex : findIndex order name with
  | none => rfl
  | some index => exact absurd ((findIndex_eq_some_iff h).1 hindex) (hname index)

/-! ## The two forms -/

variable (calls : SelectionCalls)

/-- The neighbors that are selected: all of them, or those on the interface of the name. -/
def SelectionCalls.onInterface (selection : Option Text) (neighbor : Neighbor) : Bool :=
  selection.all (fun name => interfaceNames calls.system neighbor.interfaceIndex = some name)

/-- The lines of selected neighbors. -/
def SelectionCalls.neighborReport (neighbors : List Neighbor) : List Text :=
  ("Neighbors" : Text) :: (if neighbors.isEmpty then [("  " : Text) ++ "None cached"] else []) ++
    neighbors.flatMap (neighborLines calls.toNeighborCalls (interfaceNames calls.system) (ouiLoad calls.system)
      Map.empty none) ++ [[]]

/-- The devices that are selected. -/
def selectsDevice (selection : Option Text) (device : Ethtool.Device) : Bool :=
  selection.all (fun name => device.name = name)

variable {calls}

/-- The neighbors with the index of a name are those on its interface. -/
theorem onInterface_some {name : Text} {index : Int32} (hname : interfaceNames calls.system index = some name) :
    calls.onInterface (some name) = fun neighbor => decide (neighbor.interfaceIndex = index) := by
  funext neighbor
  refine decide_eq_decide.2 ⟨fun h => interfaceNames_unique h hname, ?_⟩
  rintro rfl
  exact hname

theorem neighborsText_of_name {order : List (Int32 × Text)} (h : Lists order (interfaceNames calls.system))
    {selection : Option Text}
    (hselection : ∀ name ∈ selection, ∃ index, interfaceNames calls.system index = some name) :
    neighborsText calls order selection = (cannotRead calls.osError "neighbors" calls.ipNeighbors).map (fun table =>
      calls.neighborReport (table.filter (calls.onInterface selection))) := by
  unfold neighborsText printNeighbors
  cases selection with
  | none =>
    have hall : ∀ table : List Neighbor, table.filter (calls.onInterface none) = table :=
      fun table => List.filter_eq_self.2 (fun _ _ => rfl)
    simp only [hall]
    cases calls.ipNeighbors <;> rfl
  | some name =>
    obtain ⟨index, hname⟩ := hselection name rfl
    dsimp only
    rw [(findIndex_eq_some_iff h).2 hname, onInterface_some hname]
    cases calls.ipNeighbors <;> rfl

theorem neighborsJson_of_name {order : List (Int32 × Text)} (h : Lists order (interfaceNames calls.system))
    {selection : Option Text}
    (hselection : ∀ name ∈ selection, ∃ index, interfaceNames calls.system index = some name) :
    neighborsJson calls order selection = (cannotRead calls.osError "neighbors" calls.ipNeighbors).map (fun table =>
      .array ((table.filter (calls.onInterface selection)).map
        (fun neighbor => jsonNeighbor neighbor (interfaceNames calls.system)))) := by
  unfold neighborsJson
  cases selection with
  | none => cases calls.ipNeighbors <;> rfl
  | some name =>
    obtain ⟨index, hname⟩ := hselection name rfl
    dsimp only
    rw [(findIndex_eq_some_iff h).2 hname, onInterface_some hname]
    cases calls.ipNeighbors <;> rfl

theorem hardwareText_of_name {devices : List Ethtool.Device} (hdevices : calls.devices = .ok devices) (name : Text) :
    hardwareText calls (some name) =
      if devices.filter (selectsDevice (some name)) = [] then
        .err ("cannot read link hardware: no ethtool device named " ++ name)
      else .ok (Hardware.hardwareLines (devices.filter (selectsDevice (some name)))) := by
  have hnil := @List.isEmpty_iff _ (devices.filter (selectsDevice (some name)))
  unfold hardwareText printHardware
  rw [hdevices, ← if_congr hnil rfl rfl]
  dsimp only [bind, Outcome.bind, pure]
  show cannotRead _ _ (if (devices.filter (selectsDevice (some name))).isEmpty then _ else _) = _
  split <;> rfl

theorem hardwareJson_of_name {devices : List Ethtool.Device} (hdevices : calls.devices = .ok devices) (name : Text) :
    hardwareJson calls (some name) =
      if devices.filter (selectsDevice (some name)) = [] then .err ("no ethtool device named " ++ name)
      else .ok (.array ((devices.filter (selectsDevice (some name))).map jsonHardware)) := by
  have hnil := @List.isEmpty_iff _ (devices.filter (selectsDevice (some name)))
  unfold hardwareJson
  rw [hdevices, ← if_congr hnil rfl rfl]
  rfl

/-- What both forms of `hardware` make of their devices. -/
theorem hardware_of_devices {devices : List Ethtool.Device} (hdevices : calls.devices = .ok devices)
    (selection : Option Text) :
    let shown := devices.filter (selectsDevice selection)
    (selection = none ∨ shown ≠ [] → hardwareText calls selection = .ok (Hardware.hardwareLines shown) ∧
      hardwareJson calls selection = .ok (.array (shown.map jsonHardware))) ∧
    (shown = [] → ∀ name ∈ selection,
      hardwareText calls selection = .err ("cannot read link hardware: no ethtool device named " ++ name) ∧
        hardwareJson calls selection = .err ("no ethtool device named " ++ name)) := by
  cases selection with
  | none =>
    have hall : devices.filter (selectsDevice none) = devices := List.filter_eq_self.2 (fun _ _ => rfl)
    rw [hall]
    unfold hardwareText printHardware hardwareJson
    rw [hdevices]
    exact ⟨fun _ => ⟨rfl, rfl⟩, fun _ name hname => absurd hname (Option.not_mem_none name)⟩
  | some name =>
    dsimp only
    rw [hardwareText_of_name hdevices, hardwareJson_of_name hdevices]
    refine ⟨fun h => ?_, fun hnil other hother => ?_⟩
    · have hne := h.resolve_left (Option.some_ne_none name)
      rw [if_neg hne, if_neg hne]
      exact ⟨rfl, rfl⟩
    · obtain rfl := Option.some.inj hother
      rw [if_pos hnil, if_pos hnil]
      exact ⟨rfl, rfl⟩

/-- **The two forms show the same selection.**  Whatever the order of the map of names, `neighbors` shows the neighbors
on the interface of the name, and fails when there is none; `hardware` shows the devices of the name, and fails when
there are none; and both pass on what they could not read. -/
theorem selection_forms_agree (calls : SelectionCalls) (order order' : List (Int32 × Text)) (selection : Option Text)
    (h : Lists order (interfaceNames calls.system)) (h' : Lists order' (interfaceNames calls.system)) :
    ((∀ name ∈ selection, ∃ index, interfaceNames calls.system index = some name) →
      neighborsText calls order selection = (cannotRead calls.osError "neighbors" calls.ipNeighbors).map (fun table =>
          calls.neighborReport (table.filter (calls.onInterface selection))) ∧
        neighborsJson calls order' selection =
          (cannotRead calls.osError "neighbors" calls.ipNeighbors).map (fun table =>
            .array ((table.filter (calls.onInterface selection)).map
              (fun neighbor => jsonNeighbor neighbor (interfaceNames calls.system))))) ∧
    (∀ name ∈ selection, (∀ index, interfaceNames calls.system index ≠ some name) →
      neighborsText calls order selection = .err ("cannot read neighbors: interface " ++ name ++ " does not exist") ∧
        neighborsJson calls order' selection = .err ("interface " ++ name ++ " does not exist")) ∧
    (∀ devices, calls.devices = .ok devices → selection = none ∨ devices.filter (selectsDevice selection) ≠ [] →
      hardwareText calls selection = .ok (Hardware.hardwareLines (devices.filter (selectsDevice selection))) ∧
        hardwareJson calls selection = .ok (.array ((devices.filter (selectsDevice selection)).map jsonHardware))) ∧
    (∀ devices, calls.devices = .ok devices → devices.filter (selectsDevice selection) = [] → ∀ name ∈ selection,
      hardwareText calls selection = .err ("cannot read link hardware: no ethtool device named " ++ name) ∧
        hardwareJson calls selection = .err ("no ethtool device named " ++ name)) ∧
    ∀ e, calls.devices = .err e →
      hardwareText calls selection = .err ("cannot read link hardware: " ++ e.display calls.osError) ∧
        hardwareJson calls selection = .err ("cannot read link hardware: " ++ e.display calls.osError) := by
  refine ⟨fun hselection => ⟨neighborsText_of_name h hselection, neighborsJson_of_name h' hselection⟩, ?_,
    fun devices hdevices => (hardware_of_devices hdevices selection).1,
    fun devices hdevices => (hardware_of_devices hdevices selection).2, ?_⟩
  · intro name hname hnone
    obtain rfl : selection = some name := hname
    unfold neighborsText printNeighbors neighborsJson
    dsimp only
    rw [findIndex_eq_none h hnone, findIndex_eq_none h' hnone]
    exact ⟨rfl, rfl⟩
  · intro e he
    unfold hardwareText printHardware hardwareJson
    rw [he]
    exact ⟨rfl, rfl⟩

def wiredDevice (interfaceIndex : UInt32) (name : Text) : Ethtool.Device where
  interfaceIndex := interfaceIndex
  name := name
  driver := some "e1000e"
  driverModule := some "e1000e"
  driverVersion := none
  port := some "twisted-pair"
  phyAddress := some 1
  mdix := none
  transceiver := none
  speedMbps := some 1000
  duplex := some "full"
  autonegotiation := some true
  lanes := none
  supportedModes := ["1000baseT/Full"]
  peerModes := []
  hardwareFeatures := []
  wantedFeatures := []
  activeFeatures := []
  eeeEnabled := none
  eeeActive := none
  eeeTxLpiEnabled := none
  eeeTxLpiTimerUs := none
  eeeModes := []
  eeePeerModes := []
  statistics := []

/-- A machine with two interfaces, a neighbor and a device on each. -/
def lanSelection : SelectionCalls where
  toNeighborCalls := lanScan.toNeighborCalls
  system :=
    { lanScan.system with
      readToString := fun path =>
        if path = "/sys/class/net/eth0/ifindex" then .ok "2\n"
        else if path = "/sys/class/net/eth1/ifindex" then .ok "3\n"
        else .error (.os 2)
      readDir := fun _ => .ok ["eth0", "eth1"] }
  osError _ := []
  ipNeighbors := .ok [lanNeighbor 2 "02:00:00:00:00:01", lanNeighbor 3 "02:00:00:00:00:02"]
  devices := .ok [wiredDevice 2 "eth0", wiredDevice 3 "eth1"]

def lanNames : List (Int32 × Text) := [(2, "eth0"), (3, "eth1")]

theorem interfaceNames_lan : interfaceNames lanSelection.system = collect lanNames := by
  have hpairs : (["eth0", "eth1"] : List Text).filterMap (fun name => do
      let index ← readTrimmed lanSelection.system (pathJoin (pathJoin sysClassNet name) "ifindex")
      let index ← parseI32 index
      return (index, name)) = lanNames := by
    decide +kernel
  exact congrArg collect hpairs

/-- The names may be gone through in either order. -/
theorem lists_lan {order : List (Int32 × Text)} (h : order.Perm lanNames) :
    Lists order (interfaceNames lanSelection.system) := by
  intro index name
  rw [h.mem_iff, interfaceNames_lan, collect_eq_getLast?, lanNames, List.mem_pair, Prod.mk.injEq, Prod.mk.injEq]
  by_cases htwo : index = 2
  · simp [htwo, eq_comm]
  · by_cases hthree : index = 3
    · simp [hthree, eq_comm]
    · simp [htwo, hthree, Ne.symm htwo, Ne.symm hthree]

/-- A name of an interface and one of none, in two orders of the names. -/
theorem selection_forms_agree_lan :
    neighborsText lanSelection lanNames (some "eth1") =
        .ok (lanSelection.neighborReport [lanNeighbor 3 "02:00:00:00:00:02"]) ∧
      neighborsJson lanSelection lanNames.reverse (some "eth1") =
        .ok (.array [jsonNeighbor (lanNeighbor 3 "02:00:00:00:00:02") (interfaceNames lanSelection.system)]) ∧
      hardwareText lanSelection (some "eth1") = .ok (Hardware.hardwareLines [wiredDevice 3 "eth1"]) ∧
      hardwareJson lanSelection (some "eth1") = .ok (.array [jsonHardware (wiredDevice 3 "eth1")]) ∧
      neighborsText lanSelection lanNames (some "eth2") =
        .err ("cannot read neighbors: interface " ++ "eth2" ++ " does not exist") ∧
      neighborsJson lanSelection lanNames.reverse (some "eth2") =
        .err ("interface " ++ "eth2" ++ " does not exist") := by
  have hleft := lists_lan (List.Perm.refl _)
  have hright := lists_lan (List.reverse_perm lanNames)
  obtain ⟨hknown, -, hdevices, -⟩ := selection_forms_agree lanSelection _ _ (some "eth1") hleft hright
  obtain ⟨-, hunknown, -⟩ := selection_forms_agree lanSelection _ _ (some "eth2") hleft hright
  have hname : interfaceNames lanSelection.system 3 = some ("eth1" : Text) := (hleft 3 "eth1").1 (by decide +kernel)
  have hneighbors : [lanNeighbor 2 "02:00:00:00:00:01", lanNeighbor 3 "02:00:00:00:00:02"].filter
      (lanSelection.onInterface (some "eth1")) = [lanNeighbor 3 "02:00:00:00:00:02"] := by
    rw [onInterface_some hname]
    rfl
  have hselected : [wiredDevice 2 "eth0", wiredDevice 3 "eth1"].filter (selectsDevice (some "eth1")) =
      [wiredDevice 3 "eth1"] := by
    decide +kernel
  have hforms := hknown (fun name hsome => ⟨3, hname.trans hsome⟩)
  have hhardware := hdevices _ rfl
  rw [hselected] at hhardware
  have hmissing := hunknown "eth2" rfl (fun index hindex => by
    have hmem := (hleft index "eth2").2 hindex
    simp [lanNames] at hmem)
  refine ⟨hforms.1.trans ?_, hforms.2.trans ?_, (hhardware (.inr (List.cons_ne_nil _ _))).1,
    (hhardware (.inr (List.cons_ne_nil _ _))).2, hmissing.1, hmissing.2⟩
  · exact congrArg (fun shown => Outcome.ok (lanSelection.neighborReport shown)) hneighbors
  · exact congrArg (fun shown => Outcome.ok (Json.Value.array (shown.map (fun neighbor =>
      jsonNeighbor neighbor (interfaceNames lanSelection.system))))) hneighbors

end Networkrs
