import Networkrs.Oui
import Networkrs.Probe
import Networkrs.Resolver
import Networkrs.ScanTraffic
import Networkrs.Watch
/-!
# ScanReport — the scan command, as text and as JSON

`scan` and `scan_json` of `main.rs` scan the networks of their arguments, keep the neighbors that match the filter, look
up their names and vendors and mark those whose link address is new.  The two forms are written apart; both render the
same records of the same neighbors, and a filter hides records without changing the others (`scan_forms_agree`).
-/
namespace Networkrs

open Machine
open Collect (Outcome)

/-! ## Neighbors as text -/

/-- What the calls of a list of neighbors return, and how the seconds of an age are printed. -/
structure NeighborCalls where
  lookup : ReverseLookup
  schedule : List Nat
  ageSeconds : UInt64 → Text

/-- What the calls of `networkrs scan` return once more, with the time it took. -/
structure ScanReportCalls extends ScanMachine, NeighborCalls where
  elapsed : Nat
  seconds : Nat → Text

section
variable (calls : NeighborCalls)

def formatAge (milliseconds : UInt64) : Text :=
  if milliseconds < 1000 then decimal milliseconds.toNat ++ "ms" else calls.ageSeconds milliseconds ++ "s"

def neighborAges (neighbor : Neighbor) : Text :=
  let confirmed :=
    (neighbor.confirmedMsAgo.map (fun age => (" confirmed " : Text) ++ formatAge calls age ++ " ago")).getD []
  let used := (neighbor.usedMsAgo.map (fun age => (" used " : Text) ++ formatAge calls age ++ " ago")).getD []
  let updated :=
    (neighbor.updatedMsAgo.map (fun age => (" updated " : Text) ++ formatAge calls age ++ " ago")).getD []
  let references :=
    (neighbor.referenceCount.map (fun count => (" references " : Text) ++ decimal count.toNat)).getD []
  confirmed ++ used ++ updated ++ references

/-- `changed.contains(&address)`, for an IPv4 address. -/
def isChanged (changed : List Ipv4Addr) (neighbor : Neighbor) : Bool :=
  match neighbor.address with
  | .v4 address => changed.contains address
  | .v6 _ => false

/-- The two lines of a neighbor. -/
def neighborLines (interfaceNames : InterfaceNames) (vendors : Keyed.Map UInt32 Text) (names : Keyed.Map IpAddr Text)
    (changed : Option (List Ipv4Addr)) (neighbor : Neighbor) : List Text :=
  let interface := interfaceLabel interfaceNames neighbor.interfaceIndex
  let vendor := ((neighbor.linkAddress.bind (fun address => vendor address vendors)).map
    (fun vendor => (" vendor " : Text) ++ vendor)).getD []
  let linkAddress := (neighbor.linkAddress.map (fun address => (" lladdr " : Text) ++ address)).getD []
  let name := ((names neighbor.address).map (fun name => (" name " : Text) ++ name)).getD []
  let marker := (changed.map (fun changed => if isChanged changed neighbor then ("+ " : Text) else "  ")).getD []
  let protocol := (neighbor.protocol.map (fun protocol => (" protocol " : Text) ++ protocol)).getD []
  let flags := if neighbor.flags ≠ ("none" : Text) then (" flags " : Text) ++ neighbor.flags else []
  let probes := (neighbor.probes.map (fun probes => (" probes " : Text) ++ decimal probes.toNat)).getD []
  let master :=
    (neighbor.masterIndex.map (fun index => (" master " : Text) ++ interfaceLabel interfaceNames index)).getD []
  ["  " ++ marker ++ neighbor.address.display ++ name ++ " dev " ++ interface ++ linkAddress ++ vendor ++ " " ++
      neighbor.state,
    "  " ++ marker ++ "  type " ++ neighbor.kind ++ protocol ++ flags ++ probes ++ master ++
      neighborAges calls neighbor]

/-- The names of neighbors, if they are looked up; a schedule that leaves a thread running gives none. -/
def neighborNames (neighbors : List Neighbor) (resolveNames : Bool) : IoResult (Keyed.Map IpAddr Text) :=
  if resolveNames then
    match reverseNames calls.lookup (neighbors.map Neighbor.address) calls.schedule with
    | some names => .ok names
    | none => .waiting
  else .ok Keyed.Map.empty

def printNeighborEntries (system : System) (neighbors : List Neighbor) (resolveNames : Bool)
    (changed : Option (List Ipv4Addr)) (emptyMessage : Text) : IoResult (List Text) := do
  let interfaceNames := interfaceNames system
  let vendors := ouiLoad system
  let names ← neighborNames calls neighbors resolveNames
  return ("Neighbors" : Text) :: (if neighbors.isEmpty then [("  " : Text) ++ emptyMessage] else []) ++
    neighbors.flatMap (neighborLines calls interfaceNames vendors names changed) ++ [[]]

end

/-! ## `scan` -/

def ScanFilter.matches (filter : ScanFilter) (neighbor : Neighbor) (changed : List Ipv4Addr) : Bool :=
  match filter with
  | .changed => isChanged changed neighbor
  | .unchanged => !isChanged changed neighbor

def ScanFilter.name : ScanFilter → Text
  | .changed => "changed"
  | .unchanged => "unchanged"

section
variable (calls : ScanReportCalls)

def Network.scanningLine (network : Network) : Checked Text := do
  let targets ← network.targetCount
  return "Scanning " ++ (Ipv4Addr.mk network.network).display ++ "/" ++ decimal network.prefixLength.toNat ++ " via " ++
    network.interface ++ " (" ++ decimal targets ++ " targets)"

/-- `result.neighbors`, without those the filter does not match. -/
def matchingNeighbors (filter : Option ScanFilter) (result : ScanResult) : List Neighbor :=
  match filter with
  | some filter => result.neighbors.filter (fun neighbor => filter.matches neighbor result.changed)
  | none => result.neighbors

/-- `result.changed.len()`: the list may hold an address of two interfaces twice. -/
def ScanResult.changedCount (result : ScanResult) : Nat := result.changed.dedup.length

/-- The lines a scan prints, if it does not fail. -/
def ScanReport.scan (arguments : List Text) : IoResult (List Text) := do
  let arguments ← ofCall (parseScanArguments arguments)
  let networks ← scanNetworks calls.toScanMachine arguments.selection
  let scanning ← Outcome.ofChecked (networks.mapM Network.scanningLine)
  let result ← (Scanner.scan networks ⟨arguments.retries, arguments.excluded⟩ calls.calls).1
  let neighborCount := result.neighbors.length
  let neighbors := matchingNeighbors arguments.filter result
  let matchedCount := neighbors.length
  let entries ← printNeighborEntries calls.toNeighborCalls calls.system neighbors arguments.resolveNames
    (some result.changed) (if arguments.filter.isSome then "None matched the filter" else "None cached")
  let summary := match arguments.filter with
    | some filter =>
      "Scan complete: " ++ decimal matchedCount ++ " " ++ filter.name ++ " of " ++ decimal neighborCount ++
        " neighbors, " ++ decimal result.changedCount ++ " new or changed, " ++ calls.seconds calls.elapsed ++ "s"
    | none =>
      "Scan complete: " ++ decimal neighborCount ++ " neighbors, " ++ decimal result.changedCount ++
        " new or changed, " ++ calls.seconds calls.elapsed ++ "s"
  return scanning ++ entries ++ [summary]

/-! ## `scan_json` -/

/-- `json_neighbor` with three more fields. -/
def scanNeighborValue (interfaceNames : InterfaceNames) (vendors : Keyed.Map UInt32 Text)
    (names : Keyed.Map IpAddr Text) (changed : List Ipv4Addr) (neighbor : Neighbor) : Json.Value :=
  let vendor := neighbor.linkAddress.bind (fun address => vendor address vendors)
  match jsonNeighbor neighbor interfaceNames with
  | .object fields =>
    .object (fields ++
      [(("name" : Text), Json.optionalString (names neighbor.address)), ("vendor", Json.optionalString vendor),
        ("changed", .bool (isChanged changed neighbor))])
  | value => value

def networkValue (network : Network) : Checked Json.Value := do
  let targets ← network.targetCount
  return .object
    [("interface", .string network.interface), ("interfaceIndex", Json.ofInt network.interfaceIndex.toInt),
      ("source", .string network.address.display), ("network", .string (Ipv4Addr.mk network.network).display),
      ("prefix", Json.ofNat network.prefixLength.toNat), ("targets", Json.ofNat targets)]

def ScanReport.scanJson (arguments : List Text) : IoResult Json.Value := do
  let arguments ← ofCall (parseScanArguments arguments)
  let networks ← scanNetworks calls.toScanMachine arguments.selection
  let result ← (Scanner.scan networks ⟨arguments.retries, arguments.excluded⟩ calls.calls).1
  let interfaceNames := interfaceNames calls.system
  let vendors := ouiLoad calls.system
  let filteredNeighbors := matchingNeighbors arguments.filter result
  let resolvedNames ← neighborNames calls.toNeighborCalls filteredNeighbors arguments.resolveNames
  let neighbors := filteredNeighbors.map (scanNeighborValue interfaceNames vendors resolvedNames result.changed)
  let networks ← Outcome.ofChecked (networks.mapM networkValue)
  return .object
    [("networks", .array networks), ("neighbors", .array neighbors),
      ("filter", Json.optionalString (arguments.filter.map ScanFilter.name)),
      ("changed", Json.ofNat result.changedCount), ("elapsedMilliseconds", Json.ofNat (calls.elapsed / 10 ^ 6))]

end

/-! ## The records of a scan -/

/-- **A record of a scan**: a neighbor, with what both forms show beside it. -/
structure ScanRecord where
  neighbor : Neighbor
  name : Option Text
  vendor : Option Text
  changed : Bool

def ScanRecord.lines (calls : NeighborCalls) (interfaceNames : InterfaceNames) (record : ScanRecord) : List Text :=
  let neighbor := record.neighbor
  let interface := interfaceLabel interfaceNames neighbor.interfaceIndex
  let vendor := (record.vendor.map (fun vendor => (" vendor " : Text) ++ vendor)).getD []
  let linkAddress := (neighbor.linkAddress.map (fun address => (" lladdr " : Text) ++ address)).getD []
  let name := (record.name.map (fun name => (" name " : Text) ++ name)).getD []
  let marker : Text := if record.changed then "+ " else "  "
  let protocol := (neighbor.protocol.map (fun protocol => (" protocol " : Text) ++ protocol)).getD []
  let flags := if neighbor.flags ≠ ("none" : Text) then (" flags " : Text) ++ neighbor.flags else []
  let probes := (neighbor.probes.map (fun probes => (" probes " : Text) ++ decimal probes.toNat)).getD []
  let master :=
    (neighbor.masterIndex.map (fun index => (" master " : Text) ++ interfaceLabel interfaceNames index)).getD []
  ["  " ++ marker ++ neighbor.address.display ++ name ++ " dev " ++ interface ++ linkAddress ++ vendor ++ " " ++
      neighbor.state,
    "  " ++ marker ++ "  type " ++ neighbor.kind ++ protocol ++ flags ++ probes ++ master ++
      neighborAges calls neighbor]

def ScanRecord.value (interfaceNames : InterfaceNames) (record : ScanRecord) : Json.Value :=
  match jsonNeighbor record.neighbor interfaceNames with
  | .object fields =>
    .object (fields ++
      [(("name" : Text), Json.optionalString record.name), ("vendor", Json.optionalString record.vendor),
        ("changed", .bool record.changed)])
  | value => value

/-- Whether a filter keeps a record. -/
def ScanFilter.keeps : ScanFilter → ScanRecord → Bool
  | .changed, record => record.changed
  | .unchanged, record => !record.changed

def shownRecords (filter : Option ScanFilter) (records : List ScanRecord) : List ScanRecord :=
  records.filter (fun record => filter.all (fun filter => filter.keeps record))

/-- The addresses of changed records, each counted once. -/
def changedAddresses (records : List ScanRecord) : Nat :=
  ((records.filter ScanRecord.changed).map (fun record => record.neighbor.address)).dedup.length

variable (calls : ScanReportCalls)

/-- **What a scan finds**: the neighbors on its networks after its last pass, in the order of the table.  One is changed
when an entry of its address there has another link address than the last entry of that address before. -/
structure Finds (resolveNames : Bool) (networks : List Network) (before after : List Neighbor)
    (records : List ScanRecord) : Prop where
  neighbors : records.map ScanRecord.neighbor =
    after.filter (fun neighbor => isNeighborOnNetworks neighbor networks)
  name : ∀ record ∈ records, record.name = if resolveNames then calls.lookup record.neighbor.address else none
  vendor : ∀ record ∈ records,
    record.vendor = record.neighbor.linkAddress.bind (fun address => vendor address (ouiLoad calls.system))
  changed : ∀ record ∈ records, ∃ address, record.neighbor.address = .v4 address ∧
    (record.changed = true ↔ ∃ neighbor ∈ entriesAt networks after address,
      ((entriesAt networks before address).getLast?).map Neighbor.linkAddress ≠ some neighbor.linkAddress)

def scanningText (network : Network) : Text :=
  "Scanning " ++ (Ipv4Addr.mk network.network).display ++ "/" ++ decimal network.prefixLength.toNat ++ " via " ++
    network.interface ++ " (" ++ decimal network.targets.length ++ " targets)"

def emptyMessage (filter : Option ScanFilter) : Text :=
  if filter.isSome then "None matched the filter" else "None cached"

def scanSummary (filter : Option ScanFilter) (matched found changed : Nat) : Text :=
  match filter with
  | some filter =>
    "Scan complete: " ++ decimal matched ++ " " ++ filter.name ++ " of " ++ decimal found ++ " neighbors, " ++
      decimal changed ++ " new or changed, " ++ calls.seconds calls.elapsed ++ "s"
  | none =>
    "Scan complete: " ++ decimal found ++ " neighbors, " ++ decimal changed ++ " new or changed, " ++
      calls.seconds calls.elapsed ++ "s"

/-- **The records as text.** -/
def reportLines (filter : Option ScanFilter) (networks : List Network) (records : List ScanRecord) : List Text :=
  let shown := shownRecords filter records
  networks.map scanningText ++ (("Neighbors" : Text) ::
    (if shown.isEmpty then [("  " : Text) ++ emptyMessage filter] else []) ++
    shown.flatMap (ScanRecord.lines calls.toNeighborCalls (interfaceNames calls.system)) ++ [[]]) ++
    [scanSummary calls filter shown.length records.length (changedAddresses records)]

def networkRecord (network : Network) : Json.Value :=
  .object
    [("interface", .string network.interface), ("interfaceIndex", Json.ofInt network.interfaceIndex.toInt),
      ("source", .string network.address.display), ("network", .string (Ipv4Addr.mk network.network).display),
      ("prefix", Json.ofNat network.prefixLength.toNat), ("targets", Json.ofNat network.targets.length)]

/-- **The records as JSON.** -/
def reportValue (filter : Option ScanFilter) (networks : List Network) (records : List ScanRecord) : Json.Value :=
  .object
    [("networks", .array (networks.map networkRecord)),
      ("neighbors", .array ((shownRecords filter records).map (ScanRecord.value (interfaceNames calls.system)))),
      ("filter", Json.optionalString (filter.map ScanFilter.name)),
      ("changed", Json.ofNat (changedAddresses records)),
      ("elapsedMilliseconds", Json.ofNat (calls.elapsed / 10 ^ 6))]

/-! ## Both forms render the records -/

variable {calls}

theorem scanningLine_eq {network : Network} (h : network.Built) :
    network.scanningLine = .ok (scanningText network) := by
  rw [Network.scanningLine, targetCount_eq h]
  rfl

theorem networkValue_eq {network : Network} (h : network.Built) :
    networkValue network = .ok (networkRecord network) := by
  rw [networkValue, targetCount_eq h]
  rfl

theorem reverseNames_eq {lookup : ReverseLookup} {addresses : List IpAddr} {schedule : List Nat}
    {names : Keyed.Map IpAddr Text} (h : reverseNames lookup addresses schedule = some names) :
    names = sequentialNames lookup addresses := by
  unfold reverseNames at h
  by_cases hempty : addresses.isEmpty
  · rw [if_pos hempty] at h
    rw [← Option.some.inj h, List.isEmpty_iff.1 hempty]
    rfl
  · rw [if_neg hempty] at h
    obtain ⟨s, hrun, h⟩ := Option.bind_eq_some_iff.1 h
    split at h
    · next hfinished =>
      rw [← Option.some.inj h]
      exact merged_eq_sequentialNames (inv_resolverRun hrun) hfinished (List.Perm.refl _)
    · cases h

/-- **The names of neighbors** are those of their addresses, if they are looked up. -/
theorem names_of_neighborNames {neighborCalls : NeighborCalls} {neighbors : List Neighbor} {resolveNames : Bool}
    {names : Keyed.Map IpAddr Text} (h : neighborNames neighborCalls neighbors resolveNames = .ok names) :
    ∀ neighbor ∈ neighbors,
      names neighbor.address = if resolveNames then neighborCalls.lookup neighbor.address else none := by
  intro neighbor hneighbor
  unfold neighborNames at h
  cases resolveNames with
  | false =>
    obtain rfl := Outcome.ok.inj h
    rfl
  | true =>
    rw [if_pos rfl] at h
    rw [if_pos rfl]
    split at h
    · next found hfound =>
      obtain rfl := Outcome.ok.inj h
      rw [reverseNames_eq hfound, sequentialNames, Keyed.restrict,
        if_pos (List.mem_map.2 ⟨neighbor, hneighbor, rfl⟩)]
    · cases h

/-- Names are there or still looked up. -/
theorem neighborNames_cases (neighborCalls : NeighborCalls) (neighbors : List Neighbor) (resolveNames : Bool) :
    (∃ names, neighborNames neighborCalls neighbors resolveNames = .ok names) ∨
      neighborNames neighborCalls neighbors resolveNames = .waiting := by
  unfold neighborNames
  split
  · split
    · exact .inl ⟨_, rfl⟩
    · exact .inr rfl
  · exact .inl ⟨_, rfl⟩

/-- The record of a neighbor of a result. -/
def ScanReportCalls.record (calls : ScanReportCalls) (resolveNames : Bool) (result : ScanResult) (neighbor : Neighbor) :
    ScanRecord where
  neighbor := neighbor
  name := if resolveNames then calls.lookup neighbor.address else none
  vendor := neighbor.linkAddress.bind (fun address => vendor address (ouiLoad calls.system))
  changed := isChanged result.changed neighbor

/-- **A filter keeps the records of the neighbors it matches.** -/
theorem map_matchingNeighbors (filter : Option ScanFilter) (resolveNames : Bool) (result : ScanResult) :
    (matchingNeighbors filter result).map (calls.record resolveNames result) =
      shownRecords filter (result.neighbors.map (calls.record resolveNames result)) := by
  unfold matchingNeighbors shownRecords
  rw [List.filter_map]
  congr 1
  cases filter with
  | none => simp [Function.comp_def]
  | some filter =>
    apply List.filter_congr
    intro neighbor _
    cases filter <;> rfl

theorem neighborLines_eq {names : Keyed.Map IpAddr Text} {resolveNames : Bool} {result : ScanResult}
    {neighbor : Neighbor}
    (hname : names neighbor.address = if resolveNames then calls.lookup neighbor.address else none) :
    neighborLines calls.toNeighborCalls (interfaceNames calls.system) (ouiLoad calls.system) names (some result.changed)
        neighbor =
      (calls.record resolveNames result neighbor).lines calls.toNeighborCalls (interfaceNames calls.system) := by
  unfold neighborLines ScanRecord.lines ScanReportCalls.record
  rw [hname]
  rfl

theorem scanNeighborValue_eq {names : Keyed.Map IpAddr Text} {resolveNames : Bool} {result : ScanResult}
    {neighbor : Neighbor}
    (hname : names neighbor.address = if resolveNames then calls.lookup neighbor.address else none) :
    scanNeighborValue (interfaceNames calls.system) (ouiLoad calls.system) names result.changed neighbor =
      (calls.record resolveNames result neighbor).value (interfaceNames calls.system) := by
  unfold scanNeighborValue ScanRecord.value ScanReportCalls.record
  rw [hname]

theorem flatMap_neighborLines {names : Keyed.Map IpAddr Text} {resolveNames : Bool} {result : ScanResult}
    {neighbors : List Neighbor}
    (hname : ∀ neighbor ∈ neighbors,
      names neighbor.address = if resolveNames then calls.lookup neighbor.address else none) :
    neighbors.flatMap (neighborLines calls.toNeighborCalls (interfaceNames calls.system) (ouiLoad calls.system) names
        (some result.changed)) =
      (neighbors.map (calls.record resolveNames result)).flatMap
        (ScanRecord.lines calls.toNeighborCalls (interfaceNames calls.system)) := by
  rw [List.flatMap_map]
  apply List.flatMap_congr
  intro neighbor hneighbor
  exact neighborLines_eq (hname neighbor hneighbor)

theorem map_scanNeighborValue {names : Keyed.Map IpAddr Text} {resolveNames : Bool} {result : ScanResult}
    {neighbors : List Neighbor}
    (hname : ∀ neighbor ∈ neighbors,
      names neighbor.address = if resolveNames then calls.lookup neighbor.address else none) :
    neighbors.map (scanNeighborValue (interfaceNames calls.system) (ouiLoad calls.system) names result.changed) =
      (neighbors.map (calls.record resolveNames result)).map (ScanRecord.value (interfaceNames calls.system)) := by
  rw [List.map_map]
  apply List.map_congr_left
  intro neighbor hneighbor
  exact scanNeighborValue_eq (hname neighbor hneighbor)

section
variable {networks : List Network} {before after : List Neighbor} {resolveNames : Bool}

/-- The neighbors of a result are IPv4 entries, and their addresses are those of the changed ones. -/
theorem changed_iff_isChanged (address : Ipv4Addr) :
    address ∈ (scanResult networks (beforeMap networks before) after).changed ↔
      ∃ neighbor ∈ (scanResult networks (beforeMap networks before) after).neighbors,
        neighbor.address = .v4 address ∧
          isChanged (scanResult networks (beforeMap networks before) after).changed neighbor = true := by
  constructor
  · intro h
    obtain ⟨neighbor, hneighbor, -⟩ := (mem_changed_iff networks (beforeMap networks before) after address).1 h
    obtain ⟨hmem, haddress⟩ := List.mem_filter.1 hneighbor
    have haddress := of_decide_eq_true haddress
    refine ⟨neighbor, hmem, haddress, ?_⟩
    rw [isChanged, haddress]
    exact List.contains_iff_mem.2 h
  · rintro ⟨neighbor, -, haddress, hchanged⟩
    rw [isChanged, haddress] at hchanged
    exact List.contains_iff_mem.1 hchanged

theorem changedCount_eq :
    (scanResult networks (beforeMap networks before) after).changedCount =
      changedAddresses ((scanResult networks (beforeMap networks before) after).neighbors.map
        (calls.record resolveNames (scanResult networks (beforeMap networks before) after))) := by
  have hmem : ∀ address : IpAddr,
      address ∈ (scanResult networks (beforeMap networks before) after).changed.map IpAddr.v4 ↔
        address ∈ (((scanResult networks (beforeMap networks before) after).neighbors.map
          (calls.record resolveNames (scanResult networks (beforeMap networks before) after))).filter
            ScanRecord.changed).map (fun record => record.neighbor.address) := by
    intro address
    rw [List.filter_map, List.map_map, List.mem_map, List.mem_map]
    constructor
    · rintro ⟨ip, hip, rfl⟩
      obtain ⟨neighbor, hneighbor, haddress, hchanged⟩ := (changed_iff_isChanged ip).1 hip
      exact ⟨neighbor, List.mem_filter.2 ⟨hneighbor, hchanged⟩, haddress⟩
    · rintro ⟨neighbor, hneighbor, rfl⟩
      obtain ⟨hneighbor, hchanged⟩ := List.mem_filter.1 hneighbor
      have hchanged : isChanged (scanResult networks (beforeMap networks before) after).changed neighbor = true :=
        hchanged
      cases haddress : neighbor.address with
      | v6 ip =>
        rw [isChanged, haddress] at hchanged
        cases hchanged
      | v4 ip => exact ⟨ip, (changed_iff_isChanged ip).2 ⟨neighbor, hneighbor, haddress, hchanged⟩, haddress.symm⟩
  have hv4 : Function.Injective IpAddr.v4 := fun _ _ => IpAddr.v4.inj
  unfold ScanResult.changedCount changedAddresses
  rw [← List.length_map IpAddr.v4, ← List.dedup_map_of_injective hv4]
  apply List.Perm.length_eq
  rw [List.perm_ext_iff_of_nodup (List.nodup_dedup _) (List.nodup_dedup _)]
  intro address
  rw [List.mem_dedup, List.mem_dedup, hmem]

theorem finds_scanResult : Finds calls resolveNames networks before after
    ((scanResult networks (beforeMap networks before) after).neighbors.map
      (calls.record resolveNames (scanResult networks (beforeMap networks before) after))) where
  neighbors := by
    rw [List.map_map]
    exact List.map_id _
  name := by
    intro record hrecord
    obtain ⟨neighbor, -, rfl⟩ := List.mem_map.1 hrecord
    rfl
  vendor := by
    intro record hrecord
    obtain ⟨neighbor, -, rfl⟩ := List.mem_map.1 hrecord
    rfl
  changed := by
    intro record hrecord
    obtain ⟨neighbor, hneighbor, rfl⟩ := List.mem_map.1 hrecord
    obtain ⟨-, hnetworks⟩ := List.mem_filter.1 hneighbor
    cases haddress : neighbor.address with
    | v6 address =>
      rw [isNeighborOnNetworks, haddress] at hnetworks
      cases hnetworks
    | v4 address =>
      refine ⟨address, haddress, ?_⟩
      rw [← beforeMap_eq, ← mem_changed_iff]
      show isChanged _ neighbor = true ↔ _
      rw [isChanged, haddress]
      exact List.contains_iff_mem

/-- **A scan that ends with names** renders its records, in both forms. -/
theorem scan_of_result {arguments : List Text} {parsed : ScanArguments} {names : Keyed.Map IpAddr Text}
    (hparse : parseScanArguments arguments = .ok parsed)
    (hnetworks : scanNetworks calls.toScanMachine parsed.selection = .ok networks)
    (hresult : (Scanner.scan networks ⟨parsed.retries, parsed.excluded⟩ calls.calls).1 =
      .ok (scanResult networks (beforeMap networks before) after))
    (hnames : neighborNames calls.toNeighborCalls
      (matchingNeighbors parsed.filter (scanResult networks (beforeMap networks before) after)) parsed.resolveNames =
        .ok names) :
    ∃ records, Finds calls parsed.resolveNames networks before after records ∧
      ScanReport.scan calls arguments = .ok (reportLines calls parsed.filter networks records) ∧
      ScanReport.scanJson calls arguments = .ok (reportValue calls parsed.filter networks records) := by
  have hbuilt := built_of_scanNetworks calls.toScanMachine hnetworks
  have hscanning := mapM_of_ok networks (fun network hnetwork => scanningLine_eq (hbuilt network hnetwork))
  have hvalues := mapM_of_ok networks (fun network hnetwork => networkValue_eq (hbuilt network hnetwork))
  have hshown := @map_matchingNeighbors calls parsed.filter parsed.resolveNames
    (scanResult networks (beforeMap networks before) after)
  have hname := names_of_neighborNames hnames
  have hcount := @changedCount_eq calls networks before after parsed.resolveNames
  refine ⟨_, finds_scanResult, ?_, ?_⟩
  · have hlines := @flatMap_neighborLines calls names parsed.resolveNames
      (scanResult networks (beforeMap networks before) after) _ hname
    unfold ScanReport.scan printNeighborEntries
    simp only [hparse, ofCall, hnetworks, hscanning, Outcome.ofChecked, hresult, hnames, bind, Outcome.bind,
      Outcome.pure_eq_ok]
    rw [hlines, hshown, hcount]
    unfold reportLines scanSummary emptyMessage
    dsimp only
    rw [← hshown, List.length_map, List.length_map, List.isEmpty_map]
  · have hrecords := @map_scanNeighborValue calls names parsed.resolveNames
      (scanResult networks (beforeMap networks before) after) _ hname
    unfold ScanReport.scanJson
    simp only [hparse, ofCall, hnetworks, hvalues, Outcome.ofChecked, hresult, hnames, bind, Outcome.bind,
      Outcome.pure_eq_ok]
    rw [hrecords, hshown, hcount]
    rfl

/-- A scan that ends well has read the table twice. -/
theorem tables_of_scan {options : ScanOptions} {scanCalls : ScanCalls} {result : ScanResult}
    (h : (Scanner.scan networks options scanCalls).1 = .ok result) :
    ∃ before after, scanCalls.before = .ok before ∧ scanCalls.after = .ok after ∧
      result = scanResult networks (beforeMap networks before) after := by
  have hscan := h
  unfold Scanner.scan at h
  cases hpasses : scanPasses networks options scanCalls with
  | err e => rw [hpasses] at h; cases h
  | panicked p => rw [hpasses] at h; cases h
  | waiting => rw [hpasses] at h; cases h
  | ok passes =>
    rw [hpasses] at h
    obtain ⟨after, hafter, -⟩ := (Outcome.map_eq_ok_iff _ _ _).1 h
    obtain ⟨before, hbefore, -⟩ := passes_cases hpasses
    exact ⟨before, after, hbefore, hafter, result_of_scan hbefore hafter hscan⟩

end

/-- Every record is one of a filter or of the other. -/
theorem perm_shownRecords (records : List ScanRecord) :
    records.Perm (shownRecords (some .changed) records ++ shownRecords (some .unchanged) records) :=
  (List.filter_append_perm ScanRecord.changed records).symm

/-- **The two forms of a scan agree.**  They end alike; and they render the same records, of the neighbors on the
networks of the arguments after the last pass, of which a filter hides those it does not match. -/
theorem scan_forms_agree (calls : ScanReportCalls) (arguments : List Text) :
    (ScanReport.scan calls arguments).map (fun _ => ()) = (ScanReport.scanJson calls arguments).map (fun _ => ()) ∧
      ∀ lines, ScanReport.scan calls arguments = .ok lines → ∃ parsed networks before after records,
        parseScanArguments arguments = .ok parsed ∧
        scanNetworks calls.toScanMachine parsed.selection = .ok networks ∧
        calls.calls.before = .ok before ∧ calls.calls.after = .ok after ∧
        Finds calls parsed.resolveNames networks before after records ∧
        lines = reportLines calls parsed.filter networks records ∧
        ScanReport.scanJson calls arguments = .ok (reportValue calls parsed.filter networks records) ∧
        records.Perm (shownRecords (some .changed) records ++ shownRecords (some .unchanged) records) := by
  cases hparse : parseScanArguments arguments with
  | error e =>
    unfold ScanReport.scan ScanReport.scanJson
    rw [hparse]
    exact ⟨rfl, fun _ h => (by cases h)⟩
  | ok parsed =>
    cases hnetworks : scanNetworks calls.toScanMachine parsed.selection with
    | ok networks =>
      have hscanning := mapM_of_ok networks
        (fun network hnetwork => scanningLine_eq (built_of_scanNetworks calls.toScanMachine hnetworks network hnetwork))
      cases hresult : (Scanner.scan networks ⟨parsed.retries, parsed.excluded⟩ calls.calls).1 with
      | ok result =>
        obtain ⟨before, after, hbefore, hafter, rfl⟩ := tables_of_scan hresult
        rcases neighborNames_cases calls.toNeighborCalls
          (matchingNeighbors parsed.filter (scanResult networks (beforeMap networks before) after))
          parsed.resolveNames with ⟨names, hnames⟩ | hwaiting
        · obtain ⟨records, hfinds, hscan, hjson⟩ := scan_of_result hparse hnetworks hresult hnames
          rw [hscan, hjson]
          refine ⟨rfl, ?_⟩
          rintro lines ⟨⟩
          exact ⟨parsed, networks, before, after, records, rfl, hnetworks, hbefore, hafter, hfinds, rfl, rfl,
            perm_shownRecords records⟩
        · unfold ScanReport.scan ScanReport.scanJson printNeighborEntries
          simp only [hparse, ofCall, hnetworks, hscanning, Outcome.ofChecked, hresult, hwaiting, bind, Outcome.bind]
          exact ⟨rfl, fun _ h => (by cases h)⟩
      | _ =>
        unfold ScanReport.scan ScanReport.scanJson
        simp only [hparse, ofCall, hnetworks, hscanning, Outcome.ofChecked, hresult, bind, Outcome.bind]
        exact ⟨rfl, fun _ h => (by cases h)⟩
    | _ =>
      unfold ScanReport.scan ScanReport.scanJson
      simp only [hparse, ofCall, hnetworks, bind, Outcome.bind]
      exact ⟨rfl, fun _ h => (by cases h)⟩

/-- A machine on a network with one other host, which has answered. -/
def lanScan : ScanReportCalls where
  system :=
    { readToString path := if path = "/sys/class/net/eth0/ifindex" then .ok "2\n" else .error (.os 2)
      exists_ _ := false
      readDir _ := .ok ["eth0"]
      bind := .ok ()
      ioctl _ _ := none }
  ipv4Addresses := lanMachine.ipv4Addresses
  ipv4Route := lanMachine.ipv4Route
  calls := ⟨.ok [], .ok (), .ok [{ lanNeighbor 2 "02:00:00:00:00:01" with address := .v4 (Ipv4Addr.new 192 168 0 5) }]⟩
  lookup _ := none
  schedule := []
  ageSeconds _ := []
  elapsed := 0
  seconds _ := []

theorem scan_forms_agree_lan : ∃ lines value,
    ScanReport.scan lanScan ["192.168.0.0/24", "--no-resolve"] = .ok lines ∧
    ScanReport.scanJson lanScan ["192.168.0.0/24", "--no-resolve"] = .ok value := by
  obtain ⟨-, hforms⟩ := scan_forms_agree lanScan ["192.168.0.0/24", "--no-resolve"]
  have hends : (ScanReport.scan lanScan ["192.168.0.0/24", "--no-resolve"]).map (fun _ => ()) = .ok () := by
    decide +kernel
  obtain ⟨lines, hlines, -⟩ := (Outcome.map_eq_ok_iff _ _ _).1 hends
  obtain ⟨_, _, _, _, _, _, _, _, _, _, _, hjson, _⟩ := hforms lines hlines
  exact ⟨lines, _, hlines, hjson⟩

end Networkrs
