import Networkrs.Arguments
import Networkrs.Events
import Networkrs.Lib.Emission
import Networkrs.Lib.Journal
import Networkrs.Names
import Networkrs.Oui
import Networkrs.Sockets
/-!
# Watch — kernel events as lines and as JSON

`watch` and `watch_json` keep a map of interface names up to date with the link events, and print each event with the
names they have at that time.  A filter hides the records of other events and nothing else (`watch_filter_only_hides`):
the map takes every link event, whichever are shown.
-/
namespace Networkrs

open Machine

def WatchFilter.matches : WatchFilter → NetworkEvent → Bool
  | .link, .link .. => true
  | .address, .address .. => true
  | .route, .route .. => true
  | .neighbor, .neighbor .. => true
  | _, _ => false

/-- `filter.is_none_or(|filter| filter.matches(&event))`. -/
def emits (filter : Option WatchFilter) (event : NetworkEvent) : Bool := filter.all (fun filter => filter.matches event)

/-- The names of the interfaces, by index. -/
abbrev InterfaceNames := Keyed.Map Int32 Text

/-! ## `watch` -/

section

variable (vendors : Keyed.Map UInt32 Text) (filter : Option WatchFilter)

/-- The closure of `watch`: the names after an event, and the line it prints. -/
def watchEvent (interfaceNames : InterfaceNames) (event : NetworkEvent) : InterfaceNames × Option Text :=
  let emit := emits filter event
  match event with
  | .link removed interfaceIndex name up =>
    let name := name <|> interfaceNames interfaceIndex
    let label := name.getD ("ifindex " ++ decimalInt interfaceIndex.toInt)
    if removed then
      (interfaceNames.remove interfaceIndex, if emit then some ("link removed " ++ label) else none)
    else
      let interfaceNames :=
        match name with
        | some name => interfaceNames.insert interfaceIndex name
        | none => interfaceNames
      (interfaceNames, if emit then some ("link changed " ++ label ++ " " ++ if up then "up" else "down") else none)
  | .address removed interfaceIndex address prefixLength =>
    let interface := interfaceLabel interfaceNames interfaceIndex
    (interfaceNames,
      if emit then
        some ("address " ++ (if removed then "removed" else "added") ++ " " ++ address.display ++ "/" ++
          decimal prefixLength.toNat ++ " dev " ++ interface)
      else none)
  | .route removed route =>
    let target : Text :=
      if route.destination.isUnspecified ∧ route.prefixLength = 0 then "default"
      else route.destination.display ++ "/" ++ decimal route.prefixLength.toNat
    let gateway : Text := (route.gateway.map (fun gateway => (" via " : Text) ++ gateway.display)).getD []
    let interface : Text :=
      (route.interfaceIndex.map (fun index => (" dev " : Text) ++ interfaceLabel interfaceNames index)).getD []
    let metric : Text := (route.metric.map (fun metric => (" metric " : Text) ++ decimal metric.toNat)).getD []
    (interfaceNames,
      if emit then
        some ("route " ++ (if removed then "removed" else "changed") ++ " " ++ target ++ gateway ++ interface ++ metric)
      else none)
  | .neighbor removed neighbor =>
    let interface := interfaceLabel interfaceNames neighbor.interfaceIndex
    let linkAddress : Text := (neighbor.linkAddress.map (fun address => (" lladdr " : Text) ++ address)).getD []
    let vendor := neighbor.linkAddress.bind (fun address => vendor address vendors)
    let vendor : Text := (vendor.map (fun vendor => (" vendor " : Text) ++ vendor)).getD []
    (interfaceNames,
      if emit then
        some ("neighbor " ++ (if removed then "removed" else "changed") ++ " " ++ neighbor.address.display ++ " dev " ++
          interface ++ linkAddress ++ vendor ++ " " ++ neighbor.state)
      else none)

/-- The names after the events of a stream, and the lines they print. -/
def watch : InterfaceNames → List NetworkEvent → InterfaceNames × List Text :=
  Emission.run (watchEvent vendors filter)

end

/-! ## `watch_json` -/

def jsonNextHop (nextHop : NextHop) : Json.Value :=
  .object
    [("gateway", Json.optionalString (nextHop.gateway.map IpAddr.display)),
      ("interfaceIndex", Json.ofInt nextHop.interfaceIndex.toInt), ("weight", Json.ofNat nextHop.weight.toNat),
      ("flags", .string nextHop.flags)]

def jsonRoute (route : Route) : Json.Value :=
  .object
    [("family", .string (jsonIpFamily route.destination)), ("destination", .string route.destination.display),
      ("prefix", Json.ofNat route.prefixLength.toNat),
      ("sourcePrefix", (route.sourcePrefix.map (fun (address, prefixLength) =>
        Json.Value.string (address.display ++ "/" ++ decimal prefixLength.toNat))).getD .null),
      ("gateway", Json.optionalString (route.gateway.map IpAddr.display)),
      ("interfaceIndex", Json.optionalInt (route.interfaceIndex.map Int32.toInt)),
      ("metric", Json.optionalNumber (route.metric.map UInt32.toNat)),
      ("preferredSource", Json.optionalString (route.source.map IpAddr.display)),
      ("table", Json.ofNat route.table.toNat), ("protocol", .string route.protocol), ("scope", .string route.scope),
      ("type", .string route.kind), ("nextHops", .array (route.nextHops.map jsonNextHop))]

def jsonNeighbor (neighbor : Neighbor) (names : InterfaceNames) : Json.Value :=
  .object
    [("family", .string (jsonIpFamily neighbor.address)), ("address", .string neighbor.address.display),
      ("linkAddress", Json.optionalString neighbor.linkAddress),
      ("interfaceIndex", Json.ofInt neighbor.interfaceIndex.toInt),
      ("interface", .string (interfaceLabel names neighbor.interfaceIndex)), ("state", .string neighbor.state),
      ("flags", .string neighbor.flags), ("protocol", Json.optionalString neighbor.protocol),
      ("type", .string neighbor.kind), ("probes", Json.optionalNumber (neighbor.probes.map UInt32.toNat)),
      ("confirmedMillisecondsAgo", Json.optionalNumber (neighbor.confirmedMsAgo.map UInt64.toNat)),
      ("usedMillisecondsAgo", Json.optionalNumber (neighbor.usedMsAgo.map UInt64.toNat)),
      ("updatedMillisecondsAgo", Json.optionalNumber (neighbor.updatedMsAgo.map UInt64.toNat)),
      ("referenceCount", Json.optionalNumber (neighbor.referenceCount.map UInt32.toNat)),
      ("masterIndex", Json.optionalInt (neighbor.masterIndex.map Int32.toInt))]

section

variable (filter : Option WatchFilter)

/-- The closure of `watch_json`: the names after an event, and the line it prints. -/
def watchJsonEvent (interfaceNames : InterfaceNames) (event : NetworkEvent) : InterfaceNames × Option Text :=
  let emit := emits filter event
  let (interfaceNames, value) : InterfaceNames × Json.Value :=
    match event with
    | .link removed interfaceIndex name up =>
      let label := name <|> interfaceNames interfaceIndex
      let interfaceNames :=
        if removed then interfaceNames.remove interfaceIndex
        else
          match name with
          | some name => interfaceNames.insert interfaceIndex name
          | none => interfaceNames
      (interfaceNames,
        .object
          [("event", .string (if removed then "removed" else "changed")), ("object", .string "link"),
            ("interfaceIndex", Json.ofInt interfaceIndex.toInt), ("interface", Json.optionalString label),
            ("up", .bool up)])
    | .address removed interfaceIndex address prefixLength =>
      (interfaceNames,
        .object
          [("event", .string (if removed then "removed" else "added")), ("object", .string "address"),
            ("interfaceIndex", Json.ofInt interfaceIndex.toInt),
            ("interface", .string (interfaceLabel interfaceNames interfaceIndex)),
            ("address", .string address.display), ("prefix", Json.ofNat prefixLength.toNat)])
    | .route removed route =>
      (interfaceNames,
        .object
          [("event", .string (if removed then "removed" else "changed")), ("object", .string "route"),
            ("route", jsonRoute route)])
    | .neighbor removed neighbor =>
      (interfaceNames,
        .object
          [("event", .string (if removed then "removed" else "changed")), ("object", .string "neighbor"),
            ("neighbor", jsonNeighbor neighbor interfaceNames)])
  (interfaceNames, if emit then some value.render else none)

/-- The names after the events of a stream, and the lines they print. -/
def watchJson : InterfaceNames → List NetworkEvent → InterfaceNames × List Text := Emission.run (watchJsonEvent filter)

end

/-! ## The names after a stream -/

/-- Whether an event removes the link with an index. -/
def NetworkEvent.removesLink (index : Int32) : NetworkEvent → Bool
  | .link true interfaceIndex _ _ => interfaceIndex = index
  | _ => false

/-- The name an event carries for the link with an index, if it does not remove it. -/
def NetworkEvent.namesLink (index : Int32) : NetworkEvent → Option Text
  | .link false interfaceIndex name _ => if interfaceIndex = index then name else none
  | _ => none

/-- The latest name an event carried for an index since it was last removed, or the initial one of an index that never
was. -/
def namesAfter (initial : InterfaceNames) (events : List NetworkEvent) : InterfaceNames :=
  Journal.valueAfter NetworkEvent.removesLink NetworkEvent.namesLink initial events

/-- What an event does to the name of an index. -/
def nameAfter (interfaceNames : InterfaceNames) (event : NetworkEvent) : InterfaceNames := fun index =>
  if event.removesLink index then none else (event.namesLink index).or (interfaceNames index)

theorem nameAfter_removed (interfaceNames : InterfaceNames) (interfaceIndex : Int32) (name : Option Text) (up : Bool) :
    nameAfter interfaceNames (.link true interfaceIndex name up) = interfaceNames.remove interfaceIndex := by
  funext index
  unfold nameAfter NetworkEvent.removesLink NetworkEvent.namesLink Keyed.Map.remove
  by_cases h : interfaceIndex = index
  · subst h
    simp
  · simp [h, Function.update_of_ne (Ne.symm h)]

theorem nameAfter_changed (interfaceNames : InterfaceNames) (interfaceIndex : Int32) (name : Option Text) (up : Bool) :
    nameAfter interfaceNames (.link false interfaceIndex name up) =
      match name with
      | some name => interfaceNames.insert interfaceIndex name
      | none => interfaceNames := by
  funext index
  unfold nameAfter NetworkEvent.removesLink NetworkEvent.namesLink
  by_cases h : interfaceIndex = index
  · subst h
    cases name with
    | none => simp
    | some name => simp [Keyed.Map.insert]
  · cases name with
    | none => simp
    | some name => simp [h, Keyed.Map.insert, Function.update_of_ne (Ne.symm h)]

theorem nameAfter_other (interfaceNames : InterfaceNames) {event : NetworkEvent}
    (h : WatchFilter.link.matches event = false) : nameAfter interfaceNames event = interfaceNames := by
  funext index
  cases event with
  | link removed interfaceIndex name up => cases h
  | address removed interfaceIndex address prefixLength => rfl
  | route removed route => rfl
  | neighbor removed neighbor => rfl

theorem insert_of_eq_some {interfaceNames : InterfaceNames} {index : Int32} {name : Text}
    (h : interfaceNames index = some name) : interfaceNames.insert index name = interfaceNames := by
  unfold Keyed.Map.insert
  rw [← h, Function.update_eq_self]

variable (vendors : Keyed.Map UInt32 Text) (filter : Option WatchFilter)

/-- **The text handler takes every link event**: a name it looked up is inserted again, which changes nothing. -/
theorem watchEvent_fst (interfaceNames : InterfaceNames) (event : NetworkEvent) :
    (watchEvent vendors filter interfaceNames event).1 = nameAfter interfaceNames event := by
  cases event with
  | link removed interfaceIndex name up =>
    cases removed with
    | true => exact (nameAfter_removed interfaceNames interfaceIndex name up).symm
    | false =>
      rw [nameAfter_changed]
      cases name with
      | some name => rfl
      | none =>
        cases h : interfaceNames interfaceIndex with
        | none => simp [watchEvent, h]
        | some name => simp [watchEvent, h, insert_of_eq_some h]
  | address removed interfaceIndex address prefixLength => exact (nameAfter_other interfaceNames rfl).symm
  | route removed route => exact (nameAfter_other interfaceNames rfl).symm
  | neighbor removed neighbor => exact (nameAfter_other interfaceNames rfl).symm

/-- **So does the JSON handler.** -/
theorem watchJsonEvent_fst (interfaceNames : InterfaceNames) (event : NetworkEvent) :
    (watchJsonEvent filter interfaceNames event).1 = nameAfter interfaceNames event := by
  cases event with
  | link removed interfaceIndex name up =>
    cases removed with
    | true => exact (nameAfter_removed interfaceNames interfaceIndex name up).symm
    | false => exact (nameAfter_changed interfaceNames interfaceIndex name up).symm
  | address removed interfaceIndex address prefixLength => exact (nameAfter_other interfaceNames rfl).symm
  | route removed route => exact (nameAfter_other interfaceNames rfl).symm
  | neighbor removed neighbor => exact (nameAfter_other interfaceNames rfl).symm

theorem watchEvent_hides : Emission.Hides (emits filter) (watchEvent vendors none) (watchEvent vendors filter) := by
  intro interfaceNames event
  cases event with
  | link removed interfaceIndex name up =>
    cases removed with
    | true => rfl
    | false => rfl
  | address removed interfaceIndex address prefixLength => rfl
  | route removed route => rfl
  | neighbor removed neighbor => rfl

theorem watchEvent_total : Emission.Total (watchEvent vendors none) := by
  intro interfaceNames event
  cases event with
  | link removed interfaceIndex name up =>
    cases removed with
    | true => rfl
    | false => rfl
  | address removed interfaceIndex address prefixLength => rfl
  | route removed route => rfl
  | neighbor removed neighbor => rfl

theorem watchJsonEvent_hides : Emission.Hides (emits filter) (watchJsonEvent none) (watchJsonEvent filter) := by
  intro interfaceNames event
  rfl

theorem watchJsonEvent_total : Emission.Total (watchJsonEvent none) := by
  intro interfaceNames event
  rfl

/-- **A run of either handler keeps the names of the events.** -/
theorem names_of_run {handler : InterfaceNames → NetworkEvent → InterfaceNames × Option Text}
    (h : ∀ interfaceNames event, (handler interfaceNames event).1 = nameAfter interfaceNames event)
    (initial : InterfaceNames) (events : List NetworkEvent) :
    (Emission.run handler initial events).1 = namesAfter initial events := by
  rw [Emission.run_fst]
  refine Journal.foldl_eq_valueAfter (fun interfaceNames event index => ?_) initial events
  rw [h]
  rfl

/-- The records of a run under a filter are those of the whole run at the events the filter matches, in their order. -/
def OnlyHides (whole filtered : InterfaceNames × List Text) (events : List NetworkEvent) : Prop :=
  whole.2.length = events.length ∧
    filtered.2 = ((events.zip whole.2).filter (fun p => emits filter p.1)).map Prod.snd

/-- **A filter only hides records**: in either format and under every filter the names are those of the events, and the
records are the unfiltered ones of the events that match. -/
theorem watch_filter_only_hides (initial : InterfaceNames) (events : List NetworkEvent) :
    (watch vendors filter initial events).1 = namesAfter initial events ∧
    (watchJson filter initial events).1 = namesAfter initial events ∧
    OnlyHides filter (watch vendors none initial events) (watch vendors filter initial events) events ∧
    OnlyHides filter (watchJson none initial events) (watchJson filter initial events) events := by
  refine ⟨names_of_run (watchEvent_fst vendors filter) initial events,
    names_of_run (watchJsonEvent_fst filter) initial events, ⟨?_, ?_⟩, ⟨?_, ?_⟩⟩
  · exact Emission.length_of_total (watchEvent_total vendors) initial events
  · exact Emission.run_snd_of_hides (watchEvent_hides vendors filter) (watchEvent_total vendors) initial events
  · exact Emission.length_of_total watchJsonEvent_total initial events
  · exact Emission.run_snd_of_hides (watchJsonEvent_hides filter) watchJsonEvent_total initial events

/-- A hidden link event names the interface of the address that is shown. -/
example :
    (watch Keyed.Map.empty (some .address) Keyed.Map.empty
      [.link false 7 (some "eth1") true, .address false 7 (.v4 (Ipv4Addr.new 10 0 0 2)) 24]).2 =
      ["address added 10.0.0.2/24 dev eth1"] := by
  decide +kernel

end Networkrs
