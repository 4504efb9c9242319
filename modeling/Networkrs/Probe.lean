import Networkrs.PortScan
import Networkrs.Watch
/-!
# Probe — the probe command, as text and as JSON

`probe` and `probe_json` of `main.rs` parse their arguments, take the first address of the host that has a route, scan
its ports and show the results that pass the filter.  The two forms are written apart; whatever the workers of the scan
do, they end alike, and what they show are the outcomes of the same ports (`probe_forms_agree`).
-/
namespace Networkrs

open Machine Collect

/-- What the calls of a probe return, and the interleaving of the workers of its scan. -/
structure ProbeCalls where
  toSocketAddrs : Text → UInt16 → Except IoError (List SocketAddr)
  routeTo : IpAddr → Except IoError Route
  interfaceNames : InterfaceNames
  connector : Connector
  schedule : List Nat
  elapsed : Nat
  milliseconds : Nat → Text
  millisecondsNumber : Nat → Text

def TcpProbeStatus.filterName : TcpProbeStatus → Text
  | .connected => "open"
  | .connectionRefused => "closed"
  | .failed => "failed"

def TcpProbeResult.reachable (result : TcpProbeResult) : Bool := result.status ≠ .failed

def TcpProbeResult.statusName (result : TcpProbeResult) : Text :=
  match result.status with
  | .connected => "connected"
  | .connectionRefused => "connection-refused"
  | .failed => "failed"

/-- A call that cannot block. -/
def ofCall {α : Type} : Except IoError α → IoResult α
  | .ok value => .ok value
  | .error e => .err e

variable (calls : ProbeCalls)

/-! ## The destination -/

/-- The loop over the destinations, with the error of the last one that has no route. -/
def firstRoutable (lastError : Option IoError) : List SocketAddr → Except IoError (SocketAddr × Route)
  | [] => .error (lastError.getD (.custom .addrNotAvailable "no routable IP address found"))
  | destination :: destinations =>
    match calls.routeTo destination.ip with
    | .ok route => .ok (destination, route)
    | .error e => firstRoutable (some e) destinations

def resolveProbeDestination (host : Text) (port : UInt16) : Except IoError (SocketAddr × Route) := do
  let destinations ← calls.toSocketAddrs host port
  if destinations = [] then .error (.custom .addrNotAvailable "host resolved to no IP addresses")
  else firstRoutable calls none destinations

/-- `arguments.ports[0]`. -/
def portsFirst : List UInt16 → Checked UInt16
  | [] => .error .outOfRange
  | port :: _ => .ok port

def scanPorts (arguments : ProbeArguments) (destination : SocketAddr) : IoResult (List TcpProbeResult) :=
  match tcpProbePorts calls.connector destination.ip arguments.ports arguments.timeoutMs calls.schedule with
  | some results => .ok results
  | none => .waiting

/-- The results that pass the filter. -/
def matching (filter : Option TcpProbeStatus) (results : List TcpProbeResult) : List TcpProbeResult :=
  results.filter (fun result => filter.all (fun filter => result.status = filter))

def countOf (status : TcpProbeStatus) (results : List TcpProbeResult) : Nat :=
  results.countP (fun result => result.status = status)

/-! ## Text -/

def probeHeading (arguments : ProbeArguments) (destination : SocketAddr) : Text :=
  match arguments.ports, arguments.filter with
  | [port], none =>
    "TCP probe " ++ arguments.host ++ ":" ++ decimal port.toNat ++ " (" ++ destination.ip.display ++ ")"
  | _, _ => "TCP port scan " ++ arguments.host ++ " (" ++ destination.ip.display ++ ")"

def probeRouteLine (route : Route) : Text :=
  "  Route: " ++ (route.gateway.map (fun gateway => ("via " : Text) ++ gateway.display)).getD "direct" ++
    (route.interfaceIndex.map (fun index => (" dev " : Text) ++ interfaceLabel calls.interfaceNames index)).getD [] ++
    (route.metric.map (fun metric => (" metric " : Text) ++ decimal metric.toNat)).getD [] ++ " source " ++
    (route.source.map IpAddr.display).getD "unknown"

def probeResultLine (result : TcpProbeResult) : Text :=
  let elapsed := calls.milliseconds result.elapsed
  match result.status with
  | .connected => "  Result: connected in " ++ elapsed ++ "ms"
  | .connectionRefused => "  Result: host reached in " ++ elapsed ++ "ms; connection refused"
  | .failed => "  Result: failed after " ++ elapsed ++ "ms: " ++ result.error.getD "unknown error"

def portLine (result : TcpProbeResult) : Text :=
  let elapsed := calls.milliseconds result.elapsed
  match result.status with
  | .connected => "  " ++ decimal result.port.toNat ++ "/tcp open in " ++ elapsed ++ "ms"
  | .connectionRefused =>
    "  " ++ decimal result.port.toNat ++ "/tcp closed in " ++ elapsed ++ "ms (connection refused)"
  | .failed =>
    "  " ++ decimal result.port.toNat ++ "/tcp failed after " ++ elapsed ++ "ms: " ++
      result.error.getD "unknown error"

def noPortsLine (filter : TcpProbeStatus) : Text := "  No " ++ filter.filterName ++ " TCP ports"

def filteredSummary (filter : TcpProbeStatus) (shown scanned : Nat) : Text :=
  "Port scan complete: " ++ decimal shown ++ " " ++ filter.filterName ++ ", " ++ decimal scanned ++ " scanned, " ++
    calls.milliseconds calls.elapsed ++ "ms"

def summary («open» closed failed : Nat) : Text :=
  "Port scan complete: " ++ decimal «open» ++ " open, " ++ decimal closed ++ " closed, " ++ decimal failed ++
    " failed, " ++ calls.milliseconds calls.elapsed ++ "ms"

/-- The lines behind the route: one result alone, or the ports that match and a summary. -/
def resultLines (filter : Option TcpProbeStatus) (results : List TcpProbeResult) : Checked (List Text) :=
  match filter, results with
  | none, [result] => .ok [probeResultLine calls result]
  | filter, results => do
    let shown := matching filter results
    let rows := shown.map (portLine calls)
    let «open» := countOf .connected results
    let closed := countOf .connectionRefused results
    let rest ← usizeSub results.length «open»
    let failed ← usizeSub rest closed
    match filter with
    | some filter =>
      return rows ++ (if shown.isEmpty then [noPortsLine filter] else []) ++
        [filteredSummary calls filter shown.length results.length]
    | none => return rows ++ [summary calls «open» closed failed]

def probe (arguments : List Text) : IoResult (List Text × Bool) := do
  let arguments ← ofCall (parseProbeArguments arguments)
  let port ← Outcome.ofChecked (portsFirst arguments.ports)
  let (destination, route) ← ofCall (resolveProbeDestination calls arguments.host port)
  let results ← scanPorts calls arguments destination
  let lines ← Outcome.ofChecked (resultLines calls arguments.filter results)
  return (probeHeading arguments destination :: probeRouteLine calls route :: lines,
    results.any TcpProbeResult.reachable)

/-! ## JSON -/

def elapsedValue (elapsed : Nat) : Json.Value := .number (calls.millisecondsNumber elapsed)

def portValue (result : TcpProbeResult) : Json.Value :=
  .object
    [("port", Json.ofNat result.port.toNat), ("status", .string result.statusName),
      ("open", .bool (result.status = .connected)), ("reachable", .bool result.reachable),
      ("error", Json.optionalString result.error), ("elapsedMilliseconds", elapsedValue calls result.elapsed)]

def singleValue (arguments : ProbeArguments) (destination : SocketAddr) (route : Json.Value) (reachable : Bool)
    (result : TcpProbeResult) : Json.Value :=
  .object
    [("host", .string arguments.host), ("port", Json.ofNat result.port.toNat),
      ("address", .string destination.ip.display), ("route", route), ("reachable", .bool reachable),
      ("status", .string result.statusName), ("error", Json.optionalString result.error),
      ("elapsedMilliseconds", elapsedValue calls result.elapsed)]

def scanValue (arguments : ProbeArguments) (destination : SocketAddr) (route : Json.Value) (reachable : Bool)
    (results : List TcpProbeResult) : Json.Value :=
  .object
    [("host", .string arguments.host), ("address", .string destination.ip.display), ("route", route),
      ("reachable", .bool reachable),
      ("filter", Json.optionalString (arguments.filter.map TcpProbeStatus.filterName)),
      ("scannedPorts", Json.ofNat results.length),
      ("ports", .array ((matching arguments.filter results).map (portValue calls))),
      ("elapsedMilliseconds", elapsedValue calls calls.elapsed)]

def probeJson (arguments : List Text) : IoResult (Json.Value × Bool) := do
  let arguments ← ofCall (parseProbeArguments arguments)
  let port ← Outcome.ofChecked (portsFirst arguments.ports)
  let (destination, route) ← ofCall (resolveProbeDestination calls arguments.host port)
  let route := jsonRoute route
  let results ← scanPorts calls arguments destination
  let reachable := results.any TcpProbeResult.reachable
  match arguments.filter, results with
  | none, [result] => return (singleValue calls arguments destination route reachable result, reachable)
  | _, results => return (scanValue calls arguments destination route reachable results, reachable)

/-! ## What both forms show -/

/-- **The first address of a host that has a route.** -/
def IsFirstRoutable (host : Text) (port : UInt16) (destination : SocketAddr) (route : Route) : Prop :=
  ∃ before after, calls.toSocketAddrs host port = .ok (before ++ destination :: after) ∧
    (∀ d ∈ before, ∃ e, calls.routeTo d.ip = .error e) ∧ calls.routeTo destination.ip = .ok route

/-- **The lines show the results that match**: one result that is not filtered on a line of its own, others with their
numbers behind them. -/
inductive TextShows (filter : Option TcpProbeStatus) (results : List TcpProbeResult) : List Text → Prop where
  | single {result : TcpProbeResult} : filter = none → results = [result] →
      TextShows filter results [probeResultLine calls result]
  | scan : filter = none → results.length ≠ 1 →
      TextShows filter results (results.map (portLine calls) ++
        [summary calls (countOf .connected results) (countOf .connectionRefused results) (countOf .failed results)])
  | filtered {status : TcpProbeStatus} : filter = some status →
      TextShows filter results ((matching filter results).map (portLine calls) ++
        (if countOf status results = 0 then [noPortsLine status] else []) ++
        [filteredSummary calls status (countOf status results) results.length])

/-- **The value shows the results that match.** -/
inductive JsonShows (arguments : ProbeArguments) (destination : SocketAddr) (route : Route)
    (results : List TcpProbeResult) : Json.Value → Prop where
  | single {result : TcpProbeResult} : arguments.filter = none → results = [result] →
      JsonShows arguments destination route results
        (singleValue calls arguments destination (jsonRoute route) result.reachable result)
  | scan : arguments.filter ≠ none ∨ results.length ≠ 1 →
      JsonShows arguments destination route results
        (scanValue calls arguments destination (jsonRoute route) (results.any TcpProbeResult.reachable) results)

variable {calls}

theorem firstRoutable_eq_ok_iff {destination : SocketAddr} {route : Route} : ∀ (destinations : List SocketAddr)
    (lastError : Option IoError), firstRoutable calls lastError destinations = .ok (destination, route) ↔
      ∃ before after, destinations = before ++ destination :: after ∧
        (∀ d ∈ before, ∃ e, calls.routeTo d.ip = .error e) ∧ calls.routeTo destination.ip = .ok route
  | [], lastError => by
    refine iff_of_false (fun h => by cases h) ?_
    rintro ⟨before, after, h, -⟩
    exact absurd h.symm (List.append_ne_nil_of_right_ne_nil _ (List.cons_ne_nil _ _))
  | d :: destinations, lastError => by
    rw [firstRoutable]
    cases hroute : calls.routeTo d.ip with
    | ok found =>
      dsimp only
      constructor
      · intro h
        cases h
        exact ⟨[], destinations, rfl, by simp, hroute⟩
      · rintro ⟨before, after, h, hbefore, hdestination⟩
        cases before with
        | nil =>
          obtain ⟨rfl, -⟩ := List.cons.inj h
          rw [hroute] at hdestination
          cases hdestination
          rfl
        | cons x before =>
          obtain ⟨rfl, -⟩ := List.cons.inj h
          obtain ⟨e, he⟩ := hbefore d List.mem_cons_self
          rw [hroute] at he
          cases he
    | error e =>
      dsimp only
      rw [firstRoutable_eq_ok_iff destinations (some e)]
      constructor
      · rintro ⟨before, after, rfl, hbefore, hdestination⟩
        exact ⟨d :: before, after, rfl, List.forall_mem_cons.2 ⟨⟨e, hroute⟩, hbefore⟩, hdestination⟩
      · rintro ⟨before, after, h, hbefore, hdestination⟩
        cases before with
        | nil =>
          obtain ⟨rfl, -⟩ := List.cons.inj h
          rw [hroute] at hdestination
          cases hdestination
        | cons x before =>
          obtain ⟨rfl, htail⟩ := List.cons.inj h
          exact ⟨before, after, htail, fun x hx => hbefore x (List.mem_cons_of_mem d hx), hdestination⟩

/-- **A probe goes to the first address with a route.** -/
theorem resolveProbeDestination_eq_ok_iff {host : Text} {port : UInt16} {destination : SocketAddr} {route : Route} :
    resolveProbeDestination calls host port = .ok (destination, route) ↔
      IsFirstRoutable calls host port destination route := by
  unfold resolveProbeDestination IsFirstRoutable
  cases hresolve : calls.toSocketAddrs host port with
  | error e =>
    refine iff_of_false (fun h => by cases h) ?_
    rintro ⟨before, after, h, -⟩
    cases h
  | ok destinations =>
    rw [ok_bind]
    by_cases hempty : destinations = []
    · rw [if_pos hempty]
      refine iff_of_false (fun h => by cases h) ?_
      rintro ⟨before, after, h, -⟩
      rw [hempty] at h
      exact absurd (Except.ok.inj h).symm (List.append_ne_nil_of_right_ne_nil _ (List.cons_ne_nil _ _))
    · rw [if_neg hempty, firstRoutable_eq_ok_iff]
      simp only [Except.ok.injEq]

/-! ## The ports and their outcomes -/

/-- The ports that are accepted: at least one, in ascending order. -/
theorem ports_of_parseProbeArguments {arguments : List Text} {parsed : ProbeArguments}
    (h : parseProbeArguments arguments = .ok parsed) : parsed.ports ≠ [] ∧ parsed.ports.Pairwise (· < ·) := by
  obtain ⟨options, hoptions, h⟩ := (bind_eq_ok_iff _ _ _).1 h
  have hports : ∀ ports ∈ options.ports, ports ≠ [] ∧ ports.Pairwise (· < ·) := by
    refine of_parseLoop (P := fun options => ∀ ports ∈ options.ports, ports ≠ [] ∧ ports.Pairwise (· < ·)) ?_
      arguments.length arguments _ options (Nat.le_refl _) hoptions (by simp)
    intro parsed argument value parsed' took hone hparsed
    unfold probeOption at hone
    split at hone
    · obtain ⟨text, -, hone⟩ := (bind_eq_ok_iff _ _ _).1 hone
      obtain ⟨filter, -, hone⟩ := (bind_eq_ok_iff _ _ _).1 hone
      split at hone
      · exact absurd hone (invalidArgument_ne_ok _ _)
      · cases hone
        exact hparsed
    split at hone
    · obtain ⟨timeoutMs, -, hone⟩ := (bind_eq_ok_iff _ _ _).1 hone
      split at hone
      · exact absurd hone (invalidArgument_ne_ok _ _)
      · cases hone
        exact hparsed
    split at hone
    · exact absurd hone (invalidArgument_ne_ok _ _)
    split at hone
    · cases hone
      exact hparsed
    split at hone
    · obtain ⟨ports, hset, hone⟩ := (bind_eq_ok_iff _ _ _).1 hone
      cases hone
      rintro _ ⟨⟩
      exact ⟨(parseProbePorts_spec hset).1, (parseProbePorts_spec hset).2.1⟩
    · exact absurd hone (invalidArgument_ne_ok _ _)
  cases hhost : options.host with
  | none =>
    rw [hhost] at h
    exact absurd h (invalidArgument_ne_ok _ _)
  | some host =>
    rw [hhost] at h
    cases h
    cases hsome : options.ports with
    | none => exact ⟨by simp, by simp⟩
    | some ports => exact hports ports hsome

/-- The outcomes of a scan, one for each port in the order of the ports. -/
def outcomes (calls : ProbeCalls) (arguments : ProbeArguments) (destination : SocketAddr) : List TcpProbeResult :=
  arguments.ports.map (fun port => tcpProbe calls.connector destination.ip port arguments.timeoutMs)

theorem scanPorts_eq_ok {arguments : ProbeArguments} {destination : SocketAddr} {results : List TcpProbeResult}
    (hne : arguments.ports ≠ []) (hascending : arguments.ports.Pairwise (· < ·))
    (h : scanPorts calls arguments destination = .ok results) : results = outcomes calls arguments destination := by
  unfold scanPorts at h
  cases hscan : tcpProbePorts calls.connector destination.ip arguments.ports arguments.timeoutMs calls.schedule with
  | none => rw [hscan] at h; cases h
  | some found =>
    rw [hscan] at h
    cases h
    unfold tcpProbePorts at hscan
    split at hscan
    · next port hport =>
      cases hscan
      simp [outcomes, hport]
    · obtain ⟨s, hrun, hscan⟩ := Option.bind_eq_some_iff.1 hscan
      split at hscan
      · next hstopped =>
        rw [← Option.some.inj hscan]
        exact sortResults_of_stopped calls.connector destination.ip arguments.timeoutMs hne hascending hrun hstopped
      · cases hscan

theorem countOf_add (results : List TcpProbeResult) :
    countOf .connected results + countOf .connectionRefused results + countOf .failed results = results.length := by
  induction results with
  | nil => rfl
  | cons result results ih =>
    simp only [countOf, List.countP_cons, List.length_cons] at ih ⊢
    cases result.status <;> simp <;> omega

theorem matching_none (results : List TcpProbeResult) : matching none results = results := by
  simp [matching]

theorem length_matching (status : TcpProbeStatus) (results : List TcpProbeResult) :
    (matching (some status) results).length = countOf status results := by
  simp [matching, countOf, List.countP_eq_length_filter]

/-- **The lines are the results that match**; the subtractions of the summary do not overflow. -/
theorem resultLines_shows (filter : Option TcpProbeStatus) (results : List TcpProbeResult) :
    ∃ lines, resultLines calls filter results = .ok lines ∧ TextShows calls filter results lines := by
  have hcount := countOf_add results
  have hopen : usizeSub results.length (countOf .connected results) =
      .ok (countOf .connectionRefused results + countOf .failed results) := by
    rw [usizeSub, if_pos (by omega)]
    exact congrArg Except.ok (by omega)
  have hclosed : usizeSub (countOf .connectionRefused results + countOf .failed results)
      (countOf .connectionRefused results) = .ok (countOf .failed results) := by
    rw [usizeSub, if_pos (by omega)]
    exact congrArg Except.ok (by omega)
  cases filter with
  | some status =>
    refine ⟨_, ?_, .filtered rfl⟩
    simp only [resultLines, hopen, hclosed, ok_bind]
    have hempty : (matching (some status) results).isEmpty = true ↔ countOf status results = 0 := by
      rw [List.isEmpty_iff_length_eq_zero, length_matching]
    simp only [hempty, length_matching]
    rfl
  | none =>
    by_cases hone : results.length = 1
    · obtain ⟨result, rfl⟩ := List.length_eq_one_iff.1 hone
      exact ⟨_, rfl, .single rfl rfl⟩
    · refine ⟨_, ?_, .scan rfl hone⟩
      unfold resultLines
      split
      · simp at hone
      · simp only [hopen, hclosed, ok_bind, matching_none]
        rfl

/-! ## The two forms -/

variable (calls) in
/-- What both forms do before they show anything of the scan. -/
def scanned (arguments : List Text) : IoResult (ProbeArguments × SocketAddr × Route × List TcpProbeResult) := do
  let arguments ← ofCall (parseProbeArguments arguments)
  let port ← Outcome.ofChecked (portsFirst arguments.ports)
  let (destination, route) ← ofCall (resolveProbeDestination calls arguments.host port)
  let results ← scanPorts calls arguments destination
  return (arguments, destination, route, results)

theorem ofCall_eq_ok_iff {α : Type} (r : Except IoError α) (value : α) : ofCall r = .ok value ↔ r = .ok value := by
  cases r <;> simp [ofCall]

theorem portsFirst_eq_ok_iff (ports : List UInt16) (port : UInt16) :
    portsFirst ports = .ok port ↔ ports.head? = some port := by
  cases ports <;> simp [portsFirst]

/-- **What a scan is of**: the ports of the arguments, at the first address of the host that has a route. -/
theorem scanned_eq_ok {arguments : List Text} {parsed : ProbeArguments} {destination : SocketAddr} {route : Route}
    {results : List TcpProbeResult} (h : scanned calls arguments = .ok (parsed, destination, route, results)) :
    parseProbeArguments arguments = .ok parsed ∧
      (∃ port, parsed.ports.head? = some port ∧ IsFirstRoutable calls parsed.host port destination route) ∧
      results = outcomes calls parsed destination := by
  obtain ⟨_, hparse, h⟩ := (Outcome.bind_eq_ok_iff _ _ _).1 h
  obtain ⟨port, hport, h⟩ := (Outcome.bind_eq_ok_iff _ _ _).1 h
  obtain ⟨⟨_, _⟩, hresolve, h⟩ := (Outcome.bind_eq_ok_iff _ _ _).1 h
  obtain ⟨_, hscan, h⟩ := (Outcome.bind_eq_ok_iff _ _ _).1 h
  cases h
  rw [ofCall_eq_ok_iff] at hparse hresolve
  rw [Outcome.ofChecked_eq_ok_iff, portsFirst_eq_ok_iff] at hport
  obtain ⟨hne, hascending⟩ := ports_of_parseProbeArguments hparse
  exact ⟨hparse, ⟨port, hport, resolveProbeDestination_eq_ok_iff.1 hresolve⟩,
    scanPorts_eq_ok hne hascending hscan⟩

/-- The first port is there, and the calls do not panic. -/
theorem scanned_ne_panicked (arguments : List Text) (p : Panic) : scanned calls arguments ≠ .panicked p := by
  unfold scanned
  cases hparse : parseProbeArguments arguments with
  | error e => rintro ⟨⟩
  | ok parsed =>
    obtain ⟨port, rest, hports⟩ := List.exists_cons_of_ne_nil (ports_of_parseProbeArguments hparse).1
    simp only [ofCall, hports, portsFirst, Outcome.ofChecked, Bind.bind, Outcome.bind]
    cases resolveProbeDestination calls parsed.host port with
    | error e => rintro ⟨⟩
    | ok found =>
      dsimp only [scanPorts]
      cases tcpProbePorts calls.connector found.1.ip parsed.ports parsed.timeoutMs calls.schedule with
      | none => rintro ⟨⟩
      | some results => rintro ⟨⟩

theorem probe_eq_bind (arguments : List Text) : probe calls arguments = scanned calls arguments >>= fun scan => do
    let (arguments, destination, route, results) := scan
    let lines ← Outcome.ofChecked (resultLines calls arguments.filter results)
    return (probeHeading arguments destination :: probeRouteLine calls route :: lines,
      results.any TcpProbeResult.reachable) := by
  simp only [probe, scanned, bind_assoc, pure_bind]

variable (calls) in
/-- The value of a scan: the object of its one result, or that of all that match. -/
def shownValue (arguments : ProbeArguments) (destination : SocketAddr) (route : Route)
    (results : List TcpProbeResult) : Json.Value :=
  let reachable := results.any TcpProbeResult.reachable
  match arguments.filter, results with
  | none, [result] => singleValue calls arguments destination (jsonRoute route) reachable result
  | _, results => scanValue calls arguments destination (jsonRoute route) reachable results

theorem shownValue_shows (arguments : ProbeArguments) (destination : SocketAddr) (route : Route)
    (results : List TcpProbeResult) :
    JsonShows calls arguments destination route results (shownValue calls arguments destination route results) := by
  unfold shownValue
  dsimp only
  split
  · next result hfilter =>
    rw [List.any_cons, List.any_nil, Bool.or_false]
    exact .single hfilter rfl
  · next hother =>
    apply JsonShows.scan
    by_contra hsingle
    rw [not_or, not_not, not_not, List.length_eq_one_iff] at hsingle
    obtain ⟨hfilter, result, rfl⟩ := hsingle
    exact hother result hfilter rfl

theorem probeJson_eq_bind (arguments : List Text) : probeJson calls arguments =
    scanned calls arguments >>= fun scan => do
      let (arguments, destination, route, results) := scan
      return (shownValue calls arguments destination route results, results.any TcpProbeResult.reachable) := by
  simp only [probeJson, scanned, bind_assoc, pure_bind]
  congr! with parsed port found results
  unfold shownValue
  split <;> rfl

/-- **The two forms of a probe agree**, whatever its workers do.  They end alike, and never in a panic; a verdict is
whether a port answered at the first address of the host that has a route, and both show the outcomes of all ports, in
their order, that match the filter. -/
theorem probe_forms_agree (calls : ProbeCalls) (arguments : List Text) :
    (probe calls arguments).map Prod.snd = (probeJson calls arguments).map Prod.snd ∧
      (∀ p, probe calls arguments ≠ .panicked p) ∧
      ∀ lines verdict, probe calls arguments = .ok (lines, verdict) →
        ∃ parsed port destination route value shown,
          parseProbeArguments arguments = .ok parsed ∧ parsed.ports.head? = some port ∧
          IsFirstRoutable calls parsed.host port destination route ∧
          (verdict = true ↔ ∃ result ∈ outcomes calls parsed destination, result.status ≠ .failed) ∧
          lines = probeHeading parsed destination :: probeRouteLine calls route :: shown ∧
          TextShows calls parsed.filter (outcomes calls parsed destination) shown ∧
          probeJson calls arguments = .ok (value, verdict) ∧
          JsonShows calls parsed destination route (outcomes calls parsed destination) value := by
  rw [probe_eq_bind, probeJson_eq_bind]
  cases hscan : scanned calls arguments with
  | err e => exact ⟨rfl, fun _ h => (by cases h), fun _ _ h => (by cases h)⟩
  | panicked p => exact absurd hscan (scanned_ne_panicked arguments p)
  | waiting => exact ⟨rfl, fun _ h => (by cases h), fun _ _ h => (by cases h)⟩
  | ok scan =>
    obtain ⟨parsed, destination, route, results⟩ := scan
    obtain ⟨hparse, ⟨port, hport, hroute⟩, rfl⟩ := scanned_eq_ok hscan
    obtain ⟨shown, hlines, hshown⟩ := @resultLines_shows calls parsed.filter (outcomes calls parsed destination)
    simp only [Bind.bind, Outcome.bind, hlines, Outcome.ofChecked, Outcome.pure_eq_ok]
    refine ⟨rfl, fun _ h => (by cases h), ?_⟩
    rintro lines verdict ⟨⟩
    refine ⟨parsed, port, destination, route, _, shown, hparse, hport, hroute, ?_, rfl, hshown, rfl,
      shownValue_shows _ _ _ _⟩
    simp [List.any_eq_true, TcpProbeResult.reachable]

end Networkrs
