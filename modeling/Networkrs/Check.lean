import Networkrs.Json
import Networkrs.Ping
import Networkrs.PortScan
import Networkrs.System
/-!
# Check — the health check, as text and as JSON

`check` and `check_json` judge the default route, its interface, the neighbor entry of its gateway and the configured
nameservers, and on request echo the gateway and reach every nameserver.  They start with the same calls
(`checkInputs_eq_ok_iff`); from there the two are written apart and count their warnings apart, in an `i32` and a `u32`.
-/
namespace Networkrs

open Machine

/-- Floating-point numbers as text: the loss in percent, and nanoseconds in milliseconds. -/
structure NumberTexts where
  loss : PingResult → Text
  lossPercent : PingResult → Text
  milliseconds : Nat → Text
  millisecondsNumber : Nat → Text
  tenths : Nat → Text

/-- What the calls of a health check return, those for a nameserver by its place in the list: one that is listed twice
may be reached once. -/
structure CheckCalls where
  system : System
  ipv4Neighbors : Except IoError (List Neighbor)
  echo : Ipv4Addr → Except IoError PingResult
  routeTo : Nat → IpAddr → Except IoError Route
  connect : Nat → IpAddr → UInt16 → UInt64 → Except IoError Unit
  elapsed : Nat → IpAddr → UInt16 → UInt64 → Nat
  errorText : IoError → Text
  texts : NumberTexts

/-! ## The nameservers -/

def parseNameserver (line : Text) : Option Text :=
  let line := trim line
  if line.head? = some '#' ∨ line.head? = some ';' then none
  else
    match splitWhitespace line with
    | [] => none
    | first :: fields => if first = "nameserver" then fields.head? else none

def parseNameservers (contents : Text) : List Text := (lines contents).filterMap parseNameserver

def nameservers (system : System) : List Text :=
  match system.readToString resolvConf with
  | .error _ => []
  | .ok contents => parseNameservers contents

variable (calls : CheckCalls)

/-! ## What both checks read -/

structure CheckInputs where
  route : DefaultIpv4Route
  state : Text
  carrier : Option Text
  gatewayNeighbor : Option Neighbor
  nameservers : List Text

/-- The calls both functions start with, in their order. -/
def checkInputs (active : Bool) : Except IoError CheckInputs := do
  let routeContents ← calls.system.readToString procNetRoute
  let route ← match parseDefaultIpv4Route routeContents with
    | some route => .ok route
    | none => .error (.custom .notFound "no usable default IPv4 route")
  let interfacePath := pathJoin sysClassNet route.interface
  let state := interfaceState calls.system interfacePath (interfaceKind calls.system interfacePath)
  let carrier := readTrimmed calls.system (pathJoin interfacePath "carrier")
  if active && route.gateway ≠ Ipv4Addr.unspecified then calls.system.bind
  let neighbors ← calls.ipv4Neighbors
  let gatewayNeighbor := neighbors.find? (fun neighbor => neighbor.address = .v4 route.gateway)
  return { route, state, carrier, gatewayNeighbor, nameservers := nameservers calls.system }

variable {calls} in
/-- **What the checks start from**, once every call before the first record has succeeded. -/
theorem checkInputs_eq_ok_iff {active : Bool} {inputs : CheckInputs} :
    checkInputs calls active = .ok inputs ↔ ∃ contents route neighbors,
      calls.system.readToString procNetRoute = .ok contents ∧ parseDefaultIpv4Route contents = some route ∧
      ((active && route.gateway ≠ Ipv4Addr.unspecified) = true → calls.system.bind = .ok ()) ∧
      calls.ipv4Neighbors = .ok neighbors ∧
      inputs =
        { route := route
          state := interfaceState calls.system (pathJoin sysClassNet route.interface)
            (interfaceKind calls.system (pathJoin sysClassNet route.interface))
          carrier := readTrimmed calls.system (pathJoin (pathJoin sysClassNet route.interface) "carrier")
          gatewayNeighbor := neighbors.find? (fun neighbor => neighbor.address = .v4 route.gateway)
          nameservers := nameservers calls.system } := by
  constructor
  · intro h
    unfold checkInputs at h
    rw [bind_eq_ok_iff] at h
    obtain ⟨contents, hread, h⟩ := h
    cases hroute : parseDefaultIpv4Route contents with
    | none =>
      rw [hroute] at h
      cases h
    | some route =>
      rw [hroute] at h
      dsimp only at h
      rw [ok_bind] at h
      refine ⟨contents, route, ?_⟩
      by_cases hprobe : (active && route.gateway ≠ Ipv4Addr.unspecified) = true
      · rw [if_pos hprobe, bind_eq_ok_iff] at h
        obtain ⟨_, hbind, h⟩ := h
        rw [bind_eq_ok_iff] at h
        obtain ⟨neighbors, hneighbors, h⟩ := h
        exact ⟨neighbors, hread, hroute, fun _ => hbind, hneighbors, (Except.ok.inj h).symm⟩
      · rw [if_neg hprobe, bind_eq_ok_iff] at h
        obtain ⟨neighbors, hneighbors, h⟩ := h
        exact ⟨neighbors, hread, hroute, fun h => absurd h hprobe, hneighbors, (Except.ok.inj h).symm⟩
  · rintro ⟨contents, route, neighbors, hread, hroute, hbind, hneighbors, rfl⟩
    unfold checkInputs
    rw [hread, ok_bind]
    dsimp only
    rw [hroute]
    dsimp only
    rw [ok_bind]
    by_cases hprobe : (active && route.gateway ≠ Ipv4Addr.unspecified) = true
    · rw [if_pos hprobe, hbind hprobe, hneighbors]
      rfl
    · rw [if_neg hprobe, hneighbors]
      rfl

def interfaceIsUp (inputs : CheckInputs) : Bool := inputs.state = "up" && inputs.carrier = some ("1" : Text)

/-- `matches!(error.raw_os_error(), Some(1 | 13))`. -/
def isDenied : IoError → Bool
  | .os code => code = 1 || code = 13
  | .custom _ _ => false

/-! ## The text check -/

/-- What `check` has printed and counted. -/
structure TextReport where
  lines : List Text
  warnings : Int32

def TextReport.println (report : TextReport) (line : Text) : TextReport :=
  { report with lines := report.lines ++ [line] }

/-- `println!(..); warnings += 1;`. -/
def TextReport.warn (report : TextReport) (line : Text) : Checked TextReport := do
  let warnings ← i32Add report.warnings 1
  return { lines := report.lines ++ [line], warnings := warnings }

def formatDuration (duration : Option Nat) : Text :=
  match duration with
  | some duration => calls.texts.milliseconds duration ++ "ms"
  | none => "unknown"

def textInterface (inputs : CheckInputs) (report : TextReport) : Checked TextReport :=
  if interfaceIsUp inputs then
    return report.println ("  Interface: ok " ++ inputs.route.interface ++ " is up with carrier")
  else
    report.warn ("  Interface: warning " ++ inputs.route.interface ++ " state " ++ inputs.state ++ ", carrier " ++
      inputs.carrier.getD "unknown")

def textGateway (inputs : CheckInputs) (report : TextReport) : Checked TextReport :=
  if inputs.route.gateway = Ipv4Addr.unspecified then
    return report.println "  Gateway neighbor: not applicable (direct default route)"
  else
    match inputs.gatewayNeighbor with
    | some neighbor =>
      return report.println ("  Gateway neighbor: ok " ++ inputs.route.gateway.display ++ " lladdr " ++
        neighbor.linkAddress.getD "unknown" ++ " " ++ neighbor.state)
    | none =>
      report.warn ("  Gateway neighbor: warning " ++ inputs.route.gateway.display ++
        " is not in the resolved ARP cache")

def textDns (inputs : CheckInputs) (report : TextReport) : Checked TextReport :=
  if inputs.nameservers.isEmpty then report.warn ("  DNS: warning no nameserver configured in " ++ resolvConf)
  else return report.println ("  DNS: ok nameserver " ++ join ", " inputs.nameservers)

def textIcmp (inputs : CheckInputs) (report : TextReport) : Checked TextReport :=
  if inputs.route.gateway = Ipv4Addr.unspecified then return report
  else
    match calls.echo inputs.route.gateway with
    | .ok result =>
      if 0 < result.received then
        return report.println ("    Gateway ICMP " ++ inputs.route.gateway.display ++ ": " ++
          decimal result.received.toNat ++ "/" ++ decimal result.transmitted.toNat ++ " replies, " ++
          calls.texts.loss result ++ "% loss, RTT min/avg/max " ++ formatDuration calls result.minimum ++ "/" ++
          formatDuration calls result.average ++ "/" ++ formatDuration calls result.maximum)
      else
        report.warn ("    Gateway ICMP " ++ inputs.route.gateway.display ++ ": warning 0/" ++
          decimal result.transmitted.toNat ++ " replies")
    | .error e =>
      if isDenied e then
        return report.println ("    Gateway ICMP: skipped (" ++ calls.errorText e ++ ")")
      else report.warn ("    Gateway ICMP: warning " ++ calls.errorText e)

/-- One turn of the loop over the nameservers, each with its place. -/
def textNameserver (report : TextReport) (nameserver : Text × Nat) : Checked TextReport :=
  match IpAddr.parse nameserver.1 with
  | none => return report.println ("    DNS route " ++ nameserver.1 ++ ": skipped (not an IP address)")
  | some address =>
    match calls.routeTo nameserver.2 address with
    | .error e =>
      report.warn ("    DNS route " ++ address.display ++ ": warning " ++ calls.errorText e)
    | .ok dnsRoute =>
      let interface :=
        (dnsRoute.interfaceIndex.map (interfaceLabel (interfaceNames calls.system))).getD "unknown"
      let report := report.println ("    DNS route " ++ address.display ++ ": ok dev " ++ interface)
      let elapsed := calls.texts.tenths (calls.elapsed nameserver.2 address 53 2000)
      match calls.connect nameserver.2 address 53 2000 with
      | .ok () => return report.println ("    DNS TCP " ++ address.display ++ ": ok " ++ elapsed ++ "ms")
      | .error e =>
        if isConnectionRefused e then
          return report.println ("    DNS TCP " ++ address.display ++ ": host reached in " ++ elapsed ++
            "ms; connection refused")
        else report.warn ("    DNS TCP " ++ address.display ++ ": warning " ++ calls.errorText e)

def textActive (inputs : CheckInputs) (report : TextReport) : Checked TextReport := do
  let report := report.println "  Active checks:"
  let report ← textIcmp calls inputs report
  inputs.nameservers.zipIdx.foldlM (textNameserver calls) report

def textChecks (active : Bool) (inputs : CheckInputs) (report : TextReport) : Checked TextReport := do
  let report ← textInterface inputs report
  let report ← textGateway inputs report
  let report ← textDns inputs report
  if active then textActive calls inputs report else return report

/-- What `check` prints, and the verdict it returns. -/
def check (active : Bool) : Checked (Except IoError (List Text × Bool)) :=
  match checkInputs calls active with
  | .error e => return .error e
  | .ok inputs => do
    let start : TextReport :=
      { lines := ["Network check", "  Default route: ok via " ++ inputs.route.gateway.display ++ " dev " ++
          inputs.route.interface ++ " metric " ++ decimal inputs.route.metric.toNat]
        warnings := 0 }
    let report ← textChecks calls active inputs start
    let result : Text :=
      if report.warnings = 0 then "ok" else decimalInt report.warnings.toInt ++ " warning(s)"
    return .ok (report.lines ++ ["  Result: " ++ result], report.warnings = 0)

/-! ## The JSON check -/

/-- What `check_json` has pushed and counted. -/
structure JsonReport where
  checks : List Json.Value
  warnings : UInt32

def JsonReport.push (report : JsonReport) (record : Json.Value) : JsonReport :=
  { report with checks := report.checks ++ [record] }

/-- `warnings += 1; checks.push(..);`. -/
def JsonReport.warn (report : JsonReport) (record : Json.Value) : Checked JsonReport := do
  let warnings ← u32Add report.warnings 1
  return { checks := report.checks ++ [record], warnings := warnings }

def jsonCheckItem (name status detail : Text) : Json.Value :=
  .object [("name", .string name), ("status", .string status), ("detail", .string detail)]

def jsonDuration (duration : Option Nat) : Json.Value :=
  match duration with
  | some duration => .number (calls.texts.millisecondsNumber duration)
  | none => .null

def jsonInterface (inputs : CheckInputs) (report : JsonReport) : Checked JsonReport :=
  if interfaceIsUp inputs then
    return report.push (jsonCheckItem "interface" "ok" (inputs.route.interface ++ " is up with carrier"))
  else
    report.warn (jsonCheckItem "interface" "warning"
      (inputs.route.interface ++ " state " ++ inputs.state ++ ", carrier " ++ inputs.carrier.getD "unknown"))

def jsonGateway (inputs : CheckInputs) (report : JsonReport) : Checked JsonReport :=
  if inputs.route.gateway = Ipv4Addr.unspecified then
    return report.push (jsonCheckItem "gateway-neighbor" "not-applicable" "direct default route")
  else
    match inputs.gatewayNeighbor with
    | some neighbor =>
      return report.push (jsonCheckItem "gateway-neighbor" "ok"
        (inputs.route.gateway.display ++ " lladdr " ++ neighbor.linkAddress.getD "unknown" ++ " " ++ neighbor.state))
    | none =>
      report.warn (jsonCheckItem "gateway-neighbor" "warning"
        (inputs.route.gateway.display ++ " is not in the resolved ARP cache"))

def jsonDns (inputs : CheckInputs) (report : JsonReport) : Checked JsonReport :=
  if inputs.nameservers.isEmpty then
    report.warn (jsonCheckItem "dns" "warning" ("no nameserver configured in " ++ resolvConf))
  else return report.push (jsonCheckItem "dns" "ok" ("nameserver " ++ join ", " inputs.nameservers))

def jsonIcmp (inputs : CheckInputs) (report : JsonReport) : Checked JsonReport :=
  if inputs.route.gateway = Ipv4Addr.unspecified then return report
  else
    match calls.echo inputs.route.gateway with
    | .ok result =>
      if 0 < result.received then
        return report.push (.object [("name", .string "gateway-icmp"), ("status", .string "ok"),
          ("address", .string inputs.route.gateway.display), ("transmitted", Json.ofNat result.transmitted.toNat),
          ("received", Json.ofNat result.received.toNat), ("lossPercent", .number (calls.texts.lossPercent result)),
          ("minimumMilliseconds", jsonDuration calls result.minimum),
          ("averageMilliseconds", jsonDuration calls result.average),
          ("maximumMilliseconds", jsonDuration calls result.maximum)])
      else
        report.warn (.object [("name", .string "gateway-icmp"), ("status", .string "warning"),
          ("address", .string inputs.route.gateway.display), ("transmitted", Json.ofNat result.transmitted.toNat),
          ("received", Json.ofNat result.received.toNat), ("lossPercent", Json.ofNat 100)])
    | .error e =>
      if isDenied e then
        return report.push (jsonCheckItem "gateway-icmp" "skipped" (calls.errorText e))
      else report.warn (jsonCheckItem "gateway-icmp" "warning" (calls.errorText e))

/-- One turn of the loop over the nameservers, each with its place. -/
def jsonNameserver (interfaceNames : Keyed.Map Int32 Text) (report : JsonReport) (nameserver : Text × Nat) :
    Checked JsonReport :=
  match IpAddr.parse nameserver.1 with
  | none => return report.push (jsonCheckItem "dns-route" "skipped" (nameserver.1 ++ " is not an IP address"))
  | some address =>
    match calls.routeTo nameserver.2 address with
    | .error e =>
      report.warn (jsonCheckItem "dns-route" "warning" (address.display ++ ": " ++ calls.errorText e))
    | .ok route =>
      let interface := (route.interfaceIndex.map (interfaceLabel interfaceNames)).getD "unknown"
      let report := report.push (jsonCheckItem "dns-route" "ok" (address.display ++ " dev " ++ interface))
      let elapsed := calls.texts.tenths (calls.elapsed nameserver.2 address 53 2000)
      match calls.connect nameserver.2 address 53 2000 with
      | .ok () =>
        return report.push (jsonCheckItem "dns-tcp" "ok" (address.display ++ ":53 connected in " ++ elapsed ++ "ms"))
      | .error e =>
        if isConnectionRefused e then
          return report.push
            (jsonCheckItem "dns-tcp" "reached" (address.display ++ ":53 refused in " ++ elapsed ++ "ms"))
        else
          report.warn (jsonCheckItem "dns-tcp" "warning" (address.display ++ ":53 " ++ calls.errorText e))

def jsonActive (inputs : CheckInputs) (report : JsonReport) : Checked JsonReport := do
  let interfaceNames := interfaceNames calls.system
  let report ← jsonIcmp calls inputs report
  inputs.nameservers.zipIdx.foldlM (jsonNameserver calls interfaceNames) report

def jsonChecks (active : Bool) (inputs : CheckInputs) (report : JsonReport) : Checked JsonReport := do
  let report ← jsonInterface inputs report
  let report ← jsonGateway inputs report
  let report ← jsonDns inputs report
  if active then jsonActive calls inputs report else return report

def checkJson (active : Bool) : Checked (Except IoError (Json.Value × Bool)) :=
  match checkInputs calls active with
  | .error e => return .error e
  | .ok inputs => do
    let start : JsonReport :=
      { checks := [jsonCheckItem "default-route" "ok" ("via " ++ inputs.route.gateway.display ++ " dev " ++
          inputs.route.interface ++ " metric " ++ decimal inputs.route.metric.toNat)]
        warnings := 0 }
    let report ← jsonChecks calls active inputs start
    return .ok
      (.object [("active", .bool active), ("healthy", .bool (report.warnings = 0)),
        ("warnings", Json.ofNat report.warnings.toNat), ("checks", .array report.checks)], report.warnings = 0)

/-! ## A sample machine -/

/-- A machine whose default route leaves by `eth0`, which is up, to 10.0.0.1; no call that reaches a host succeeds. -/
def wiredMachine (resolver : Text) (neighbors : List Neighbor) : CheckCalls where
  system :=
    { readToString := fun path =>
        if path = procNetRoute then .ok routeTable
        else if path = resolvConf then .ok resolver
        else if path = "/sys/class/net/eth0/ifindex" then .ok "2\n"
        else if path = "/sys/class/net/wlan0/ifindex" then .ok "3\n"
        else if path = "/sys/class/net/eth0/operstate" then .ok "up\n"
        else if path = "/sys/class/net/eth0/carrier" then .ok "1\n"
        else .error (.os 2)
      exists_ := fun _ => false
      readDir := fun _ => .ok ["eth0", "wlan0"]
      bind := .ok ()
      ioctl := fun _ _ => none }
  ipv4Neighbors := .ok neighbors
  echo := fun _ => .error (.os 101)
  routeTo := fun _ _ => .error (.os 101)
  connect := fun _ _ _ _ => .error (.os 101)
  elapsed := fun _ _ _ _ => 0
  errorText := fun _ => "unreachable"
  texts :=
    { loss := fun _ => "0", lossPercent := fun _ => "0", milliseconds := fun _ => "0.00",
      millisecondsNumber := fun _ => "0", tenths := fun _ => "0.0" }

theorem wiredMachine_inputs (resolver : Text) (neighbors : List Neighbor) (active : Bool) :
    checkInputs (wiredMachine resolver neighbors) active = .ok
      { route := ⟨"eth0", Ipv4Addr.new 10 0 0 1, 100⟩
        state := "up"
        carrier := some "1"
        gatewayNeighbor := neighbors.find? (fun neighbor => neighbor.address = .v4 (Ipv4Addr.new 10 0 0 1))
        nameservers := parseNameservers resolver } := by
  exact checkInputs_eq_ok_iff.2
    ⟨routeTable, _, neighbors, rfl, parseDefaultIpv4Route_routeTable, fun _ => rfl, rfl, rfl⟩

end Networkrs
