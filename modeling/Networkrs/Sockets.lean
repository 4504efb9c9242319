import Networkrs.Json
import Networkrs.SockDiag
/-!
# Sockets — the socket tables of the command line

The sockets of procfs with the views that select them (`sockets.rs`), and the two commands that show them with their
diagnostics.  Both look a socket's diagnostic up by its protocol and endpoints, in a map that keeps the last record of
each; `own_diagnostics_shown_iff` says when the record that is shown is the socket's own.
-/
namespace Networkrs

open Machine Collect Keyed

structure NetworkSocket where
  protocol : Protocol
  «local» : SocketAddr
  remote : SocketAddr
  state : Text
  uid : UInt32
  inode : UInt64
  deriving DecidableEq, Repr

structure SocketProcess where
  pid : UInt32
  name : Text
  deriving DecidableEq, Repr

inductive View where
  | all
  | tcp
  | udp
  | listening
  | connected
  deriving DecidableEq, Repr

def View.fromName (name : Text) : Option View :=
  if name = "all" then some .all
  else if name = "tcp" then some .tcp
  else if name = "udp" then some .udp
  else if name = "listening" then some .listening
  else if name = "connected" then some .connected
  else none

def remoteIsUnspecified (socket : NetworkSocket) : Bool := socket.remote.ip.isUnspecified && socket.remote.port = 0

def View.matches (view : View) (socket : NetworkSocket) : Bool :=
  match view with
  | .all => true
  | .tcp => socket.protocol = .tcp
  | .udp => socket.protocol = .udp
  | .listening => socket.state = "listen" || (socket.protocol = .udp && remoteIsUnspecified socket)
  | .connected => !remoteIsUnspecified socket

/-- What the calls of the two commands return; `osError` is the system's text for an error number. -/
structure SocketCalls where
  ipSockets : IoResult (List NetworkSocket)
  userNames : Map UInt32 Text
  socketProcesses : List UInt64 → Map UInt64 (List SocketProcess)
  ipDiagnostics : IoResult (List SocketDiagnostic)
  interfaceNames : Map Int32 Text
  osError : Int32 → Text

/-! ## The join -/

/-- What a diagnostic is found by. -/
abbrev Endpoints := Protocol × SocketAddr × SocketAddr

def SocketDiagnostic.endpoints (diagnostic : SocketDiagnostic) : Endpoints :=
  (diagnostic.protocol, diagnostic.local, diagnostic.remote)

def NetworkSocket.endpoints (socket : NetworkSocket) : Endpoints := (socket.protocol, socket.local, socket.remote)

def diagnosticsMap (diagnostics : List SocketDiagnostic) : Map Endpoints SocketDiagnostic :=
  collect (diagnostics.map (fun diagnostic => (diagnostic.endpoints, diagnostic)))

/-- The diagnostics of a command, or none with the error of their dump. -/
def readDiagnostics (calls : SocketCalls) : IoResult (Map Endpoints SocketDiagnostic × Option IoError) :=
  match calls.ipDiagnostics with
  | .ok diagnostics => .ok (diagnosticsMap diagnostics, none)
  | .err error => .ok (Map.empty, some error)
  | .panicked p => .panicked p
  | .waiting => .waiting

/-- The inodes whose processes a command looks up. -/
def inodesOf (sockets : List NetworkSocket) : List UInt64 :=
  sockets.filterMap (fun socket => if socket.inode ≠ 0 then some socket.inode else none)

/-! ## `print_sockets` -/

def IoError.display (osError : Int32 → Text) : IoError → Text
  | .os code => osError code ++ " (os error " ++ decimalInt code.toInt ++ ")"
  | .custom _ message => message

def formatSocketEndpoint (endpoint : SocketAddr) : Text :=
  if endpoint.ip.isUnspecified then
    if endpoint.port = 0 then "*" else "*:" ++ decimal endpoint.port.toNat
  else endpoint.display

def formatMicroseconds (microseconds : UInt32) : Text :=
  if microseconds < 1000 then decimal microseconds.toNat ++ "us" else thousandths microseconds.toNat ++ "ms"

def socketLine (calls : SocketCalls) (processes : Map UInt64 (List SocketProcess)) (socket : NetworkSocket) : Text :=
  let owner : Text :=
    if socket.inode = 0 then "kernel"
    else
      match calls.userNames socket.uid with
      | some name => name ++ "(" ++ decimal socket.uid.toNat ++ ")"
      | none => decimal socket.uid.toNat
  let process : Text :=
    match processes socket.inode with
    | some processes =>
      " process " ++ join "," (processes.map (fun process => process.name ++ "(" ++ decimal process.pid.toNat ++ ")"))
    | none => []
  "  " ++ socket.protocol.name ++ " " ++ formatSocketEndpoint socket.local ++ " -> " ++
    formatSocketEndpoint socket.remote ++ " " ++ socket.state ++ " owner " ++ owner ++ process ++ " inode " ++
    decimal socket.inode.toNat

def tcpLine (tcp : TcpDiagnostic) (congestion : Option Text) : Text :=
  let congestion : Text :=
    match congestion with
    | some name => " congestion " ++ name
    | none => []
  "    TCP RTT " ++ formatMicroseconds tcp.rttUs ++ " variance " ++ formatMicroseconds tcp.rttVarianceUs ++ " RTO " ++
    formatMicroseconds tcp.rtoUs ++ " cwnd " ++ decimal tcp.sendCwnd.toNat ++ " ssthresh " ++
    decimal tcp.sendSsthresh.toNat ++ " unacked " ++ decimal tcp.unacked.toNat ++ " lost " ++ decimal tcp.lost.toNat ++
    " retransmitted " ++ decimal tcp.retransmitted.toNat ++ " total-retransmits " ++
    decimal tcp.totalRetransmits.toNat ++ " PMTU " ++ decimal tcp.pathMtu.toNat ++ " MSS " ++
    decimal tcp.sendMss.toNat ++ "/" ++ decimal tcp.receiveMss.toNat ++ congestion

def diagnosticLines (calls : SocketCalls) (diagnostic : SocketDiagnostic) : List Text :=
  let interface : Text :=
    if diagnostic.interfaceIndex ≠ 0 then
      " dev " ++ interfaceLabel calls.interfaceNames diagnostic.interfaceIndex.toInt32
    else []
  let timer : Text :=
    if diagnostic.timer = "off" then " timer off"
    else
      " timer " ++ diagnostic.timer ++ " expires " ++ decimal diagnostic.expiresMs.toNat ++ "ms retransmits " ++
        decimal diagnostic.retransmits.toNat
  ("    queues RX " ++ decimal diagnostic.receiveQueue.toNat ++ " B TX " ++ decimal diagnostic.sendQueue.toNat ++
      " B" ++ interface ++ timer) ::
    match diagnostic.tcp with
    | some tcp => [tcpLine tcp diagnostic.congestion]
    | none => []

/-- The lines of a socket shown with a diagnostic, or without one. -/
def socketLines (calls : SocketCalls) (processes : Map UInt64 (List SocketProcess)) (socket : NetworkSocket)
    (diagnostic : Option SocketDiagnostic) : List Text :=
  socketLine calls processes socket ::
    match diagnostic with
    | some diagnostic => diagnosticLines calls diagnostic
    | none => []

def unavailableLine (calls : SocketCalls) (error : IoError) : Text :=
  if error = .os 2 then "  Diagnostics unavailable: kernel CONFIG_INET_DIAG is disabled"
  else "  Diagnostics unavailable: " ++ error.display calls.osError

def headingLines (sockets : List NetworkSocket) (unavailable : List Text) : List Text :=
  let noneVisible : List Text := if sockets.isEmpty then ["  None visible"] else []
  ("Sockets" : Text) :: unavailable ++ noneVisible

/-- `print_sockets`, as the lines it prints. -/
def printSockets (calls : SocketCalls) (view : View) : IoResult (List Text) := do
  let sockets ← calls.ipSockets
  let sockets := sockets.filter view.matches
  let processes := calls.socketProcesses (inodesOf sockets)
  let (diagnostics, diagnosticError) ← readDiagnostics calls
  return headingLines sockets (diagnosticError.toList.map (unavailableLine calls)) ++
    sockets.flatMap (fun socket => socketLines calls processes socket (diagnostics socket.endpoints))

/-! ## `sockets_json` -/

def jsonIpFamily : IpAddr → Text
  | .v4 _ => "ipv4"
  | .v6 _ => "ipv6"

def jsonTcpDiagnostic (tcp : TcpDiagnostic) : Json.Value :=
  .object
    [("rtoMicroseconds", Json.ofNat tcp.rtoUs.toNat), ("rttMicroseconds", Json.ofNat tcp.rttUs.toNat),
      ("rttVarianceMicroseconds", Json.ofNat tcp.rttVarianceUs.toNat), ("sendMss", Json.ofNat tcp.sendMss.toNat),
      ("receiveMss", Json.ofNat tcp.receiveMss.toNat), ("unacked", Json.ofNat tcp.unacked.toNat),
      ("lost", Json.ofNat tcp.lost.toNat), ("retransmitted", Json.ofNat tcp.retransmitted.toNat),
      ("totalRetransmits", Json.ofNat tcp.totalRetransmits.toNat),
      ("sendSlowStartThreshold", Json.ofNat tcp.sendSsthresh.toNat),
      ("sendCongestionWindow", Json.ofNat tcp.sendCwnd.toNat), ("pathMtu", Json.ofNat tcp.pathMtu.toNat)]

def processJson (process : SocketProcess) : Json.Value :=
  .object [("pid", Json.ofNat process.pid.toNat), ("name", .string process.name)]

/-- The object of a socket shown with a diagnostic, or without one. -/
def socketJson (calls : SocketCalls) (processes : Map UInt64 (List SocketProcess)) (socket : NetworkSocket)
    (diagnostic : Option SocketDiagnostic) : Json.Value :=
  let tcp := diagnostic.bind SocketDiagnostic.tcp
  let interfaceIndex := (diagnostic.map SocketDiagnostic.interfaceIndex).filter (fun index => index ≠ 0)
  .object
    [("family", .string (jsonIpFamily socket.local.ip)), ("protocol", .string (socket.protocol.name.map Char.toLower)),
      ("local", .string (formatSocketEndpoint socket.local)), ("remote", .string (formatSocketEndpoint socket.remote)),
      ("state", .string socket.state), ("uid", Json.ofNat socket.uid.toNat),
      ("user", Json.optionalString (calls.userNames socket.uid)), ("inode", Json.ofNat socket.inode.toNat),
      ("processes", .array (((processes socket.inode).getD []).map processJson)),
      ("receiveQueueBytes", Json.optionalNumber (diagnostic.map (fun d => d.receiveQueue.toNat))),
      ("sendQueueBytes", Json.optionalNumber (diagnostic.map (fun d => d.sendQueue.toNat))),
      ("interfaceIndex", Json.optionalNumber (interfaceIndex.map UInt32.toNat)),
      ("timer", Json.optionalString (diagnostic.map SocketDiagnostic.timer)),
      ("timerExpiresMilliseconds", Json.optionalNumber (diagnostic.map (fun d => d.expiresMs.toNat))),
      ("retransmits", Json.optionalNumber (diagnostic.map (fun d => d.retransmits.toNat))),
      ("congestion", Json.optionalString (diagnostic.bind SocketDiagnostic.congestion)),
      ("tcp", (tcp.map jsonTcpDiagnostic).getD .null)]

def socketsJson (calls : SocketCalls) (view : View) : IoResult Json.Value := do
  let sockets ← calls.ipSockets
  let sockets := sockets.filter view.matches
  let processes := calls.socketProcesses (inodesOf sockets)
  let (diagnostics, diagnosticError) ← readDiagnostics calls
  let values := sockets.map (fun socket => socketJson calls processes socket (diagnostics socket.endpoints))
  return .object
    [("diagnosticsAvailable", .bool diagnosticError.isNone),
      ("diagnosticError", Json.optionalString (diagnosticError.map (IoError.display calls.osError))),
      ("sockets", .array values)]

/-! ## Which record is shown -/

/-- The rows both commands show: the sockets of the view, each with the diagnostic found for it. -/
def shownRows (view : View) (sockets : List NetworkSocket) (diagnostics : List SocketDiagnostic) :
    List (NetworkSocket × Option SocketDiagnostic) :=
  (sockets.filter view.matches).map (fun socket => (socket, diagnosticsMap diagnostics socket.endpoints))

/-- A socket shown with the diagnostic that describes it: no record of another inode, and its own where there is one. -/
def ShowsOwn (diagnostics : List SocketDiagnostic) (row : NetworkSocket × Option SocketDiagnostic) : Prop :=
  (∀ d, row.2 = some d → row.1.inode ≠ 0 → d.inode ≠ 0 → row.1.inode = d.inode) ∧
    ∀ d ∈ diagnostics, d.endpoints = row.1.endpoints → d.inode = row.1.inode → row.2 = some d

/-- The last record with the endpoints of a socket has its inode, unless one of the two inodes is zero, and there is no
other record of that inode before it. -/
def LastIsOwn (diagnostics : List SocketDiagnostic) (socket : NetworkSocket) : Prop :=
  ∀ pre last post, diagnostics = pre ++ last :: post → last.endpoints = socket.endpoints →
    (∀ d ∈ post, d.endpoints ≠ socket.endpoints) →
    (socket.inode = 0 ∨ last.inode = 0 ∨ socket.inode = last.inode) ∧
      ∀ d ∈ pre, d.endpoints = socket.endpoints → d.inode = socket.inode → d = last

theorem diagnosticsMap_eq_some_iff (diagnostics : List SocketDiagnostic) (endpoints : Endpoints)
    (last : SocketDiagnostic) :
    diagnosticsMap diagnostics endpoints = some last ↔
      ∃ pre post, diagnostics = pre ++ last :: post ∧ last.endpoints = endpoints ∧
        ∀ d ∈ post, d.endpoints ≠ endpoints := by
  unfold diagnosticsMap
  rw [collect_map SocketDiagnostic.endpoints (fun d => d), Option.map_id', getLast?_filter_eq_some_iff]
  simp only [decide_eq_true_eq, decide_eq_false_iff_not]

/-- A record found for a socket has its endpoints, and every record with them has one found for it. -/
theorem exists_of_mem_diagnostics {diagnostics : List SocketDiagnostic} {d : SocketDiagnostic} (h : d ∈ diagnostics) :
    ∃ last, diagnosticsMap diagnostics d.endpoints = some last := by
  unfold diagnosticsMap
  rw [collect_map SocketDiagnostic.endpoints (fun d => d), Option.map_id']
  refine Option.ne_none_iff_exists'.1 (fun hnone => ?_)
  rw [List.getLast?_eq_none_iff, List.filter_eq_nil_iff] at hnone
  exact hnone d h (decide_eq_true rfl)

/-- **A socket is shown with its own diagnostic exactly when the last record with its endpoints is its own.** -/
theorem showsOwn_iff (diagnostics : List SocketDiagnostic) (socket : NetworkSocket) :
    ShowsOwn diagnostics (socket, diagnosticsMap diagnostics socket.endpoints) ↔ LastIsOwn diagnostics socket := by
  constructor
  · rintro ⟨hinode, hown⟩ pre last post rfl hlast hpost
    have hshown := (diagnosticsMap_eq_some_iff _ socket.endpoints last).2 ⟨pre, post, rfl, hlast, hpost⟩
    refine ⟨?_, fun d hd hendpoints hinode' => ?_⟩
    · by_cases h0 : socket.inode = 0
      · exact .inl h0
      · by_cases h0' : last.inode = 0
        · exact .inr (.inl h0')
        · exact .inr (.inr (hinode last hshown h0 h0'))
    · have hd' := hown d (List.mem_append_left _ hd) hendpoints hinode'
      dsimp only at hd'
      rw [hshown] at hd'
      exact (Option.some.inj hd').symm
  · intro h
    refine ⟨fun d hshown h0 h0' => ?_, fun d hd hendpoints hinode => ?_⟩
    · obtain ⟨pre, post, heq, hlast, hpost⟩ := (diagnosticsMap_eq_some_iff _ _ _).1 hshown
      obtain ⟨hzero | hzero | hsame, -⟩ := h pre d post heq hlast hpost
      · exact absurd hzero h0
      · exact absurd hzero h0'
      · exact hsame
    · obtain ⟨last, hlast⟩ := exists_of_mem_diagnostics hd
      rw [hendpoints] at hlast
      obtain ⟨pre, post, rfl, hendpoints', hpost⟩ := (diagnosticsMap_eq_some_iff _ _ _).1 hlast
      obtain ⟨-, hpre⟩ := h pre last post rfl hendpoints' hpost
      dsimp only
      rw [hlast]
      rcases List.mem_append.1 hd with hd | hd
      · rw [hpre d hd hendpoints hinode]
      · rcases List.mem_cons.1 hd with rfl | hd
        · rfl
        · exact absurd hendpoints (hpost d hd)

/-- **When diagnostics are attached to the sockets they describe**, in both commands: exactly when the last record with
the endpoints of each socket shown is its own. -/
theorem own_diagnostics_shown_iff (calls : SocketCalls) (view : View) (sockets : List NetworkSocket)
    (diagnostics : List SocketDiagnostic) :
    printSockets { calls with ipSockets := .ok sockets, ipDiagnostics := .ok diagnostics } view =
        .ok (headingLines (sockets.filter view.matches) [] ++
          (shownRows view sockets diagnostics).flatMap (fun row =>
            socketLines calls (calls.socketProcesses (inodesOf (sockets.filter view.matches))) row.1 row.2)) ∧
      socketsJson { calls with ipSockets := .ok sockets, ipDiagnostics := .ok diagnostics } view =
        .ok (.object [("diagnosticsAvailable", .bool true), ("diagnosticError", .null),
          ("sockets", .array ((shownRows view sockets diagnostics).map (fun row =>
            socketJson calls (calls.socketProcesses (inodesOf (sockets.filter view.matches))) row.1 row.2)))]) ∧
      ((∀ row ∈ shownRows view sockets diagnostics, ShowsOwn diagnostics row) ↔
        ∀ socket ∈ sockets.filter view.matches, LastIsOwn diagnostics socket) := by
  refine ⟨?_, ?_, ?_, ?_⟩
  · unfold shownRows
    rw [List.flatMap_map]
    rfl
  · unfold shownRows
    rw [List.map_map]
    rfl
  · intro h socket hsocket
    exact (showsOwn_iff diagnostics socket).1 (h _ (List.mem_map.2 ⟨socket, hsocket, rfl⟩))
  · intro h row hrow
    obtain ⟨socket, hsocket, rfl⟩ := List.mem_map.1 hrow
    exact (showsOwn_iff diagnostics socket).2 (h socket hsocket)

def mdnsEndpoint : SocketAddr := .v4 Ipv4Addr.unspecified 5353

def anyEndpoint : SocketAddr := .v4 Ipv4Addr.unspecified 0

def mdnsSocket (inode : UInt64) : NetworkSocket := ⟨.udp, mdnsEndpoint, anyEndpoint, "unconnected", 0, inode⟩

def mdnsDiagnostic (inode : UInt64) (receiveQueue : UInt32) : SocketDiagnostic :=
  ⟨.udp, mdnsEndpoint, anyEndpoint, "unconnected", 0, inode, 0, "off", 0, 0, receiveQueue, 0, none, none⟩

def mdnsCalls : SocketCalls where
  ipSockets := .ok [mdnsSocket 100, mdnsSocket 200]
  userNames := Map.empty
  socketProcesses := fun _ => Map.empty
  ipDiagnostics := .ok [mdnsDiagnostic 100 7, mdnsDiagnostic 200 0]
  interfaceNames := Map.empty
  osError := fun _ => []

/-- Of two sockets on one port, the first is shown with the queues of the second. -/
theorem shared_port_shows_other_socket :
    (mdnsSocket 100, some (mdnsDiagnostic 200 0)) ∈
        shownRows .all [mdnsSocket 100, mdnsSocket 200] [mdnsDiagnostic 100 7, mdnsDiagnostic 200 0] ∧
      ¬ ShowsOwn [mdnsDiagnostic 100 7, mdnsDiagnostic 200 0] (mdnsSocket 100, some (mdnsDiagnostic 200 0)) ∧
      printSockets mdnsCalls .all = .ok
        ["Sockets", "  UDP *:5353 -> * unconnected owner 0 inode 100", "    queues RX 0 B TX 0 B timer off",
          "  UDP *:5353 -> * unconnected owner 0 inode 200", "    queues RX 0 B TX 0 B timer off"] := by
  refine ⟨by decide +kernel, fun h => ?_, by decide +kernel⟩
  have hinode := h.1 (mdnsDiagnostic 200 0) rfl (by decide) (by decide)
  revert hinode
  decide

end Networkrs
