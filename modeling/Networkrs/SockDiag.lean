import Networkrs.DumpEnding
/-!
# SockDiag — socket diagnostics

`sock_diag.rs`: the record of one TCP or UDP socket with its parser, and the receiver of a diagnostic dump.  The
receiver collects the items of its datagrams (`sockDiagDump_eq_run`) and ends well at any `NLMSG_DONE` with its
sequence number (`diagnosticEnding`): unlike the route-netlink dumps it looks neither at the error code nor at the
interruption mark of that message.
-/
namespace Networkrs

open Machine Framing Collect

inductive Protocol where
  | tcp
  | udp
  deriving DecidableEq, Repr

def Protocol.name : Protocol → Text
  | .tcp => "TCP"
  | .udp => "UDP"

def sockDiagByFamily : UInt16 := 20
def inetDiagInfo : UInt16 := 2
def inetDiagCong : UInt16 := 4

structure TcpDiagnostic where
  rtoUs : UInt32
  sendMss : UInt32
  receiveMss : UInt32
  unacked : UInt32
  lost : UInt32
  retransmitted : UInt32
  rttUs : UInt32
  rttVarianceUs : UInt32
  sendSsthresh : UInt32
  sendCwnd : UInt32
  pathMtu : UInt32
  totalRetransmits : UInt32
  deriving DecidableEq, Repr

structure SocketDiagnostic where
  protocol : Protocol
  «local» : SocketAddr
  remote : SocketAddr
  state : Text
  uid : UInt32
  inode : UInt64
  interfaceIndex : UInt32
  timer : Text
  expiresMs : UInt32
  retransmits : UInt8
  receiveQueue : UInt32
  sendQueue : UInt32
  congestion : Option Text
  tcp : Option TcpDiagnostic
  deriving DecidableEq, Repr

/-- `[u32; 4]`. -/
structure Words where
  w0 : UInt32
  w1 : UInt32
  w2 : UInt32
  w3 : UInt32
  deriving DecidableEq, Repr

structure SocketId where
  sourcePort : UInt16
  destinationPort : UInt16
  source : Words
  destination : Words
  interfaceIndex : UInt32
  deriving DecidableEq, Repr

structure DiagnosticMessage where
  family : UInt8
  state : UInt8
  timer : UInt8
  retransmits : UInt8
  id : SocketId
  expiresMs : UInt32
  receiveQueue : UInt32
  sendQueue : UInt32
  uid : UInt32
  inode : UInt32
  deriving DecidableEq, Repr

def DiagnosticMessage.size : Nat := 72

variable (host : Host)

def Words.read (bytes : Bytes) (offset : Nat) : Words where
  w0 := host.byteOrder.u32At bytes offset
  w1 := host.byteOrder.u32At bytes (offset + 4)
  w2 := host.byteOrder.u32At bytes (offset + 8)
  w3 := host.byteOrder.u32At bytes (offset + 12)

def DiagnosticMessage.read (bytes : Bytes) : Option DiagnosticMessage :=
  if bytes.length < DiagnosticMessage.size then none
  else some
    { family := u8At bytes 0
      state := u8At bytes 1
      timer := u8At bytes 2
      retransmits := u8At bytes 3
      id :=
        { sourcePort := host.byteOrder.u16At bytes 4
          destinationPort := host.byteOrder.u16At bytes 6
          source := Words.read host bytes 8
          destination := Words.read host bytes 24
          interfaceIndex := host.byteOrder.u32At bytes 40 }
      expiresMs := host.byteOrder.u32At bytes 52
      receiveQueue := host.byteOrder.u32At bytes 56
      sendQueue := host.byteOrder.u32At bytes 60
      uid := host.byteOrder.u32At bytes 64
      inode := host.byteOrder.u32At bytes 68 }

/-! ## Parsers -/

/-- `native_u32(value, offset)`. -/
def nativeU32At (value : Bytes) (offset : Nat) : Option UInt32 :=
  if offset + 4 ≤ value.length then some (host.byteOrder.u32At value offset) else none

def parseTcpInfo (value : Bytes) : Option TcpDiagnostic := do
  let rtoUs ← nativeU32At host value 8
  let sendMss ← nativeU32At host value 16
  let receiveMss ← nativeU32At host value 20
  let unacked ← nativeU32At host value 24
  let lost ← nativeU32At host value 32
  let retransmitted ← nativeU32At host value 36
  let pathMtu ← nativeU32At host value 60
  let rttUs ← nativeU32At host value 68
  let rttVarianceUs ← nativeU32At host value 72
  let sendSsthresh ← nativeU32At host value 76
  let sendCwnd ← nativeU32At host value 80
  let totalRetransmits ← nativeU32At host value 100
  return { rtoUs, sendMss, receiveMss, unacked, lost, retransmitted, rttUs, rttVarianceUs, sendSsthresh, sendCwnd,
           pathMtu, totalRetransmits }

/-- `u16::from_be`. -/
def fromBe (port : UInt16) : UInt16 := UInt16.ofNat (ByteOrder.big.read (host.byteOrder.u16Bytes port))

/-- The octets `to_ne_bytes` gives for four words. -/
def Words.octets (address : Words) : Bytes :=
  host.byteOrder.u32Bytes address.w0 ++ host.byteOrder.u32Bytes address.w1 ++ host.byteOrder.u32Bytes address.w2 ++
    host.byteOrder.u32Bytes address.w3

theorem Words.length_octets (address : Words) : (address.octets host).length = 16 := by simp [Words.octets]

def endpoint (family : UInt8) (address : Words) (port : UInt16) : Option SocketAddr :=
  if family = afInet then
    some (.v4 ⟨UInt32.ofNat (ByteOrder.big.read (host.byteOrder.u32Bytes address.w0))⟩ (fromBe host port))
  else if family = afInet6 then
    some (.v6 ⟨address.octets host, address.length_octets host⟩ (fromBe host port) 0 0)
  else none

/-- A code named in a table, or `unknown`. -/
def nameOrUnknown (table : List (UInt8 × Text)) (value : UInt8) : Text := (table.lookup value).getD "unknown"

def socketState (protocol : Protocol) (state : UInt8) : Text :=
  match protocol with
  | .tcp => nameOrUnknown
      [(0x01, "established"), (0x02, "syn-sent"), (0x03, "syn-received"), (0x04, "fin-wait-1"), (0x05, "fin-wait-2"),
        (0x06, "time-wait"), (0x07, "closed"), (0x08, "close-wait"), (0x09, "last-ack"), (0x0a, "listen"),
        (0x0b, "closing"), (0x0c, "new-syn-received")] state
  | .udp => nameOrUnknown [(0x01, "connected"), (0x07, "unconnected")] state

def timerName : UInt8 → Text :=
  nameOrUnknown [(0, "off"), (1, "retransmit"), (2, "keepalive"), (3, "time-wait"), (4, "zero-window-probe"),
    (5, "delayed-ack")]

/-- The record a complete struct and its attributes describe. -/
def diagnosticOf (protocol : Protocol) (diagnostic : DiagnosticMessage) (attributes : List (UInt16 × Bytes)) :
    Option SocketDiagnostic := do
  let «local» ← endpoint host diagnostic.family diagnostic.id.source diagnostic.id.sourcePort
  let remote ← endpoint host diagnostic.family diagnostic.id.destination diagnostic.id.destinationPort
  return {
    protocol := protocol
    «local» := «local»
    remote := remote
    state := socketState protocol diagnostic.state
    uid := diagnostic.uid
    inode := diagnostic.inode.toUInt64
    interfaceIndex := diagnostic.id.interfaceIndex
    timer := timerName diagnostic.timer
    expiresMs := diagnostic.expiresMs
    retransmits := diagnostic.retransmits
    receiveQueue := diagnostic.receiveQueue
    sendQueue := diagnostic.sendQueue
    congestion := findString attributes inetDiagCong
    tcp := (findValue attributes inetDiagInfo (parseTcpInfo host)).filter (fun _ => protocol = .tcp) }

def parseDiagnostic (protocol : Protocol) (message : Bytes) : Checked (Option SocketDiagnostic) := do
  match (getFrom message MessageHeader.size).bind (DiagnosticMessage.read host) with
  | none => return none
  | some diagnostic =>
    if diagnostic.family ≠ afInet ∧ diagnostic.family ≠ afInet6 then return none
    else
      match ← attributes host message DiagnosticMessage.size with
      | none => return none
      | some attributes => return diagnosticOf host protocol diagnostic attributes

def isOwnDiagnostic : Bytes → Bool := isOwn (DiagnosticMessage.read host) DiagnosticMessage.family

def diagnosticOffset : Nat := alignTo4 (MessageHeader.size + DiagnosticMessage.size)

theorem endpoint_isSome {family : UInt8} (h : ¬ (family ≠ afInet ∧ family ≠ afInet6)) (address : Words)
    (port : UInt16) : ∃ socketAddr, endpoint host family address port = some socketAddr := by
  unfold endpoint
  by_cases h4 : family = afInet
  · exact ⟨_, if_pos h4⟩
  · have h6 : family = afInet6 := by
      by_contra h6
      exact h ⟨h4, h6⟩
    rw [if_neg h4, if_pos h6]
    exact ⟨_, rfl⟩

theorem diagnosticOf_isSome (protocol : Protocol) {diagnostic : DiagnosticMessage}
    (h : ¬ (diagnostic.family ≠ afInet ∧ diagnostic.family ≠ afInet6)) (attributes : List (UInt16 × Bytes)) :
    ∃ record, diagnosticOf host protocol diagnostic attributes = some record := by
  obtain ⟨source, hsource⟩ := endpoint_isSome host h diagnostic.id.source diagnostic.id.sourcePort
  obtain ⟨remote, hremote⟩ := endpoint_isSome host h diagnostic.id.destination diagnostic.id.destinationPort
  unfold diagnosticOf
  rw [hsource, hremote]
  exact ⟨_, rfl⟩

theorem parseDiagnostic_parses (protocol : Protocol) :
    ParsesStruct host (DiagnosticMessage.read host) DiagnosticMessage.family DiagnosticMessage.size
      (fun diagnostic attributes => .ok (diagnosticOf host protocol diagnostic attributes))
      (parseDiagnostic host protocol) := by
  intro message
  unfold parseDiagnostic
  cases (getFrom message MessageHeader.size).bind (DiagnosticMessage.read host) with
  | none => rfl
  | some diagnostic =>
    dsimp only
    split
    · rfl
    · rw [attributes_eq]
      cases attributesIn host (message.drop (alignTo4 (MessageHeader.size + DiagnosticMessage.size))) <;> rfl

theorem parseDiagnostic_reads (protocol : Protocol) :
    ReadsRecords host (parseDiagnostic host protocol) (isOwnDiagnostic host) diagnosticOffset := by
  refine (parseDiagnostic_parses host protocol).readsRecords host (fun diagnostic attributes hfamily => ?_)
  obtain ⟨record, hrecord⟩ := diagnosticOf_isSome host protocol hfamily attributes
  exact ⟨record, congrArg Except.ok hrecord⟩

/-! ## `receive_dump` -/

def diagnosticFault : Fault → IoError
  | .truncatedHeader => .custom .invalidData "truncated socket diagnostic header"
  | .invalidLength => .custom .invalidData "invalid socket diagnostic message length"

def diagnosticOverrun : IoError := .custom .other "socket diagnostic dump overran"

def diagnosticStep (protocol : Protocol) (sequence : UInt32) (diagnostics : List SocketDiagnostic)
    (header : MessageHeader) (message : Bytes) :
    Checked (Flow (List SocketDiagnostic) (Except IoError (List SocketDiagnostic))) :=
  if header.sequence = sequence then
    if header.messageType = nlmsgDone then return .stop (.ok diagnostics)
    else if header.messageType = nlmsgError then do
      match ← parseError host "truncated netlink error" message with
      | .error e => return .stop (.error e)
      | .ok () => return .next diagnostics
    else if header.messageType = nlmsgOverrun then return .stop (.error diagnosticOverrun)
    else if header.messageType = sockDiagByFamily then do
      match ← parseDiagnostic host protocol message with
      | some diagnostic => return .next (diagnostics ++ [diagnostic])
      | none => return .next diagnostics
    else return .next diagnostics
  else return .next diagnostics

def SockDiag.receiveDump (protocol : Protocol) (sequence : UInt32) (socket : Socket) :
    IoResult (List SocketDiagnostic) × Socket :=
  receiveLoop bufferSize "socket diagnostic netlink socket closed"
    (fun diagnostics received => ofScan
      (walk (messageFormat host) (diagnosticStep host protocol sequence)
        (fun _ f => .error (diagnosticFault f)) received 0 diagnostics))
    [] socket

/-! ## How a diagnostic dump ends -/

/-- **How an item ends a diagnostic dump.** -/
def diagnosticEnding (protocol : Protocol) (sequence : UInt32) : MessageItem → Option (Ending IoError)
  | .fault f => some (.failed (diagnosticFault f))
  | .record header message =>
    if header.sequence ≠ sequence then none
    else if header.messageType = nlmsgDone then some .complete
    else if header.messageType = nlmsgError then
      match readI32 host message MessageHeader.size with
      | some error => if error ≠ 0 then some (errorEnding error) else none
      | none => some (.failed (.custom .invalidData "truncated netlink error"))
    else if header.messageType = nlmsgOverrun then some (.failed diagnosticOverrun)
    else if header.messageType = sockDiagByFamily then
      match parseDiagnostic host protocol message with
      | .ok _ => none
      | .error p => some (.panicked p)
    else none

abbrev diagnosticValues (protocol : Protocol) (sequence : UInt32) : MessageItem → List SocketDiagnostic :=
  dumpValues sequence sockDiagByFamily (parseDiagnostic host protocol)

theorem diagnosticStep_eq (protocol : Protocol) (sequence : UInt32) (diagnostics : List SocketDiagnostic)
    (i : MessageItem) :
    itemStep (diagnosticStep host protocol sequence) (fun _ f => .error (diagnosticFault f)) diagnostics i =
      judgeStep (verdictOf (diagnosticEnding host protocol sequence) (diagnosticValues host protocol sequence))
        diagnostics i := by
  cases i with
  | fault f => rfl
  | record header message =>
    unfold itemStep diagnosticStep judgeStep verdictOf diagnosticEnding diagnosticValues dumpValues
    by_cases hseq : header.sequence = sequence
    · simp only [hseq, if_true, ne_eq, not_true_eq_false, if_false, true_and]
      by_cases hdone : header.messageType = nlmsgDone
      · simp [hdone, pure, Except.pure]
      · simp only [hdone, if_false]
        by_cases herror : header.messageType = nlmsgError
        · simp only [herror, if_true, parseError]
          cases readI32 host message MessageHeader.size with
          | none => rfl
          | some error =>
            by_cases h0 : error = 0
            · simp [h0, isControl, bind, Except.bind, pure, Except.pure]
            · simp only [h0, if_false, not_false_eq_true, if_true, rawOsError, errorEnding]
              cases i32Neg error <;> rfl
        · simp only [herror, if_false]
          by_cases hoverrun : header.messageType = nlmsgOverrun
          · simp only [hoverrun, if_true]
            rfl
          · simp only [hoverrun, if_false]
            by_cases htype : header.messageType = sockDiagByFamily
            · have hcontrol : isControl sockDiagByFamily = false := by decide
              simp only [htype, if_true, hcontrol, and_self, parsedValues]
              cases parseDiagnostic host protocol message with
              | error p => rfl
              | ok value => cases value <;> simp [bind, Except.bind, pure, Except.pure]
            · simp [htype, pure, Except.pure]
    · simp [hseq, pure, Except.pure]

/-- **A diagnostic dump collects the items of its datagrams.** -/
theorem sockDiagDump_eq_run (protocol : Protocol) (sequence : UInt32) (socket : Socket) :
    (SockDiag.receiveDump host protocol sequence socket).1 =
      run (judgeStream (verdictOf (diagnosticEnding host protocol sequence) (diagnosticValues host protocol sequence)))
        (received host "socket diagnostic netlink socket closed" socket) := by
  have hscan : ∀ values bytes,
      walk (messageFormat host) (diagnosticStep host protocol sequence) (fun _ f => .error (diagnosticFault f)) bytes 0
          values =
        scan (judgeStep (verdictOf (diagnosticEnding host protocol sequence)
          (diagnosticValues host protocol sequence))) (items (messageFormat host) bytes) values := by
    intro values bytes
    rw [walk_eq_scan, List.drop_zero]
    exact scan_congr (fun values i _ => diagnosticStep_eq host protocol sequence values i) values
  unfold SockDiag.receiveDump received
  rw [receiveLoop_eq_follow]
  simp only [hscan]
  rw [follow_eq_run, Outcome.map_nil_append]

end Networkrs
