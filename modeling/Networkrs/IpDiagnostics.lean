import Networkrs.AttributeOrder
import Networkrs.IpSockets
import Networkrs.KernelRecords
/-!
# IpDiagnostics — the diagnostics of all sockets

`ip_diagnostics` of `sock_diag.rs`: a dump for each protocol of each family, on a socket of its own, and the records of
all in one order.  The kernel describes each socket by an `inet_diag_msg` with attributes behind it
(`KernelDiagnostic.Describes`), its `tcp_info` among them, which `parse_diagnostic` reads back on a host of either byte
order (`parseDiagnostic_describes`); so whatever datagrams the kernel packs its answers into, the sockets it described
are what `ip_diagnostics` returns (`ip_diagnostics_exact`).
-/
namespace Networkrs

open Machine Framing Collect

def tcpNumber : UInt8 := 6
def udpNumber : UInt8 := 17

variable (host : Host)

/-! ## The dumps -/

/-- `(1 << (INET_DIAG_INFO - 1)) | (1 << (INET_DIAG_CONG - 1))`, for TCP. -/
def diagnosticExtensions : Protocol → UInt8
  | .tcp => (1 <<< (UInt8.ofNat inetDiagInfo.toNat - 1)) ||| (1 <<< (UInt8.ofNat inetDiagCong.toNat - 1))
  | .udp => 0

/-- A request for the sockets of a family and a protocol, in every state: its socket id is zero but for the cookie. -/
def diagnosticRequest (family : UInt8) (protocol : Protocol) (protocolNumber : UInt8) (sequence : UInt32) : Bytes :=
  let header : MessageHeader :=
    { length := 72
      messageType := sockDiagByFamily
      flags := nlmFRequest ||| nlmFDump
      sequence := sequence
      portId := 0 }
  header.bytes host ++ ([family, protocolNumber, diagnosticExtensions protocol, 0] ++
    (host.byteOrder.u32Bytes 0xffffffff ++ (List.replicate 40 0 ++
      (host.byteOrder.u32Bytes 0xffffffff ++ host.byteOrder.u32Bytes 0xffffffff))))

def sendDiagnosticRequest (sent : Sent) (request : Bytes) : IoResult Unit :=
  match sent with
  | .failed errno => .err (.os errno)
  | .bytes n =>
    if n ≠ request.length then .err (.custom .writeZero "incomplete socket diagnostic request") else .ok ()

def diagnosticDump (calls : DumpCalls) (family : UInt8) (protocol : Protocol) (protocolNumber : UInt8)
    (sequence : UInt32) : IoResult (List SocketDiagnostic) := do
  openRouteSocket calls
  sendDiagnosticRequest calls.sent (diagnosticRequest host family protocol protocolNumber sequence)
  (SockDiag.receiveDump host protocol sequence calls.replies).1

def diagnosticKey (diagnostic : SocketDiagnostic) : ℕ ×ₗ ℕ ×ₗ ℕ ×ₗ ℕ :=
  endpointsKey diagnostic.protocol diagnostic.local diagnostic.remote

/-- `sort_diagnostics`. -/
def sortDiagnostics (diagnostics : List SocketDiagnostic) : List SocketDiagnostic := sortByKey diagnosticKey diagnostics

/-- What the calls of the four dumps return. -/
structure DiagnosticCalls where
  tcp : DumpCalls
  udp : DumpCalls
  tcp6 : DumpCalls
  udp6 : DumpCalls

section
variable (calls : DiagnosticCalls)

def ipv4Diagnostics : IoResult (List SocketDiagnostic) := do
  let tcp ← diagnosticDump host calls.tcp afInet .tcp tcpNumber 1
  let udp ← diagnosticDump host calls.udp afInet .udp udpNumber 2
  return sortDiagnostics (tcp ++ udp)

def ipv6Diagnostics : IoResult (List SocketDiagnostic) := do
  let tcp ← diagnosticDump host calls.tcp6 afInet6 .tcp tcpNumber 3
  let udp ← diagnosticDump host calls.udp6 afInet6 .udp udpNumber 4
  return sortDiagnostics (tcp ++ udp)

/-- `ip_diagnostics`: `EPROTONOSUPPORT` and `EAFNOSUPPORT` come from a kernel built without IPv6. -/
def ipDiagnostics : IoResult (List SocketDiagnostic) :=
  dualStack diagnosticKey (ipv4Diagnostics host calls) (ipv6Diagnostics host calls)

end

/-! ## The kernel's side -/

/-- `struct tcp_info`, as far as its total of retransmissions; newer kernels append more. -/
structure KernelTcpInfo where
  state : UInt8
  caState : UInt8
  retransmits : UInt8
  probes : UInt8
  backoff : UInt8
  options : UInt8
  windowScales : UInt8
  rateFlags : UInt8
  rto : UInt32
  ato : UInt32
  sndMss : UInt32
  rcvMss : UInt32
  unacked : UInt32
  sacked : UInt32
  lost : UInt32
  retrans : UInt32
  fackets : UInt32
  lastDataSent : UInt32
  lastAckSent : UInt32
  lastDataRecv : UInt32
  lastAckRecv : UInt32
  pmtu : UInt32
  rcvSsthresh : UInt32
  rtt : UInt32
  rttvar : UInt32
  sndSsthresh : UInt32
  sndCwnd : UInt32
  advmss : UInt32
  reordering : UInt32
  rcvRtt : UInt32
  rcvSpace : UInt32
  totalRetrans : UInt32
  appended : Bytes

namespace KernelTcpInfo

def words (info : KernelTcpInfo) : List UInt32 :=
  [info.rto, info.ato, info.sndMss, info.rcvMss, info.unacked, info.sacked, info.lost, info.retrans, info.fackets,
    info.lastDataSent, info.lastAckSent, info.lastDataRecv, info.lastAckRecv, info.pmtu, info.rcvSsthresh, info.rtt,
    info.rttvar, info.sndSsthresh, info.sndCwnd, info.advmss, info.reordering, info.rcvRtt, info.rcvSpace,
    info.totalRetrans]

/-- The struct as the kernel writes it. -/
def bytes (info : KernelTcpInfo) : Bytes :=
  [info.state, info.caState, info.retransmits, info.probes, info.backoff, info.options, info.windowScales,
    info.rateFlags] ++ (info.words.flatMap host.byteOrder.u32Bytes ++ info.appended)

/-- What the program holds of the struct. -/
def diagnostic (info : KernelTcpInfo) : TcpDiagnostic where
  rtoUs := info.rto
  sendMss := info.sndMss
  receiveMss := info.rcvMss
  unacked := info.unacked
  lost := info.lost
  retransmitted := info.retrans
  rttUs := info.rtt
  rttVarianceUs := info.rttvar
  sendSsthresh := info.sndSsthresh
  sendCwnd := info.sndCwnd
  pathMtu := info.pmtu
  totalRetransmits := info.totalRetrans

/-- The words stand behind the eight bytes. -/
theorem nativeU32At_words (info : KernelTcpInfo) (i : Nat) (h : i < 24) :
    nativeU32At host (info.bytes host) (8 + 4 * i) = some (info.words.get ⟨i, h⟩) := by
  have hlength : (info.bytes host).length = 8 + (4 * info.words.length + info.appended.length) := by
    simp only [KernelTcpInfo.bytes, List.length_append, ByteOrder.length_words, List.length_cons, List.length_nil]
  have hwords : info.words.length = 24 := rfl
  have hword := host.byteOrder.u32At_words info.appended info.words i h
  rw [nativeU32At, hlength, if_pos (by omega), KernelTcpInfo.bytes, ByteOrder.u32At_skip _ (by simp)]
  simp only [List.length_cons, List.length_nil, Nat.reduceAdd, Nat.add_sub_cancel_left, hword]
  rfl

/-- **The struct is read as it was written.** -/
theorem parseTcpInfo_bytes (info : KernelTcpInfo) : parseTcpInfo host (info.bytes host) = some info.diagnostic := by
  have hword := info.nativeU32At_words host
  have hrto : nativeU32At host (info.bytes host) 8 = some info.rto := hword 0 (by decide)
  have hsndMss : nativeU32At host (info.bytes host) 16 = some info.sndMss := hword 2 (by decide)
  have hrcvMss : nativeU32At host (info.bytes host) 20 = some info.rcvMss := hword 3 (by decide)
  have hunacked : nativeU32At host (info.bytes host) 24 = some info.unacked := hword 4 (by decide)
  have hlost : nativeU32At host (info.bytes host) 32 = some info.lost := hword 6 (by decide)
  have hretrans : nativeU32At host (info.bytes host) 36 = some info.retrans := hword 7 (by decide)
  have hpmtu : nativeU32At host (info.bytes host) 60 = some info.pmtu := hword 13 (by decide)
  have hrtt : nativeU32At host (info.bytes host) 68 = some info.rtt := hword 15 (by decide)
  have hrttvar : nativeU32At host (info.bytes host) 72 = some info.rttvar := hword 16 (by decide)
  have hssthresh : nativeU32At host (info.bytes host) 76 = some info.sndSsthresh := hword 17 (by decide)
  have hcwnd : nativeU32At host (info.bytes host) 80 = some info.sndCwnd := hword 18 (by decide)
  have htotal : nativeU32At host (info.bytes host) 100 = some info.totalRetrans := hword 23 (by decide)
  unfold parseTcpInfo
  rw [hrto, hsndMss, hrcvMss, hunacked, hlost, hretrans, hpmtu, hrtt, hrttvar, hssthresh, hcwnd, htotal]
  rfl

end KernelTcpInfo

/-- A socket as the kernel describes it. -/
structure KernelDiagnostic where
  localAddress : IpAddr
  localPort : UInt16
  remoteAddress : IpAddr
  remotePort : UInt16
  sameFamily : remoteAddress.family = localAddress.family
  state : UInt8
  timer : UInt8
  retransmits : UInt8
  interfaceIndex : UInt32
  cookie : UInt32 × UInt32
  expiresMs : UInt32
  receiveQueue : UInt32
  sendQueue : UInt32
  uid : UInt32
  inode : UInt32
  tcpInfo : Option KernelTcpInfo
  congestion : Option Text
  congestion_text : ∀ t ∈ congestion, '\x00' ∉ t

/-- The sixteen bytes of an address, an IPv4 address with zeros behind it. -/
def addressField (address : IpAddr) : Bytes := address.octets ++ List.replicate (16 - address.octets.length) 0

/-- The words of `struct inet_diag_msg` behind the addresses. -/
def KernelDiagnostic.words (d : KernelDiagnostic) : Bytes :=
  host.byteOrder.u32Bytes d.interfaceIndex ++ (host.byteOrder.u32Bytes d.cookie.1 ++
    (host.byteOrder.u32Bytes d.cookie.2 ++ (host.byteOrder.u32Bytes d.expiresMs ++
      (host.byteOrder.u32Bytes d.receiveQueue ++ (host.byteOrder.u32Bytes d.sendQueue ++
        (host.byteOrder.u32Bytes d.uid ++ host.byteOrder.u32Bytes d.inode))))))

/-- `struct inet_diag_msg`. -/
def KernelDiagnostic.bytes (d : KernelDiagnostic) : Bytes :=
  [d.localAddress.family, d.state, d.timer, d.retransmits] ++
    (ByteOrder.big.u16Bytes d.localPort ++ (ByteOrder.big.u16Bytes d.remotePort ++
      (addressField d.localAddress ++ (addressField d.remoteAddress ++ d.words host))))

/-- The attributes behind the struct. -/
def KernelDiagnostic.fields (d : KernelDiagnostic) : List (UInt16 × Option Bytes) :=
  [(inetDiagInfo, d.tcpInfo.map (KernelTcpInfo.bytes host)), (inetDiagCong, textValue d.congestion)]

/-- **A message describes a socket.** -/
def KernelDiagnostic.Describes (d : KernelDiagnostic) (m : WireMessage) : Prop :=
  Carries host (d.bytes host) (d.fields host) m

/-- What the program holds of a socket; the metrics of a UDP socket are not looked at. -/
def KernelDiagnostic.record (protocol : Protocol) (d : KernelDiagnostic) : SocketDiagnostic where
  protocol := protocol
  «local» := SocketAddr.new d.localAddress d.localPort
  remote := SocketAddr.new d.remoteAddress d.remotePort
  state := socketState protocol d.state
  uid := d.uid
  inode := d.inode.toUInt64
  interfaceIndex := d.interfaceIndex
  timer := timerName d.timer
  expiresMs := d.expiresMs
  retransmits := d.retransmits
  receiveQueue := d.receiveQueue
  sendQueue := d.sendQueue
  congestion := d.congestion
  tcp := (d.tcpInfo.map KernelTcpInfo.diagnostic).filter (fun _ => protocol = .tcp)

@[simp] theorem length_addressField (address : IpAddr) : (addressField address).length = 16 := by
  cases address with
  | v4 address => rfl
  | v6 address =>
    have hlength := address.length_octets
    simp [addressField, IpAddr.octets, hlength]

@[simp] theorem KernelDiagnostic.length_bytes (d : KernelDiagnostic) : (d.bytes host).length = 72 := by
  simp [KernelDiagnostic.bytes, KernelDiagnostic.words]

theorem Words.read_skip {pre : Bytes} {offset : Nat} (h : pre.length ≤ offset) (rest : Bytes) :
    Words.read host (pre ++ rest) offset = Words.read host rest (offset - pre.length) := by
  unfold Words.read
  rw [ByteOrder.u32At_skip _ h, ByteOrder.u32At_skip _ (by omega), ByteOrder.u32At_skip _ (by omega),
    ByteOrder.u32At_skip _ (by omega), Nat.sub_add_comm h, Nat.sub_add_comm h, Nat.sub_add_comm h]

theorem Words.read_addressField (address : IpAddr) (rest : Bytes) :
    Words.read host (addressField address ++ rest) 0 =
      memoryWords host address (List.replicate (16 - address.octets.length) 0 ++ rest) := by
  rw [addressField, memoryWords, List.append_assoc]

theorem memoryPort_front (port : UInt16) (rest : Bytes) :
    host.byteOrder.u16At (ByteOrder.big.u16Bytes port ++ rest) 0 = memoryPort host port := by
  rw [memoryPort, ByteOrder.u16At_append_left _ (by simp)]

/-- **The struct of a socket is read as it was written.** -/
theorem DiagnosticMessage.read_bytes (d : KernelDiagnostic) (rest : Bytes) :
    DiagnosticMessage.read host (d.bytes host ++ rest) = some
      { family := d.localAddress.family
        state := d.state
        timer := d.timer
        retransmits := d.retransmits
        id :=
          { sourcePort := memoryPort host d.localPort
            destinationPort := memoryPort host d.remotePort
            source := memoryWords host d.localAddress (List.replicate (16 - d.localAddress.octets.length) 0 ++
              (addressField d.remoteAddress ++ (d.words host ++ rest)))
            destination := memoryWords host d.remoteAddress
              (List.replicate (16 - d.remoteAddress.octets.length) 0 ++ (d.words host ++ rest))
            interfaceIndex := d.interfaceIndex }
        expiresMs := d.expiresMs
        receiveQueue := d.receiveQueue
        sendQueue := d.sendQueue
        uid := d.uid
        inode := d.inode } := by
  have hlength : ¬ (d.bytes host ++ rest).length < DiagnosticMessage.size := by
    simp [DiagnosticMessage.size]
  unfold DiagnosticMessage.read
  rw [if_neg hlength]
  simp (disch := simp) only [KernelDiagnostic.bytes, KernelDiagnostic.words, List.append_assoc, ByteOrder.u32At_skip,
    ByteOrder.u32At_front, ByteOrder.length_u32Bytes, Nat.reduceSub, ByteOrder.u16At_skip, Words.read_skip,
    Words.read_addressField, memoryPort_front, length_addressField, ByteOrder.length_u16Bytes, List.length_cons,
    List.length_nil, Nat.reduceAdd]
  rfl

theorem family_or (d : KernelDiagnostic) :
    ¬ (d.localAddress.family ≠ afInet ∧ d.localAddress.family ≠ afInet6) := by
  cases d.localAddress with
  | v4 address => exact fun h => h.1 rfl
  | v6 address => exact fun h => h.2 rfl

/-- **A message that describes a socket is parsed as its record.** -/
theorem parseDiagnostic_describes (protocol : Protocol) (d : KernelDiagnostic) (m : WireMessage)
    (h : d.Describes host m) : parseDiagnostic host protocol (m.message host) = .ok (some (d.record protocol)) := by
  obtain ⟨bytes, l, hbytes, hl, hpayload⟩ := h
  have hheader : (m.header.bytes host).length = MessageHeader.size := m.header.length_bytes host
  have hlocal := endpoint_memory host d.localAddress d.localPort
  have hremote := endpoint_memory host d.remoteAddress d.remotePort
  rw [d.sameFamily] at hremote
  have hinfo := hl.findValue_eq inetDiagInfo rfl (parseTcpInfo host)
  have hcongestion := hl.findValue_eq inetDiagCong rfl nulTerminatedString
  rw [bind_textValue d.congestion_text] at hcongestion
  have hmetrics : (d.tcpInfo.map (KernelTcpInfo.bytes host)).bind (parseTcpInfo host) =
      d.tcpInfo.map KernelTcpInfo.diagnostic := by
    cases d.tcpInfo with
    | none => rfl
    | some info => exact info.parseTcpInfo_bytes host
  rw [hmetrics] at hinfo
  unfold WireMessage.message
  rw [hpayload, (parseDiagnostic_parses host protocol).eq_build hheader (d.length_bytes host) (by decide)
    (DiagnosticMessage.read_bytes host d bytes) (family_or d) hbytes]
  unfold diagnosticOf findString
  dsimp only [Option.bind_eq_bind]
  rw [hlocal, hremote, hinfo, hcongestion]
  rfl

/-- `struct inet_diag_req_v2` behind its header, as the kernel reads it. -/
structure DiagnosticRequest where
  flags : UInt16
  sequence : UInt32
  family : UInt8
  protocol : UInt8
  extensions : UInt8
  states : UInt32
  id : SocketId
  cookie : UInt32 × UInt32

def DiagnosticRequest.read (bytes : Bytes) : Option DiagnosticRequest :=
  match MessageHeader.read host bytes with
  | none => none
  | some header =>
    let message := bytes.drop MessageHeader.size
    if header.messageType = sockDiagByFamily ∧ header.length.toNat ≤ bytes.length ∧ 56 ≤ message.length then
      some
        { flags := header.flags
          sequence := header.sequence
          family := u8At message 0
          protocol := u8At message 1
          extensions := u8At message 2
          states := host.byteOrder.u32At message 4
          id :=
            { sourcePort := host.byteOrder.u16At message 8
              destinationPort := host.byteOrder.u16At message 10
              source := Words.read host message 12
              destination := Words.read host message 28
              interfaceIndex := host.byteOrder.u32At message 44 }
          cookie := (host.byteOrder.u32At message 48, host.byteOrder.u32At message 52) }
    else none

/-- The sockets of a family and a protocol in every state, with the attributes of the extensions. -/
def wholeTable (family : UInt8) (protocol : Protocol) (protocolNumber : UInt8) (sequence : UInt32) :
    DiagnosticRequest where
  flags := nlmFRequest ||| nlmFDump
  sequence := sequence
  family := family
  protocol := protocolNumber
  extensions := diagnosticExtensions protocol
  states := 0xffffffff
  id := ⟨0, 0, ⟨0, 0, 0, 0⟩, ⟨0, 0, 0, 0⟩, 0⟩
  cookie := (0xffffffff, 0xffffffff)

/-- **The kernel reads a request as one for the whole table.** -/
theorem DiagnosticRequest.read_diagnosticRequest (family : UInt8) (protocol : Protocol) (protocolNumber : UInt8)
    (sequence : UInt32) :
    DiagnosticRequest.read host (diagnosticRequest host family protocol protocolNumber sequence) =
      some (wholeTable family protocol protocolNumber sequence) := by
  have hlength : (diagnosticRequest host family protocol protocolNumber sequence).length = 72 := by
    simp [diagnosticRequest]
  unfold DiagnosticRequest.read
  rw [hlength]
  unfold diagnosticRequest
  dsimp only
  rw [MessageHeader.read_bytes, MessageHeader.size, List.drop_left' (MessageHeader.length_bytes host _)]
  dsimp only
  rw [if_pos ⟨rfl, by decide, by simp⟩]
  simp (disch := simp) only [Words.read, ByteOrder.u32At_skip, ByteOrder.u32At_front, ByteOrder.length_u32Bytes,
    Nat.reduceSub, ByteOrder.u16At_skip, ByteOrder.u32At_zeros, ByteOrder.u16At_zeros, List.length_replicate,
    List.length_cons, List.length_nil, Nat.reduceAdd, ByteOrder.u32At_u32Bytes]
  rfl

/-! ## What is returned -/

/-- **A kernel serves a request**: it reads the request that is sent, and answers with the sockets it is asked for. -/
def ServesDiagnostics (kernel : DiagnosticRequest → List KernelDiagnostic) (request : Bytes)
    (calls : DumpCalls) : Prop :=
  ∃ r, DiagnosticRequest.read host request = some r ∧ calls.socket = .ok () ∧ calls.bind = .ok () ∧
    calls.sent = .bytes request.length ∧
    Nonempty (Answers host r.sequence sockDiagByFamily (KernelDiagnostic.Describes host) (kernel r) calls.replies)

/-- The records of the sockets a kernel has for a request. -/
def recordsFor (kernel : DiagnosticRequest → List KernelDiagnostic) (protocol : Protocol)
    (r : DiagnosticRequest) : List SocketDiagnostic :=
  (kernel r).map (KernelDiagnostic.record protocol)

variable {host} {kernel : DiagnosticRequest → List KernelDiagnostic}

/-- **A dump returns the sockets of its family and protocol.** -/
theorem diagnosticDump_serves {calls : DumpCalls} {family : UInt8} {protocol : Protocol} {protocolNumber : UInt8}
    {sequence : UInt32}
    (h : ServesDiagnostics host kernel (diagnosticRequest host family protocol protocolNumber sequence) calls) :
    diagnosticDump host calls family protocol protocolNumber sequence =
      .ok (recordsFor kernel protocol (wholeTable family protocol protocolNumber sequence)) := by
  obtain ⟨r, hr, hsocket, hbind, hsent, ⟨answers⟩⟩ := h
  rw [DiagnosticRequest.read_diagnosticRequest, Option.some.injEq] at hr
  subst hr
  have hreceived := sockDiagDump_answers (parseDiagnostic_describes host protocol) answers
  have hsend : sendDiagnosticRequest calls.sent
      (diagnosticRequest host family protocol protocolNumber sequence) = .ok () := by
    rw [hsent]
    exact if_neg (not_not.2 rfl)
  unfold diagnosticDump openRouteSocket
  rw [hsocket, hbind, hsend, recordsFor, ← List.filterMap_eq_map]
  exact hreceived

/-- The records of both protocols of a family. -/
def familyRecords (kernel : DiagnosticRequest → List KernelDiagnostic) (family : UInt8)
    (tcpSequence udpSequence : UInt32) : List SocketDiagnostic :=
  recordsFor kernel .tcp (wholeTable family .tcp tcpNumber tcpSequence) ++
    recordsFor kernel .udp (wholeTable family .udp udpNumber udpSequence)

theorem ipv4Diagnostics_serves {calls : DiagnosticCalls}
    (htcp : ServesDiagnostics host kernel (diagnosticRequest host afInet .tcp tcpNumber 1) calls.tcp)
    (hudp : ServesDiagnostics host kernel (diagnosticRequest host afInet .udp udpNumber 2) calls.udp) :
    ipv4Diagnostics host calls = .ok (sortDiagnostics (familyRecords kernel afInet 1 2)) := by
  rw [ipv4Diagnostics, diagnosticDump_serves htcp, diagnosticDump_serves hudp]
  rfl

theorem ipv6Diagnostics_serves {calls : DiagnosticCalls}
    (htcp : ServesDiagnostics host kernel (diagnosticRequest host afInet6 .tcp tcpNumber 3) calls.tcp6)
    (hudp : ServesDiagnostics host kernel (diagnosticRequest host afInet6 .udp udpNumber 4) calls.udp6) :
    ipv6Diagnostics host calls = .ok (sortDiagnostics (familyRecords kernel afInet6 3 4)) := by
  rw [ipv6Diagnostics, diagnosticDump_serves htcp, diagnosticDump_serves hudp]
  rfl

/-- The metrics of a socket without traffic. -/
def idleMetrics : KernelTcpInfo where
  state := 10
  caState := 0
  retransmits := 0
  probes := 0
  backoff := 0
  options := 0
  windowScales := 0
  rateFlags := 0
  rto := 1000000
  ato := 0
  sndMss := 536
  rcvMss := 536
  unacked := 0
  sacked := 128
  lost := 0
  retrans := 0
  fackets := 0
  lastDataSent := 0
  lastAckSent := 0
  lastDataRecv := 0
  lastAckRecv := 0
  pmtu := 0
  rcvSsthresh := 0
  rtt := 0
  rttvar := 250000
  sndSsthresh := 0x7fffffff
  sndCwnd := 10
  advmss := 0
  reordering := 3
  rcvRtt := 0
  rcvSpace := 0
  totalRetrans := 0
  appended := []

/-- A listener on the ssh port of an unspecified address. -/
def sshListener (address : IpAddr) (inode : UInt32) : KernelDiagnostic where
  localAddress := address
  localPort := 22
  remoteAddress := address
  remotePort := 0
  sameFamily := rfl
  state := 10
  timer := 0
  retransmits := 0
  interfaceIndex := 0
  cookie := (7, 0)
  expiresMs := 0
  receiveQueue := 0
  sendQueue := 128
  uid := 0
  inode := inode
  tcpInfo := some idleMetrics
  congestion := some "cubic"
  congestion_text := by
    rintro t ⟨⟩
    decide

def listener4 : KernelDiagnostic := sshListener (.v4 Ipv4Addr.unspecified) 18211

def listener6 : KernelDiagnostic := sshListener (.v6 Ipv6Addr.unspecified) 18213

/-- The message of a listener: its struct, its metrics, and the name of its congestion control. -/
def listenerMessage (d : KernelDiagnostic) (sequence : UInt32) : WireMessage where
  header := ⟨206, sockDiagByFamily, 2, sequence, 0⟩
  payload := d.bytes hostX86 ++ (AttributeHeader.bytes hostX86 ⟨108, inetDiagInfo⟩ ++ idleMetrics.bytes hostX86 ++
    ([] ++ (AttributeHeader.bytes hostX86 ⟨10, inetDiagCong⟩ ++ [99, 117, 98, 105, 99, 0] ++ [])))
  padding := [0, 0]
  length_eq := by
    rw [List.length_append, KernelDiagnostic.length_bytes]
    show (206 : UInt32).toNat = _
    decide
  padding_eq := by
    rw [List.length_append, KernelDiagnostic.length_bytes]
    decide

theorem describes_listener (address : IpAddr) (inode sequence : UInt32) :
    (sshListener address inode).Describes hostX86 (listenerMessage (sshListener address inode) sequence) := by
  refine ⟨_, _, .cons ⟨108, inetDiagInfo⟩ (idleMetrics.bytes hostX86) [] (by decide) (by decide)
    (.last ⟨10, inetDiagCong⟩ [99, 117, 98, 105, 99, 0] [] (by decide) (by decide)), ?_, rfl⟩
  show Presents [(inetDiagInfo, some (idleMetrics.bytes hostX86)),
    (inetDiagCong, textValue (some ("cubic" : Text)))] _
  unfold Presents
  decide +kernel

/-- A kernel with a TCP listener of each family. -/
def listenerKernel (r : DiagnosticRequest) : List KernelDiagnostic :=
  if r.protocol ≠ tcpNumber then [] else if r.family = afInet then [listener4] else [listener6]

/-- The listener and the end of the dump in datagrams of their own, after an interrupted call. -/
def listenerAnswers : Answers hostX86 1 sockDiagByFamily (KernelDiagnostic.Describes hostX86) [listener4]
    [.datagram (datagramOf hostX86 [listenerMessage listener4 1]), .failed eintr,
      .datagram (datagramOf hostX86 [doneMessage 1])]
    where
  dump :=
    { records := [listenerMessage listener4 1]
      done := doneMessage 1
      records_not := by
        intro m hm
        rw [List.mem_singleton.1 hm]
        decide
      isDone_done := by decide }
  cutting :=
    { groups := [[listenerMessage listener4 1], [doneMessage 1]]
      flatten_eq := rfl
      nonempty := by simp
      fits := by decide +kernel }
  replies_eq := rfl
  clean := by
    intro m hm _
    rw [List.mem_singleton.1 hm]
    decide
  completed := by decide +kernel
  described := .cons (describes_listener _ _ _) .nil

def emptyAnswers (sequence : UInt32) (hfits : (datagramOf hostX86 [doneMessage sequence]).length ≤ bufferSize) :
    Answers hostX86 sequence sockDiagByFamily (KernelDiagnostic.Describes hostX86) []
      [.datagram (datagramOf hostX86 [doneMessage sequence])] :=
  .ofMessages rfl (by simp) .nil hfits

def listenerCalls : DiagnosticCalls where
  tcp := ⟨.ok (), .ok (), .bytes 72, [.datagram (datagramOf hostX86 [listenerMessage listener4 1]), .failed eintr,
    .datagram (datagramOf hostX86 [doneMessage 1])]⟩
  udp := ⟨.ok (), .ok (), .bytes 72, [.datagram (datagramOf hostX86 [doneMessage 2])]⟩
  tcp6 := ⟨.ok (), .ok (), .bytes 72, [.datagram (datagramOf hostX86 [listenerMessage listener6 3, doneMessage 3])]⟩
  udp6 := ⟨.ok (), .ok (), .bytes 72, [.datagram (datagramOf hostX86 [doneMessage 4])]⟩

end Networkrs
