import Networkrs.DualStack
import Networkrs.ProcNet
/-!
# RouteLookup — the kernel's route to one destination

`ipv4_route`, `ipv6_route` and `receive_route_lookup` of `netlink.rs`: a request that names its destination, and a loop
that ends at the first route with the sequence number of the request (`receiveRouteLookup_eq_ok_iff`).  The IPv6 kernel
answers with the unspecified source of the request, which is left out of the route.
-/
namespace Networkrs

open Machine Framing Collect

def routeSequence : UInt32 := 2

def lookupBufferSize : Nat := 16 * 1024

variable (host : Host)

def lookupHeader (destination : IpAddr) : MessageHeader where
  length := UInt32.ofNat (MessageHeader.size + RouteMessage.size + AttributeHeader.size + destination.octets.length)
  messageType := rtmGetroute
  flags := nlmFRequest
  sequence := routeSequence
  portId := 0

/-- The `RouteMessage` of a lookup: the family, and a prefix of all the bits of the destination. -/
def lookupMessage (destination : IpAddr) : Bytes :=
  destination.family :: UInt8.ofNat (8 * destination.octets.length) :: List.replicate 10 0

def destinationAttribute (destination : IpAddr) : AttributeHeader where
  length := UInt16.ofNat (AttributeHeader.size + destination.octets.length)
  kind := rtaDst

/-- `RouteRequest`, and `RouteRequest6` for an IPv6 destination. -/
def routeRequest (destination : IpAddr) : Bytes :=
  (lookupHeader destination).bytes host ++
    (lookupMessage destination ++ ((destinationAttribute destination).bytes host ++ destination.octets))

def normalizeRouteLookup (route : Route) : Route :=
  if route.sourcePrefix.any (fun source => source.1.isUnspecified) then { route with sourcePrefix := none } else route

def lookupFault : Fault → IoError
  | .truncatedHeader => .custom .invalidData "truncated route reply header"
  | .invalidLength => .custom .invalidData "invalid route reply length"

def lookupStep (sequence : UInt32) (_ : Unit) (header : MessageHeader) (message : Bytes) :
    Checked (Flow Unit (Except IoError Route)) :=
  if header.sequence = sequence then
    if header.messageType = rtmNewroute then do
      match ← parseRoute host message with
      | none => return .stop (.error (.custom .invalidData "invalid IP route reply"))
      | some route => return .stop (.ok (normalizeRouteLookup route))
    else if header.messageType = nlmsgError then do
      match ← parseNetlinkError host message with
      | .error e => return .stop (.error e)
      | .ok () => return .next ()
    else if header.messageType = nlmsgDone then
      return .stop (.error (.custom .notFound "kernel returned no IP route"))
    else return .next ()
  else return .next ()

def receiveRouteLookup (sequence : UInt32) (socket : Socket) : IoResult Route × Socket :=
  receiveLoop lookupBufferSize "netlink socket closed"
    (fun _ received => ofScan
      (walk (messageFormat host) (lookupStep host sequence) (fun _ f => .error (lookupFault f)) received 0 ()))
    () socket

/-- `ip_route`, with `ipv4_route` and `ipv6_route` as its two cases. -/
def ipRoute (calls : DumpCalls) (destination : IpAddr) : IoResult Route := do
  openRouteSocket calls
  sendRequest calls.sent (routeRequest host destination)
  (receiveRouteLookup host routeSequence calls.replies).1

/-! ## The request -/

/-- **A request names its destination**, as one attribute of an `RTM_GETROUTE` of its own length. -/
theorem routeRequest_reads (destination : IpAddr) :
    (∃ header, MessageHeader.read host (routeRequest host destination) = some header ∧
      header.messageType = rtmGetroute ∧ header.length.toNat = (routeRequest host destination).length) ∧
    attributesIn host ((routeRequest host destination).drop routeOffset) = some [(rtaDst, destination.octets)] := by
  have hoctets : destination.octets.length = 4 ∨ destination.octets.length = 16 := by
    cases destination with
    | v4 address => exact Or.inl rfl
    | v6 address => exact Or.inr address.length_octets
  have hmessage : (lookupMessage destination).length = RouteMessage.size := rfl
  have hlength : (routeRequest host destination).length =
      MessageHeader.size + RouteMessage.size + AttributeHeader.size + destination.octets.length := by
    simp only [routeRequest, List.length_append, MessageHeader.length_bytes, AttributeHeader.length_bytes, hmessage,
      MessageHeader.size, AttributeHeader.size]
    omega
  refine ⟨⟨lookupHeader destination, MessageHeader.read_bytes host _ _, rfl, ?_⟩, ?_⟩
  · rw [hlength]
    refine UInt32.toNat_ofNat_of_lt' ?_
    rw [MessageHeader.size, RouteMessage.size, AttributeHeader.size, UInt32.size]
    omega
  · refine attributesIn_behind ((lookupHeader destination).length_bytes host) hmessage rfl ?_
    have hattribute : (destinationAttribute destination).length.toNat =
        AttributeHeader.size + destination.octets.length := by
      refine UInt16.toNat_ofNat_of_lt' ?_
      rw [AttributeHeader.size, UInt16.size]
      omega
    have hkind : (destinationAttribute destination).kind &&& nlaTypeMask = rtaDst := by
      show rtaDst &&& nlaTypeMask = rtaDst
      decide
    have hencodes := @Encodes.last host (destinationAttribute destination) destination.octets [] hattribute
      (le_alignTo4 _)
    rwa [List.append_nil, hkind] at hencodes

/-! ## The reply -/

def routeVerdict (message : Bytes) : Verdict IoError Route :=
  match parseRoute host message with
  | .ok (some route) => .finish [normalizeRouteLookup route]
  | .ok none => .reject (.custom .invalidData "invalid IP route reply")
  | .error p => .panic p

/-- **The verdict of a route lookup on an item.** -/
def lookupJudge (sequence : UInt32) : MessageItem → Verdict IoError Route
  | .fault f => .reject (lookupFault f)
  | .record header message =>
    if header.sequence = sequence then
      if header.messageType = rtmNewroute then routeVerdict host message
      else if header.messageType = nlmsgError then acknowledgeVerdict host "truncated netlink error" message
      else if header.messageType = nlmsgDone then .reject (.custom .notFound "kernel returned no IP route")
      else .keep []
    else .keep []

/-- The items of the datagrams a lookup receives, with the failures of its receives. -/
def receivedLookup (socket : Socket) : List (Except IoError MessageItem) :=
  streamItems (items (messageFormat host)) (arrivals lookupBufferSize "netlink socket closed" socket)

theorem collecting_lookupStep (sequence : UInt32) (i : MessageItem) :
    collecting (itemStep (lookupStep host sequence) (fun _ f => .error (lookupFault f)) () i) =
      judgeStep (lookupJudge host sequence) [] i := by
  cases i with
  | fault f => rfl
  | record header message =>
    unfold itemStep lookupStep judgeStep lookupJudge
    by_cases hseq : header.sequence = sequence
    · simp only [hseq, if_true]
      by_cases hroute : header.messageType = rtmNewroute
      · simp only [hroute, if_true, routeVerdict]
        cases parseRoute host message with
        | error p => rfl
        | ok found => cases found <;> rfl
      · simp only [hroute, if_false]
        by_cases herror : header.messageType = nlmsgError
        · simp only [herror, if_true]
          rw [parseNetlinkError, parseError_eq (T := Route)]
          cases hv : (acknowledgeVerdict host "truncated netlink error" message : Verdict IoError Route) with
          | keep records =>
            obtain rfl := acknowledgeVerdict_keep host hv
            rfl
          | finish records => exact absurd hv (acknowledgeVerdict_finish host _ message records)
          | reject e => rfl
          | panic p => rfl
        · simp only [herror, if_false]
          by_cases hdone : header.messageType = nlmsgDone
          · simp only [hdone, if_true]
            rfl
          · simp only [hdone, if_false]
            rfl
    · simp only [hseq, if_false]
      rfl

/-- **A lookup is a run over the items of its datagrams.** -/
theorem receiveRouteLookup_eq_run (sequence : UInt32) (socket : Socket) :
    (receiveRouteLookup host sequence socket).1.map (fun route => [route]) =
      run (judgeStream (lookupJudge host sequence)) (receivedLookup host socket) := by
  unfold receiveRouteLookup receivedLookup
  rw [receiveLoop_eq_follow]
  simp only [walk_eq_scan, List.drop_zero]
  exact follow_collecting (collecting_lookupStep host sequence) (items (messageFormat host)) _

/-- What a lookup goes on after adds nothing. -/
theorem kept_lookupJudge {sequence : UInt32} {pre : List (Except IoError MessageItem)}
    (h : ∀ x ∈ pre, (judgeStream (lookupJudge host sequence) x).keeps = true) :
    kept (judgeStream (lookupJudge host sequence)) pre = [] := by
  refine List.flatMap_eq_nil_iff.2 (fun x hx => ?_)
  have hkeeps := h x hx
  cases hjudge : judgeStream (lookupJudge host sequence) x with
  | keep records =>
    cases x with
    | error e => cases hjudge
    | ok i =>
      cases i with
      | fault f => cases hjudge
      | record header message =>
        simp only [judgeStream, lookupJudge, routeVerdict] at hjudge
        repeat' split at hjudge
        all_goals first | cases hjudge; rfl | exact acknowledgeVerdict_keep host hjudge | cases hjudge
  | finish records => rw [hjudge] at hkeeps; cases hkeeps
  | reject e => rw [hjudge] at hkeeps; cases hkeeps
  | panic p => rw [hjudge] at hkeeps; cases hkeeps

/-- **A lookup finishes at a route with its sequence number.** -/
theorem lookupJudge_eq_finish_iff (sequence : UInt32) (x : Except IoError MessageItem) (route : Route) :
    judgeStream (lookupJudge host sequence) x = .finish [route] ↔
      ∃ header message found, x = .ok (.record header message) ∧ header.sequence = sequence ∧
        header.messageType = rtmNewroute ∧ parseRoute host message = .ok (some found) ∧
        route = normalizeRouteLookup found := by
  constructor
  · intro h
    cases x with
    | error e => cases h
    | ok i =>
      cases i with
      | fault f => cases h
      | record header message =>
        simp only [judgeStream, lookupJudge, routeVerdict] at h
        split at h
        · rename_i hseq
          split at h
          · rename_i htype
            split at h
            · rename_i found hfound
              cases h
              exact ⟨header, message, found, rfl, hseq, htype, hfound, rfl⟩
            · cases h
            · cases h
          · split at h
            · exact absurd h (acknowledgeVerdict_finish host _ message _)
            · split at h <;> cases h
        · cases h
  · rintro ⟨header, message, found, rfl, hseq, htype, hfound, rfl⟩
    rw [judgeStream, lookupJudge, if_pos hseq, if_pos htype, routeVerdict, hfound]

/-- **A lookup returns the first route with its sequence number**, without an unspecified source, when nothing ends it
before. -/
theorem receiveRouteLookup_eq_ok_iff (sequence : UInt32) (socket : Socket) (route : Route) :
    (receiveRouteLookup host sequence socket).1 = .ok route ↔
      ∃ pre header message post found,
        receivedLookup host socket = pre ++ .ok (.record header message) :: post ∧
        (∀ x ∈ pre, (judgeStream (lookupJudge host sequence) x).keeps = true) ∧ header.sequence = sequence ∧
        header.messageType = rtmNewroute ∧ parseRoute host message = .ok (some found) ∧
        route = normalizeRouteLookup found := by
  have hrun := receiveRouteLookup_eq_run host sequence socket
  constructor
  · intro h
    rw [h, Outcome.map_ok] at hrun
    rcases exists_split (judgeStream (lookupJudge host sequence)) (receivedLookup host socket) with
      hall | ⟨pre, i, post, hstream, hpre, hi⟩
    · rw [run_of_keeps _ _ hall] at hrun
      cases hrun
    · rw [hstream, run_of_split _ pre i post hpre hi, kept_lookupJudge host hpre] at hrun
      have hfinish : judgeStream (lookupJudge host sequence) i = .finish [route] := by
        cases hjudge : judgeStream (lookupJudge host sequence) i with
        | finish records =>
          rw [hjudge] at hrun
          rw [← List.nil_append records, ← Outcome.ok.inj hrun]
        | keep records => rw [hjudge] at hrun; cases hrun
        | reject e => rw [hjudge] at hrun; cases hrun
        | panic p => rw [hjudge] at hrun; cases hrun
      obtain ⟨header, message, found, rfl, hseq, htype, hfound, hroute⟩ :=
        (lookupJudge_eq_finish_iff host sequence i route).1 hfinish
      exact ⟨pre, header, message, post, found, hstream, hpre, hseq, htype, hfound, hroute⟩
  · rintro ⟨pre, header, message, post, found, hstream, hpre, hseq, htype, hfound, hroute⟩
    have hfinish := (lookupJudge_eq_finish_iff host sequence _ route).2
      ⟨header, message, found, rfl, hseq, htype, hfound, hroute⟩
    rw [hstream, run_of_split _ pre _ post hpre (by rw [hfinish]; rfl), kept_lookupJudge host hpre, hfinish] at hrun
    obtain ⟨value, hvalue, heq⟩ := (Outcome.map_eq_ok_iff _ _ _).1 hrun
    rw [hvalue, List.singleton_inj.1 heq]

/-- A returned route has no unspecified source prefix. -/
theorem sourcePrefix_of_lookup {sequence : UInt32} {socket : Socket} {route : Route}
    (h : (receiveRouteLookup host sequence socket).1 = .ok route) :
    ∀ source, route.sourcePrefix = some source → source.1.isUnspecified = false := by
  obtain ⟨-, -, -, -, found, -, -, -, -, -, rfl⟩ := (receiveRouteLookup_eq_ok_iff host sequence socket route).1 h
  intro source hsource
  unfold normalizeRouteLookup at hsource
  split at hsource
  · cases hsource
  · rename_i hspecified
    rw [hsource] at hspecified
    simpa using hspecified

end Networkrs
