import Networkrs.ErrorCodes
import Networkrs.KernelRecords
/-!
# KernelLookup — the kernel's answer to a route lookup

A kernel reads the destination out of a lookup, and sends the route it selects for it or refuses with an error code,
perhaps behind messages for others (`Replies`).  `ip_route` returns that route, or fails with that code
(`ip_route_exact`).
-/
namespace Networkrs

open Machine Framing Collect

/-! ## Requests -/

/-- A route lookup as the kernel reads it. -/
structure LookupQuery where
  flags : UInt16
  sequence : UInt32
  message : RouteMessage
  attributes : List (UInt16 × Bytes)

def LookupQuery.read (host : Host) (bytes : Bytes) : Option LookupQuery := do
  let header ← MessageHeader.read host bytes
  let message ← RouteMessage.read (bytes.drop MessageHeader.size)
  let attributes ← attributesIn host (bytes.drop routeOffset)
  if header.messageType = rtmGetroute ∧ header.length.toNat = bytes.length then
    return ⟨header.flags, header.sequence, message, attributes⟩
  else none

/-- The destination of a lookup: the whole of an address of its family. -/
def LookupQuery.destination (q : LookupQuery) : Option IpAddr :=
  (findValue q.attributes rtaDst (ipFromBytes q.message.family)).filter
    (fun address => q.message.destinationPrefix.toNat = 8 * address.octets.length)

variable {host : Host}

/-- **A lookup asks for the route to its destination.** -/
theorem LookupQuery.read_routeRequest (destination : IpAddr) :
    ∃ q, LookupQuery.read host (routeRequest host destination) = some q ∧ q.flags = nlmFRequest ∧
      q.sequence = routeSequence ∧ q.destination = some destination := by
  obtain ⟨⟨header, hheader, htype, hlength⟩, hattributes⟩ := routeRequest_reads host destination
  have hfirst : header = lookupHeader destination := by
    rw [routeRequest, MessageHeader.read_bytes] at hheader
    exact (Option.some.inj hheader).symm
  have hmessage : RouteMessage.read ((routeRequest host destination).drop MessageHeader.size) = some
      ⟨destination.family, UInt8.ofNat (8 * destination.octets.length), 0, 0, 0, 0, 0⟩ := by
    rw [routeRequest, MessageHeader.size, List.drop_left' (MessageHeader.length_bytes host _), RouteMessage.read,
      if_neg (by simp [lookupMessage, RouteMessage.size])]
    rfl
  have hdestination : (LookupQuery.mk header.flags header.sequence
      ⟨destination.family, UInt8.ofNat (8 * destination.octets.length), 0, 0, 0, 0, 0⟩
      [(rtaDst, destination.octets)]).destination = some destination := by
    have hip := ipFromBytes_octets (ipAddressMatchesFamily_family destination)
    have hbits : (UInt8.ofNat (8 * destination.octets.length)).toNat = 8 * destination.octets.length := by
      cases destination with
      | v4 address => rfl
      | v6 address =>
        have hlength := address.length_octets
        simp [IpAddr.octets, hlength]
    unfold LookupQuery.destination findValue
    rw [List.findSome?_singleton, if_pos rfl, hip, Option.filter_some, if_pos (by simpa using hbits)]
  refine ⟨_, ?_, ?_, ?_, hdestination⟩
  · unfold LookupQuery.read
    rw [hheader, hmessage, hattributes]
    exact if_pos ⟨htype, hlength⟩
  · exact congrArg MessageHeader.flags hfirst
  · exact congrArg MessageHeader.sequence hfirst

/-! ## Answers -/

/-- **What a kernel sends in answer to a lookup**: the route it selects, or a message with the error it refuses with. -/
def SendsLookup (host : Host) (selected : Except Int32 KernelRoute) (m : WireMessage) : Prop :=
  match selected with
  | .ok route => m.header.messageType = rtmNewroute ∧ route.Sends host m
  | .error code => m.header.messageType = nlmsgError ∧ 0 < code.toInt ∧
      ∃ rest, m.payload = host.byteOrder.u32Bytes (-code).toUInt32 ++ rest

/-- **The replies to a lookup**: what the kernel sends, behind any datagrams of messages with other sequence numbers and
any such messages in its own; calls that signals interrupt stand anywhere before it, and anything after it. -/
def Replies (host : Host) (sequence : UInt32) (selected : Except Int32 KernelRoute) (replies : Socket) : Prop :=
  ∃ foreign before m after rest,
    uninterrupted replies =
      (foreign ++ [before ++ m :: after]).map (fun ms => .datagram (datagramOf host ms)) ++ rest ∧
    (∀ ms ∈ foreign ++ [before ++ m :: after], ms ≠ [] ∧ (datagramOf host ms).length ≤ lookupBufferSize) ∧
    (∀ x ∈ foreign.flatten ++ before, x.header.sequence ≠ sequence) ∧ m.header.sequence = sequence ∧
    SendsLookup host selected m

/-- **A kernel serves a lookup**: it reads the request that is sent, and answers for the destination it names. -/
def ServesLookup (host : Host) (kernel : IpAddr → Except Int32 KernelRoute) (request : Bytes) (calls : DumpCalls) :
    Prop :=
  ∃ q destination, LookupQuery.read host request = some q ∧ q.flags = nlmFRequest ∧ q.destination = some destination ∧
    calls.socket = .ok () ∧ calls.bind = .ok () ∧ calls.sent = .bytes request.length ∧
    Replies host q.sequence (kernel destination) calls.replies

/-- What the program makes of what the kernel selects. -/
def lookupResult : Except Int32 KernelRoute → IoResult Route
  | .ok route => .ok (normalizeRouteLookup route.record)
  | .error code => .err (.os code)

/-- **A lookup is answered**, with what the kernel selects. -/
theorem receiveRouteLookup_replies {sequence : UInt32} {selected : Except Int32 KernelRoute} {replies : Socket}
    (h : Replies host sequence selected replies) :
    (receiveRouteLookup host sequence replies).1 = lookupResult selected := by
  obtain ⟨foreign, before, m, after, rest, hdatagrams, hfits, hforeign, hseq, hsends⟩ := h
  have hreceived : receivedLookup host replies =
      (foreign.flatten ++ before).map (fun x => .ok (x.item host)) ++ .ok (m.item host) ::
        (after.map (fun x => .ok (x.item host)) ++ streamItems (items (messageFormat host))
          (arrivals lookupBufferSize "netlink socket closed" rest)) := by
    unfold receivedLookup
    rw [← arrivals_uninterrupted, hdatagrams, arrivals_groups_append host _ _ rest _ (fun g hg => (hfits g hg).1)
      (fun g hg => (hfits g hg).2), streamItems_append, streamItems_groups]
    simp only [List.flatten_append, List.flatten_singleton, List.map_append, List.map_cons, List.append_assoc,
      List.cons_append]
  have hkeeps : ∀ x ∈ (foreign.flatten ++ before).map (fun m => (.ok (m.item host) : Except IoError MessageItem)),
      (judgeStream (lookupJudge host sequence) x).keeps = true := by
    intro x hx
    obtain ⟨m, hm, rfl⟩ := List.mem_map.1 hx
    simp [judgeStream, lookupJudge, WireMessage.item, hforeign m hm, Verdict.keeps]
  cases selected with
  | ok route =>
    obtain ⟨htype, hroute⟩ := hsends
    exact (receiveRouteLookup_eq_ok_iff host sequence replies _).2
      ⟨_, m.header, m.message host, _, route.record, hreceived, hkeeps, hseq, htype, parseRoute_sends route m hroute,
        rfl⟩
  | error code =>
    obtain ⟨htype, hpositive, rest, hpayload⟩ := hsends
    have hread : readI32 host (m.message host) MessageHeader.size = some (-code) := by
      rw [WireMessage.message, hpayload, readI32, if_neg (by simp [MessageHeader.size]; omega), ByteOrder.i32At,
        ByteOrder.u32At_skip _ (by simp [MessageHeader.size])]
      simp [MessageHeader.size, ByteOrder.u32At_front]
    have hnegated : (-code).toInt = -code.toInt := by
      refine toInt_neg_of_ne (fun hmin => ?_)
      rw [hmin, Int32.toInt_minValue] at hpositive
      omega
    have hne : -code ≠ 0 := fun hzero => by
      rw [hzero, Int32.toInt_zero] at hnegated
      omega
    have hleast : -code ≠ Int32.minValue := fun hmin => by
      have hlt := code.toInt_lt
      rw [hmin, Int32.toInt_minValue] at hnegated
      omega
    have hverdict : judgeStream (lookupJudge host sequence) (.ok (m.item host)) = .reject (.os code) := by
      have hjudge : judgeStream (lookupJudge host sequence) (.ok (m.item host)) =
          acknowledgeVerdict host "truncated netlink error" (m.message host) := by
        unfold judgeStream lookupJudge WireMessage.item
        dsimp only
        rw [if_pos hseq, htype, if_neg (by decide), if_pos rfl]
      rw [hjudge, acknowledgeVerdict_of_code host _ hread hne, errorVerdict, i32Neg, if_neg hleast, Int32.neg_neg]
    have hrun := receiveRouteLookup_eq_run host sequence replies
    rw [hreceived, run_of_split _ _ _ _ hkeeps (by rw [hverdict]; rfl), hverdict] at hrun
    exact (Outcome.map_eq_err_iff _ _ _).1 hrun

/-- **The route to a destination is the one the kernel selects for it**, without the unspecified source of the lookup;
when the kernel refuses, the lookup fails with its error code. -/
theorem ip_route_exact (host : Host) (kernel : IpAddr → Except Int32 KernelRoute) (destination : IpAddr)
    (calls : DumpCalls) (h : ServesLookup host kernel (routeRequest host destination) calls) :
    ipRoute host calls destination = lookupResult (kernel destination) := by
  obtain ⟨q, asked, hq, -, hasked, hsocket, hbind, hsent, hreplies⟩ := h
  obtain ⟨q', hq', -, hsequence, hdestination⟩ := @LookupQuery.read_routeRequest host destination
  obtain rfl : q' = q := Option.some.inj (hq'.symm.trans hq)
  obtain rfl : destination = asked := Option.some.inj (hdestination.symm.trans hasked)
  rw [hsequence] at hreplies
  have hsend : sendRequest calls.sent (routeRequest host destination) = .ok () := by
    rw [hsent]
    exact if_neg (not_not.2 rfl)
  unfold ipRoute openRouteSocket
  rw [hsocket, hbind, hsend]
  exact receiveRouteLookup_replies hreplies

def loopback : IpAddr := .v6 ⟨List.replicate 15 0 ++ [1], rfl⟩

/-- The route to the IPv6 loopback address, with the unspecified source that IPv6 lookups are answered with. -/
def loopbackRoute : KernelRoute where
  destination := loopback
  prefixLength := 128
  tos := 0
  source := some (.v6 Ipv6Addr.unspecified, 128)
  gateway := none
  interfaceIndex := some 1
  metric := none
  preferredSource := some loopback
  table := 255
  protocol := 2
  scope := 0
  routeType := 2
  flags := 0
  nextHops := []
  default_eq := by decide
  source_family := by
    rintro s ⟨⟩
    decide
  gateway_family := by
    rintro a ⟨⟩
  preferred_family := by
    rintro a ⟨⟩
    rfl

def loopbackMessage : WireMessage where
  header := ⟨104, rtmNewroute, 0, routeSequence, 0⟩
  payload := loopbackRoute.struct hostX86 ++
    (AttributeHeader.bytes hostX86 ⟨20, rtaDst⟩ ++ loopback.octets ++
      ([] ++ (AttributeHeader.bytes hostX86 ⟨20, rtaSrc⟩ ++ List.replicate 16 0 ++
        ([] ++ (AttributeHeader.bytes hostX86 ⟨8, rtaTable⟩ ++ [255, 0, 0, 0] ++
          ([] ++ (AttributeHeader.bytes hostX86 ⟨8, rtaOif⟩ ++ [1, 0, 0, 0] ++
            ([] ++ (AttributeHeader.bytes hostX86 ⟨20, rtaPrefsrc⟩ ++ loopback.octets ++ [])))))))))
  padding := []
  length_eq := by decide
  padding_eq := by decide

theorem sends_loopbackRoute : loopbackRoute.Sends hostX86 loopbackMessage := by
  refine ⟨none, rfl, _, _, .cons ⟨20, rtaDst⟩ loopback.octets [] (by decide) (by decide)
    (.cons ⟨20, rtaSrc⟩ (List.replicate 16 0) [] (by decide) (by decide)
      (.cons ⟨8, rtaTable⟩ [255, 0, 0, 0] [] (by decide) (by decide)
        (.cons ⟨8, rtaOif⟩ [1, 0, 0, 0] [] (by decide) (by decide)
          (.last ⟨20, rtaPrefsrc⟩ loopback.octets [] (by decide) (by decide))))), ?_, rfl⟩
  unfold Presents
  decide +kernel

/-- A kernel that knows the route to the loopback address, and no other. -/
def loopbackKernel (destination : IpAddr) : Except Int32 KernelRoute :=
  if destination = loopback then .ok loopbackRoute else .error 101

/-- A message for another request, in a datagram of its own. -/
def foreignDone : WireMessage := doneMessage 99

def lookupCalls : DumpCalls :=
  ⟨.ok (), .ok (), .bytes 48, [.datagram (datagramOf hostX86 [foreignDone]), .failed eintr,
    .datagram (datagramOf hostX86 [loopbackMessage])]⟩

/-- The route to the loopback address has no source prefix. -/
theorem ip_route_exact_loopback :
    ipRoute hostX86 lookupCalls loopback = .ok { loopbackRoute.record with sourcePrefix := none } := by
  obtain ⟨q, hq, hflags, hsequence, hdestination⟩ := @LookupQuery.read_routeRequest hostX86 loopback
  have hserves : ServesLookup hostX86 loopbackKernel (routeRequest hostX86 loopback) lookupCalls := by
    refine ⟨q, loopback, hq, hflags, hdestination, rfl, rfl, rfl, [[foreignDone]], [], loopbackMessage, [], [], rfl,
      ?_, ?_, hsequence.symm, ?_⟩
    · rw [List.nil_append, List.forall_mem_append, List.forall_mem_singleton, List.forall_mem_singleton]
      exact ⟨⟨by simp, by decide +kernel⟩, by simp, by decide +kernel⟩
    · rw [hsequence]
      decide
    rw [loopbackKernel, if_pos rfl]
    exact ⟨rfl, sends_loopbackRoute⟩
  rw [ip_route_exact hostX86 loopbackKernel loopback lookupCalls hserves, loopbackKernel, if_pos rfl]
  decide +kernel

end Networkrs
