import Networkrs.DumpEnding
/-!
# Events — multicast notifications, and the loop that hands them over

`parse_events` reads a datagram of notifications: link, address, route and neighbor messages are events, messages of
other types and messages their parser skips are none, and a kernel error, an overrun or a broken length ends the
datagram with an error (`eventEnding`).  `watch_events` parses each datagram it receives and then hands its events to
the handler.  Two properties follow: how the events of a datagram are made up of those of its parts, and which events
the handler has seen when the loop fails.
-/
namespace Networkrs

open Machine Framing Collect

def rtmNewlink : UInt16 := 16
def rtmDellink : UInt16 := 17
def rtmDeladdr : UInt16 := 21
def rtmDelroute : UInt16 := 25
def rtmDelneigh : UInt16 := 29

inductive NetworkEvent where
  | link (removed : Bool) (interfaceIndex : Int32) (name : Option Text) (up : Bool)
  | address (removed : Bool) (interfaceIndex : Int32) (address : IpAddr) (prefixLength : UInt8)
  | route (removed : Bool) (route : Route)
  | neighbor (removed : Bool) (neighbor : Neighbor)
  deriving DecidableEq, Repr

variable (host : Host)

def parseLinkEvent (message : Bytes) (removed : Bool) : Checked (Option NetworkEvent) := do
  match ← parseLink host message with
  | none => return none
  | some link =>
    return some (.link removed link.interfaceIndex (some link.name)
      ((splitAll '|' link.flags).any (fun flag => flag = ("up" : Text))))

def parseAddressEvent (message : Bytes) (removed : Bool) : Checked (Option NetworkEvent) := do
  match ← parseAddress host message with
  | none => return none
  | some address => return some (.address removed address.interfaceIndex address.local address.prefixLength)

def parseRouteEvent (message : Bytes) (removed : Bool) : Checked (Option NetworkEvent) := do
  match ← parseRoute host message with
  | none => return none
  | some route => return some (.route removed route)

/-- `parse_neighbor(message, removed).map(|neighbor| NetworkEvent::Neighbor { .. })`. -/
def parseNeighborEvent (message : Bytes) (removed : Bool) : Checked (Option NetworkEvent) := do
  match ← parseNeighbor host removed message with
  | none => return none
  | some neighbor => return some (.neighbor removed neighbor)

/-- The arms of `parse_events` that parse a message. -/
def messageEvent (messageType : UInt16) (message : Bytes) : Checked (Option NetworkEvent) :=
  if messageType = rtmNewlink then parseLinkEvent host message false
  else if messageType = rtmDellink then parseLinkEvent host message true
  else if messageType = rtmNewaddr then parseAddressEvent host message false
  else if messageType = rtmDeladdr then parseAddressEvent host message true
  else if messageType = rtmNewroute then parseRouteEvent host message false
  else if messageType = rtmDelroute then parseRouteEvent host message true
  else if messageType = rtmNewneigh then parseNeighborEvent host message false
  else if messageType = rtmDelneigh then parseNeighborEvent host message true
  else return none

def eventFault : Fault → IoError
  | .truncatedHeader => .custom .invalidData "truncated netlink event header"
  | .invalidLength => .custom .invalidData "invalid netlink event length"

def eventStep (events : List NetworkEvent) (header : MessageHeader) (message : Bytes) :
    Checked (Flow (List NetworkEvent) (Except IoError (List NetworkEvent))) :=
  if header.messageType = nlmsgError then do
    match ← parseNetlinkError host message with
    | .error e => return .stop (.error e)
    | .ok () => return .next events
  else if header.messageType = nlmsgOverrun then
    return .stop (.error (.custom .other "netlink event receive buffer overrun"))
  else do
    match ← messageEvent host header.messageType message with
    | some event => return .next (events ++ [event])
    | none => return .next events

def parseEvents (response : Bytes) : Checked (Except IoError (List NetworkEvent)) := do
  match ← walk (messageFormat host) (eventStep host) (fun _ f => .error (eventFault f)) response 0 [] with
  | .stop result => return result
  | .next events => return .ok events

/-! ## `watch_events` -/

section

variable {σ : Type} (handler : σ → NetworkEvent → σ)

/-- `watch_events` on its socket, with what its handler makes of the events: the loop has no `Ok`. -/
def watchEvents (s : σ) (socket : Socket) : σ × IoResult Empty :=
  match _h : receive bufferSize "netlink event socket closed" socket with
  | (.ok received, rest) =>
    match parseEvents host received with
    | .error p => (s, .panicked p)
    | .ok (.error e) => (s, .err e)
    | .ok (.ok events) => watchEvents (events.foldl handler s) rest
  | (.err e, _) => (s, .err e)
  | (.panicked p, _) => (s, .panicked p)
  | (.waiting, _) => (s, .waiting)
termination_by socket.length
decreasing_by exact receive_shrinks bufferSize _ socket rest received _h

theorem watchEvents_eq (s : σ) (socket : Socket) :
    watchEvents host handler s socket =
      match receive bufferSize "netlink event socket closed" socket with
      | (.ok received, rest) =>
        match parseEvents host received with
        | .error p => (s, .panicked p)
        | .ok (.error e) => (s, .err e)
        | .ok (.ok events) => watchEvents host handler (events.foldl handler s) rest
      | (.err e, _) => (s, .err e)
      | (.panicked p, _) => (s, .panicked p)
      | (.waiting, _) => (s, .waiting) := by
  conv => lhs; rw [watchEvents]
  generalize receive bufferSize "netlink event socket closed" socket = received
  rcases received with ⟨outcome, rest⟩
  cases outcome <;> rfl

end

/-! ## The record parsers return -/

theorem ReadsRecords.isOk {T : Type} {parse : Bytes → Checked (Option T)} {own : Bytes → Bool} {offset : Nat}
    (h : ReadsRecords host parse own offset) (message : Bytes) : ∃ record, parse message = .ok record := by
  cases hown : own message with
  | false => exact ⟨none, h.of_other message hown⟩
  | true =>
    cases hattributes : attributesIn host (message.drop offset) with
    | none => exact ⟨none, h.of_malformed message hown hattributes⟩
    | some l =>
      obtain ⟨record, hrecord⟩ := h.of_wellFormed message hown (by rw [hattributes]; rfl)
      exact ⟨some record, hrecord⟩

theorem parseLinkInfo_isOk (value : Bytes) : ∃ info, parseLinkInfo host value = .ok info := by
  unfold parseLinkInfo
  simp only [attributesFromOffset_eq, ok_bind]
  cases attributesIn host (value.drop 0) with
  | none => exact ⟨none, rfl⟩
  | some l =>
    dsimp only
    cases firstValue l iflaInfoData with
    | none => exact ⟨_, rfl⟩
    | some data => exact ⟨_, rfl⟩

theorem parseLink_isOk (message : Bytes) : ∃ link, parseLink host message = .ok link := by
  unfold parseLink
  simp only [attributes_eq, attributesFromOffset_eq, ok_bind]
  cases (getFrom message MessageHeader.size).bind (LinkMessage.read host) with
  | none => exact ⟨none, rfl⟩
  | some link =>
    dsimp only
    cases attributesIn host (message.drop (alignTo4 (MessageHeader.size + LinkMessage.size))) with
    | none => exact ⟨none, rfl⟩
    | some l =>
      dsimp only
      cases findString l iflaIfname with
      | none => exact ⟨none, rfl⟩
      | some name =>
        cases hinfo : firstValue l iflaLinkinfo with
        | none => cases firstValue l iflaPropList <;> exact ⟨_, rfl⟩
        | some value =>
          obtain ⟨info, hvalue⟩ := parseLinkInfo_isOk host value
          simp only [hvalue, ok_bind]
          cases firstValue l iflaPropList <;> exact ⟨_, rfl⟩

theorem parseAddress_isOk (message : Bytes) : ∃ address, parseAddress host message = .ok address := by
  unfold parseAddress
  simp only [attributes_eq, ok_bind]
  cases (getFrom message MessageHeader.size).bind (AddressMessage.read host) with
  | none => exact ⟨none, rfl⟩
  | some address =>
    dsimp only
    split
    · exact ⟨none, rfl⟩
    · cases attributesIn host (message.drop (alignTo4 (MessageHeader.size + AddressMessage.size))) with
      | none => exact ⟨none, rfl⟩
      | some l =>
        dsimp only
        cases (findValue l ifaLocal (ipFromBytes address.family)).or
          (findValue l ifaAddress (ipFromBytes address.family)) <;> exact ⟨_, rfl⟩

theorem parseNeighbor_isOk (removed : Bool) (message : Bytes) :
    ∃ neighbor, parseNeighbor host removed message = .ok neighbor := by
  unfold parseNeighbor
  cases (getFrom message MessageHeader.size).bind (NeighborMessage.read host) with
  | none => exact ⟨none, rfl⟩
  | some neighbor =>
    have hstep : ∀ (read : NeighborAttributes), ∀ i ∈ items (attributeFormat host)
        (message.drop (alignTo4 (MessageHeader.size + NeighborMessage.size))),
        ∃ flow, itemStep (setNeighborAttribute host neighbor.family) (fun _ _ => ()) read i = .ok flow := by
      intro read i hi
      cases i with
      | fault f => exact ⟨_, rfl⟩
      | record header body =>
        obtain ⟨-, -, hsize⟩ := mem_items_record (attributeFormat host) _ hi
        simp only [itemStep, setNeighborAttribute, sliceFrom_eq body (i := AttributeHeader.size) hsize]
        exact ⟨_, rfl⟩
    obtain ⟨flow, hflow⟩ := scan_of_next hstep .none
    dsimp only
    split
    · exact ⟨none, rfl⟩
    · rw [walk_eq_scan, hflow, ok_bind]
      cases flow with
      | stop r => exact ⟨none, rfl⟩
      | next read =>
        dsimp only
        split
        · exact ⟨none, rfl⟩
        · cases read.address <;> exact ⟨_, rfl⟩

/-- **What a message is parsed by**: the parser of its type, with `removed` for the types that remove. -/
theorem messageEvent_cases {messageType : UInt16} {message : Bytes} {P : Checked (Option NetworkEvent) → Prop}
    (link : ∀ removed, messageType = (if removed then rtmDellink else rtmNewlink) →
      P (parseLinkEvent host message removed))
    (address : ∀ removed, messageType = (if removed then rtmDeladdr else rtmNewaddr) →
      P (parseAddressEvent host message removed))
    (route : ∀ removed, messageType = (if removed then rtmDelroute else rtmNewroute) →
      P (parseRouteEvent host message removed))
    (neighbor : ∀ removed, messageType = (if removed then rtmDelneigh else rtmNewneigh) →
      P (parseNeighborEvent host message removed))
    (other : P (.ok none)) : P (messageEvent host messageType message) := by
  unfold messageEvent
  split
  · next htype => exact link false htype
  split
  · next htype => exact link true htype
  split
  · next htype => exact address false htype
  split
  · next htype => exact address true htype
  split
  · next htype => exact route false htype
  split
  · next htype => exact route true htype
  split
  · next htype => exact neighbor false htype
  split
  · next htype => exact neighbor true htype
  · exact other

theorem messageEvent_isOk (messageType : UInt16) (message : Bytes) :
    ∃ event, messageEvent host messageType message = .ok event := by
  refine messageEvent_cases host (P := fun result => ∃ event, result = .ok event) (fun removed _ => ?_)
    (fun removed _ => ?_) (fun removed _ => ?_) (fun removed _ => ?_) ⟨none, rfl⟩
  · obtain ⟨link, hlink⟩ := parseLink_isOk host message
    rw [parseLinkEvent, hlink, ok_bind]
    cases link <;> exact ⟨_, rfl⟩
  · obtain ⟨address, haddress⟩ := parseAddress_isOk host message
    rw [parseAddressEvent, haddress, ok_bind]
    cases address <;> exact ⟨_, rfl⟩
  · obtain ⟨route, hroute⟩ := (parseRoute_reads host).isOk host message
    rw [parseRouteEvent, hroute, ok_bind]
    cases route <;> exact ⟨_, rfl⟩
  · obtain ⟨neighbor, hneighbor⟩ := parseNeighbor_isOk host removed message
    rw [parseNeighborEvent, hneighbor, ok_bind]
    cases neighbor <;> exact ⟨_, rfl⟩

/-! ## What a datagram of notifications holds -/

/-- **How an item ends a datagram of notifications.** -/
def eventEnding : MessageItem → Option (Ending IoError)
  | .fault f => some (.failed (eventFault f))
  | .record header message =>
    if header.messageType = nlmsgError then
      match readI32 host message MessageHeader.size with
      | none => some (.failed (.custom .invalidData "truncated netlink error"))
      | some error => if error = 0 then none else some (errorEnding error)
    else if header.messageType = nlmsgOverrun then
      some (.failed (.custom .other "netlink event receive buffer overrun"))
    else none

/-- The event of a message, if its type has one and its parser takes it. -/
def recordEvent (header : MessageHeader) (message : Bytes) : Option NetworkEvent :=
  match messageEvent host header.messageType message with
  | .ok event => event
  | .error _ => none

def eventValues : MessageItem → List NetworkEvent
  | .fault _ => []
  | .record header message => (recordEvent host header message).toList

theorem messageEvent_eq (header : MessageHeader) (message : Bytes) :
    messageEvent host header.messageType message = .ok (recordEvent host header message) := by
  obtain ⟨event, hevent⟩ := messageEvent_isOk host header.messageType message
  rw [recordEvent, hevent]

theorem itemStep_eventStep (events : List NetworkEvent) (i : MessageItem) :
    itemStep (eventStep host) (fun _ f => .error (eventFault f)) events i =
      judgeStep (verdictOf (eventEnding host) (eventValues host)) events i := by
  cases i with
  | fault f => rfl
  | record header message =>
    unfold itemStep eventStep judgeStep verdictOf eventEnding
    dsimp only
    by_cases herror : header.messageType = nlmsgError
    · have hvalues : eventValues host (.record header message) = [] := by
        rw [eventValues, recordEvent, herror]
        rfl
      simp only [herror, if_true, hvalues, parseNetlinkError, parseError]
      cases readI32 host message MessageHeader.size with
      | none => rfl
      | some error =>
        dsimp only
        by_cases h0 : error = 0
        · rw [if_pos h0, if_pos h0]
          dsimp only
          rw [List.append_nil]
          rfl
        · rw [if_neg h0, if_neg h0, rawOsError, errorEnding]
          cases i32Neg error <;> rfl
    · by_cases hoverrun : header.messageType = nlmsgOverrun
      · simp only [hoverrun, if_true]
        rfl
      · simp only [herror, hoverrun, if_false, messageEvent_eq, ok_bind, eventValues]
        cases recordEvent host header message with
        | none =>
          rw [Option.toList_none, List.append_nil]
          rfl
        | some event => rfl

/-- What a datagram parses to at an ending, with the events before it. -/
def endedEvents (events : List NetworkEvent) : Ending IoError → Checked (Except IoError (List NetworkEvent))
  | .complete => .ok (.ok events)
  | .failed e => .ok (.error e)
  | .panicked p => .error p

theorem parseEvents_eq_scan (response : Bytes) :
    parseEvents host response = (do
      match ← scan (judgeStep (verdictOf (eventEnding host) (eventValues host)))
        (items (messageFormat host) response) [] with
      | .stop result => return result
      | .next events => return .ok events) := by
  rw [parseEvents, walk_eq_scan, List.drop_zero,
    scan_congr (fun events i _ => itemStep_eventStep host events i)]

/-- **A datagram without an ending parses to the events of its messages**, in their order. -/
theorem parseEvents_of_no_ending {response : Bytes}
    (h : ∀ i ∈ items (messageFormat host) response, eventEnding host i = none) :
    parseEvents host response = .ok (.ok ((items (messageFormat host) response).flatMap (eventValues host))) := by
  have hscan := scan_of_no_ending (eventEnding host) (eventValues host) [] _ [] h
  rw [List.append_nil, List.nil_append] at hscan
  rw [parseEvents_eq_scan, hscan]
  rfl

/-- **A datagram with an ending parses to its first ending.** -/
theorem parseEvents_of_ending {response : Bytes} {pre post : List MessageItem} {i : MessageItem} {e : Ending IoError}
    (hitems : items (messageFormat host) response = pre ++ i :: post) (hpre : ∀ x ∈ pre, eventEnding host x = none)
    (hi : eventEnding host i = some e) :
    parseEvents host response = endedEvents (pre.flatMap (eventValues host)) e := by
  rw [parseEvents_eq_scan, hitems, scan_of_no_ending (eventEnding host) (eventValues host) _ pre [] hpre,
    List.nil_append, scan, judgeStep, verdictOf, hi]
  cases e with
  | complete =>
    dsimp only
    rw [List.append_nil]
    rfl
  | failed error => rfl
  | panicked p => rfl

end Networkrs
