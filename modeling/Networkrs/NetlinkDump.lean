import Networkrs.Records
/-!
# NetlinkDump — the route-netlink dump loops

`receive_dump` of `netlink.rs`, which routes, rules and links are read with, and the two loops the source keeps apart:
`neighbors` over `parse_response`, and `addresses_for_family` over `parse_address_response`.  Each loop is what its
code computes, and each is connected to a run of `dumpJudge`, the verdict on one message: `receive_dump` over all the
items of its datagrams (`receiveDump_eq_run`), the other two over the items they hear (`responseLoop_eq_run`), because
they drop what follows an acknowledgement in its datagram.
-/
namespace Networkrs

open Machine Framing Collect

def rtmNewaddr : UInt16 := 20
def rtmNewroute : UInt16 := 24
def rtmNewneigh : UInt16 := 28
def rtmNewrule : UInt16 := 32

def requestSequence : UInt32 := 1
def routeDumpSequence : UInt32 := 4

structure DumpTexts where
  truncatedHeader : Text
  invalidLength : Text
  interrupted : Text
  overrun : Text
  deriving DecidableEq, Repr

def DumpTexts.fault (texts : DumpTexts) : Fault → IoError
  | .truncatedHeader => .custom .invalidData texts.truncatedHeader
  | .invalidLength => .custom .invalidData texts.invalidLength

variable (host : Host) {T : Type}

/-- The `NLMSG_DONE` arm of the loops. -/
def finishDump (texts : DumpTexts) (header : MessageHeader) (message : Bytes) (values : List T) :
    Checked (Except IoError (List T)) :=
  if header.flags &&& nlmFDumpIntr ≠ 0 then return .error (.custom .interrupted texts.interrupted)
  else
    match readI32 host message MessageHeader.size with
    | some error => if error ≠ 0 then rawOsError error else return .ok values
    | none => return .ok values

def parseNetlinkError (message : Bytes) : Checked (Except IoError Unit) :=
  parseError host "truncated netlink error" message

/-! ## `receive_dump` -/

/-- The texts of `receive_dump` for a dump of the given name. -/
def dumpTexts (name : Text) : DumpTexts where
  truncatedHeader := "truncated " ++ name ++ " header"
  invalidLength := "invalid " ++ name ++ " message length"
  interrupted := name ++ " table changed during the netlink dump"
  overrun := "netlink " ++ name ++ " dump overran the receive buffer"

def dumpStep (expectedSequence : UInt32) (expectedType : UInt16) (texts : DumpTexts)
    (parse : Bytes → Checked (Option T)) (values : List T) (header : MessageHeader) (message : Bytes) :
    Checked (Flow (List T) (Except IoError (List T))) :=
  if header.sequence = expectedSequence then
    if header.messageType = nlmsgDone then do
      return .stop (← finishDump host texts header message values)
    else if header.messageType = nlmsgError then do
      match ← parseNetlinkError host message with
      | .error e => return .stop (.error e)
      | .ok () => return .next values
    else if header.messageType = nlmsgOverrun then
      return .stop (.error (.custom .other texts.overrun))
    else if header.messageType = expectedType then do
      match ← parse message with
      | some value => return .next (values ++ [value])
      | none => return .next values
    else return .next values
  else return .next values

def receiveDump (expectedSequence : UInt32) (expectedType : UInt16) (name : Text)
    (parse : Bytes → Checked (Option T)) (socket : Socket) : IoResult (List T) × Socket :=
  receiveLoop bufferSize "netlink socket closed"
    (fun values received => ofScan
      (walk (messageFormat host) (dumpStep host expectedSequence expectedType (dumpTexts name) parse)
        (fun _ f => .error ((dumpTexts name).fault f)) received 0 values))
    [] socket

/-! ## `parse_response` and `parse_address_response` -/

/-- One message in `parse_response`: an acknowledgement ends the datagram without ending the dump. -/
def responseStep (expectedSequence : UInt32) (expectedType : UInt16) (texts : DumpTexts)
    (parse : Bytes → Checked (Option T)) (values : List T) (header : MessageHeader) (message : Bytes) :
    Checked (Flow (List T) (Except IoError (Bool × List T))) :=
  if header.sequence = expectedSequence then
    if header.messageType = nlmsgDone then do
      match ← finishDump host texts header message values with
      | .error e => return .stop (.error e)
      | .ok values => return .stop (.ok (true, values))
    else if header.messageType = nlmsgError then do
      match ← parseNetlinkError host message with
      | .error e => return .stop (.error e)
      | .ok () => return .stop (.ok (false, values))
    else if header.messageType = nlmsgOverrun then
      return .stop (.error (.custom .other texts.overrun))
    else if header.messageType = expectedType then do
      match ← parse message with
      | some value => return .next (values ++ [value])
      | none => return .next values
    else return .next values
  else return .next values

def parseDumpResponse (expectedType : UInt16) (texts : DumpTexts) (parse : Bytes → Checked (Option T))
    (response : Bytes) (expectedSequence : UInt32) (values : List T) : Checked (Except IoError (Bool × List T)) := do
  let step := responseStep host expectedSequence expectedType texts parse
  match ← walk (messageFormat host) step (fun _ f => .error (texts.fault f)) response 0 values with
  | .stop result => return result
  | .next values => return .ok (false, values)

def neighborTexts : DumpTexts where
  truncatedHeader := "truncated netlink header"
  invalidLength := "invalid netlink message length"
  interrupted := "neighbor table changed during the netlink dump"
  overrun := "netlink neighbor dump overran the receive buffer"

def parseResponse (response : Bytes) (expectedSequence : UInt32) (neighbors : List Neighbor) :
    Checked (Except IoError (Bool × List Neighbor)) :=
  parseDumpResponse host rtmNewneigh neighborTexts (parseNeighbor host false) response expectedSequence neighbors

def addressTexts : DumpTexts where
  truncatedHeader := "truncated address dump header"
  invalidLength := "invalid address dump message length"
  interrupted := "address table changed during the netlink dump"
  overrun := "netlink address dump overran the receive buffer"

def parseAddressResponse (response : Bytes) (expectedSequence : UInt32) (addresses : List Address) :
    Checked (Except IoError (Bool × List Address)) :=
  parseDumpResponse host rtmNewaddr addressTexts (parseAddress host) response expectedSequence addresses

/-- `loop { .. if parse_response(..)? { break } }`. -/
def responseLoop (closed : Text) (parseResponse : Bytes → List T → Checked (Except IoError (Bool × List T)))
    (socket : Socket) : IoResult (List T) × Socket :=
  receiveLoop bufferSize closed
    (fun values received => do
      match ← parseResponse received values with
      | .error e => return .error e
      | .ok (true, values) => return .ok (.stop values)
      | .ok (false, values) => return .ok (.next values))
    [] socket

/-- The loop of `neighbors`, for the sequence number it was sent with. -/
def neighborsLoop (expectedSequence : UInt32) (socket : Socket) : IoResult (List Neighbor) × Socket :=
  responseLoop "netlink socket closed before the dump completed"
    (fun response neighbors => parseResponse host response expectedSequence neighbors) socket

def addressesLoop (expectedSequence : UInt32) (socket : Socket) : IoResult (List Address) × Socket :=
  responseLoop "netlink socket closed"
    (fun response addresses => parseAddressResponse host response expectedSequence addresses) socket

/-! ## The verdict on a message -/

abbrev MessageItem := Item UInt8 MessageHeader

def errorVerdict (error : Int32) : Verdict IoError T :=
  match i32Neg error with
  | .ok code => .reject (.os code)
  | .error p => .panic p

def recordVerdict (parse : Bytes → Checked (Option T)) (message : Bytes) : Verdict IoError T :=
  match parse message with
  | .ok value => .keep value.toList
  | .error p => .panic p

def doneVerdict (texts : DumpTexts) (header : MessageHeader) (message : Bytes) : Verdict IoError T :=
  if header.flags &&& nlmFDumpIntr ≠ 0 then .reject (.custom .interrupted texts.interrupted)
  else
    match readI32 host message MessageHeader.size with
    | some error => if error ≠ 0 then errorVerdict error else .finish []
    | none => .finish []

def acknowledgeVerdict (truncated : Text) (message : Bytes) : Verdict IoError T :=
  match readI32 host message MessageHeader.size with
  | none => .reject (.custom .invalidData truncated)
  | some error => if error = 0 then .keep [] else errorVerdict error

/-- **The verdict of a route-netlink dump on an item.** -/
def dumpJudge (expectedSequence : UInt32) (expectedType : UInt16) (texts : DumpTexts)
    (parse : Bytes → Checked (Option T)) : MessageItem → Verdict IoError T
  | .fault f => .reject (texts.fault f)
  | .record header message =>
    if header.sequence = expectedSequence then
      if header.messageType = nlmsgDone then doneVerdict host texts header message
      else if header.messageType = nlmsgError then acknowledgeVerdict host "truncated netlink error" message
      else if header.messageType = nlmsgOverrun then .reject (.custom .other texts.overrun)
      else if header.messageType = expectedType then recordVerdict parse message
      else .keep []
    else .keep []

/-- The items of the datagrams a loop receives, with the failures of its receives. -/
def received (closed : Text) (socket : Socket) : List (Except IoError MessageItem) :=
  streamItems (items (messageFormat host)) (arrivals bufferSize closed socket)

theorem doneVerdict_keeps (texts : DumpTexts) (header : MessageHeader) (message : Bytes) :
    (doneVerdict host texts header message : Verdict IoError T).keeps = false := by
  unfold doneVerdict errorVerdict
  repeat' split
  all_goals rfl

/-- The `NLMSG_DONE` arm returns what the verdict on it closes the dump with. -/
theorem finishDump_eq (texts : DumpTexts) (header : MessageHeader) (message : Bytes) (values : List T) :
    finishDump host texts header message values =
      match (doneVerdict host texts header message : Verdict IoError T) with
      | .keep records => .ok (.ok (values ++ records))
      | .finish records => .ok (.ok (values ++ records))
      | .reject e => .ok (.error e)
      | .panic p => .error p := by
  unfold finishDump doneVerdict rawOsError errorVerdict
  split
  · rfl
  · cases readI32 host message MessageHeader.size with
    | none => simp [pure, Except.pure]
    | some error =>
      by_cases h : error = 0
      · simp [h, pure, Except.pure]
      · simp only [ne_eq, h, not_false_eq_true, if_true]
        cases i32Neg error <;> rfl

/-- The `NLMSG_ERROR` arm goes on exactly after an acknowledgement. -/
theorem parseError_eq (truncated : Text) (message : Bytes) :
    parseError host truncated message =
      match (acknowledgeVerdict host truncated message : Verdict IoError T) with
      | .keep _ => .ok (.ok ())
      | .finish _ => .ok (.ok ())
      | .reject e => .ok (.error e)
      | .panic p => .error p := by
  unfold parseError acknowledgeVerdict rawOsError errorVerdict
  cases readI32 host message MessageHeader.size with
  | none => rfl
  | some error =>
    by_cases h : error = 0
    · simp [h, pure, Except.pure]
    · simp only [h, if_false]
      cases i32Neg error <;> rfl

theorem acknowledgeVerdict_keep {truncated : Text} {message : Bytes} {records : List T}
    (h : acknowledgeVerdict host truncated message = .keep records) : records = [] := by
  unfold acknowledgeVerdict errorVerdict at h
  split at h
  · cases h
  · split at h
    · cases h
      rfl
    · split at h <;> cases h

theorem acknowledgeVerdict_finish (truncated : Text) (message : Bytes) (records : List T) :
    acknowledgeVerdict host truncated message ≠ .finish records := by
  intro h
  unfold acknowledgeVerdict errorVerdict at h
  repeat' split at h
  all_goals cases h

/-- **`receive_dump` takes each message by its verdict.** -/
theorem dumpStep_eq (expectedSequence : UInt32) (expectedType : UInt16) (texts : DumpTexts)
    (parse : Bytes → Checked (Option T)) (values : List T) (header : MessageHeader) (message : Bytes) :
    dumpStep host expectedSequence expectedType texts parse values header message =
      judgeStep (dumpJudge host expectedSequence expectedType texts parse) values (.record header message) := by
  unfold dumpStep judgeStep dumpJudge
  by_cases hseq : header.sequence = expectedSequence
  · simp only [hseq, if_true]
    by_cases hdone : header.messageType = nlmsgDone
    · simp only [hdone, if_true]
      have hkeeps := doneVerdict_keeps (T := T) host texts header message
      rw [finishDump_eq]
      cases hv : (doneVerdict host texts header message : Verdict IoError T) with
      | keep records => rw [hv] at hkeeps; cases hkeeps
      | finish records => rfl
      | reject e => rfl
      | panic p => rfl
    · simp only [hdone, if_false]
      by_cases herror : header.messageType = nlmsgError
      · simp only [herror, if_true]
        rw [parseNetlinkError, parseError_eq (T := T)]
        cases hv : (acknowledgeVerdict host "truncated netlink error" message : Verdict IoError T) with
        | keep records =>
          obtain rfl := acknowledgeVerdict_keep host hv
          simp [bind, Except.bind, pure, Except.pure]
        | finish records => exact absurd hv (acknowledgeVerdict_finish host _ message records)
        | reject e => rfl
        | panic p => rfl
      · simp only [herror, if_false]
        by_cases hoverrun : header.messageType = nlmsgOverrun
        · simp only [hoverrun, if_true]
          rfl
        · simp only [hoverrun, if_false]
          by_cases htype : header.messageType = expectedType
          · simp only [htype, if_true, recordVerdict]
            cases parse message with
            | error p => rfl
            | ok value => cases value <;> simp [bind, Except.bind, pure, Except.pure]
          · simp [htype, pure, Except.pure]
  · simp [hseq, pure, Except.pure]

theorem itemStep_dumpStep (expectedSequence : UInt32) (expectedType : UInt16) (texts : DumpTexts)
    (parse : Bytes → Checked (Option T)) (values : List T) (i : MessageItem) :
    itemStep (dumpStep host expectedSequence expectedType texts parse) (fun _ f => .error (texts.fault f)) values i =
      judgeStep (dumpJudge host expectedSequence expectedType texts parse) values i := by
  cases i with
  | fault f => rfl
  | record header message => exact dumpStep_eq host expectedSequence expectedType texts parse values header message

/-- **`receive_dump` collects the items of its datagrams.** -/
theorem receiveDump_eq_run (expectedSequence : UInt32) (expectedType : UInt16) (name : Text)
    (parse : Bytes → Checked (Option T)) (socket : Socket) :
    (receiveDump host expectedSequence expectedType name parse socket).1 =
      run (judgeStream (dumpJudge host expectedSequence expectedType (dumpTexts name) parse))
        (received host "netlink socket closed" socket) := by
  have hscan : ∀ values bytes,
      walk (messageFormat host) (dumpStep host expectedSequence expectedType (dumpTexts name) parse)
          (fun _ f => .error ((dumpTexts name).fault f)) bytes 0 values =
        scan (judgeStep (dumpJudge host expectedSequence expectedType (dumpTexts name) parse))
          (items (messageFormat host) bytes) values := by
    intro values bytes
    rw [walk_eq_scan, List.drop_zero]
    exact scan_congr (fun values i _ => itemStep_dumpStep host _ _ _ parse values i) values
  unfold receiveDump received
  rw [receiveLoop_eq_follow]
  simp only [hscan]
  rw [follow_eq_run, Outcome.map_nil_append]

/-! ## What the other loops hear -/

/-- An acknowledgement: `NLMSG_ERROR` with code zero and the sequence number of the dump. -/
def isAcknowledgement (expectedSequence : UInt32) : MessageItem → Bool
  | .fault _ => false
  | .record header message =>
    header.sequence = expectedSequence && header.messageType = nlmsgError &&
      readI32 host message MessageHeader.size = some 0

/-- The items of a datagram that `parse_response` reads: up to the first acknowledgement. -/
def heard (expectedSequence : UInt32) : List MessageItem → List MessageItem
  | [] => []
  | i :: is => if isAcknowledgement host expectedSequence i then [i] else i :: heard expectedSequence is

def receivedHeard (expectedSequence : UInt32) (closed : Text) (socket : Socket) :
    List (Except IoError MessageItem) :=
  streamItems (fun bytes => heard host expectedSequence (items (messageFormat host) bytes))
    (arrivals bufferSize closed socket)

/-- The result of `parse_response` as a step of the loop around it. -/
def ofResponse : Checked (Flow (List T) (Except IoError (Bool × List T))) →
    Checked (Except IoError (Flow (List T) (List T)))
  | .error p => .error p
  | .ok (.stop (.error e)) => .ok (.error e)
  | .ok (.stop (.ok (true, values))) => .ok (.ok (.stop values))
  | .ok (.stop (.ok (false, values))) => .ok (.ok (.next values))
  | .ok (.next values) => .ok (.ok (.next values))

/-- What a step of `receive_dump` is in `parse_response`. -/
def asResponse : Checked (Flow (List T) (Except IoError (List T))) →
    Checked (Flow (List T) (Except IoError (Bool × List T)))
  | .error p => .error p
  | .ok (.next values) => .ok (.next values)
  | .ok (.stop (.ok values)) => .ok (.stop (.ok (true, values)))
  | .ok (.stop (.error e)) => .ok (.stop (.error e))

/-- The two receivers take every message alike but an acknowledgement. -/
theorem responseStep_eq_dumpStep (expectedSequence : UInt32) (expectedType : UInt16) (texts : DumpTexts)
    (parse : Bytes → Checked (Option T)) (values : List T) (header : MessageHeader) (message : Bytes) :
    responseStep host expectedSequence expectedType texts parse values header message =
      if isAcknowledgement host expectedSequence (.record header message) then .ok (.stop (.ok (false, values)))
      else asResponse (dumpStep host expectedSequence expectedType texts parse values header message) := by
  unfold responseStep dumpStep isAcknowledgement
  by_cases hseq : header.sequence = expectedSequence
  · simp only [hseq, if_true, decide_true, Bool.true_and]
    by_cases hdone : header.messageType = nlmsgDone
    · have hnot : nlmsgDone ≠ nlmsgError := by decide
      simp only [hdone, hnot, if_true, decide_false, Bool.false_and, Bool.false_eq_true, if_false]
      cases finishDump host texts header message values with
      | error p => rfl
      | ok result => cases result <;> rfl
    · by_cases herror : header.messageType = nlmsgError
      · have hnot : nlmsgError ≠ nlmsgDone := by decide
        simp only [herror, hnot, if_true, if_false, decide_true, Bool.true_and, parseNetlinkError, parseError]
        cases readI32 host message MessageHeader.size with
        | none => rfl
        | some error =>
          by_cases h0 : error = 0
          · simp only [h0, decide_true, if_true]
            rfl
          · simp only [h0, Option.some.injEq, decide_false, Bool.false_eq_true, if_false, rawOsError]
            cases i32Neg error <;> rfl
      · simp only [hdone, herror, if_false, decide_false, Bool.false_and, Bool.false_eq_true]
        by_cases hoverrun : header.messageType = nlmsgOverrun
        · simp only [hoverrun, if_true]
          rfl
        · simp only [hoverrun, if_false]
          by_cases htype : header.messageType = expectedType
          · simp only [htype, if_true]
            cases parse message with
            | error p => rfl
            | ok value => cases value <;> rfl
          · simp only [htype, if_false]
            rfl
  · simp only [hseq, if_false, decide_false, Bool.false_and, Bool.false_eq_true]
    rfl

theorem dumpJudge_of_isAcknowledgement {expectedSequence : UInt32} (expectedType : UInt16) (texts : DumpTexts)
    (parse : Bytes → Checked (Option T)) {i : MessageItem} (h : isAcknowledgement host expectedSequence i = true) :
    dumpJudge host expectedSequence expectedType texts parse i = .keep [] := by
  cases i with
  | fault f => cases h
  | record header message =>
    simp only [isAcknowledgement, Bool.and_eq_true, decide_eq_true_eq] at h
    obtain ⟨⟨hseq, herror⟩, hread⟩ := h
    simp [dumpJudge, hseq, herror, acknowledgeVerdict, hread, nlmsgError, nlmsgDone]

theorem responseStep_eq (expectedSequence : UInt32) (expectedType : UInt16) (texts : DumpTexts)
    (parse : Bytes → Checked (Option T)) (values : List T) (header : MessageHeader) (message : Bytes) :
    responseStep host expectedSequence expectedType texts parse values header message =
      match dumpJudge host expectedSequence expectedType texts parse (.record header message) with
      | .keep records =>
        if isAcknowledgement host expectedSequence (.record header message) then .ok (.stop (.ok (false, values)))
        else .ok (.next (values ++ records))
      | .finish records => .ok (.stop (.ok (true, values ++ records)))
      | .reject e => .ok (.stop (.error e))
      | .panic p => .error p := by
  rw [responseStep_eq_dumpStep, dumpStep_eq, judgeStep]
  by_cases hack : isAcknowledgement host expectedSequence (.record header message) = true
  · rw [dumpJudge_of_isAcknowledgement host expectedType texts parse hack, if_pos hack]
    exact (if_pos hack).symm
  · rw [if_neg hack]
    cases dumpJudge host expectedSequence expectedType texts parse (.record header message) with
    | keep records => exact (if_neg hack).symm
    | finish records => rfl
    | reject e => rfl
    | panic p => rfl

/-- **`parse_response` reads what it hears by the verdicts of `receive_dump`.** -/
theorem scan_responseStep (expectedSequence : UInt32) (expectedType : UInt16) (texts : DumpTexts)
    (parse : Bytes → Checked (Option T)) : ∀ (is : List MessageItem) (values : List T),
    ofResponse (scan (itemStep (responseStep host expectedSequence expectedType texts parse)
        (fun _ f => .error (texts.fault f))) is values) =
      ofScan (scan (judgeStep (dumpJudge host expectedSequence expectedType texts parse))
        (heard host expectedSequence is) values)
  | [], values => rfl
  | .fault f :: is, values => rfl
  | .record header message :: is, values => by
    have ih := scan_responseStep expectedSequence expectedType texts parse is
    rw [scan, itemStep, responseStep_eq, heard]
    by_cases hack : isAcknowledgement host expectedSequence (.record header message) = true
    · have hjudge := dumpJudge_of_isAcknowledgement host expectedType texts parse hack
      simp only [hack, if_true, hjudge, scan, judgeStep, List.append_nil]
      rfl
    · simp only [hack, Bool.false_eq_true, if_false, scan, judgeStep]
      cases hv : dumpJudge host expectedSequence expectedType texts parse (.record header message) with
      | keep records => exact ih (values ++ records)
      | finish records => rfl
      | reject e => rfl
      | panic p => rfl

/-- **The loops over `parse_response` collect the items they hear.** -/
theorem responseLoop_eq_run (closed : Text) (expectedSequence : UInt32) (expectedType : UInt16) (texts : DumpTexts)
    (parse : Bytes → Checked (Option T)) (socket : Socket) :
    (responseLoop closed (fun response values =>
        parseDumpResponse host expectedType texts parse response expectedSequence values) socket).1 =
      run (judgeStream (dumpJudge host expectedSequence expectedType texts parse))
        (receivedHeard host expectedSequence closed socket) := by
  have hstep : ∀ (values : List T) bytes,
      (do match ← parseDumpResponse host expectedType texts parse bytes expectedSequence values with
          | .error e => return .error e
          | .ok (true, values) => return .ok (.stop values)
          | .ok (false, values) => return .ok (.next values) : Checked (Except IoError (Flow (List T) (List T)))) =
        ofScan (scan (judgeStep (dumpJudge host expectedSequence expectedType texts parse))
          (heard host expectedSequence (items (messageFormat host) bytes)) values) := by
    intro values bytes
    rw [← scan_responseStep, parseDumpResponse, walk_eq_scan, List.drop_zero]
    cases scan (itemStep (responseStep host expectedSequence expectedType texts parse)
        (fun _ f => .error (texts.fault f))) (items (messageFormat host) bytes) values with
    | error p => rfl
    | ok flow =>
      cases flow with
      | next values => rfl
      | stop result =>
        cases result with
        | error e => rfl
        | ok pair =>
          obtain ⟨done, values⟩ := pair
          cases done <;> rfl
  unfold responseLoop receivedHeard
  rw [receiveLoop_eq_follow]
  simp only [hstep]
  rw [follow_eq_run, Outcome.map_nil_append]

end Networkrs
