import Networkrs.Lib.Hearing
import Networkrs.NetlinkDump
/-!
# DumpEnding — how a route-netlink dump ends

A dump ends at the first item of its stream that has an ending (`dumpEnding`), with the records before it
(`dumpValues`).  `receive_dump` returns a table exactly when the first ending of its datagrams is a complete
`NLMSG_DONE` (`receiveDump_isOk_iff`); the loops over `parse_response` look for it in what they hear.  Two properties
follow: when a dump the kernel marks as interrupted fails, and when the separate loops agree with `receive_dump`.
-/
namespace Networkrs

open Machine Framing Collect

variable (host : Host) (expectedSequence : UInt32) (expectedType : UInt16) {T : Type}
variable (parse : Bytes → Checked (Option T))

def errorEnding (error : Int32) : Ending IoError :=
  match i32Neg error with
  | .ok code => .failed (.os code)
  | .error p => .panicked p

theorem errorEnding_ne_complete (error : Int32) : errorEnding error ≠ .complete := by
  unfold errorEnding
  cases i32Neg error <;> simp

/-- **How an item ends a route-netlink dump**, without error texts. -/
def dumpEnding : MessageItem → Option (Ending IoError)
  | .fault _ => some (.failed (.custom .invalidData []))
  | .record header message =>
    if header.sequence ≠ expectedSequence then none
    else if header.messageType = nlmsgDone then
      if header.flags &&& nlmFDumpIntr ≠ 0 then some (.failed (.custom .interrupted []))
      else
        match readI32 host message MessageHeader.size with
        | some error => if error ≠ 0 then some (errorEnding error) else some .complete
        | none => some .complete
    else if header.messageType = nlmsgError then
      match readI32 host message MessageHeader.size with
      | some error => if error ≠ 0 then some (errorEnding error) else none
      | none => some (.failed (.custom .invalidData []))
    else if header.messageType = nlmsgOverrun then some (.failed (.custom .other []))
    else if header.messageType = expectedType then
      match parse message with
      | .ok _ => none
      | .error p => some (.panicked p)
    else none

/-- The control messages a dump acts on itself. -/
def isControl (messageType : UInt16) : Bool :=
  messageType = nlmsgDone || messageType = nlmsgError || messageType = nlmsgOverrun

def parsedValues (message : Bytes) : List T :=
  match parse message with
  | .ok value => value.toList
  | .error _ => []

/-- **The records an item adds to a dump.** -/
def dumpValues : MessageItem → List T
  | .fault _ => []
  | .record header message =>
    if header.sequence = expectedSequence ∧ header.messageType = expectedType ∧
        isControl header.messageType = false then
      parsedValues parse message
    else []

theorem errorVerdict_textless (error : Int32) :
    (errorVerdict error : Verdict IoError T).mapErr IoError.textless =
      match errorEnding error with
      | .complete => .finish []
      | .failed e => .reject e
      | .panicked p => .panic p := by
  unfold errorVerdict errorEnding
  cases i32Neg error <;> rfl

theorem dumpJudge_textless (texts : DumpTexts) (i : MessageItem) :
    (dumpJudge host expectedSequence expectedType texts parse i).mapErr IoError.textless =
      verdictOf (dumpEnding host expectedSequence expectedType parse)
        (dumpValues expectedSequence expectedType parse) i := by
  cases i with
  | fault f => cases f <;> rfl
  | record header message =>
    unfold dumpJudge verdictOf dumpEnding dumpValues
    by_cases hseq : header.sequence = expectedSequence
    · simp only [hseq, ne_eq, not_true_eq_false, if_true, if_false, true_and]
      by_cases hdone : header.messageType = nlmsgDone
      · simp only [hdone, if_true, doneVerdict]
        by_cases hflag : header.flags &&& nlmFDumpIntr = 0
        · simp only [hflag, ne_eq, not_true_eq_false, if_false]
          cases readI32 host message MessageHeader.size with
          | none => rfl
          | some error =>
            by_cases h0 : error = 0
            · simp [h0, Verdict.mapErr]
            · simp only [h0, not_false_eq_true, if_true]
              rw [errorVerdict_textless]
              cases errorEnding error <;> rfl
        · simp only [hflag, ne_eq, not_false_eq_true, if_true]
          rfl
      · simp only [hdone, if_false]
        by_cases herror : header.messageType = nlmsgError
        · simp only [herror, if_true, acknowledgeVerdict]
          cases readI32 host message MessageHeader.size with
          | none => rfl
          | some error =>
            by_cases h0 : error = 0
            · simp [h0, Verdict.mapErr, isControl]
            · simp only [h0, if_false, not_false_eq_true, if_true]
              rw [errorVerdict_textless]
              cases errorEnding error <;> rfl
        · simp only [herror, if_false]
          by_cases hoverrun : header.messageType = nlmsgOverrun
          · simp only [hoverrun, if_true]
            rfl
          · simp only [hoverrun, if_false]
            by_cases htype : header.messageType = expectedType
            · rw [htype] at hdone herror hoverrun
              simp only [htype, if_true, recordVerdict, isControl, hdone, herror, hoverrun, parsedValues]
              cases parse message <;> simp [Verdict.mapErr]
            · simp [htype, Verdict.mapErr]
    · simp [hseq, Verdict.mapErr]

/-! ## Outcomes by endings -/

/-- **`receive_dump` ends at the first ending of its datagrams.** -/
theorem receiveDump_textless (name : Text) (socket : Socket) :
    (receiveDump host expectedSequence expectedType name parse socket).1.mapErr IoError.textless =
      run (judgeStream (verdictOf (dumpEnding host expectedSequence expectedType parse)
        (dumpValues expectedSequence expectedType parse))) (received host [] socket) := by
  rw [receiveDump_eq_run, run_textless, received, streamItems_textless, arrivals_textless]
  have hjudge := funext (dumpJudge_textless host expectedSequence expectedType parse (dumpTexts name))
  rw [hjudge]
  rfl

/-- **A loop over `parse_response` ends at the first ending it hears.** -/
theorem responseLoop_textless (closed : Text) (texts : DumpTexts) (socket : Socket) :
    (responseLoop closed (fun response values =>
        parseDumpResponse host expectedType texts parse response expectedSequence values)
        socket).1.mapErr IoError.textless =
      run (judgeStream (verdictOf (dumpEnding host expectedSequence expectedType parse)
        (dumpValues expectedSequence expectedType parse))) (receivedHeard host expectedSequence [] socket) := by
  rw [responseLoop_eq_run, run_textless, receivedHeard, streamItems_textless, arrivals_textless]
  have hjudge := funext (dumpJudge_textless host expectedSequence expectedType parse texts)
  rw [hjudge]
  rfl

/-- **A stream ends complete**: `NLMSG_DONE` without error or interruption is its first ending. -/
def EndsComplete (stream : List (Except IoError MessageItem)) : Prop :=
  ∃ (pre : List MessageItem) (done : MessageItem) (post : List (Except IoError MessageItem)),
    stream = pre.map .ok ++ .ok done :: post ∧
    (∀ i ∈ pre, dumpEnding host expectedSequence expectedType parse i = none) ∧
    dumpEnding host expectedSequence expectedType parse done = some .complete

theorem isOk_iff_endsComplete {o : IoResult (List T)} {stream : List (Except IoError MessageItem)}
    (h : o.mapErr IoError.textless = run (judgeStream (verdictOf (dumpEnding host expectedSequence expectedType parse)
      (dumpValues expectedSequence expectedType parse))) stream) :
    o.IsOk ↔ EndsComplete host expectedSequence expectedType parse stream := by
  constructor
  · rintro ⟨values, rfl⟩
    obtain ⟨pre, done, post, hstream, hpre, hdone, -⟩ := (run_judgeStream_eq_ok_iff _ _ _ _).1 h.symm
    exact ⟨pre, done, post, hstream, hpre, hdone⟩
  · rintro ⟨pre, done, post, hstream, hpre, hdone⟩
    have hrun := (run_judgeStream_eq_ok_iff _ (dumpValues expectedSequence expectedType parse) _ _).2
      ⟨pre, done, post, hstream, hpre, hdone, rfl⟩
    exact ⟨_, (Outcome.mapErr_eq_ok_iff IoError.textless o _).1 (h.trans hrun)⟩

theorem receiveDump_isOk_iff (name : Text) (socket : Socket) :
    (receiveDump host expectedSequence expectedType name parse socket).1.IsOk ↔
      EndsComplete host expectedSequence expectedType parse (received host [] socket) :=
  isOk_iff_endsComplete host _ _ parse (receiveDump_textless host _ _ parse name socket)

theorem neighborsLoop_isOk_iff (socket : Socket) :
    (neighborsLoop host expectedSequence socket).1.IsOk ↔
      EndsComplete host expectedSequence rtmNewneigh (parseNeighbor host false)
        (receivedHeard host expectedSequence [] socket) :=
  isOk_iff_endsComplete host _ _ _ (responseLoop_textless host _ _ _ _ neighborTexts socket)

theorem addressesLoop_isOk_iff (socket : Socket) :
    (addressesLoop host expectedSequence socket).1.IsOk ↔
      EndsComplete host expectedSequence rtmNewaddr (parseAddress host)
        (receivedHeard host expectedSequence [] socket) :=
  isOk_iff_endsComplete host _ _ _ (responseLoop_textless host _ _ _ _ addressTexts socket)

/-! ## Interrupted dumps -/

/-- A message with the sequence number of the dump that the kernel marked as interrupted. -/
def isMarked : MessageItem → Bool
  | .fault _ => false
  | .record header _ => header.sequence = expectedSequence && header.flags &&& nlmFDumpIntr ≠ 0

def isDone : MessageItem → Bool
  | .fault _ => false
  | .record header _ => header.sequence = expectedSequence && header.messageType = nlmsgDone

/-- **A stream is marked as interrupted**: on a message up to and including the first `NLMSG_DONE`. -/
def MarkedInterrupted (stream : List (Except IoError MessageItem)) : Prop :=
  ∃ (pre : List (Except IoError MessageItem)) (m : MessageItem) (post : List (Except IoError MessageItem)),
    stream = pre ++ .ok m :: post ∧ isMarked expectedSequence m = true ∧
    ∀ d, .ok d ∈ pre → isDone expectedSequence d = false

theorem not_isDone_of_passed {i : MessageItem} (h : dumpEnding host expectedSequence expectedType parse i = none) :
    isDone expectedSequence i = false := by
  cases i with
  | fault f => rfl
  | record header message =>
    unfold dumpEnding at h
    unfold isDone
    by_cases hseq : header.sequence = expectedSequence
    · simp only [hseq, ne_eq, not_true_eq_false, if_false] at h
      by_cases hdone : header.messageType = nlmsgDone
      · simp only [hdone, if_true] at h
        repeat' split at h
        all_goals cases h
      · simp [hdone]
    · simp [hseq]

/-- A complete end is `NLMSG_DONE`, and not marked as interrupted. -/
theorem of_complete {i : MessageItem}
    (h : dumpEnding host expectedSequence expectedType parse i = some .complete) :
    isDone expectedSequence i = true ∧ isMarked expectedSequence i = false := by
  cases i with
  | fault f => cases h
  | record header message =>
    unfold dumpEnding at h
    unfold isDone isMarked
    by_cases hseq : header.sequence = expectedSequence
    · simp only [hseq, ne_eq, not_true_eq_false, if_false] at h
      by_cases hdone : header.messageType = nlmsgDone
      · simp only [hdone, if_true] at h
        by_cases hflag : header.flags &&& nlmFDumpIntr = 0
        · simp [hseq, hdone, hflag]
        · simp [hflag] at h
      · simp only [hdone, if_false] at h
        repeat' split at h
        all_goals first | cases h | exact absurd (Option.some.inj h) (errorEnding_ne_complete _)
    · simp [hseq] at h

/-- In a stream that ends complete, a mark stands on a message the dump passed over. -/
theorem exists_marked_of_endsComplete {stream : List (Except IoError MessageItem)} {pre : List MessageItem}
    {done : MessageItem} {post : List (Except IoError MessageItem)} (hstream : stream = pre.map .ok ++ .ok done :: post)
    (hdone : dumpEnding host expectedSequence expectedType parse done = some .complete)
    (hmarked : MarkedInterrupted expectedSequence stream) : ∃ m ∈ pre, isMarked expectedSequence m = true := by
  obtain ⟨before, m, after, hsplit, hm, hbefore⟩ := hmarked
  obtain ⟨hisDone, hunmarked⟩ := of_complete host expectedSequence expectedType parse hdone
  rw [hstream] at hsplit
  rcases List.append_eq_append_iff.1 hsplit with ⟨mid, rfl, htail⟩ | ⟨mid, hpre, htail⟩
  · cases mid with
    | nil =>
      simp only [List.nil_append, List.cons.injEq, Except.ok.injEq] at htail
      rw [← htail.1, hunmarked] at hm
      cases hm
    | cons x mid =>
      simp only [List.cons_append, List.cons.injEq] at htail
      have := hbefore done (by rw [htail.1]; simp)
      rw [hisDone] at this
      cases this
  · cases mid with
    | nil =>
      simp only [List.nil_append, List.cons.injEq, Except.ok.injEq] at htail
      rw [htail.1, hunmarked] at hm
      cases hm
    | cons x mid =>
      simp only [List.cons_append, List.cons.injEq] at htail
      have hmem : (Except.ok m : Except IoError MessageItem) ∈ pre.map Except.ok := by
        rw [hpre, htail.1]
        simp
      obtain ⟨m', hm', heq⟩ := List.mem_map.1 hmem
      cases heq
      exact ⟨m, hm', hm⟩

theorem markedInterrupted_of_mem {pre : List MessageItem} {m : MessageItem}
    (post : List (Except IoError MessageItem))
    (hpre : ∀ i ∈ pre, dumpEnding host expectedSequence expectedType parse i = none) (hm : m ∈ pre)
    (hmarked : isMarked expectedSequence m = true) :
    MarkedInterrupted expectedSequence (pre.map .ok ++ post) := by
  obtain ⟨before, after, rfl⟩ := List.append_of_mem hm
  refine ⟨before.map .ok, m, after.map .ok ++ post, by simp, hmarked, fun d hd => ?_⟩
  obtain ⟨d', hd', heq⟩ := List.mem_map.1 hd
  cases heq
  exact not_isDone_of_passed host expectedSequence expectedType parse (hpre d (List.mem_append_left _ hd'))

/-- **When an interrupted dump fails.**  A dump over `receive_dump` that the kernel marks as interrupted fails exactly
when no message it passes over before a complete `NLMSG_DONE` is marked; the neighbor and address dumps exactly when
what they hear does not end complete, or the stream is not marked. -/
theorem interrupted_dumps_fail_iff (socket : Socket) :
    (∀ (T : Type) (expectedSequence : UInt32) (expectedType : UInt16) (name : Text)
      (parse : Bytes → Checked (Option T)),
      (MarkedInterrupted expectedSequence (received host [] socket) →
          ¬ (receiveDump host expectedSequence expectedType name parse socket).1.IsOk) ↔
        ∀ (pre : List MessageItem) (done : MessageItem) (post : List (Except IoError MessageItem)),
          received host [] socket = pre.map .ok ++ .ok done :: post →
          (∀ i ∈ pre, dumpEnding host expectedSequence expectedType parse i = none) →
          dumpEnding host expectedSequence expectedType parse done = some .complete →
          ∀ m ∈ pre, isMarked expectedSequence m = false) ∧
    (∀ expectedSequence : UInt32,
      (MarkedInterrupted expectedSequence (received host [] socket) →
          ¬ (neighborsLoop host expectedSequence socket).1.IsOk) ↔
        (EndsComplete host expectedSequence rtmNewneigh (parseNeighbor host false)
            (receivedHeard host expectedSequence [] socket) →
          ¬ MarkedInterrupted expectedSequence (received host [] socket))) ∧
    (∀ expectedSequence : UInt32,
      (MarkedInterrupted expectedSequence (received host [] socket) →
          ¬ (addressesLoop host expectedSequence socket).1.IsOk) ↔
        (EndsComplete host expectedSequence rtmNewaddr (parseAddress host)
            (receivedHeard host expectedSequence [] socket) →
          ¬ MarkedInterrupted expectedSequence (received host [] socket))) := by
  refine ⟨fun T seq type name parse => ?_, fun seq => ?_, fun seq => ?_⟩
  · rw [receiveDump_isOk_iff]
    constructor
    · intro h pre done post hstream hpre hdone m hm
      by_contra hmarked
      simp only [Bool.not_eq_false] at hmarked
      refine h ?_ ⟨pre, done, post, hstream, hpre, hdone⟩
      rw [hstream]
      exact markedInterrupted_of_mem host seq type parse _ hpre hm hmarked
    · rintro h hmarked ⟨pre, done, post, hstream, hpre, hdone⟩
      obtain ⟨m, hm, hm'⟩ := exists_marked_of_endsComplete host seq type parse hstream hdone hmarked
      rw [h pre done post hstream hpre hdone m hm] at hm'
      cases hm'
  · rw [neighborsLoop_isOk_iff]
    exact ⟨fun h hends hmarked => h hmarked hends, fun h hmarked hends => h hends hmarked⟩
  · rw [addressesLoop_isOk_iff]
    exact ⟨fun h hends hmarked => h hmarked hends, fun h hmarked hends => h hends hmarked⟩

def markedRouteDump : Bytes :=
  MessageHeader.bytes hostX86 ⟨28, rtmNewroute, nlmFDumpIntr, routeDumpSequence, 0⟩ ++
    [2, 24, 0, 0, 254, 3, 0, 1, 0, 0, 0, 0] ++ MessageHeader.bytes hostX86 ⟨16, nlmsgDone, 0, routeDumpSequence, 0⟩

/-- A marked dump is returned as a table. -/
theorem marked_route_dump_succeeds :
    MarkedInterrupted routeDumpSequence (received hostX86 [] [.datagram markedRouteDump]) ∧
      ∃ routes, (receiveDump hostX86 routeDumpSequence rtmNewroute "route" (parseRoute hostX86)
        [.datagram markedRouteDump]).1 = .ok routes ∧ routes.length = 1 := by
  constructor
  · have hreceived : received hostX86 [] [.datagram markedRouteDump] =
        [.ok (.record ⟨28, rtmNewroute, nlmFDumpIntr, routeDumpSequence, 0⟩ (markedRouteDump.take 28)),
          .ok (.record ⟨16, nlmsgDone, 0, routeDumpSequence, 0⟩ (markedRouteDump.drop 28))] := by
      decide +kernel
    rw [hreceived]
    exact ⟨[], _, _, rfl, by decide, fun d hd => by cases hd⟩
  · exact ⟨[⟨.v4 (Ipv4Addr.new 0 0 0 0), 24, none, none, none, none, none, 254, "boot", "global", "unicast",
      []⟩], by decide +kernel⟩

/-! ## Agreement of the separate loops with `receive_dump` -/

/-- The items of a datagram, tagged with whether `parse_response` reads them. -/
def hearing : List MessageItem → List (MessageItem × Bool)
  | [] => []
  | i :: is =>
    if isAcknowledgement host expectedSequence i then (i, true) :: is.map (fun i => (i, false))
    else (i, true) :: hearing is

theorem whole_hearing : ∀ (is : List MessageItem), whole (hearing host expectedSequence is) = is
  | [] => rfl
  | i :: is => by
    rw [hearing]
    split
    · simp [whole, Function.comp_def]
    · rw [whole_cons, whole_hearing is]

theorem heardOf_hearing : ∀ (is : List MessageItem),
    heardOf (hearing host expectedSequence is) = heard host expectedSequence is
  | [] => rfl
  | i :: is => by
    rw [hearing, heard]
    split
    · rw [heardOf_cons, if_pos rfl]
      simp [heardOf]
    · rw [heardOf_cons, if_pos rfl, heardOf_hearing is]

def arrivalHearing : Except IoError Bytes → List (Except IoError MessageItem × Bool)
  | .error e => [(.error e, true)]
  | .ok bytes =>
    (hearing host expectedSequence (items (messageFormat host) bytes)).map (fun x => (.ok x.1, x.2))

/-- **The items a socket delivers**, tagged with whether the loops over `parse_response` read them. -/
def receivedHearing (socket : Socket) : List (Except IoError MessageItem × Bool) :=
  (arrivals bufferSize [] socket).flatMap (arrivalHearing host expectedSequence)

theorem whole_flatMap_arrivalHearing : ∀ (as : List (Except IoError Bytes)),
    whole (as.flatMap (arrivalHearing host expectedSequence)) = streamItems (items (messageFormat host)) as
  | [] => rfl
  | a :: as => by
    rw [List.flatMap_cons, whole_append, whole_flatMap_arrivalHearing as, streamItems_cons]
    cases a with
    | error e => rfl
    | ok bytes =>
      have h := whole_hearing host expectedSequence (items (messageFormat host) bytes)
      unfold whole at h
      simp only [arrivalHearing, whole, List.map_map, Function.comp_def]
      conv => rhs; rw [← h]
      rw [List.map_map]
      rfl

theorem heardOf_flatMap_arrivalHearing : ∀ (as : List (Except IoError Bytes)),
    heardOf (as.flatMap (arrivalHearing host expectedSequence)) =
      streamItems (fun bytes => heard host expectedSequence (items (messageFormat host) bytes)) as
  | [] => rfl
  | a :: as => by
    rw [List.flatMap_cons, heardOf_append, heardOf_flatMap_arrivalHearing as, streamItems_cons]
    cases a with
    | error e => rfl
    | ok bytes =>
      have h := heardOf_hearing host expectedSequence (items (messageFormat host) bytes)
      unfold heardOf at h
      dsimp only
      rw [← h, List.map_map]
      simp only [arrivalHearing, heardOf, List.filter_map, List.map_map]
      rfl

theorem agree_iff_hearsEnough {o o' : IoResult (List T)} {socket : Socket}
    (ho : o.mapErr IoError.textless =
      run (judgeStream (verdictOf (dumpEnding host expectedSequence expectedType parse)
        (dumpValues expectedSequence expectedType parse))) (receivedHeard host expectedSequence [] socket))
    (ho' : o'.mapErr IoError.textless =
      run (judgeStream (verdictOf (dumpEnding host expectedSequence expectedType parse)
        (dumpValues expectedSequence expectedType parse))) (received host [] socket)) :
    o.mapErr IoError.textless = o'.mapErr IoError.textless ↔
      HearsEnough (streamEnding (dumpEnding host expectedSequence expectedType parse))
        (streamValues (dumpValues expectedSequence expectedType parse))
        (receivedHearing host expectedSequence socket) := by
  rw [ho, ho', judgeStream_verdictOf, ← run_heard_eq_iff, receivedHearing, whole_flatMap_arrivalHearing,
    heardOf_flatMap_arrivalHearing]
  rfl

/-- **When the neighbor and address loops agree with `receive_dump`**: exactly when they hear enough of the stream. -/
theorem separate_loops_agree_iff (expectedSequence : UInt32) (socket : Socket) :
    (∀ name : Text,
      (neighborsLoop host expectedSequence socket).1.mapErr IoError.textless =
          (receiveDump host expectedSequence rtmNewneigh name (parseNeighbor host false) socket).1.mapErr
            IoError.textless ↔
        HearsEnough (streamEnding (dumpEnding host expectedSequence rtmNewneigh (parseNeighbor host false)))
          (streamValues (dumpValues expectedSequence rtmNewneigh (parseNeighbor host false)))
          (receivedHearing host expectedSequence socket)) ∧
    (∀ name : Text,
      (addressesLoop host expectedSequence socket).1.mapErr IoError.textless =
          (receiveDump host expectedSequence rtmNewaddr name (parseAddress host) socket).1.mapErr IoError.textless ↔
        HearsEnough (streamEnding (dumpEnding host expectedSequence rtmNewaddr (parseAddress host)))
          (streamValues (dumpValues expectedSequence rtmNewaddr (parseAddress host)))
          (receivedHearing host expectedSequence socket)) := by
  refine ⟨fun name => ?_, fun name => ?_⟩
  · exact agree_iff_hearsEnough host _ _ _ (responseLoop_textless host _ _ _ _ neighborTexts socket)
      (receiveDump_textless host _ _ _ name socket)
  · exact agree_iff_hearsEnough host _ _ _ (responseLoop_textless host _ _ _ _ addressTexts socket)
      (receiveDump_textless host _ _ _ name socket)

def acknowledgedDump : Bytes :=
  MessageHeader.bytes hostX86 ⟨20, nlmsgError, 0, requestSequence, 0⟩ ++ [0, 0, 0, 0] ++
    MessageHeader.bytes hostX86 ⟨16, nlmsgDone, 0, requestSequence, 0⟩

/-- The neighbor loop waits for ever on a dump that `receive_dump` completes. -/
theorem acknowledged_neighbor_dump_waits :
    (neighborsLoop hostX86 requestSequence [.datagram acknowledgedDump]).1 = .waiting ∧
      (receiveDump hostX86 requestSequence rtmNewneigh "neighbor" (parseNeighbor hostX86 false)
        [.datagram acknowledgedDump]).1 = .ok [] := by
  constructor <;> decide +kernel

end Networkrs
