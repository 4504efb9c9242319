import Networkrs.DumpEnding
import Networkrs.GenlMessage
/-!
# GenlClient — requests and replies on a generic-netlink socket

`Client` of `generic_netlink.rs`.  A request takes the next sequence number, is sent, and reads the socket: the
datagrams left unread by earlier requests first, then the kernel's replies to this one.  What a receive loop makes of a
datagram is decided by its items (`replyVerdict_of_none`, `replyVerdict_of_some`): the first item with an ending
fails it, and otherwise it adds its messages and completes a dump that it holds `NLMSG_DONE` of.
-/
namespace Networkrs

open Machine Framing Collect

/-- What `sendto` returns: how many bytes were sent, or an error. -/
inductive Sent where
  | bytes (n : Nat)
  | failed (errno : Int32)
  deriving DecidableEq, Repr

def sendMessage (sent : Sent) (message : Bytes) : Except IoError Unit :=
  match sent with
  | .failed errno => .error (.os errno)
  | .bytes n => if n ≠ message.length then .error (.custom .writeZero "incomplete generic netlink request") else .ok ()

structure Client where
  socket : Socket
  familyId : UInt16
  sequence : UInt32
  deriving DecidableEq, Repr

/-- One call of `Client::request`, with what the kernel does: whether it takes the request, and what it queues. -/
structure Exchange where
  command : UInt8
  version : UInt8
  dump : Bool
  attributes : List Attribute
  sent : Sent
  replies : Socket
  deriving DecidableEq, Repr

variable (host : Host)

def genericClosed : Text := "generic netlink socket closed"

def Client.connect (familyName : Text) (sent : Sent) (replies : Socket) : IoResult Client :=
  let name := (String.ofList familyName).toUTF8.toList ++ [0]
  let request := buildMessage host genlIdCtrl 1 ctrlCmdGetfamily 1 nlmFRequest
    [{ kind := ctrlAttrFamilyName, value := name }]
  match sendMessage sent request with
  | .error e => .err e
  | .ok () =>
    match receive bufferSize genericClosed replies with
    | (.waiting, _) => .waiting
    | (.panicked p, _) => .panicked p
    | (.err e, _) => .err e
    | (.ok response, unread) =>
      match parseMessages host response genlIdCtrl 1 with
      | .error p => .panicked p
      | .ok (.error e) => .err e
      | .ok (.ok messages) =>
        let familyId := (messages.flatMap (·.attributes)).findSome?
          (fun a => if a.kind = ctrlAttrFamilyId then nativeU16 host a.value else none)
        match familyId with
        | none =>
          .err (.custom .notFound ("generic netlink family " ++ familyName ++ " is unavailable"))
        | some familyId => .ok { socket := unread, familyId := familyId, sequence := 1 }

/-- One turn of the receive loop of `Client::request`. -/
def requestDatagram (familyId : UInt16) (sequence : UInt32) (dump : Bool) (messages : List Message)
    (response : Bytes) : Checked (Except IoError (Flow (List Message) (List Message))) := do
  match ← parseMessages host response familyId sequence with
  | .error e => return .error e
  | .ok parsed =>
    match ← responseHasDone host response sequence with
    | .error e => return .error e
    | .ok done =>
      if done || !dump then return .ok (.stop (messages ++ parsed)) else return .ok (.next (messages ++ parsed))

def receiveReplies (familyId : UInt16) (sequence : UInt32) (dump : Bool) (socket : Socket) :
    IoResult (List Message) × Socket :=
  receiveLoop bufferSize genericClosed (requestDatagram host familyId sequence dump) [] socket

def Client.requestMessage (client : Client) (x : Exchange) : Bytes :=
  let flags := nlmFRequest ||| if x.dump then nlmFDump else 0
  buildMessage host client.familyId (client.sequence + 1) x.command x.version flags x.attributes

def Client.request (client : Client) (x : Exchange) : IoResult (List Message) × Client :=
  let sequence := client.sequence + 1
  let queued := client.socket ++ x.replies
  match sendMessage x.sent (client.requestMessage host x) with
  | .error e => (.err e, { client with socket := queued, sequence := sequence })
  | .ok () =>
    let (result, unread) := receiveReplies host client.familyId sequence x.dump queued
    (result, { client with socket := unread, sequence := sequence })

/-! ## The items of a reply -/

/-- **How an item of a reply fails a request.** -/
def genericEnding (familyId : UInt16) (sequence : UInt32) : MessageItem → Option (Ending IoError)
  | .fault f => some (.failed (genericFault f))
  | .record header message =>
    if header.sequence ≠ sequence then none
    else if header.messageType = nlmsgError then
      match readI32 host message MessageHeader.size with
      | some error => if error ≠ 0 then some (errorEnding error) else none
      | none => some (.failed (.custom .invalidData "truncated generic netlink error"))
    else if header.messageType = nlmsgOverrun then some (.failed (.custom .other "generic netlink dump overran"))
    else if header.messageType = familyId then
      match parseGenericPayload host message with
      | .ok (.ok _) => none
      | .ok (.error e) => some (.failed e)
      | .error p => some (.panicked p)
    else none

/-- **The messages an item adds to a reply.** -/
def genericValues (familyId : UInt16) (sequence : UInt32) : MessageItem → List Message
  | .fault _ => []
  | .record header message =>
    if header.sequence = sequence ∧ header.messageType ≠ nlmsgError ∧ header.messageType ≠ nlmsgOverrun ∧
        header.messageType = familyId then
      match parseGenericPayload host message with
      | .ok (.ok parsed) => [parsed]
      | _ => []
    else []

def endedFlow (messages : List Message) : Ending IoError → Checked (Flow (List Message) IoError)
  | .complete => .ok (.next messages)
  | .failed e => .ok (.stop e)
  | .panicked p => .error p

def endedMessages : Ending IoError → Checked (Except IoError (List Message))
  | .complete => .ok (.ok [])
  | .failed e => .ok (.error e)
  | .panicked p => .error p

theorem genericStep_eq (familyId : UInt16) (sequence : UInt32) (messages : List Message) (i : MessageItem) :
    itemStep (genericStep host familyId sequence) (fun _ f => genericFault f) messages i =
      match genericEnding host familyId sequence i with
      | none => .ok (.next (messages ++ genericValues host familyId sequence i))
      | some e => endedFlow messages e := by
  cases i with
  | fault f => rfl
  | record header message =>
    unfold itemStep genericStep genericEnding genericValues
    by_cases hseq : header.sequence = sequence
    · simp only [hseq, ne_eq, not_true_eq_false, if_true, if_false, true_and]
      by_cases herror : header.messageType = nlmsgError
      · simp only [herror, if_true, parseError]
        cases readI32 host message MessageHeader.size with
        | none => rfl
        | some error =>
          by_cases h0 : error = 0
          · simp [h0, bind, Except.bind, pure, Except.pure]
          · simp only [h0, if_false, not_false_eq_true, if_true, rawOsError, errorEnding]
            cases i32Neg error <;> rfl
      · simp only [herror, if_false, not_false_eq_true, true_and]
        by_cases hoverrun : header.messageType = nlmsgOverrun
        · simp only [hoverrun, if_true]
          rfl
        · simp only [hoverrun, if_false, not_false_eq_true, true_and]
          by_cases htype : header.messageType = familyId
          · simp only [htype, if_true]
            cases parseGenericPayload host message with
            | error p => rfl
            | ok parsed => cases parsed <;> rfl
          · simp [htype, pure, Except.pure]
    · simp [hseq, pure, Except.pure]

theorem scan_genericStep_of_none (familyId : UInt16) (sequence : UInt32) : ∀ (is : List MessageItem)
    (messages : List Message), (∀ i ∈ is, genericEnding host familyId sequence i = none) →
    scan (itemStep (genericStep host familyId sequence) (fun _ f => genericFault f)) is messages =
      .ok (.next (messages ++ is.flatMap (genericValues host familyId sequence)))
  | [], messages, _ => by simp [scan]
  | i :: is, messages, h => by
    rw [scan, genericStep_eq, h i List.mem_cons_self]
    dsimp only
    rw [scan_genericStep_of_none familyId sequence is _ (fun x hx => h x (List.mem_cons_of_mem i hx)),
      List.flatMap_cons, List.append_assoc]

theorem parseMessages_of_none {familyId : UInt16} {sequence : UInt32} {response : Bytes}
    (h : ∀ i ∈ items (messageFormat host) response, genericEnding host familyId sequence i = none) :
    parseMessages host response familyId sequence =
      .ok (.ok ((items (messageFormat host) response).flatMap (genericValues host familyId sequence))) := by
  unfold parseMessages
  rw [walk_eq_scan, List.drop_zero, scan_genericStep_of_none host familyId sequence _ [] h]
  rfl

theorem scan_genericStep_of_some {familyId : UInt16} {sequence : UInt32} {i : MessageItem} {e : Ending IoError}
    (post : List MessageItem) (hi : genericEnding host familyId sequence i = some e) (he : e ≠ .complete) :
    ∀ (pre : List MessageItem) (messages : List Message),
      (∀ x ∈ pre, genericEnding host familyId sequence x = none) →
      scan (itemStep (genericStep host familyId sequence) (fun _ f => genericFault f)) (pre ++ i :: post) messages =
        endedFlow messages e
  | [], messages, _ => by
    rw [List.nil_append, scan, genericStep_eq, hi]
    cases e with
    | complete => exact absurd rfl he
    | failed e => rfl
    | panicked p => rfl
  | x :: pre, messages, h => by
    rw [List.cons_append, scan, genericStep_eq, h x List.mem_cons_self]
    dsimp only
    rw [scan_genericStep_of_some post hi he pre _ (fun y hy => h y (List.mem_cons_of_mem x hy))]
    cases e with
    | complete => exact absurd rfl he
    | failed e => rfl
    | panicked p => rfl

theorem genericEnding_ne_complete (familyId : UInt16) (sequence : UInt32) (i : MessageItem) :
    genericEnding host familyId sequence i ≠ some .complete := by
  intro h
  cases i with
  | fault f => cases h
  | record header message =>
    unfold genericEnding at h
    repeat' split at h
    all_goals first | cases h | exact errorEnding_ne_complete _ (Option.some.inj h)

theorem parseMessages_of_some {familyId : UInt16} {sequence : UInt32} {response : Bytes} {pre post : List MessageItem}
    {i : MessageItem} {e : Ending IoError} (hitems : items (messageFormat host) response = pre ++ i :: post)
    (hpre : ∀ x ∈ pre, genericEnding host familyId sequence x = none)
    (hi : genericEnding host familyId sequence i = some e) :
    parseMessages host response familyId sequence = endedMessages e := by
  have he : e ≠ .complete := fun h => genericEnding_ne_complete host familyId sequence i (by rw [hi, h])
  unfold parseMessages
  rw [walk_eq_scan, List.drop_zero, hitems, scan_genericStep_of_some host post hi he pre [] hpre]
  cases e with
  | complete => exact absurd rfl he
  | failed e => rfl
  | panicked p => rfl

theorem scan_completionStep (sequence : UInt32) : ∀ (is : List MessageItem), (∀ f, Item.fault f ∉ is) →
    scan (itemStep (completionStep sequence) (fun _ f => .error (completionFault f))) is () =
      if is.any (isDone sequence) then .ok (.stop (.ok true)) else .ok (.next ())
  | [], _ => rfl
  | .fault f :: is, h => absurd List.mem_cons_self (h f)
  | .record header message :: is, h => by
    have ih := scan_completionStep sequence is (fun f hf => h f (List.mem_cons_of_mem _ hf))
    rw [scan, itemStep, completionStep, List.any_cons, isDone]
    by_cases hdone : header.sequence = sequence ∧ header.messageType = nlmsgDone
    · simp [hdone, pure, Except.pure]
    · have hnot : (decide (header.sequence = sequence) && decide (header.messageType = nlmsgDone)) = false := by
        simpa [Bool.and_eq_false_iff, not_and_or] using hdone
      rw [if_neg hdone, hnot, Bool.false_or]
      exact ih

/-- In a reply that nothing fails, `response_has_done` looks for `NLMSG_DONE`. -/
theorem responseHasDone_of_none {familyId : UInt16} {sequence : UInt32} {response : Bytes}
    (h : ∀ i ∈ items (messageFormat host) response, genericEnding host familyId sequence i = none) :
    responseHasDone host response sequence =
      .ok (.ok ((items (messageFormat host) response).any (isDone sequence))) := by
  have hfault : ∀ f, Item.fault f ∉ items (messageFormat host) response := fun f hf => by
    have := h _ hf
    cases this
  unfold responseHasDone
  rw [walk_eq_scan, List.drop_zero, scan_completionStep sequence _ hfault]
  cases (items (messageFormat host) response).any (isDone sequence) <;> rfl

/-! ## The datagrams of a reply -/

/-- **The verdict of a request on a datagram.** -/
def replyVerdict (familyId : UInt16) (sequence : UInt32) (dump : Bool) (response : Bytes) : Verdict IoError Message :=
  match requestDatagram host familyId sequence dump [] response with
  | .error p => .panic p
  | .ok (.error e) => .reject e
  | .ok (.ok (.stop messages)) => .finish messages
  | .ok (.ok (.next messages)) => .keep messages

/-- A datagram that nothing fails adds its messages, and ends a dump that it completes. -/
theorem replyVerdict_of_none {familyId : UInt16} {sequence : UInt32} {response : Bytes} (dump : Bool)
    (h : ∀ i ∈ items (messageFormat host) response, genericEnding host familyId sequence i = none) :
    replyVerdict host familyId sequence dump response =
      if (items (messageFormat host) response).any (isDone sequence) || !dump then
        .finish ((items (messageFormat host) response).flatMap (genericValues host familyId sequence))
      else .keep ((items (messageFormat host) response).flatMap (genericValues host familyId sequence)) := by
  unfold replyVerdict requestDatagram
  rw [parseMessages_of_none host h, responseHasDone_of_none host h]
  cases (items (messageFormat host) response).any (isDone sequence) <;> cases dump <;> rfl

/-- A datagram is failed by its first item with an ending. -/
theorem replyVerdict_of_some {familyId : UInt16} {sequence : UInt32} {response : Bytes} (dump : Bool)
    {pre post : List MessageItem} {i : MessageItem} {e : Ending IoError}
    (hitems : items (messageFormat host) response = pre ++ i :: post)
    (hpre : ∀ x ∈ pre, genericEnding host familyId sequence x = none)
    (hi : genericEnding host familyId sequence i = some e) :
    replyVerdict host familyId sequence dump response = verdictOf (fun _ => some e) (fun _ => []) () := by
  have he : e ≠ .complete := fun h => genericEnding_ne_complete host familyId sequence i (by rw [hi, h])
  unfold replyVerdict requestDatagram
  rw [parseMessages_of_some host hitems hpre hi]
  cases e with
  | complete => exact absurd rfl he
  | failed e => rfl
  | panicked p => rfl

theorem requestDatagram_eq (familyId : UInt16) (sequence : UInt32) (dump : Bool) (messages : List Message)
    (response : Bytes) :
    requestDatagram host familyId sequence dump messages response =
      ofScan (scan (judgeStep (replyVerdict host familyId sequence dump)) [response] messages) := by
  unfold replyVerdict requestDatagram
  simp only [scan, judgeStep]
  cases parseMessages host response familyId sequence with
  | error p => rfl
  | ok parsed =>
    cases parsed with
    | error e => rfl
    | ok parsed =>
      cases responseHasDone host response sequence with
      | error p => rfl
      | ok result =>
        cases result with
        | error e => rfl
        | ok done => cases done <;> cases dump <;> rfl

theorem streamItems_singleton : ∀ (as : List (Except IoError Bytes)), streamItems (fun bytes => [bytes]) as = as
  | [] => rfl
  | a :: as => by
    rw [streamItems_cons, streamItems_singleton as]
    cases a <;> rfl

/-- **A request collects the datagrams it receives.** -/
theorem receiveReplies_eq_run (familyId : UInt16) (sequence : UInt32) (dump : Bool) (socket : Socket) :
    (receiveReplies host familyId sequence dump socket).1 =
      run (judgeStream (replyVerdict host familyId sequence dump)) (arrivals bufferSize genericClosed socket) := by
  have hstep := funext (fun messages => funext (requestDatagram_eq host familyId sequence dump messages))
  unfold receiveReplies
  rw [receiveLoop_eq_follow, hstep, follow_eq_run, Outcome.map_nil_append, streamItems_singleton]

/-! ## A dump and its last datagram -/

/-- A datagram that an ending decides, as the run over its items is. -/
theorem judge_replyVerdict_of_some {familyId : UInt16} {sequence : UInt32} {response : Bytes} (dump : Bool)
    {pre post : List MessageItem} {i : MessageItem} {e : Ending IoError} (rest : List (Except IoError Bytes))
    (hitems : items (messageFormat host) response = pre ++ i :: post)
    (hpre : ∀ x ∈ pre, genericEnding host familyId sequence x = none)
    (hi : genericEnding host familyId sequence i = some e) (held : List Message) :
    run (judgeStream (replyVerdict host familyId sequence dump)) (.ok response :: rest) = e.outcome held := by
  have he : e ≠ .complete := fun h => genericEnding_ne_complete host familyId sequence i (by rw [hi, h])
  rw [run, judgeStream, replyVerdict_of_some host dump hitems hpre hi]
  cases e with
  | complete => exact absurd rfl he
  | failed e => rfl
  | panicked p => rfl

theorem run_append_of_none {ι ε τ : Type} (ending : ι → Option (Ending ε)) (values : ι → List τ) {pre : List ι}
    (post : List ι) (h : ∀ x ∈ pre, ending x = none) :
    run (verdictOf ending values) (pre ++ post) =
      (run (verdictOf ending values) post).map (pre.flatMap values ++ ·) := by
  rw [run_append_of_keeps _ post pre (fun x hx => (verdictOf_keeps ending values x).2 (h x hx)),
    kept_verdictOf ending values pre h]

/-- **A dump ends with the first ending up to the end of the datagram that completes it**, or else with all messages up
to there. -/
theorem run_replies (familyId : UInt16) (sequence : UInt32) {last : Bytes} (rest : List (Except IoError Bytes))
    (hlast : (items (messageFormat host) last).any (isDone sequence) = true) : ∀ (as : List (Except IoError Bytes)),
    (∀ d, .ok d ∈ streamItems (items (messageFormat host)) as → isDone sequence d = false) →
    run (judgeStream (replyVerdict host familyId sequence true)) (as ++ .ok last :: rest) =
      (run (verdictOf (streamEnding (genericEnding host familyId sequence))
          (streamValues (genericValues host familyId sequence)))
        (streamItems (items (messageFormat host)) (as ++ [.ok last]))).orFinish
          ((streamItems (items (messageFormat host)) (as ++ [.ok last])).flatMap
            (streamValues (genericValues host familyId sequence)))
  | [], _ => by
    have hstream : streamItems (items (messageFormat host)) ([] ++ [.ok last]) =
        (items (messageFormat host) last).map .ok := by
      rw [List.nil_append, streamItems_cons]
      exact List.append_nil _
    rw [hstream, List.nil_append, ← judgeStream_verdictOf, run_map, List.flatMap_map]
    rcases exists_ending (genericEnding host familyId sequence) (items (messageFormat host) last) with
      hall | ⟨pre, i, e, post, hitems, hpre, hi⟩
    · rw [run, judgeStream, replyVerdict_of_none host true hall, hlast]
      have hrun := run_of_no_ending (genericEnding host familyId sequence) (genericValues host familyId sequence) hall
      exact (congrArg (Outcome.orFinish · _) hrun).symm
    · have hrun := run_of_ending (genericEnding host familyId sequence) (genericValues host familyId sequence) post
        hpre hi
      rw [judge_replyVerdict_of_some host true rest hitems hpre hi
        (pre.flatMap (genericValues host familyId sequence)), hitems]
      show _ = Outcome.orFinish (run (verdictOf (genericEnding host familyId sequence)
        (genericValues host familyId sequence)) (pre ++ i :: post)) _
      rw [hrun]
      cases e <;> rfl
  | .error e :: as, _ => rfl
  | .ok bytes :: as, h => by
    have hnone : ∀ d ∈ items (messageFormat host) bytes, isDone sequence d = false := fun d hd => by
      refine h d ?_
      rw [streamItems_cons]
      exact List.mem_append_left _ (List.mem_map_of_mem hd)
    have hrest : ∀ d, .ok d ∈ streamItems (items (messageFormat host)) as → isDone sequence d = false := fun d hd => by
      refine h d ?_
      rw [streamItems_cons]
      exact List.mem_append_right _ hd
    have ih := run_replies familyId sequence rest hlast as hrest
    rw [List.cons_append, List.cons_append, streamItems_cons]
    rcases exists_ending (genericEnding host familyId sequence) (items (messageFormat host) bytes) with
      hall | ⟨pre, i, e, post, hitems, hpre, hi⟩
    · have hany : (items (messageFormat host) bytes).any (isDone sequence) = false := by
        rw [List.any_eq_false]
        intro d hd
        simp [hnone d hd]
      have hall' : ∀ x ∈ (items (messageFormat host) bytes).map Except.ok,
          streamEnding (genericEnding host familyId sequence) x = none := fun x hx => by
        obtain ⟨i, hi, rfl⟩ := List.mem_map.1 hx
        exact hall i hi
      have hvalues : ((items (messageFormat host) bytes).map Except.ok).flatMap
          (streamValues (genericValues host familyId sequence)) =
          (items (messageFormat host) bytes).flatMap (genericValues host familyId sequence) := by
        rw [List.flatMap_map]
        rfl
      rw [run, judgeStream, replyVerdict_of_none host true hall, hany, run_append_of_none _ _ _ hall',
        List.flatMap_append, hvalues, ← Outcome.map_orFinish, ← ih]
      rfl
    · have hpre' : ∀ x ∈ pre.map Except.ok, streamEnding (genericEnding host familyId sequence) x = none :=
        fun x hx => by
          obtain ⟨y, hy, rfl⟩ := List.mem_map.1 hx
          exact hpre y hy
      have hi' : streamEnding (genericEnding host familyId sequence) (.ok i) = some e := hi
      have hrun := run_of_ending (streamEnding (genericEnding host familyId sequence))
        (streamValues (genericValues host familyId sequence))
        (post.map .ok ++ streamItems (items (messageFormat host)) (as ++ [.ok last])) hpre' hi'
      rw [judge_replyVerdict_of_some host true _ hitems hpre hi
        ((pre.map Except.ok).flatMap (streamValues (genericValues host familyId sequence)))]
      dsimp only
      rw [hitems, List.map_append, List.map_cons, List.append_assoc, List.cons_append, hrun]
      cases e <;> rfl

end Networkrs
