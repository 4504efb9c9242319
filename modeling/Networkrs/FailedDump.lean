import Networkrs.GenlClient
import Networkrs.SockDiag
/-!
# FailedDump — dumps that the kernel reports as failed

The kernel reports a failed dump in its `NLMSG_DONE`, by an error code or by the interruption mark.  The receivers of
`sock_diag.rs` and `generic_netlink.rs` do not look at either: with such a message they fail only when something else
fails them up to it (`failed_dumps_fail_iff`).
-/
namespace Networkrs

open Machine Framing Collect

variable (host : Host)

/-- `NLMSG_DONE` with an error code, or with the interruption mark. -/
def isFailedDone (sequence : UInt32) : MessageItem → Bool
  | .fault _ => false
  | .record header message =>
    isDone sequence (.record header message) &&
      (header.flags &&& nlmFDumpIntr ≠ 0 || (readI32 host message MessageHeader.size).getD 0 ≠ 0)

/-- **The first `NLMSG_DONE` of a dump**: the item `done` of the datagram `bytes`, after the items `pre` of it and the
arrivals `before`. -/
structure FirstDone (sequence : UInt32) (as before : List (Except IoError Bytes)) (bytes : Bytes)
    (pre : List MessageItem) (done : MessageItem) : Prop where
  arrival : ∃ after, as = before ++ .ok bytes :: after
  before_not : ∀ d, .ok d ∈ streamItems (items (messageFormat host)) before → isDone sequence d = false
  item : ∃ post, items (messageFormat host) bytes = pre ++ done :: post
  pre_not : ∀ d ∈ pre, isDone sequence d = false
  isDone_done : isDone sequence done = true

theorem diagnosticEnding_of_isDone (protocol : Protocol) {sequence : UInt32} {i : MessageItem}
    (h : isDone sequence i = true) : diagnosticEnding host protocol sequence i = some .complete := by
  cases i with
  | fault f => cases h
  | record header message =>
    simp only [isDone, Bool.and_eq_true, decide_eq_true_eq] at h
    simp [diagnosticEnding, h.1, h.2]

theorem isDone_of_diagnosticEnding {protocol : Protocol} {sequence : UInt32} {i : MessageItem}
    (h : diagnosticEnding host protocol sequence i = some .complete) : isDone sequence i = true := by
  cases i with
  | fault f => cases h
  | record header message =>
    unfold diagnosticEnding at h
    unfold isDone
    by_cases hseq : header.sequence = sequence
    · simp only [hseq, ne_eq, not_true_eq_false, if_false] at h
      by_cases hdone : header.messageType = nlmsgDone
      · simp [hseq, hdone]
      · simp only [hdone, if_false] at h
        repeat' split at h
        all_goals first | cases h | exact absurd (Option.some.inj h) (errorEnding_ne_complete _)
    · simp [hseq] at h

def sockDiagClosed : Text := "socket diagnostic netlink socket closed"

/-- A diagnostic dump fails exactly when something fails it before its `NLMSG_DONE`. -/
theorem sockDiagDump_isErr_iff (protocol : Protocol) {sequence : UInt32} {socket : Socket}
    {before : List (Except IoError Bytes)} {bytes : Bytes} {pre : List MessageItem} {done : MessageItem}
    (h : FirstDone host sequence (arrivals bufferSize sockDiagClosed socket) before bytes pre done) :
    (SockDiag.receiveDump host protocol sequence socket).1.IsErr ↔
      FailsFirst (streamEnding (diagnosticEnding host protocol sequence))
        (streamItems (items (messageFormat host)) before ++ pre.map .ok) := by
  obtain ⟨after, harrivals⟩ := h.arrival
  obtain ⟨post, hitems⟩ := h.item
  have hdone : streamEnding (diagnosticEnding host protocol sequence) (.ok done) = some .complete :=
    diagnosticEnding_of_isDone host protocol h.isDone_done
  have hstream : received host sockDiagClosed socket =
      (streamItems (items (messageFormat host)) before ++ pre.map .ok) ++
        .ok done :: (post.map .ok ++ streamItems (items (messageFormat host)) after) := by
    rw [received, harrivals, streamItems_append, streamItems_cons]
    simp only [hitems, List.map_append, List.map_cons, List.append_assoc, List.cons_append]
  rw [sockDiagDump_eq_run, judgeStream_verdictOf]
  show (run _ (received host sockDiagClosed socket)).IsErr ↔ _
  rw [hstream]
  exact run_isErr_iff_of_complete _ _ _ hdone

/-- A generic-netlink dump fails exactly when it is not sent, or something fails it up to the end of the datagram of
its `NLMSG_DONE`. -/
theorem request_isErr_iff (client : Client) (x : Exchange) (hdump : x.dump = true)
    {before : List (Except IoError Bytes)} {bytes : Bytes} {pre : List MessageItem} {done : MessageItem}
    (h : FirstDone host (client.sequence + 1) (arrivals bufferSize genericClosed (client.socket ++ x.replies)) before
      bytes pre done) :
    (client.request host x).1.IsErr ↔
      (∃ e, sendMessage x.sent (client.requestMessage host x) = .error e) ∨
        FailsFirst (streamEnding (genericEnding host client.familyId (client.sequence + 1)))
          (streamItems (items (messageFormat host)) (before ++ [.ok bytes])) := by
  obtain ⟨after, harrivals⟩ := h.arrival
  obtain ⟨post, hitems⟩ := h.item
  have hlast : (items (messageFormat host) bytes).any (isDone (client.sequence + 1)) = true := by
    rw [hitems, List.any_append, List.any_cons, h.isDone_done]
    simp
  unfold Client.request
  cases hsend : sendMessage x.sent (client.requestMessage host x) with
  | error e => simp [Outcome.IsErr]
  | ok u =>
    have hrun := run_replies host client.familyId (client.sequence + 1) after hlast before h.before_not
    dsimp only
    rw [receiveReplies_eq_run, hdump, harrivals, hrun, Outcome.orFinish_isErr_iff, run_isErr_iff]
    simp

/-- **When a dump that the kernel reports as failed fails.**  A diagnostic dump does exactly when something fails it
before its `NLMSG_DONE`; a generic-netlink dump exactly when it is not sent, or something fails it up to the end of the
datagram of its `NLMSG_DONE`. -/
theorem failed_dumps_fail_iff :
    (∀ (protocol : Protocol) (sequence : UInt32) (socket : Socket),
      (∀ before bytes pre done,
          FirstDone host sequence (arrivals bufferSize sockDiagClosed socket) before bytes pre done →
          isFailedDone host sequence done = true →
          (SockDiag.receiveDump host protocol sequence socket).1.IsErr) ↔
        ∀ before bytes pre done,
          FirstDone host sequence (arrivals bufferSize sockDiagClosed socket) before bytes pre done →
          isFailedDone host sequence done = true →
          FailsFirst (streamEnding (diagnosticEnding host protocol sequence))
            (streamItems (items (messageFormat host)) before ++ pre.map .ok)) ∧
    (∀ (client : Client) (x : Exchange),
      (∀ before bytes pre done,
          FirstDone host (client.sequence + 1) (arrivals bufferSize genericClosed (client.socket ++ x.replies)) before
            bytes pre done →
          isFailedDone host (client.sequence + 1) done = true →
          (client.request host { x with dump := true }).1.IsErr) ↔
        ∀ before bytes pre done,
          FirstDone host (client.sequence + 1) (arrivals bufferSize genericClosed (client.socket ++ x.replies)) before
            bytes pre done →
          isFailedDone host (client.sequence + 1) done = true →
          (∃ e, sendMessage x.sent (client.requestMessage host { x with dump := true }) = .error e) ∨
            FailsFirst (streamEnding (genericEnding host client.familyId (client.sequence + 1)))
              (streamItems (items (messageFormat host)) (before ++ [.ok bytes]))) := by
  refine ⟨fun protocol sequence socket => ⟨?_, ?_⟩, fun client x => ⟨?_, ?_⟩⟩
  · intro h before bytes pre done hfirst hfailed
    exact (sockDiagDump_isErr_iff host protocol hfirst).1 (h before bytes pre done hfirst hfailed)
  · intro h before bytes pre done hfirst hfailed
    exact (sockDiagDump_isErr_iff host protocol hfirst).2 (h before bytes pre done hfirst hfailed)
  · intro h before bytes pre done hfirst hfailed
    exact (request_isErr_iff host client { x with dump := true } rfl hfirst).1 (h before bytes pre done hfirst hfailed)
  · intro h before bytes pre done hfirst hfailed
    exact (request_isErr_iff host client { x with dump := true } rfl hfirst).2 (h before bytes pre done hfirst hfailed)

def interruptedDone (sequence : UInt32) : Bytes :=
  MessageHeader.bytes hostX86 ⟨20, nlmsgDone, nlmFDumpIntr, sequence, 0⟩ ++ [0, 0, 0, 0]

theorem items_interruptedDone : items (messageFormat hostX86) (interruptedDone 1) =
    [.record ⟨20, nlmsgDone, nlmFDumpIntr, 1, 0⟩ (interruptedDone 1)] := by
  decide +kernel

/-- A dump that the kernel reports as interrupted is returned as an empty table by both receivers, and as an error by
the route-netlink dump. -/
theorem interrupted_done_succeeds :
    FirstDone hostX86 1 (arrivals bufferSize sockDiagClosed [.datagram (interruptedDone 1)]) [] (interruptedDone 1) []
      (.record ⟨20, nlmsgDone, nlmFDumpIntr, 1, 0⟩ (interruptedDone 1)) ∧
    isFailedDone hostX86 1 (.record ⟨20, nlmsgDone, nlmFDumpIntr, 1, 0⟩ (interruptedDone 1)) = true ∧
    (SockDiag.receiveDump hostX86 .tcp 1 [.datagram (interruptedDone 1)]).1 = .ok [] ∧
    ((Client.mk [] 0x1c 0).request hostX86
      { command := 1, version := 1, dump := true, attributes := [], sent := .bytes 20,
        replies := [.datagram (interruptedDone 1)] }).1 = .ok [] ∧
    (receiveDump hostX86 1 rtmNewroute "route" (parseRoute hostX86) [.datagram (interruptedDone 1)]).1 =
      .err (.custom .interrupted "route table changed during the netlink dump") := by
  have hfirst : FirstDone hostX86 1 (arrivals bufferSize sockDiagClosed [.datagram (interruptedDone 1)]) []
      (interruptedDone 1) [] (.record ⟨20, nlmsgDone, nlmFDumpIntr, 1, 0⟩ (interruptedDone 1)) :=
    { arrival := ⟨[], by decide +kernel⟩
      before_not := fun d hd => by cases hd
      item := ⟨[], items_interruptedDone⟩
      pre_not := fun d hd => by cases hd
      isDone_done := by decide }
  refine ⟨hfirst, ?_, ?_, ?_, ?_⟩ <;> decide +kernel

end Networkrs
