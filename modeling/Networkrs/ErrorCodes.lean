import Networkrs.ParserSafety
import Networkrs.RouteLookup
import Networkrs.SockDiag
/-!
# ErrorCodes — the negated error codes of the kernel

Every netlink receiver turns a nonzero code it reads off a message into the raw OS error of its negation.  The code is
any four bytes, and `i32::MIN` has no negation: a receiver surfaces every code but that one
(`error_codes_surface_iff`).
-/
namespace Networkrs

open Machine Framing Collect

theorem toInt_neg_of_ne {code : Int32} (h : code ≠ Int32.minValue) : (-code).toInt = -code.toInt := by
  have hle := code.le_toInt
  have hlt := code.toInt_lt
  have hne : code.toInt ≠ -2 ^ 31 := fun heq => h (Int32.toInt_inj.1 (heq.trans Int32.toInt_minValue.symm))
  rw [Int32.toInt_neg]
  exact Int.bmod_eq_of_le (by omega) (by omega)

/-- Only the least code has no negation. -/
theorem negation_representable_iff (code : Int32) :
    (∃ d : Int32, d.toInt = -code.toInt) ↔ code ≠ Int32.minValue := by
  constructor
  · rintro ⟨d, hd⟩ rfl
    have hleast := Int32.toInt_minValue
    have hlt := d.toInt_lt
    omega
  · intro h
    exact ⟨-code, toInt_neg_of_ne h⟩

/-- A receiver on a stream: its verdict on each item, the code it reads at some of them, and the errors it returns. -/
structure CodeReading (ι τ : Type) where
  stream : List ι
  judge : ι → Verdict IoError τ
  code : ι → Option Int32
  Returns : IoError → Prop

section
variable {ι τ : Type}

/-- **A receiver surfaces the codes of its stream**: at an item that it goes on to, and reads a code at, the code has a
negation, and the receiver returns it as a raw OS error. -/
def CodeReading.SurfacesCodes (r : CodeReading ι τ) : Prop :=
  ∀ pre i post c, r.stream = pre ++ i :: post → (∀ x ∈ pre, (r.judge x).keeps = true) → r.code i = some c →
    ∃ d : Int32, d.toInt = -c.toInt ∧ r.Returns (.os d)

/-- The item at which a receiver reads a code carries the least one. -/
def CodeReading.ReachesLeastCode (r : CodeReading ι τ) : Prop :=
  ∃ pre i post, r.stream = pre ++ i :: post ∧ (∀ x ∈ pre, (r.judge x).keeps = true) ∧ r.code i = some Int32.minValue

/-- **A receiver that judges codes surfaces them all but the least.** -/
theorem CodeReading.surfacesCodes_iff (r : CodeReading ι τ)
    (hcode : ∀ i c, r.code i = some c → r.judge i = errorVerdict c)
    (hreturns : ∀ pre i post e, r.stream = pre ++ i :: post → (∀ x ∈ pre, (r.judge x).keeps = true) →
      r.judge i = .reject e → r.Returns e) :
    r.SurfacesCodes ↔ ¬ r.ReachesLeastCode := by
  constructor
  · rintro h ⟨pre, i, post, hstream, hpre, hi⟩
    obtain ⟨d, hd, -⟩ := h pre i post _ hstream hpre hi
    exact (negation_representable_iff _).1 ⟨d, hd⟩ rfl
  · intro h pre i post c hstream hpre hi
    have hne : c ≠ Int32.minValue := by
      rintro rfl
      exact h ⟨pre, i, post, hstream, hpre, hi⟩
    have hreject : r.judge i = .reject (.os (-c)) := by
      rw [hcode i c hi, errorVerdict, i32Neg, if_neg hne]
    exact ⟨-c, toInt_neg_of_ne hne, hreturns pre i post _ hstream hpre hreject⟩

/-- A code in a stream with failures of the receives, which carry none. -/
def streamCode (code : ι → Option Int32) : Except IoError ι → Option Int32
  | .error _ => none
  | .ok i => code i

theorem judgeStream_of_code {judge : ι → Verdict IoError τ} {code : ι → Option Int32}
    (hcode : ∀ i c, code i = some c → judge i = errorVerdict c) :
    ∀ x c, streamCode code x = some c → judgeStream judge x = errorVerdict c := by
  intro x c hx
  cases x with
  | error e => cases hx
  | ok i => exact hcode i c hx

end

/-! ## The codes a receiver reads -/

variable (host : Host)

/-- The nonzero code of a message, for a receiver that reads those with some headers. -/
def errorCode (reads : MessageHeader → Bool) : MessageItem → Option Int32
  | .fault _ => none
  | .record header message =>
    if reads header then (readI32 host message MessageHeader.size).filter (· ≠ 0) else none

/-- An error message to a request. -/
def isErrorReply (sequence : UInt32) (header : MessageHeader) : Bool :=
  header.sequence = sequence && header.messageType = nlmsgError

/-- An error message to a dump, or the end of it without the interruption mark. -/
def isDumpError (sequence : UInt32) (header : MessageHeader) : Bool :=
  header.sequence = sequence &&
    (header.messageType = nlmsgError || header.messageType = nlmsgDone && header.flags &&& nlmFDumpIntr = 0)

def isErrorEvent (header : MessageHeader) : Bool := header.messageType = nlmsgError

theorem errorCode_eq_some_iff (reads : MessageHeader → Bool) (i : MessageItem) (c : Int32) :
    errorCode host reads i = some c ↔ ∃ header message, i = .record header message ∧ reads header = true ∧
      readI32 host message MessageHeader.size = some c ∧ c ≠ 0 := by
  cases i with
  | fault f => simp [errorCode]
  | record header message =>
    unfold errorCode
    by_cases hreads : reads header = true
    · simp [hreads, Option.filter_eq_some_iff]
    · simp [hreads]

/-- A code in a reply is that of an error message. -/
theorem exists_of_errorReply {sequence : UInt32} {i : MessageItem} {c : Int32}
    (h : errorCode host (isErrorReply sequence) i = some c) :
    ∃ header message, i = .record header message ∧ header.sequence = sequence ∧ header.messageType = nlmsgError ∧
      readI32 host message MessageHeader.size = some c ∧ c ≠ 0 := by
  obtain ⟨header, message, rfl, hreads, hread, hne⟩ := (errorCode_eq_some_iff host _ i c).1 h
  simp only [isErrorReply, Bool.and_eq_true, decide_eq_true_eq] at hreads
  exact ⟨header, message, rfl, hreads.1, hreads.2, hread, hne⟩

theorem acknowledgeVerdict_of_code {T : Type} (truncated : Text) {message : Bytes} {c : Int32}
    (hread : readI32 host message MessageHeader.size = some c) (hne : c ≠ 0) :
    (acknowledgeVerdict host truncated message : Verdict IoError T) = errorVerdict c := by
  rw [acknowledgeVerdict, hread]
  exact if_neg hne

theorem verdictOf_errorEnding {T : Type} {ending : MessageItem → Option (Ending IoError)}
    (values : MessageItem → List T) {i : MessageItem} {c : Int32} (h : ending i = some (errorEnding c)) :
    verdictOf ending values i = errorVerdict c := by
  rw [verdictOf, h, errorEnding, errorVerdict]
  cases i32Neg c <;> rfl

theorem dumpJudge_of_code {T : Type} {sequence : UInt32} (expectedType : UInt16) (texts : DumpTexts)
    (parse : Bytes → Checked (Option T)) (i : MessageItem) (c : Int32)
    (h : errorCode host (isDumpError sequence) i = some c) :
    dumpJudge host sequence expectedType texts parse i = errorVerdict c := by
  obtain ⟨header, message, rfl, hreads, hread, hne⟩ := (errorCode_eq_some_iff host _ i c).1 h
  simp only [isDumpError, Bool.and_eq_true, Bool.or_eq_true, decide_eq_true_eq] at hreads
  obtain ⟨hseq, herror | ⟨hdone, hflag⟩⟩ := hreads
  · have hnot : nlmsgError ≠ nlmsgDone := by decide
    rw [dumpJudge, if_pos hseq, herror, if_neg hnot, if_pos rfl, acknowledgeVerdict_of_code host _ hread hne]
  · rw [dumpJudge, if_pos hseq, if_pos hdone, doneVerdict, hflag, if_neg (fun h => h rfl), hread]
    exact if_pos hne

theorem lookupJudge_of_code {sequence : UInt32} (i : MessageItem) (c : Int32)
    (h : errorCode host (isErrorReply sequence) i = some c) : lookupJudge host sequence i = errorVerdict c := by
  obtain ⟨header, message, rfl, hseq, herror, hread, hne⟩ := exists_of_errorReply host h
  have hnot : nlmsgError ≠ rtmNewroute := by decide
  rw [lookupJudge, if_pos hseq, herror, if_neg hnot, if_pos rfl, acknowledgeVerdict_of_code host _ hread hne]

theorem diagnosticEnding_of_code (protocol : Protocol) {sequence : UInt32} {i : MessageItem} {c : Int32}
    (h : errorCode host (isErrorReply sequence) i = some c) :
    diagnosticEnding host protocol sequence i = some (errorEnding c) := by
  obtain ⟨header, message, rfl, hseq, herror, hread, hne⟩ := exists_of_errorReply host h
  have hnot : nlmsgError ≠ nlmsgDone := by decide
  rw [diagnosticEnding, if_neg (fun h => h hseq), herror, if_neg hnot, if_pos rfl, hread]
  exact if_pos hne

theorem genericEnding_of_code (familyId : UInt16) {sequence : UInt32} {i : MessageItem} {c : Int32}
    (h : errorCode host (isErrorReply sequence) i = some c) :
    genericEnding host familyId sequence i = some (errorEnding c) := by
  obtain ⟨header, message, rfl, hseq, herror, hread, hne⟩ := exists_of_errorReply host h
  rw [genericEnding, if_neg (fun h => h hseq), if_pos herror, hread]
  exact if_pos hne

theorem eventEnding_of_code {i : MessageItem} {c : Int32} (h : errorCode host isErrorEvent i = some c) :
    eventEnding host i = some (errorEnding c) := by
  obtain ⟨header, message, rfl, hreads, hread, hne⟩ := (errorCode_eq_some_iff host _ i c).1 h
  rw [eventEnding, if_pos (of_decide_eq_true hreads), hread]
  exact if_neg hne

/-! ## What the receivers of one datagram fail with -/

theorem parseEvents_of_reject {response : Bytes} {pre post : List MessageItem} {i : MessageItem} {e : IoError}
    (hitems : items (messageFormat host) response = pre ++ i :: post)
    (hpre : ∀ x ∈ pre, (verdictOf (eventEnding host) (eventValues host) x).keeps = true)
    (hi : verdictOf (eventEnding host) (eventValues host) i = .reject e) :
    parseEvents host response = .ok (.error e) :=
  parseEvents_of_ending host hitems (fun x hx => (verdictOf_keeps _ _ x).1 (hpre x hx))
    ((verdictOf_eq_reject_iff _ _ i e).1 hi)

theorem parseMessages_of_reject {familyId : UInt16} {sequence : UInt32} {response : Bytes}
    {pre post : List MessageItem} {i : MessageItem} {e : IoError}
    (hitems : items (messageFormat host) response = pre ++ i :: post)
    (hpre : ∀ x ∈ pre,
      (verdictOf (genericEnding host familyId sequence) (genericValues host familyId sequence) x).keeps = true)
    (hi : verdictOf (genericEnding host familyId sequence) (genericValues host familyId sequence) i = .reject e) :
    parseMessages host response familyId sequence = .ok (.error e) :=
  parseMessages_of_some host hitems (fun x hx => (verdictOf_keeps _ _ x).1 (hpre x hx))
    ((verdictOf_eq_reject_iff _ _ i e).1 hi)

/-- A datagram fails `parse_response` with the first error it hears. -/
theorem parseDumpResponse_of_reject {T : Type} {sequence : UInt32} (expectedType : UInt16) (texts : DumpTexts)
    (parse : Bytes → Checked (Option T)) (values : List T) {response : Bytes} {pre post : List MessageItem}
    {i : MessageItem} {e : IoError}
    (hitems : heard host sequence (items (messageFormat host) response) = pre ++ i :: post)
    (hpre : ∀ x ∈ pre, (dumpJudge host sequence expectedType texts parse x).keeps = true)
    (hi : dumpJudge host sequence expectedType texts parse i = .reject e) :
    parseDumpResponse host expectedType texts parse response sequence values = .ok (.error e) := by
  have hscan := scan_responseStep host sequence expectedType texts parse (items (messageFormat host) response) values
  rw [hitems, scan_of_reject post values hpre hi] at hscan
  rw [parseDumpResponse, walk_eq_scan, List.drop_zero]
  cases hflow : scan (itemStep (responseStep host sequence expectedType texts parse)
      (fun _ f => .error (texts.fault f))) (items (messageFormat host) response) values with
  | error p => rw [hflow] at hscan; cases hscan
  | ok flow =>
    rw [hflow] at hscan
    cases flow with
    | next values' => cases hscan
    | stop result =>
      cases result with
      | error e' =>
        obtain rfl := Except.error.inj (Except.ok.inj hscan)
        rfl
      | ok pair =>
        obtain ⟨done, values'⟩ := pair
        cases done <;> cases hscan

/-! ## All receivers -/

section
variable (sequence : UInt32)

/-- `receive_dump` on the replies of a socket. -/
def dumpReading {T : Type} (expectedType : UInt16) (name : Text) (parse : Bytes → Checked (Option T))
    (socket : Socket) : CodeReading (Except IoError MessageItem) T where
  stream := received host "netlink socket closed" socket
  judge := judgeStream (dumpJudge host sequence expectedType (dumpTexts name) parse)
  code := streamCode (errorCode host (isDumpError sequence))
  Returns := fun e => (receiveDump host sequence expectedType name parse socket).1 = .err e

/-- `parse_response` on a datagram. -/
def responseReading (response : Bytes) (neighbors : List Neighbor) : CodeReading MessageItem Neighbor where
  stream := heard host sequence (items (messageFormat host) response)
  judge := dumpJudge host sequence rtmNewneigh neighborTexts (parseNeighbor host false)
  code := errorCode host (isDumpError sequence)
  Returns := fun e => parseResponse host response sequence neighbors = .ok (.error e)

/-- `parse_address_response` on a datagram. -/
def addressReading (response : Bytes) (addresses : List Address) : CodeReading MessageItem Address where
  stream := heard host sequence (items (messageFormat host) response)
  judge := dumpJudge host sequence rtmNewaddr addressTexts (parseAddress host)
  code := errorCode host (isDumpError sequence)
  Returns := fun e => parseAddressResponse host response sequence addresses = .ok (.error e)

/-- `parse_events` on a datagram. -/
def eventReading (response : Bytes) : CodeReading MessageItem NetworkEvent where
  stream := items (messageFormat host) response
  judge := verdictOf (eventEnding host) (eventValues host)
  code := errorCode host isErrorEvent
  Returns := fun e => parseEvents host response = .ok (.error e)

/-- `receive_route_lookup` on the replies of a socket. -/
def lookupReading (socket : Socket) : CodeReading (Except IoError MessageItem) Route where
  stream := receivedLookup host socket
  judge := judgeStream (lookupJudge host sequence)
  code := streamCode (errorCode host (isErrorReply sequence))
  Returns := fun e => (receiveRouteLookup host sequence socket).1 = .err e

/-- `generic_netlink::parse_messages` on a datagram. -/
def genericReading (messageType : UInt16) (response : Bytes) : CodeReading MessageItem Message where
  stream := items (messageFormat host) response
  judge := verdictOf (genericEnding host messageType sequence) (genericValues host messageType sequence)
  code := errorCode host (isErrorReply sequence)
  Returns := fun e => parseMessages host response messageType sequence = .ok (.error e)

/-- `sock_diag::receive_dump` on the replies of a socket. -/
def diagnosticReading (protocol : Protocol) (socket : Socket) :
    CodeReading (Except IoError MessageItem) SocketDiagnostic where
  stream := received host "socket diagnostic netlink socket closed" socket
  judge := judgeStream (verdictOf (diagnosticEnding host protocol sequence) (diagnosticValues host protocol sequence))
  code := streamCode (errorCode host (isErrorReply sequence))
  Returns := fun e => (SockDiag.receiveDump host protocol sequence socket).1 = .err e

end

/-- **The error codes of the kernel surface negated**, from every stream of every netlink receiver exactly when it does
not come to the code that has no negation. -/
theorem error_codes_surface_iff :
    (∀ (T : Type) (sequence : UInt32) (expectedType : UInt16) (name : Text) (parse : Bytes → Checked (Option T))
      (socket : Socket),
      (dumpReading host sequence expectedType name parse socket).SurfacesCodes ↔
        ¬ (dumpReading host sequence expectedType name parse socket).ReachesLeastCode) ∧
    (∀ (sequence : UInt32) (response : Bytes) (neighbors : List Neighbor),
      (responseReading host sequence response neighbors).SurfacesCodes ↔
        ¬ (responseReading host sequence response neighbors).ReachesLeastCode) ∧
    (∀ (sequence : UInt32) (response : Bytes) (addresses : List Address),
      (addressReading host sequence response addresses).SurfacesCodes ↔
        ¬ (addressReading host sequence response addresses).ReachesLeastCode) ∧
    (∀ response : Bytes,
      (eventReading host response).SurfacesCodes ↔ ¬ (eventReading host response).ReachesLeastCode) ∧
    (∀ (sequence : UInt32) (socket : Socket),
      (lookupReading host sequence socket).SurfacesCodes ↔ ¬ (lookupReading host sequence socket).ReachesLeastCode) ∧
    (∀ (sequence : UInt32) (messageType : UInt16) (response : Bytes),
      (genericReading host sequence messageType response).SurfacesCodes ↔
        ¬ (genericReading host sequence messageType response).ReachesLeastCode) ∧
    (∀ (sequence : UInt32) (protocol : Protocol) (socket : Socket),
      (diagnosticReading host sequence protocol socket).SurfacesCodes ↔
        ¬ (diagnosticReading host sequence protocol socket).ReachesLeastCode) := by
  refine ⟨fun T sequence expectedType name parse socket => ?_, fun sequence response neighbors => ?_,
    fun sequence response addresses => ?_, fun response => ?_, fun sequence socket => ?_,
    fun sequence messageType response => ?_, fun sequence protocol socket => ?_⟩
  · refine CodeReading.surfacesCodes_iff _
      (judgeStream_of_code (dumpJudge_of_code host expectedType (dumpTexts name) parse))
      (fun pre i post e hstream hpre hi => ?_)
    have hrun := (congrArg (run _) hstream).trans (run_of_reject post hpre hi)
    exact (receiveDump_eq_run host sequence expectedType name parse socket).trans hrun
  · exact CodeReading.surfacesCodes_iff _ (dumpJudge_of_code host rtmNewneigh neighborTexts (parseNeighbor host false))
      (fun pre i post e =>
        parseDumpResponse_of_reject host rtmNewneigh neighborTexts (parseNeighbor host false) neighbors)
  · exact CodeReading.surfacesCodes_iff _ (dumpJudge_of_code host rtmNewaddr addressTexts (parseAddress host))
      (fun pre i post e => parseDumpResponse_of_reject host rtmNewaddr addressTexts (parseAddress host) addresses)
  · exact CodeReading.surfacesCodes_iff _ (fun i c hi => verdictOf_errorEnding _ (eventEnding_of_code host hi))
      (fun pre i post e => parseEvents_of_reject host)
  · refine CodeReading.surfacesCodes_iff _ (judgeStream_of_code (lookupJudge_of_code host))
      (fun pre i post e hstream hpre hi => ?_)
    have hrun := (congrArg (run _) hstream).trans (run_of_reject post hpre hi)
    exact (Outcome.map_eq_err_iff _ _ _).1 ((receiveRouteLookup_eq_run host sequence socket).trans hrun)
  · exact CodeReading.surfacesCodes_iff _
      (fun i c hi => verdictOf_errorEnding _ (genericEnding_of_code host messageType hi))
      (fun pre i post e => parseMessages_of_reject host)
  · refine CodeReading.surfacesCodes_iff _
      (judgeStream_of_code (fun i c hi => verdictOf_errorEnding _ (diagnosticEnding_of_code host protocol hi)))
      (fun pre i post e hstream hpre hi => ?_)
    have hrun := (congrArg (run _) hstream).trans (run_of_reject post hpre hi)
    exact (sockDiagDump_eq_run host protocol sequence socket).trans hrun

/-- An error message to a request, with the code `i32::MIN`. -/
def leastCodeReply (sequence : UInt32) : Bytes :=
  MessageHeader.bytes hostX86 ⟨20, nlmsgError, 0, sequence, 0⟩ ++ [0, 0, 0, 0x80]

theorem received_leastCodeReply :
    received hostX86 "netlink socket closed" [.datagram (leastCodeReply routeDumpSequence)] =
      [.ok (.record ⟨20, nlmsgError, 0, routeDumpSequence, 0⟩ (leastCodeReply routeDumpSequence))] := by
  decide +kernel

/-- A dump of routes does not surface the least code, and every receiver panics at it. -/
theorem least_code_is_not_surfaced :
    ¬ (dumpReading hostX86 routeDumpSequence rtmNewroute "route" (parseRoute hostX86)
        [.datagram (leastCodeReply routeDumpSequence)]).SurfacesCodes ∧
      (receiveDump hostX86 routeDumpSequence rtmNewroute "route" (parseRoute hostX86)
        [.datagram (leastCodeReply routeDumpSequence)]).1 = .panicked .negation ∧
      parseResponse hostX86 (leastCodeReply requestSequence) requestSequence [] = .error .negation ∧
      parseAddressResponse hostX86 (leastCodeReply addressSequence) addressSequence [] = .error .negation ∧
      parseEvents hostX86 (leastCodeReply 0) = .error .negation ∧
      (receiveRouteLookup hostX86 routeSequence [.datagram (leastCodeReply routeSequence)]).1 =
        .panicked .negation ∧
      parseMessages hostX86 (leastCodeReply 1) genlIdCtrl 1 = .error .negation ∧
      (SockDiag.receiveDump hostX86 .tcp 1 [.datagram (leastCodeReply 1)]).1 = .panicked .negation := by
  refine ⟨fun h => ?_, ?_, ?_, ?_, ?_, ?_, ?_, ?_⟩
  · obtain ⟨d, hd, -⟩ := h [] (.ok (.record ⟨20, nlmsgError, 0, routeDumpSequence, 0⟩
      (leastCodeReply routeDumpSequence))) [] Int32.minValue received_leastCodeReply
      (fun x hx => absurd hx List.not_mem_nil) (by decide)
    exact (negation_representable_iff _).1 ⟨d, hd⟩ rfl
  all_goals decide +kernel

end Networkrs
