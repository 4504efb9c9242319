import Mathlib.Data.List.Forall2
import Networkrs.FailedDump
/-!
# MalformedRecord — records whose attributes break off

The record parsers return nothing both for a message that is not theirs and for one of their own whose attributes break
off, and the receivers pass over both.  So a table that is returned is complete exactly when the attributes of every
message of its own are well formed (`own_records_complete_iff`).
-/
namespace Networkrs

open Machine Framing Collect

variable (host : Host)

/-- A message with a sequence number and a type that a parser takes as its own. -/
def ownMessage (sequence : UInt32) (messageType : UInt16) (own : Bytes → Bool) : MessageItem → Option Bytes
  | .fault _ => none
  | .record header message =>
    if header.sequence = sequence ∧ header.messageType = messageType ∧ own message = true then some message else none

/-- **The messages a table is made of.** -/
def ownMessages (sequence : UInt32) (messageType : UInt16) (own : Bytes → Bool) (is : List MessageItem) : List Bytes :=
  is.filterMap (ownMessage sequence messageType own)

theorem own_of_mem_ownMessages {sequence : UInt32} {messageType : UInt16} {own : Bytes → Bool} {is : List MessageItem}
    {message : Bytes} (h : message ∈ ownMessages sequence messageType own is) : own message = true := by
  obtain ⟨i, -, hi⟩ := List.mem_filterMap.1 h
  cases i with
  | fault f => cases hi
  | record header m =>
    by_cases hown : header.sequence = sequence ∧ header.messageType = messageType ∧ own m = true
    · rw [ownMessage, if_pos hown] at hi
      cases hi
      exact hown.2.2
    · rw [ownMessage, if_neg hown] at hi
      cases hi

theorem length_parsedValues_le {T : Type} (parse : Bytes → Checked (Option T)) : ∀ (messages : List Bytes),
    (messages.flatMap (parsedValues parse)).length ≤ messages.length
  | [] => Nat.le_refl 0
  | m :: messages => by
    have ih := length_parsedValues_le parse messages
    have hone : (parsedValues parse m).length ≤ 1 := by
      unfold parsedValues
      cases parse m with
      | error p => exact Nat.zero_le 1
      | ok value => cases value <;> simp
    rw [List.flatMap_cons, List.length_append, List.length_cons]
    omega

def doneEnding (sequence : UInt32) (i : MessageItem) : Option (Ending IoError) :=
  if isDone sequence i then some .complete else none

theorem streamEnding_doneEnding {sequence : UInt32} {is : List MessageItem} (h : ∀ i ∈ is, isDone sequence i = false) :
    ∀ x ∈ is.map (Except.ok : MessageItem → Except IoError MessageItem),
      streamEnding (doneEnding sequence) x = none := by
  intro x hx
  obtain ⟨i, hi, rfl⟩ := List.mem_map.1 hx
  simp [streamEnding, doneEnding, h i hi]

/-- The first `NLMSG_DONE` of a stream is unique. -/
theorem split_isDone {sequence : UInt32} {pre pre' : List MessageItem} {done done' : MessageItem}
    {post post' : List (Except IoError MessageItem)}
    (h : pre.map Except.ok ++ Except.ok done :: post = pre'.map Except.ok ++ Except.ok done' :: post')
    (hpre : ∀ i ∈ pre, isDone sequence i = false) (hdone : isDone sequence done = true)
    (hpre' : ∀ i ∈ pre', isDone sequence i = false) (hdone' : isDone sequence done' = true) : pre = pre' := by
  have hi : streamEnding (doneEnding sequence) (.ok done) = some .complete := if_pos hdone
  have hi' : streamEnding (doneEnding sequence) (.ok done') = some .complete := if_pos hdone'
  obtain ⟨hmap, -, -⟩ := split_unique (streamEnding (doneEnding sequence)) h (streamEnding_doneEnding hpre) hi
    (streamEnding_doneEnding hpre') hi'
  refine (List.map_inj_right (fun a b hab => ?_)).1 hmap
  cases hab
  rfl

section
variable {T : Type} {parse : Bytes → Checked (Option T)} {own : Bytes → Bool} {offset : Nat}
variable (hreads : ReadsRecords host parse own offset)
include hreads

/-- The records of a list of items are those of its own messages. -/
theorem flatMap_dumpValues (sequence : UInt32) {messageType : UInt16} (hcontrol : isControl messageType = false) :
    ∀ (is : List MessageItem),
      is.flatMap (dumpValues sequence messageType parse) =
        (ownMessages sequence messageType own is).flatMap (parsedValues parse)
  | [] => rfl
  | .fault f :: is => flatMap_dumpValues sequence hcontrol is
  | .record header message :: is => by
    have ih := flatMap_dumpValues sequence hcontrol is
    unfold ownMessages at ih ⊢
    rw [List.flatMap_cons, ih, List.filterMap_cons, dumpValues]
    by_cases h : header.sequence = sequence ∧ header.messageType = messageType
    · rw [if_pos ⟨h.1, h.2, by rw [h.2]; exact hcontrol⟩]
      cases hown : own message with
      | true =>
        have hitem : ownMessage sequence messageType own (.record header message) = some message :=
          if_pos ⟨h.1, h.2, hown⟩
        rw [hitem, List.flatMap_cons]
      | false =>
        have hitem : ownMessage sequence messageType own (.record header message) = none :=
          if_neg (fun h' => by rw [hown] at h'; cases h'.2.2)
        have hnil : parsedValues parse message = [] := by
          rw [parsedValues, hreads.of_other message hown]
          rfl
        rw [hitem, hnil, List.nil_append]
    · have hitem : ownMessage sequence messageType own (.record header message) = none :=
        if_neg (fun h' => h ⟨h'.1, h'.2.1⟩)
      rw [if_neg (fun h' => h ⟨h'.1, h'.2.1⟩), hitem, List.nil_append]

/-- **Each message has its record exactly when the attributes of all are well formed.** -/
theorem forall₂_parsed_iff : ∀ (messages : List Bytes), (∀ m ∈ messages, own m = true) →
    (List.Forall₂ (fun m record => parse m = .ok (some record)) messages (messages.flatMap (parsedValues parse)) ↔
      ∀ m ∈ messages, (attributesIn host (m.drop offset)).isSome = true)
  | [], _ => by simp
  | m :: messages, hown => by
    have ih := forall₂_parsed_iff messages (fun x hx => hown x (List.mem_cons_of_mem m hx))
    have hm := hown m List.mem_cons_self
    rw [List.flatMap_cons]
    cases hattributes : attributesIn host (m.drop offset) with
    | none =>
      have hnil : parsedValues parse m = [] := by
        rw [parsedValues, hreads.of_malformed m hm hattributes]
        rfl
      rw [hnil, List.nil_append]
      constructor
      · intro h
        have hlength := h.length_eq
        have hle := length_parsedValues_le parse messages
        rw [List.length_cons] at hlength
        omega
      · intro h
        have := h m List.mem_cons_self
        rw [hattributes] at this
        cases this
    | some as =>
      have hsome : (attributesIn host (m.drop offset)).isSome = true := by rw [hattributes]; rfl
      obtain ⟨record, hrecord⟩ := hreads.of_wellFormed m hm hsome
      have hvalue : parsedValues parse m = [record] := by
        rw [parsedValues, hrecord]
        rfl
      rw [hvalue, List.singleton_append, List.forall₂_cons, ih]
      constructor
      · rintro ⟨-, h⟩ x hx
        rcases List.mem_cons.1 hx with rfl | hx
        · exact hsome
        · exact h x hx
      · intro h
        exact ⟨hrecord, fun x hx => h x (List.mem_cons_of_mem m hx)⟩

/-- **A returned table is complete exactly when no message of its own breaks off**: for a receiver that returns the
records before the first `NLMSG_DONE`. -/
theorem complete_table_iff {sequence : UInt32} {messageType : UInt16} (hcontrol : isControl messageType = false)
    {ending : MessageItem → Option (Ending IoError)}
    (hnone : ∀ i, ending i = none → isDone sequence i = false)
    (hcomplete : ∀ i, ending i = some .complete → isDone sequence i = true)
    {stream : List (Except IoError MessageItem)} {o : IoResult (List T)}
    (hok : ∀ vs, o = .ok vs ↔
      run (judgeStream (verdictOf ending (dumpValues sequence messageType parse))) stream = .ok vs) :
    (∀ vs (pre : List MessageItem) (done : MessageItem) (post : List (Except IoError MessageItem)), o = .ok vs →
        stream = pre.map .ok ++ .ok done :: post → (∀ i ∈ pre, isDone sequence i = false) →
        isDone sequence done = true →
        List.Forall₂ (fun m record => parse m = .ok (some record)) (ownMessages sequence messageType own pre) vs) ↔
      ∀ (pre : List MessageItem) (done : MessageItem) (post : List (Except IoError MessageItem)),
        stream = pre.map .ok ++ .ok done :: post → (∀ i ∈ pre, ending i = none) → ending done = some .complete →
        ∀ m ∈ ownMessages sequence messageType own pre, (attributesIn host (m.drop offset)).isSome = true := by
  have htable : ∀ pre : List MessageItem,
      (List.Forall₂ (fun m record => parse m = .ok (some record)) (ownMessages sequence messageType own pre)
        (pre.flatMap (dumpValues sequence messageType parse)) ↔
      ∀ m ∈ ownMessages sequence messageType own pre, (attributesIn host (m.drop offset)).isSome = true) := by
    intro pre
    rw [flatMap_dumpValues host hreads sequence hcontrol]
    exact forall₂_parsed_iff host hreads _ (fun m hm => own_of_mem_ownMessages hm)
  constructor
  · intro h pre done post hstream hpre hdone
    refine (htable pre).1 (h _ pre done post ?_ hstream (fun i hi => hnone i (hpre i hi)) (hcomplete done hdone))
    exact (hok _).2 ((run_judgeStream_eq_ok_iff _ _ _ _).2 ⟨pre, done, post, hstream, hpre, hdone, rfl⟩)
  · intro h vs pre done post ho hstream hpre hdone
    obtain ⟨pre', done', post', hstream', hpre', hdone', rfl⟩ :=
      (run_judgeStream_eq_ok_iff _ _ _ _).1 ((hok vs).1 ho)
    obtain rfl := split_isDone (hstream'.symm.trans hstream) (fun i hi => hnone i (hpre' i hi))
      (hcomplete done' hdone') hpre hdone
    exact (htable pre').2 (h pre' done' post' hstream' hpre' hdone')

end

theorem receiveDump_eq_ok_iff {T : Type} (sequence : UInt32) (messageType : UInt16) (name : Text)
    (parse : Bytes → Checked (Option T)) (socket : Socket) (vs : List T) :
    (receiveDump host sequence messageType name parse socket).1 = .ok vs ↔
      run (judgeStream (verdictOf (dumpEnding host sequence messageType parse)
        (dumpValues sequence messageType parse))) (received host [] socket) = .ok vs := by
  rw [← receiveDump_textless host sequence messageType parse name socket, Outcome.mapErr_eq_ok_iff]

theorem diagnosticEnding_eq_none {protocol : Protocol} {sequence : UInt32} {i : MessageItem}
    (h : diagnosticEnding host protocol sequence i = none) : isDone sequence i = false := by
  cases hdone : isDone sequence i with
  | false => rfl
  | true =>
    rw [diagnosticEnding_of_isDone host protocol hdone] at h
    cases h

/-- **When every own record of a dump is reported.**  A table that the route, rule or diagnostic dump returns holds one
record for each message before `NLMSG_DONE` that is its own, exactly when none of those messages has attributes that
break off. -/
theorem own_records_complete_iff (sequence : UInt32) (socket : Socket) :
    (∀ name : Text,
      (∀ vs (pre : List MessageItem) (done : MessageItem) (post : List (Except IoError MessageItem)),
          (receiveDump host sequence rtmNewroute name (parseRoute host) socket).1 = .ok vs →
          received host [] socket = pre.map .ok ++ .ok done :: post → (∀ i ∈ pre, isDone sequence i = false) →
          isDone sequence done = true →
          List.Forall₂ (fun m record => parseRoute host m = .ok (some record))
            (ownMessages sequence rtmNewroute isOwnRoute pre) vs) ↔
        ∀ (pre : List MessageItem) (done : MessageItem) (post : List (Except IoError MessageItem)),
          received host [] socket = pre.map .ok ++ .ok done :: post →
          (∀ i ∈ pre, dumpEnding host sequence rtmNewroute (parseRoute host) i = none) →
          dumpEnding host sequence rtmNewroute (parseRoute host) done = some .complete →
          ∀ m ∈ ownMessages sequence rtmNewroute isOwnRoute pre,
            (attributesIn host (m.drop routeOffset)).isSome = true) ∧
    (∀ name : Text,
      (∀ vs (pre : List MessageItem) (done : MessageItem) (post : List (Except IoError MessageItem)),
          (receiveDump host sequence rtmNewrule name (parseRule host) socket).1 = .ok vs →
          received host [] socket = pre.map .ok ++ .ok done :: post → (∀ i ∈ pre, isDone sequence i = false) →
          isDone sequence done = true →
          List.Forall₂ (fun m record => parseRule host m = .ok (some record))
            (ownMessages sequence rtmNewrule (isOwnRule host) pre) vs) ↔
        ∀ (pre : List MessageItem) (done : MessageItem) (post : List (Except IoError MessageItem)),
          received host [] socket = pre.map .ok ++ .ok done :: post →
          (∀ i ∈ pre, dumpEnding host sequence rtmNewrule (parseRule host) i = none) →
          dumpEnding host sequence rtmNewrule (parseRule host) done = some .complete →
          ∀ m ∈ ownMessages sequence rtmNewrule (isOwnRule host) pre,
            (attributesIn host (m.drop ruleOffset)).isSome = true) ∧
    (∀ protocol : Protocol,
      (∀ vs (pre : List MessageItem) (done : MessageItem) (post : List (Except IoError MessageItem)),
          (SockDiag.receiveDump host protocol sequence socket).1 = .ok vs →
          received host sockDiagClosed socket = pre.map .ok ++ .ok done :: post →
          (∀ i ∈ pre, isDone sequence i = false) → isDone sequence done = true →
          List.Forall₂ (fun m record => parseDiagnostic host protocol m = .ok (some record))
            (ownMessages sequence sockDiagByFamily (isOwnDiagnostic host) pre) vs) ↔
        ∀ (pre : List MessageItem) (done : MessageItem) (post : List (Except IoError MessageItem)),
          received host sockDiagClosed socket = pre.map .ok ++ .ok done :: post →
          (∀ i ∈ pre, diagnosticEnding host protocol sequence i = none) →
          diagnosticEnding host protocol sequence done = some .complete →
          ∀ m ∈ ownMessages sequence sockDiagByFamily (isOwnDiagnostic host) pre,
            (attributesIn host (m.drop diagnosticOffset)).isSome = true) := by
  refine ⟨fun name => ?_, fun name => ?_, fun protocol => ?_⟩
  · exact complete_table_iff host (parseRoute_reads host) (by decide)
      (fun i hi => not_isDone_of_passed host sequence rtmNewroute (parseRoute host) hi)
      (fun i hi => (of_complete host sequence rtmNewroute (parseRoute host) hi).1)
      (receiveDump_eq_ok_iff host sequence rtmNewroute name (parseRoute host) socket)
  · exact complete_table_iff host (parseRule_reads host) (by decide)
      (fun i hi => not_isDone_of_passed host sequence rtmNewrule (parseRule host) hi)
      (fun i hi => (of_complete host sequence rtmNewrule (parseRule host) hi).1)
      (receiveDump_eq_ok_iff host sequence rtmNewrule name (parseRule host) socket)
  · refine complete_table_iff host (parseDiagnostic_reads host protocol) (by decide)
      (fun i hi => diagnosticEnding_eq_none host hi) (fun i hi => isDone_of_diagnosticEnding host hi) (fun vs => ?_)
    rw [sockDiagDump_eq_run]
    rfl

/-- A dump of one TCP socket whose attribute section is one header with a length below four. -/
def brokenDiagnostic : Bytes :=
  MessageHeader.bytes hostX86 ⟨92, sockDiagByFamily, 0, 1, 0⟩ ++ afInet :: List.replicate 71 0 ++ [3, 0, 0, 0]

def brokenRoute : Bytes :=
  MessageHeader.bytes hostX86 ⟨32, rtmNewroute, 0, 1, 0⟩ ++ afInet :: List.replicate 11 0 ++ [3, 0, 0, 0]

def cleanDone : Bytes := MessageHeader.bytes hostX86 ⟨16, nlmsgDone, 0, 1, 0⟩

/-- Both receivers return an empty table for a stream with one record of their own. -/
theorem broken_record_is_dropped :
    received hostX86 sockDiagClosed [.datagram (brokenDiagnostic ++ cleanDone)] =
        [.ok (.record ⟨92, sockDiagByFamily, 0, 1, 0⟩ brokenDiagnostic),
          .ok (.record ⟨16, nlmsgDone, 0, 1, 0⟩ cleanDone)] ∧
      ownMessages 1 sockDiagByFamily (isOwnDiagnostic hostX86)
        [.record ⟨92, sockDiagByFamily, 0, 1, 0⟩ brokenDiagnostic] = [brokenDiagnostic] ∧
      attributesIn hostX86 (brokenDiagnostic.drop diagnosticOffset) = none ∧
      (SockDiag.receiveDump hostX86 .tcp 1 [.datagram (brokenDiagnostic ++ cleanDone)]).1 = .ok [] ∧
    received hostX86 [] [.datagram (brokenRoute ++ cleanDone)] =
        [.ok (.record ⟨32, rtmNewroute, 0, 1, 0⟩ brokenRoute), .ok (.record ⟨16, nlmsgDone, 0, 1, 0⟩ cleanDone)] ∧
      ownMessages 1 rtmNewroute isOwnRoute [.record ⟨32, rtmNewroute, 0, 1, 0⟩ brokenRoute] = [brokenRoute] ∧
      attributesIn hostX86 (brokenRoute.drop routeOffset) = none ∧
      (receiveDump hostX86 1 rtmNewroute "route" (parseRoute hostX86) [.datagram (brokenRoute ++ cleanDone)]).1 =
        .ok [] := by
  refine ⟨?_, ?_, ?_, ?_, ?_, ?_, ?_, ?_⟩ <;> decide +kernel

end Networkrs
