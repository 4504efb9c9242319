import Networkrs.Packing
/-!
# KernelDump — the answer of a kernel to a dump

A kernel answers a dump with one message for each entry of a table, packed into datagrams, and an `NLMSG_DONE` that
reports no failure (`Answers`).  Which entry a message describes is left open: whenever a parser reads every described
message as a record of its entry, or passes over it, each receiver returns the records of the whole table in its order
(`receiveDump_answers`, `responseLoop_answers`, `sockDiagDump_answers`).
-/
namespace Networkrs

open Machine Framing Collect

variable (host : Host)

/-! ## Answers -/

/-- The calls of a socket but those a signal interrupted. -/
def uninterrupted (socket : Socket) : Socket := socket.filter (fun call => call ≠ .failed eintr)

theorem arrivals_uninterrupted (size : Nat) (closed : Text) : ∀ (socket : Socket),
    arrivals size closed (uninterrupted socket) = arrivals size closed socket
  | [] => rfl
  | .failed errno :: socket => by
    have ih := arrivals_uninterrupted size closed socket
    unfold uninterrupted at ih ⊢
    by_cases h : errno = eintr
    · subst h
      rw [List.filter_cons_of_neg (by simp), ih, arrivals, if_pos rfl]
    · rw [List.filter_cons_of_pos (by simpa using h), arrivals, arrivals, if_neg h, if_neg h, ih]
  | .datagram bytes :: socket => by
    have ih := arrivals_uninterrupted size closed socket
    unfold uninterrupted at ih ⊢
    rw [List.filter_cons_of_pos (by simp), arrivals, arrivals, ih]

/-- A message of a dump with a sequence number and a type. -/
def isEntry (sequence : UInt32) (messageType : UInt16) (m : WireMessage) : Bool :=
  m.header.sequence = sequence && m.header.messageType = messageType

variable {D : Type}

/-- **A kernel answers a dump with the entries of a table**: its messages of the type asked for describe the entries in
turn, none with the sequence number of the dump reports an error, and `NLMSG_DONE` reports no failure; calls that
signals interrupt stand anywhere between the datagrams. -/
structure Answers (sequence : UInt32) (messageType : UInt16) (describes : D → WireMessage → Prop) (entries : List D)
    (replies : Socket) where
  dump : DumpMessages host sequence
  cutting : Cutting host dump.all
  replies_eq : uninterrupted replies = cutting.socket
  clean : ∀ m ∈ dump.records, m.header.sequence = sequence →
    m.header.messageType ≠ nlmsgError ∧ m.header.messageType ≠ nlmsgOverrun
  completed : dump.done.header.flags &&& nlmFDumpIntr = 0 ∧
    (readI32 host (dump.done.message host) MessageHeader.size).getD 0 = 0
  described : List.Forall₂ describes entries (dump.records.filter (isEntry sequence messageType))

variable {host} {sequence : UInt32} {messageType : UInt16} {describes : D → WireMessage → Prop} {entries : List D}
  {replies : Socket}

theorem received_answers (h : Answers host sequence messageType describes entries replies) (closed : Text) :
    received host closed replies = h.dump.all.map (fun m => .ok (m.item host)) := by
  rw [← received_cutting host h.cutting closed, ← h.replies_eq]
  unfold received
  rw [arrivals_uninterrupted]

/-- A message of a clean answer is neither the end of the dump nor an error. -/
theorem Answers.type_ne (h : Answers host sequence messageType describes entries replies) {m : WireMessage}
    (hm : m ∈ h.dump.records) (hseq : m.header.sequence = sequence) :
    m.header.messageType ≠ nlmsgDone ∧ m.header.messageType ≠ nlmsgError ∧ m.header.messageType ≠ nlmsgOverrun := by
  refine ⟨fun hdone => ?_, h.clean m hm hseq⟩
  have hnot := h.dump.records_not m hm
  simp [isDone, WireMessage.item, hseq, hdone] at hnot

section
variable {T : Type} {parse : Bytes → Checked (Option T)} {value : D → Option T}

/-- The records of a table whose entries are described. -/
theorem flatMap_parsedValues (hparse : ∀ d m, describes d m → parse (m.message host) = .ok (value d))
    {ms : List WireMessage} (h : List.Forall₂ describes entries ms) :
    ms.flatMap (fun m => parsedValues parse (m.message host)) = entries.filterMap value := by
  induction h with
  | nil => rfl
  | cons hdescribes _ ih =>
    rw [List.flatMap_cons, ih, parsedValues, hparse _ _ hdescribes, List.filterMap_cons]
    cases value _ <;> rfl

/-- **The values of an answer are the records of its entries.** -/
theorem flatMap_dumpValues_answers (hcontrol : isControl messageType = false)
    (hparse : ∀ d m, describes d m → parse (m.message host) = .ok (value d))
    (h : Answers host sequence messageType describes entries replies) :
    (h.dump.records.map (fun m => m.item host)).flatMap (dumpValues sequence messageType parse) =
      entries.filterMap value := by
  rw [List.flatMap_map, recordsOf_eq_flatMap host sequence messageType (parsedValues parse)
    (dumpValues_item host sequence parse hcontrol) h.dump.records]
  exact flatMap_parsedValues hparse h.described

/-- A described message is parsed without a panic. -/
theorem Answers.parse_isOk (hparse : ∀ d m, describes d m → parse (m.message host) = .ok (value d))
    (h : Answers host sequence messageType describes entries replies) {m : WireMessage} (hm : m ∈ h.dump.records)
    (hentry : isEntry sequence messageType m = true) : ∃ v, parse (m.message host) = .ok v := by
  have hmem : m ∈ h.dump.records.filter (isEntry sequence messageType) := List.mem_filter.2 ⟨hm, hentry⟩
  obtain ⟨i, hi, rfl⟩ := List.mem_iff_getElem.1 hmem
  have hi' : i < entries.length := by rw [h.described.length_eq]; exact hi
  exact ⟨value entries[i], hparse _ _ (h.described.get hi' hi)⟩

/-- **A run over an answer** completes with the records of the entries. -/
theorem run_answers {ending : MessageItem → Option (Ending IoError)} (hcontrol : isControl messageType = false)
    (hparse : ∀ d m, describes d m → parse (m.message host) = .ok (value d))
    (h : Answers host sequence messageType describes entries replies)
    (hrecords : ∀ m ∈ h.dump.records, ending (m.item host) = none)
    (hdone : ending (h.dump.done.item host) = some .complete) :
    run (judgeStream (verdictOf ending (dumpValues sequence messageType parse)))
      (h.dump.all.map (fun m => .ok (m.item host))) = .ok (entries.filterMap value) := by
  rw [run_judgeStream_eq_ok_iff]
  refine ⟨h.dump.records.map (fun m => m.item host), h.dump.done.item host, [], ?_, ?_, hdone, ?_⟩
  · rw [DumpMessages.all, List.map_append, List.map_map]
    rfl
  · intro i hi
    obtain ⟨m, hm, rfl⟩ := List.mem_map.1 hi
    exact hrecords m hm
  · exact (flatMap_dumpValues_answers hcontrol hparse h).symm

/-- No message before `NLMSG_DONE` ends a route-netlink dump. -/
theorem Answers.dumpEnding_record (hparse : ∀ d m, describes d m → parse (m.message host) = .ok (value d))
    (h : Answers host sequence messageType describes entries replies) {m : WireMessage} (hm : m ∈ h.dump.records) :
    dumpEnding host sequence messageType parse (m.item host) = none := by
  unfold WireMessage.item dumpEnding
  by_cases hseq : m.header.sequence = sequence
  · obtain ⟨hdone, herror, hoverrun⟩ := h.type_ne hm hseq
    simp only [hseq, hdone, herror, hoverrun, ne_eq, not_true_eq_false, if_false]
    by_cases htype : m.header.messageType = messageType
    · obtain ⟨v, hv⟩ := h.parse_isOk hparse hm (by simp [isEntry, hseq, htype])
      rw [if_pos htype, hv]
    · rw [if_neg htype]
  · simp [hseq]

theorem Answers.dumpEnding_done (h : Answers host sequence messageType describes entries replies) :
    dumpEnding host sequence messageType parse (h.dump.done.item host) = some .complete := by
  have hdone := h.dump.isDone_done
  obtain ⟨hflags, herror⟩ := h.completed
  simp only [WireMessage.item, isDone, Bool.and_eq_true, decide_eq_true_eq] at hdone
  unfold WireMessage.item dumpEnding
  simp only [hdone.1, hdone.2, hflags, ne_eq, not_true_eq_false, if_false, if_true]
  cases hread : readI32 host (h.dump.done.message host) MessageHeader.size with
  | none => rfl
  | some error =>
    rw [hread, Option.getD_some] at herror
    simp [herror]

/-- **`receive_dump` returns the table a kernel answers with.** -/
theorem receiveDump_answers (hcontrol : isControl messageType = false)
    (hparse : ∀ d m, describes d m → parse (m.message host) = .ok (value d))
    (h : Answers host sequence messageType describes entries replies) (name : Text) :
    (receiveDump host sequence messageType name parse replies).1 = .ok (entries.filterMap value) := by
  rw [← Outcome.mapErr_eq_ok_iff IoError.textless, receiveDump_textless, received_answers h,
    run_answers hcontrol hparse h (fun m hm => h.dumpEnding_record hparse hm) h.dumpEnding_done]

/-- A group of messages without an acknowledgement is heard whole. -/
theorem heard_items : ∀ (ms : List WireMessage),
    (∀ m ∈ ms, isAcknowledgement host sequence (m.item host) = false) →
    heard host sequence (ms.map (fun m => m.item host)) = ms.map (fun m => m.item host)
  | [], _ => rfl
  | m :: ms, h => by
    rw [List.map_cons, heard, h m List.mem_cons_self, heard_items ms (fun x hx => h x (List.mem_cons_of_mem m hx))]
    rfl

theorem heard_groups : ∀ (groups : List (List WireMessage)),
    (∀ m ∈ groups.flatten, isAcknowledgement host sequence (m.item host) = false) →
    streamItems (fun bytes => heard host sequence (items (messageFormat host) bytes))
        (groups.map (fun g => .ok (datagramOf host g))) =
      groups.flatten.map (fun m => .ok (m.item host))
  | [], _ => rfl
  | g :: groups, h => by
    have hg := @heard_items host sequence g (fun m hm => h m (by simp [hm]))
    have hgroups := heard_groups groups (fun m hm => h m (List.mem_append_right _ hm))
    rw [List.map_cons, streamItems_cons, hgroups, List.flatten_cons, List.map_append]
    dsimp only
    rw [items_datagramOf, hg, List.map_map]
    rfl

/-- No message of an answer is an acknowledgement. -/
theorem Answers.not_acknowledgement (h : Answers host sequence messageType describes entries replies)
    {m : WireMessage} (hm : m ∈ h.dump.all) : isAcknowledgement host sequence (m.item host) = false := by
  have hdone := h.dump.isDone_done
  simp only [WireMessage.item, isDone, Bool.and_eq_true, decide_eq_true_eq] at hdone
  have herror : m.header.sequence = sequence → m.header.messageType ≠ nlmsgError := by
    intro hseq
    rcases List.mem_append.1 hm with hrecord | hm
    · exact (h.clean m hrecord hseq).1
    · rw [List.mem_singleton.1 hm, hdone.2]
      decide
  unfold WireMessage.item isAcknowledgement
  by_cases hseq : m.header.sequence = sequence
  · simp [herror hseq]
  · simp [hseq]

theorem receivedHeard_answers (h : Answers host sequence messageType describes entries replies) (closed : Text) :
    receivedHeard host sequence closed replies = h.dump.all.map (fun m => .ok (m.item host)) := by
  have hgroups := arrivals_groups host closed h.cutting.nonempty h.cutting.fits
  unfold receivedHeard
  rw [← arrivals_uninterrupted, h.replies_eq, Cutting.socket, hgroups, heard_groups, h.cutting.flatten_eq]
  rw [h.cutting.flatten_eq]
  exact fun m hm => h.not_acknowledgement hm

/-- **A loop over `parse_response` returns the table a kernel answers with.** -/
theorem responseLoop_answers (hcontrol : isControl messageType = false)
    (hparse : ∀ d m, describes d m → parse (m.message host) = .ok (value d))
    (h : Answers host sequence messageType describes entries replies) (closed : Text) (texts : DumpTexts) :
    (responseLoop closed (fun response values =>
        parseDumpResponse host messageType texts parse response sequence values) replies).1 =
      .ok (entries.filterMap value) := by
  rw [← Outcome.mapErr_eq_ok_iff IoError.textless, responseLoop_textless, receivedHeard_answers h,
    run_answers hcontrol hparse h (fun m hm => h.dumpEnding_record hparse hm) h.dumpEnding_done]

end

/-- **The diagnostic dump returns the sockets a kernel answers with.** -/
theorem sockDiagDump_answers {protocol : Protocol} {value : D → Option SocketDiagnostic}
    (hparse : ∀ d m, describes d m → parseDiagnostic host protocol (m.message host) = .ok (value d))
    (h : Answers host sequence sockDiagByFamily describes entries replies) :
    (SockDiag.receiveDump host protocol sequence replies).1 = .ok (entries.filterMap value) := by
  rw [sockDiagDump_eq_run, received_answers h]
  refine run_answers (by decide) hparse h (fun m hm => ?_) ?_
  · unfold WireMessage.item diagnosticEnding
    by_cases hseq : m.header.sequence = sequence
    · obtain ⟨hdone, herror, hoverrun⟩ := h.type_ne hm hseq
      simp only [hseq, hdone, herror, hoverrun, ne_eq, not_true_eq_false, if_false]
      by_cases htype : m.header.messageType = sockDiagByFamily
      · obtain ⟨v, hv⟩ := h.parse_isOk hparse hm (by simp [isEntry, hseq, htype])
        rw [if_pos htype, hv]
      · rw [if_neg htype]
    · simp [hseq]
  · exact diagnosticEnding_of_isDone host protocol h.dump.isDone_done

/-! ## Answers in one datagram -/

/-- `NLMSG_DONE` with the flag and the code zero a kernel sends. -/
def doneMessage (sequence : UInt32) : WireMessage := ⟨⟨20, nlmsgDone, 2, sequence, 0⟩, [0, 0, 0, 0], [], rfl, rfl⟩

theorem readI32_doneMessage (host : Host) (sequence : UInt32) :
    readI32 host ((doneMessage sequence).message host) MessageHeader.size = some 0 := by
  have hzero := @ByteOrder.u32At_zeros host.byteOrder 4 0 (by decide) []
  have hat : host.byteOrder.u32At ((doneMessage sequence).message host) MessageHeader.size = 0 := by
    rw [WireMessage.message, ByteOrder.u32At_skip _ (by simp [MessageHeader.size])]
    simpa [MessageHeader.size, doneMessage] using hzero
  rw [readI32, if_neg (by simp [MessageHeader.size, doneMessage]), ByteOrder.i32At, hat]
  rfl

/-- A table answered in one datagram, its messages before `NLMSG_DONE`. -/
def Answers.ofMessages {ms : List WireMessage} (hcontrol : isControl messageType = false)
    (hms : ∀ m ∈ ms, m.header.sequence = sequence ∧ m.header.messageType = messageType)
    (hdescribes : List.Forall₂ describes entries ms)
    (hfits : (datagramOf host (ms ++ [doneMessage sequence])).length ≤ bufferSize) :
    Answers host sequence messageType describes entries
      [.datagram (datagramOf host (ms ++ [doneMessage sequence]))] where
  dump :=
    { records := ms
      done := doneMessage sequence
      records_not := by
        intro m hm
        simp only [isControl, Bool.or_eq_false_iff, decide_eq_false_iff_not] at hcontrol
        simp [WireMessage.item, isDone, (hms m hm).2, hcontrol.1.1]
      isDone_done := by simp [WireMessage.item, isDone, doneMessage] }
  cutting :=
    { groups := [ms ++ [doneMessage sequence]]
      flatten_eq := by simp [DumpMessages.all]
      nonempty := by simp
      fits := by simpa using hfits }
  replies_eq := rfl
  clean := by
    intro m hm _
    rw [(hms m hm).2]
    simp only [isControl, Bool.or_eq_false_iff, decide_eq_false_iff_not] at hcontrol
    exact ⟨hcontrol.1.2, hcontrol.2⟩
  completed := ⟨(by decide : (2 : UInt16) &&& nlmFDumpIntr = 0), by rw [readI32_doneMessage]; rfl⟩
  described := by
    have hall : ms.filter (isEntry sequence messageType) = ms :=
      List.filter_eq_self.2 (fun m hm => by simp [isEntry, hms m hm])
    rwa [hall]

/-- A table of one entry. -/
def oneEntry {d : D} {m : WireMessage} (hcontrol : isControl messageType = false)
    (hm : m.header.sequence = sequence ∧ m.header.messageType = messageType) (hdescribes : describes d m)
    (hfits : (datagramOf host [m, doneMessage sequence]).length ≤ bufferSize) :
    Answers host sequence messageType describes [d] [.datagram (datagramOf host [m, doneMessage sequence])] :=
  .ofMessages hcontrol (List.forall_mem_singleton.2 hm) (.cons hdescribes .nil) hfits

end Networkrs
