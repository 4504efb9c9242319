import Networkrs.FailedDump
/-!
# Packing — dump results and the datagrams the kernel packs them into

A stream of well-formed messages that one `NLMSG_DONE` ends, and the ways of cutting it into datagrams.  The items a
cutting delivers are the messages, however they are cut (`received_cutting`), so every receiver returns the same on
all cuttings, and what it returns are the records of the messages with its sequence number and type
(`dump_independent_of_packing`).
-/
namespace Networkrs

open Machine Framing Collect

variable (host : Host)

/-- **A well-formed message**: its header declares its length, and it is padded to four bytes. -/
structure WireMessage where
  header : MessageHeader
  payload : Bytes
  padding : Bytes
  length_eq : header.length.toNat = MessageHeader.size + payload.length
  padding_eq : MessageHeader.size + payload.length + padding.length = alignTo4 (MessageHeader.size + payload.length)

def WireMessage.message (m : WireMessage) : Bytes := m.header.bytes host ++ m.payload

def WireMessage.item (m : WireMessage) : MessageItem := .record m.header (m.message host)

def datagramOf (ms : List WireMessage) : Bytes := ms.flatMap (fun m => m.message host ++ m.padding)

@[simp] theorem WireMessage.length_message (m : WireMessage) :
    (m.message host).length = MessageHeader.size + m.payload.length := by
  simp [WireMessage.message, MessageHeader.size]

theorem items_datagramOf (ms : List WireMessage) :
    items (messageFormat host) (datagramOf host ms) = ms.map (fun m => m.item host) := by
  refine items_flatMap (messageFormat host) WireMessage.header (fun m => m.message host) WireMessage.padding ms ?_
  intro m _
  refine ⟨MessageHeader.read_bytes host m.header m.payload, ?_, ?_⟩
  · rw [WireMessage.length_message]
    exact m.length_eq
  · rw [WireMessage.length_message]
    exact m.padding_eq

/-- **The messages of a dump**: the only `NLMSG_DONE` with its sequence number is the last. -/
structure DumpMessages (sequence : UInt32) where
  records : List WireMessage
  done : WireMessage
  records_not : ∀ m ∈ records, isDone sequence (m.item host) = false
  isDone_done : isDone sequence (done.item host) = true

def DumpMessages.all {host : Host} {sequence : UInt32} (dump : DumpMessages host sequence) : List WireMessage :=
  dump.records ++ [dump.done]

/-- **A cutting of messages into datagrams**, none of them empty or larger than the receive buffer. -/
structure Cutting (ms : List WireMessage) where
  groups : List (List WireMessage)
  flatten_eq : groups.flatten = ms
  nonempty : ∀ g ∈ groups, g ≠ []
  fits : ∀ g ∈ groups, (datagramOf host g).length ≤ bufferSize

def Cutting.socket {host : Host} {ms : List WireMessage} (cutting : Cutting host ms) : Socket :=
  cutting.groups.map (fun g => .datagram (datagramOf host g))

/-! ## What a cutting delivers -/

theorem datagramOf_ne_nil {g : List WireMessage} (h : g ≠ []) : datagramOf host g ≠ [] := by
  cases g with
  | nil => exact absurd rfl h
  | cons m g =>
    intro hnil
    have hlength := congrArg List.length hnil
    rw [datagramOf, List.flatMap_cons, List.length_append, List.length_append, WireMessage.length_message] at hlength
    simp only [MessageHeader.size, List.length_nil] at hlength
    omega

/-- Datagrams that fit the buffer arrive whole. -/
theorem arrivals_groups_append (size : Nat) (closed : Text) (rest : Socket) : ∀ (groups : List (List WireMessage)),
    (∀ g ∈ groups, g ≠ []) → (∀ g ∈ groups, (datagramOf host g).length ≤ size) →
    arrivals size closed (groups.map (fun g => .datagram (datagramOf host g)) ++ rest) =
      groups.map (fun g => .ok (datagramOf host g)) ++ arrivals size closed rest
  | [], _, _ => rfl
  | g :: groups, hnonempty, hfits => by
    have ih := arrivals_groups_append size closed rest groups (fun x hx => hnonempty x (List.mem_cons_of_mem g hx))
      (fun x hx => hfits x (List.mem_cons_of_mem g hx))
    have htake : (datagramOf host g).take size = datagramOf host g :=
      List.take_of_length_le (hfits g List.mem_cons_self)
    have hne : (datagramOf host g).isEmpty = false := by
      rw [List.isEmpty_eq_false_iff]
      exact datagramOf_ne_nil host (hnonempty g List.mem_cons_self)
    rw [List.map_cons, List.cons_append, arrivals, htake, hne, ih]
    rfl

theorem arrivals_groups (closed : Text) {groups : List (List WireMessage)} (hnonempty : ∀ g ∈ groups, g ≠ [])
    (hfits : ∀ g ∈ groups, (datagramOf host g).length ≤ bufferSize) :
    arrivals bufferSize closed (groups.map (fun g => .datagram (datagramOf host g))) =
      groups.map (fun g => .ok (datagramOf host g)) := by
  have h := arrivals_groups_append host bufferSize closed [] groups hnonempty hfits
  simpa only [List.append_nil, arrivals] using h

theorem streamItems_groups : ∀ (groups : List (List WireMessage)),
    streamItems (items (messageFormat host)) (groups.map (fun g => .ok (datagramOf host g))) =
      groups.flatten.map (fun m => .ok (m.item host))
  | [] => rfl
  | g :: groups => by
    rw [List.map_cons, streamItems_cons, streamItems_groups groups, List.flatten_cons, List.map_append]
    dsimp only
    rw [items_datagramOf, List.map_map]
    rfl

/-- **The items of a cutting are the messages.** -/
theorem received_cutting {ms : List WireMessage} (cutting : Cutting host ms) (closed : Text) :
    received host closed cutting.socket = ms.map (fun m => .ok (m.item host)) := by
  unfold received Cutting.socket
  rw [arrivals_groups host closed cutting.nonempty cutting.fits, streamItems_groups, cutting.flatten_eq]

/-- A cutting of a dump ends with the datagram of its `NLMSG_DONE`. -/
theorem groups_concat {sequence : UInt32} {dump : DumpMessages host sequence} (cutting : Cutting host dump.all) :
    ∃ (groups : List (List WireMessage)) (last : List WireMessage), cutting.groups = groups ++ [last] ∧
      (∀ m ∈ groups.flatten, isDone sequence (m.item host) = false) ∧ dump.done ∈ last := by
  rcases List.eq_nil_or_concat cutting.groups with hnil | ⟨groups, last, hgroups⟩
  · have hflatten := cutting.flatten_eq
    rw [hnil, DumpMessages.all] at hflatten
    simp at hflatten
  · rw [List.concat_eq_append] at hgroups
    refine ⟨groups, last, hgroups, ?_⟩
    have hlast : last ≠ [] := cutting.nonempty last (by rw [hgroups]; simp)
    have hflatten := cutting.flatten_eq
    rw [hgroups, List.flatten_append, List.flatten_singleton, DumpMessages.all] at hflatten
    rcases List.eq_nil_or_concat last with hnil | ⟨front, m, hm⟩
    · exact absurd hnil hlast
    · rw [List.concat_eq_append] at hm
      rw [hm, ← List.append_assoc] at hflatten
      obtain ⟨hfront, hdone⟩ := List.append_inj' hflatten rfl
      obtain rfl : m = dump.done := by simpa using hdone
      refine ⟨fun x hx => dump.records_not x ?_, by rw [hm]; simp⟩
      rw [← hfront]
      exact List.mem_append_left _ hx

/-! ## What the receivers return -/

/-- **The records of the messages with a sequence number and a type**, in order. -/
def recordsOf {T : Type} (sequence : UInt32) (messageType : UInt16) (value : Bytes → List T) (ms : List WireMessage) :
    List T :=
  (ms.filter (fun m => m.header.sequence = sequence && m.header.messageType = messageType)).flatMap
    (fun m => value (m.message host))

theorem recordsOf_eq_flatMap {T : Type} (sequence : UInt32) (messageType : UInt16) (value : Bytes → List T)
    {f : MessageItem → List T}
    (hf : ∀ m : WireMessage, f (m.item host) =
      if m.header.sequence = sequence ∧ m.header.messageType = messageType then value (m.message host) else []) :
    ∀ (ms : List WireMessage),
      ms.flatMap (fun m => f (m.item host)) = recordsOf host sequence messageType value ms
  | [] => rfl
  | m :: ms => by
    have ih := recordsOf_eq_flatMap sequence messageType value hf ms
    unfold recordsOf at ih ⊢
    rw [List.flatMap_cons, ih, hf, List.filter_cons]
    by_cases h : m.header.sequence = sequence ∧ m.header.messageType = messageType
    · simp [h]
    · have h' : (decide (m.header.sequence = sequence) && decide (m.header.messageType = messageType)) = false := by
        simpa [Bool.and_eq_false_iff, not_and_or] using h
      simp [h, h']

/-- **A dump that returns a table has read it whole**: it ends at the last message. -/
theorem values_of_ok {T : Type} {sequence : UInt32} (dump : DumpMessages host sequence)
    {ending : MessageItem → Option (Ending IoError)} {values : MessageItem → List T}
    (hcomplete : ∀ i, ending i = some .complete → isDone sequence i = true)
    (hvalues : values (dump.done.item host) = [])
    {vs : List T}
    (h : run (judgeStream (verdictOf ending values)) (dump.all.map (fun m => .ok (m.item host))) = .ok vs) :
    vs = dump.all.flatMap (fun m => values (m.item host)) := by
  obtain ⟨pre, done, post, hsplit, hpre, hdone, rfl⟩ := (run_judgeStream_eq_ok_iff _ _ _ _).1 h
  rw [DumpMessages.all, List.map_append, List.map_cons, List.map_nil] at hsplit
  have hpre' : pre.map Except.ok = dump.records.map (fun m => (.ok (m.item host) : Except IoError MessageItem)) := by
    rcases List.eq_nil_or_concat post with rfl | ⟨front, last, rfl⟩
    · exact (List.append_inj' hsplit rfl).1.symm
    · -- a complete end before the last message would be a second `NLMSG_DONE`
      rw [List.concat_eq_append, ← List.cons_append, ← List.append_assoc] at hsplit
      have hfront := (List.append_inj' hsplit rfl).1
      have hmem : (.ok done : Except IoError MessageItem) ∈
          dump.records.map (fun m => (.ok (m.item host) : Except IoError MessageItem)) := by
        rw [hfront]
        simp
      obtain ⟨m, hm, heq⟩ := List.mem_map.1 hmem
      cases heq
      have := hcomplete _ hdone
      rw [dump.records_not m hm] at this
      cases this
  have hitems : pre = dump.records.map (fun m => m.item host) := by
    have hinj : ∀ a b : MessageItem, (Except.ok a : Except IoError MessageItem) = .ok b → a = b := fun a b hab => by
      cases hab
      rfl
    apply (List.map_inj_right hinj).1
    rw [hpre', List.map_map]
    rfl
  rw [hitems, List.flatMap_map, DumpMessages.all, List.flatMap_append, List.flatMap_singleton, hvalues, List.append_nil]

theorem dumpValues_of_isDone {T : Type} {sequence : UInt32} {i : MessageItem} (messageType : UInt16)
    (parse : Bytes → Checked (Option T)) (h : isDone sequence i = true) :
    dumpValues sequence messageType parse i = [] := by
  cases i with
  | fault f => rfl
  | record header message =>
    simp only [isDone, Bool.and_eq_true, decide_eq_true_eq] at h
    simp [dumpValues, h.2, isControl]

theorem dumpValues_item {T : Type} {messageType : UInt16} (sequence : UInt32) (parse : Bytes → Checked (Option T))
    (hcontrol : isControl messageType = false) (m : WireMessage) :
    dumpValues sequence messageType parse (m.item host) =
      if m.header.sequence = sequence ∧ m.header.messageType = messageType then parsedValues parse (m.message host)
      else [] := by
  unfold WireMessage.item dumpValues
  dsimp only
  by_cases h : m.header.sequence = sequence ∧ m.header.messageType = messageType
  · rw [if_pos h, if_pos ⟨h.1, h.2, by rw [h.2]; exact hcontrol⟩]
  · rw [if_neg h, if_neg (fun h' => h ⟨h'.1, h'.2.1⟩)]

theorem receiveDump_cutting {T : Type} {sequence : UInt32} {dump : DumpMessages host sequence} (messageType : UInt16)
    (name : Text) (parse : Bytes → Checked (Option T)) (cutting : Cutting host dump.all) :
    (receiveDump host sequence messageType name parse cutting.socket).1 =
      run (judgeStream (dumpJudge host sequence messageType (dumpTexts name) parse))
        (dump.all.map (fun m => .ok (m.item host))) := by
  rw [receiveDump_eq_run, received_cutting]

theorem receiveDump_values {T : Type} {sequence : UInt32} {dump : DumpMessages host sequence} {messageType : UInt16}
    (hcontrol : isControl messageType = false) (name : Text) (parse : Bytes → Checked (Option T))
    (cutting : Cutting host dump.all) {vs : List T}
    (h : (receiveDump host sequence messageType name parse cutting.socket).1 = .ok vs) :
    vs = recordsOf host sequence messageType (parsedValues parse) dump.all := by
  have hrun := receiveDump_textless host sequence messageType parse name cutting.socket
  rw [h, received_cutting] at hrun
  have hvalues := values_of_ok host dump
    (fun i hi => (of_complete host sequence messageType parse hi).1)
    (dumpValues_of_isDone messageType parse dump.isDone_done) hrun.symm
  rw [hvalues]
  exact recordsOf_eq_flatMap host sequence messageType (parsedValues parse)
    (dumpValues_item host sequence parse hcontrol) dump.all

theorem sockDiagDump_values {protocol : Protocol} {sequence : UInt32} {dump : DumpMessages host sequence}
    (cutting : Cutting host dump.all) {vs : List SocketDiagnostic}
    (h : (SockDiag.receiveDump host protocol sequence cutting.socket).1 = .ok vs) :
    vs = recordsOf host sequence sockDiagByFamily (parsedValues (parseDiagnostic host protocol)) dump.all := by
  rw [sockDiagDump_eq_run, received_cutting] at h
  have hvalues := values_of_ok host dump (fun i hi => isDone_of_diagnosticEnding host hi)
    (dumpValues_of_isDone sockDiagByFamily (parseDiagnostic host protocol) dump.isDone_done) h
  rw [hvalues]
  exact recordsOf_eq_flatMap host sequence sockDiagByFamily (parsedValues (parseDiagnostic host protocol))
    (dumpValues_item host sequence (parseDiagnostic host protocol) (by decide)) dump.all

/-- The message `parse_messages` makes of a message of the family. -/
def parsedMessage (message : Bytes) : List Message :=
  match parseGenericPayload host message with
  | .ok (.ok parsed) => [parsed]
  | _ => []

theorem genericValues_item {familyId : UInt16} (sequence : UInt32) (hcontrol : isControl familyId = false)
    (m : WireMessage) :
    genericValues host familyId sequence (m.item host) =
      if m.header.sequence = sequence ∧ m.header.messageType = familyId then parsedMessage host (m.message host)
      else [] := by
  simp only [isControl, Bool.or_eq_false_iff, decide_eq_false_iff_not] at hcontrol
  unfold WireMessage.item genericValues parsedMessage
  dsimp only
  by_cases h : m.header.sequence = sequence ∧ m.header.messageType = familyId
  · rw [if_pos h]
    exact if_pos ⟨h.1, by rw [h.2]; exact hcontrol.1.2, by rw [h.2]; exact hcontrol.2, h.2⟩
  · rw [if_neg h, if_neg (fun h' => h ⟨h'.1, h'.2.2.2⟩)]

/-- The receive loop of a request, on a cutting: the first ending of the messages, or all of them. -/
theorem receiveReplies_cutting (familyId : UInt16) {sequence : UInt32} {dump : DumpMessages host sequence}
    (cutting : Cutting host dump.all) :
    (receiveReplies host familyId sequence true cutting.socket).1 =
      (run (judgeStream (verdictOf (genericEnding host familyId sequence) (genericValues host familyId sequence)))
        (dump.all.map (fun m => .ok (m.item host)))).orFinish
          (dump.all.flatMap (fun m => genericValues host familyId sequence (m.item host))) := by
  obtain ⟨groups, last, hgroups, hnot, hmem⟩ := groups_concat host cutting
  have harrivals : arrivals bufferSize genericClosed cutting.socket =
      groups.map (fun g => .ok (datagramOf host g)) ++ [.ok (datagramOf host last)] := by
    unfold Cutting.socket
    rw [arrivals_groups host _ cutting.nonempty cutting.fits, hgroups, List.map_append]
    rfl
  have hlast : (items (messageFormat host) (datagramOf host last)).any (isDone sequence) = true := by
    rw [items_datagramOf, List.any_eq_true]
    exact ⟨_, List.mem_map_of_mem hmem, dump.isDone_done⟩
  have hbefore : ∀ d, .ok d ∈ streamItems (items (messageFormat host)) (groups.map (fun g => .ok (datagramOf host g))) →
      isDone sequence d = false := by
    intro d hd
    rw [streamItems_groups] at hd
    obtain ⟨m, hm, heq⟩ := List.mem_map.1 hd
    cases heq
    exact hnot m hm
  have hstream : streamItems (items (messageFormat host))
      (groups.map (fun g => .ok (datagramOf host g)) ++ [.ok (datagramOf host last)]) =
      dump.all.map (fun m => .ok (m.item host)) := by
    have h := streamItems_groups host cutting.groups
    rw [cutting.flatten_eq, hgroups, List.map_append] at h
    exact h
  have hrun := run_replies host familyId sequence [] hlast _ hbefore
  rw [receiveReplies_eq_run, harrivals, hrun, hstream, judgeStream_verdictOf, List.flatMap_map]
  rfl

theorem receiveReplies_values {familyId : UInt16} (hcontrol : isControl familyId = false) {sequence : UInt32}
    {dump : DumpMessages host sequence} (cutting : Cutting host dump.all) {vs : List Message}
    (h : (receiveReplies host familyId sequence true cutting.socket).1 = .ok vs) :
    vs = recordsOf host sequence familyId (parsedMessage host) dump.all := by
  rw [receiveReplies_cutting] at h
  have hvalues := recordsOf_eq_flatMap host sequence familyId (parsedMessage host)
    (genericValues_item host sequence hcontrol) dump.all
  cases hrun : run (judgeStream (verdictOf (genericEnding host familyId sequence)
      (genericValues host familyId sequence))) (dump.all.map (fun m => .ok (m.item host))) with
  | ok values =>
    obtain ⟨pre, done, post, -, -, hdone, -⟩ := (run_judgeStream_eq_ok_iff _ _ _ _).1 hrun
    exact absurd hdone (genericEnding_ne_complete host familyId sequence done)
  | err e => rw [hrun] at h; cases h
  | panicked p => rw [hrun] at h; cases h
  | waiting =>
    rw [hrun] at h
    rw [← hvalues]
    exact (Outcome.ok.inj h).symm

/-- A request whose replies are a cutting of a dump. -/
def Exchange.answered {ms : List WireMessage} (x : Exchange) (cutting : Cutting host ms) : Exchange :=
  { x with dump := true, replies := cutting.socket }

/-- **Dump results do not depend on how messages are packed into datagrams**, and a table that is returned holds the
records of the messages with the sequence number and type of the dump, all of them in order. -/
theorem dump_independent_of_packing {sequence : UInt32} (dump : DumpMessages host sequence)
    (cutting cutting' : Cutting host dump.all) :
    (∀ (T : Type) (messageType : UInt16) (name : Text) (parse : Bytes → Checked (Option T)),
      isControl messageType = false →
      (receiveDump host sequence messageType name parse cutting.socket).1 =
          (receiveDump host sequence messageType name parse cutting'.socket).1 ∧
        ∀ vs, (receiveDump host sequence messageType name parse cutting.socket).1 = .ok vs →
          vs = recordsOf host sequence messageType (parsedValues parse) dump.all) ∧
    (∀ protocol : Protocol,
      (SockDiag.receiveDump host protocol sequence cutting.socket).1 =
          (SockDiag.receiveDump host protocol sequence cutting'.socket).1 ∧
        ∀ vs, (SockDiag.receiveDump host protocol sequence cutting.socket).1 = .ok vs →
          vs = recordsOf host sequence sockDiagByFamily (parsedValues (parseDiagnostic host protocol)) dump.all) ∧
    (∀ (client : Client) (x : Exchange), client.socket = [] → client.sequence + 1 = sequence →
      isControl client.familyId = false →
      (client.request host (x.answered host cutting)).1 = (client.request host (x.answered host cutting')).1 ∧
        ∀ vs, (client.request host (x.answered host cutting)).1 = .ok vs →
          vs = recordsOf host sequence client.familyId (parsedMessage host) dump.all) := by
  refine ⟨?_, ?_, ?_⟩
  · intro T messageType name parse hcontrol
    refine ⟨?_, fun vs h => receiveDump_values host hcontrol name parse cutting h⟩
    rw [receiveDump_cutting, receiveDump_cutting]
  · intro protocol
    refine ⟨?_, fun vs h => sockDiagDump_values host cutting h⟩
    rw [sockDiagDump_eq_run, sockDiagDump_eq_run, received_cutting, received_cutting]
  · rintro ⟨socket, familyId, current⟩ x hsocket rfl hcontrol
    obtain rfl : socket = [] := hsocket
    have hsame := (receiveReplies_cutting host familyId cutting).trans
      (receiveReplies_cutting host familyId cutting').symm
    unfold Client.request Client.requestMessage Exchange.answered
    simp only [List.nil_append]
    split
    · exact ⟨rfl, fun vs h => by cases h⟩
    · exact ⟨hsame, fun vs h => receiveReplies_values host hcontrol cutting h⟩

def mainRoute : WireMessage :=
  ⟨⟨28, rtmNewroute, 0, 1, 0⟩, [2, 24, 0, 0, 254, 3, 0, 1, 0, 0, 0, 0], [], by decide, by decide⟩

def zeroDone : WireMessage := ⟨⟨20, nlmsgDone, 0, 1, 0⟩, [0, 0, 0, 0], [], by decide, by decide⟩

def routeDump : DumpMessages hostX86 1 where
  records := [mainRoute]
  done := zeroDone
  records_not := by
    intro m hm
    rw [List.mem_singleton.1 hm]
    decide
  isDone_done := by decide

def oneDatagram : Cutting hostX86 routeDump.all where
  groups := [[mainRoute, zeroDone]]
  flatten_eq := rfl
  nonempty := by
    intro g hg
    rw [List.mem_singleton.1 hg]
    exact List.cons_ne_nil _ _
  fits := by
    intro g hg
    rw [List.mem_singleton.1 hg]
    decide +kernel

def twoDatagrams : Cutting hostX86 routeDump.all where
  groups := [[mainRoute], [zeroDone]]
  flatten_eq := rfl
  nonempty := by
    intro g hg
    rcases List.mem_cons.1 hg with rfl | hg
    · exact List.cons_ne_nil _ _
    · rw [List.mem_singleton.1 hg]
      exact List.cons_ne_nil _ _
  fits := by
    intro g hg
    rcases List.mem_cons.1 hg with rfl | hg
    · decide +kernel
    · rw [List.mem_singleton.1 hg]
      decide +kernel

/-- The dump of one route, in one datagram and in two. -/
theorem dump_independent_of_packing_route :
    (receiveDump hostX86 1 rtmNewroute "route" (parseRoute hostX86) oneDatagram.socket).1 =
        (receiveDump hostX86 1 rtmNewroute "route" (parseRoute hostX86) twoDatagrams.socket).1 ∧
      (SockDiag.receiveDump hostX86 .tcp 1 oneDatagram.socket).1 =
        (SockDiag.receiveDump hostX86 .tcp 1 twoDatagrams.socket).1 ∧
      ∀ x : Exchange,
        ((Client.mk [] rtmNewroute 0).request hostX86 (x.answered hostX86 oneDatagram)).1 =
          ((Client.mk [] rtmNewroute 0).request hostX86 (x.answered hostX86 twoDatagrams)).1 := by
  obtain ⟨hroutes, hdiagnostics, hclient⟩ := dump_independent_of_packing hostX86 routeDump oneDatagram twoDatagrams
  refine ⟨?_, ?_, fun x => ?_⟩
  · exact (hroutes Route rtmNewroute "route" (parseRoute hostX86) (by decide)).1
  · exact (hdiagnostics .tcp).1
  · exact (hclient ⟨[], rtmNewroute, 0⟩ x rfl (by decide) (by decide)).1

end Networkrs
