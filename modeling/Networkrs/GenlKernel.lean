import Networkrs.Correlation
import Networkrs.KernelRecords
/-!
# GenlKernel — requests that a kernel answers over a generic-netlink socket

A kernel does not take a request, refuses it, answers it with one datagram, or answers it with a dump in any packing
(`Serves`).  A request over an idle socket comes to what the kernel makes of it and leaves the socket idle
(`request_serves`), so that a client's requests do not disturb each other.
-/
namespace Networkrs

open Machine Framing Collect

variable {host : Host}

/-! ## Messages -/

/-- **A message carries a command and attributes**: well-formed ones, with any flag bits and padding. -/
def CarriesMessage (host : Host) (message : Message) (m : WireMessage) : Prop :=
  ∃ version reserved bytes, Encodes host (message.attributes.map (fun a => (a.kind, a.value))) bytes ∧
    m.payload = GenericHeader.bytes host ⟨message.command, version, reserved⟩ ++ bytes

theorem parseGenericPayload_of_carries {message : Message} {m : WireMessage} (h : CarriesMessage host message m) :
    parseGenericPayload host (m.message host) = .ok (.ok message) := by
  obtain ⟨version, reserved, bytes, hbytes, hpayload⟩ := h
  have hheader : (m.header.bytes host).length = MessageHeader.size := m.header.length_bytes host
  have hgeneric : (GenericHeader.bytes host ⟨message.command, version, reserved⟩).length = GenericHeader.size := by
    simp [GenericHeader.bytes, GenericHeader.size]
  have hread : ∃ generic, GenericHeader.read host (GenericHeader.bytes host ⟨message.command, version, reserved⟩ ++
      bytes) = some generic ∧ generic.command = message.command :=
    ⟨_, if_neg (by rw [List.length_append, hgeneric]; omega), rfl⟩
  obtain ⟨generic, hread, hcommand⟩ := hread
  have hattributes := attributesIn_behind hheader hgeneric (by decide) hbytes
  rw [← hpayload, ← WireMessage.message, attributesIn, Option.map_eq_some_iff] at hattributes
  obtain ⟨records, hrecords, hmap⟩ := hattributes
  have hparsed : records.map (fun r => (⟨r.1.kind &&& nlaTypeMask, r.2.drop AttributeHeader.size⟩ : Attribute)) =
      message.attributes := by
    have hpairs := congrArg (List.map (fun a : UInt16 × Bytes => (⟨a.1, a.2⟩ : Attribute))) hmap
    simpa only [List.map_map, Function.comp_def, List.map_id'] using hpairs
  have hfrom := @getFrom_behind (m.header.bytes host) m.payload hheader
  unfold parseGenericPayload
  rw [← WireMessage.message] at hfrom
  rw [hfrom, hpayload]
  simp only [hread, parseAttributes_eq, hrecords, Option.map_some, hparsed, hcommand]
  rfl

/-- **Attributes present fields**: the value of each field that has one, once, in any order and among attributes of
other kinds. -/
def PresentsFields (fields : List (UInt16 × Option Bytes)) (attributes : List Attribute) : Prop :=
  Presents fields (attributes.map (fun a => (a.kind, a.value)))

/-- **A lookup finds the value of its field.** -/
theorem PresentsFields.findSome?_eq {β : Type} {fields : List (UInt16 × Option Bytes)} {attributes : List Attribute}
    (h : PresentsFields fields attributes) (kind : UInt16) {value : Option Bytes}
    (hfield : fields.lookup kind = some value) (f : Bytes → Option β) :
    attributes.findSome? (fun a => if a.kind = kind then f a.value else none) = value.bind f := by
  have hfind := Presents.findValue_eq h kind hfield f
  rw [findValue, List.findSome?_map] at hfind
  exact hfind

theorem PresentsFields.nestedBytes_eq {fields : List (UInt16 × Option Bytes)} {attributes : List Attribute}
    (h : PresentsFields fields attributes) (kind : UInt16) {value : Option Bytes}
    (hfield : fields.lookup kind = some value) : nestedBytes attributes kind = value := by
  rw [nestedBytes, h.findSome?_eq kind hfield some]
  cases value <;> rfl

/-! ## What a kernel makes of a request -/

/-- What the kernel does at a request: whether it takes it, and the calls it queues. -/
structure KernelCall where
  sent : Sent
  replies : Socket

/-- **How a kernel serves a request** of `length` bytes, and the messages it comes to, or none where it fails: it does
not take the request, a receive fails, it refuses with an error number, it answers with one datagram, or it answers with
a dump.  Calls that signals interrupt stand anywhere between the datagrams. -/
inductive Serves (host : Host) (familyId : UInt16) (sequence : UInt32) (dump : Bool) (length : Nat) :
    KernelCall → Option (List Message) → Prop where
  | unsent (errno : Int32) : Serves host familyId sequence dump length ⟨.failed errno, []⟩ none
  | partly {n : Nat} : n ≠ length → Serves host familyId sequence dump length ⟨.bytes n, []⟩ none
  | lost {errno : Int32} {replies : Socket} : errno ≠ eintr → uninterrupted replies = [.failed errno] →
      Serves host familyId sequence dump length ⟨.bytes length, replies⟩ none
  | refused {m : WireMessage} {error : Int32} {replies : Socket} : m.header.sequence = sequence →
      m.header.messageType = nlmsgError → readI32 host (m.message host) MessageHeader.size = some error →
      -4096 < error → error < 0 → (datagramOf host [m]).length ≤ bufferSize →
      uninterrupted replies = [.datagram (datagramOf host [m])] →
      Serves host familyId sequence dump length ⟨.bytes length, replies⟩ none
  | answered {ms : List WireMessage} {messages : List Message} {replies : Socket} : dump = false → ms ≠ [] →
      (datagramOf host ms).length ≤ bufferSize → uninterrupted replies = [.datagram (datagramOf host ms)] →
      (∀ m ∈ ms, m.header.sequence = sequence →
        m.header.messageType ≠ nlmsgError ∧ m.header.messageType ≠ nlmsgOverrun) →
      List.Forall₂ (CarriesMessage host) messages (ms.filter (isEntry sequence familyId)) →
      Serves host familyId sequence dump length ⟨.bytes length, replies⟩ (some messages)
  | dumped {messages : List Message} {replies : Socket} : dump = true →
      Answers host sequence familyId (CarriesMessage host) messages replies →
      Serves host familyId sequence dump length ⟨.bytes length, replies⟩ (some messages)

/-! ## Interrupted calls -/

theorem uninterrupted_append (socket rest : Socket) :
    uninterrupted (socket ++ rest) = uninterrupted socket ++ uninterrupted rest := List.filter_append _ _

theorem uninterrupted_interrupted (socket : Socket) : uninterrupted (.failed eintr :: socket) = uninterrupted socket :=
  List.filter_cons_of_neg (by simp)

/-- **Interrupted calls change neither what a loop returns nor what it leaves unread.** -/
theorem receiveLoop_uninterrupted {σ ρ : Type} (size : Nat) (closed : Text)
    (onDatagram : σ → Bytes → Checked (Except IoError (Flow σ ρ))) : ∀ (socket : Socket) (s : σ),
    (receiveLoop size closed onDatagram s (uninterrupted socket)).1 = (receiveLoop size closed onDatagram s socket).1 ∧
      (receiveLoop size closed onDatagram s (uninterrupted socket)).2 =
        uninterrupted (receiveLoop size closed onDatagram s socket).2
  | [], s => by
    rw [show uninterrupted [] = [] from rfl, receiveLoop_eq]
    exact ⟨rfl, rfl⟩
  | .failed errno :: socket, s => by
    by_cases h : errno = eintr
    · rw [h, uninterrupted_interrupted, receiveLoop_interrupted]
      exact receiveLoop_uninterrupted size closed onDatagram socket s
    · rw [uninterrupted, List.filter_cons_of_pos (by simpa using h), receiveLoop_failed size closed onDatagram s h,
        receiveLoop_failed size closed onDatagram s h]
      exact ⟨rfl, rfl⟩
  | .datagram bytes :: socket, s => by
    rw [uninterrupted, List.filter_cons_of_pos (by simp)]
    cases h : (bytes.take size).isEmpty with
    | true =>
      rw [receiveLoop_closed size closed onDatagram s h, receiveLoop_closed size closed onDatagram s h]
      exact ⟨rfl, rfl⟩
    | false =>
      rw [receiveLoop_datagram size closed onDatagram s h, receiveLoop_datagram size closed onDatagram s h]
      cases onDatagram s (bytes.take size) with
      | error p => exact ⟨rfl, rfl⟩
      | ok result =>
        cases result with
        | error e => exact ⟨rfl, rfl⟩
        | ok flow =>
          cases flow with
          | stop r => exact ⟨rfl, rfl⟩
          | next s' => exact receiveLoop_uninterrupted size closed onDatagram socket s'

/-! ## One request -/

/-- **Nothing is queued** on the socket of a client, but calls that signals interrupt. -/
def Client.Idle (client : Client) : Prop := uninterrupted client.socket = []

theorem requestDatagram_of_verdict (familyId : UInt16) (sequence : UInt32) (dump : Bool) (held : List Message)
    (response : Bytes) : requestDatagram host familyId sequence dump held response =
      match replyVerdict host familyId sequence dump response with
      | .keep messages => .ok (.ok (.next (held ++ messages)))
      | .finish messages => .ok (.ok (.stop (held ++ messages)))
      | .reject e => .ok (.error e)
      | .panic p => .error p := by
  rw [requestDatagram_eq, scan, judgeStep]
  cases replyVerdict host familyId sequence dump response <;> rfl

variable {familyId : UInt16} {sequence : UInt32} {dump : Bool}

/-- A datagram of messages is received, and its verdict goes on or ends the loop. -/
theorem receiveReplies_datagram {g : List WireMessage} (hne : g ≠ [])
    (hfits : (datagramOf host g).length ≤ bufferSize) (held : List Message) (socket : Socket) :
    receiveLoop bufferSize genericClosed (requestDatagram host familyId sequence dump) held
        (.datagram (datagramOf host g) :: socket) =
      match replyVerdict host familyId sequence dump (datagramOf host g) with
      | .keep messages =>
        receiveLoop bufferSize genericClosed (requestDatagram host familyId sequence dump) (held ++ messages) socket
      | .finish messages => (.ok (held ++ messages), socket)
      | .reject e => (.err e, socket)
      | .panic p => (.panicked p, socket) := by
  have htake : (datagramOf host g).take bufferSize = datagramOf host g := List.take_of_length_le hfits
  have hempty : ((datagramOf host g).take bufferSize).isEmpty = false := by
    rw [htake, List.isEmpty_eq_false_iff]
    exact datagramOf_ne_nil host hne
  rw [receiveLoop_datagram _ _ _ _ hempty, htake, requestDatagram_of_verdict]
  cases replyVerdict host familyId sequence dump (datagramOf host g) <;> rfl

/-- **A loop reads on through the datagrams it keeps**, to one that finishes it. -/
theorem receiveReplies_groups {last : List WireMessage} (hne : last ≠ [])
    (hfits : (datagramOf host last).length ≤ bufferSize) (values : List WireMessage → List Message)
    (hlast : replyVerdict host familyId sequence dump (datagramOf host last) = .finish (values last)) :
    ∀ (groups : List (List WireMessage)), (∀ g ∈ groups, g ≠ [] ∧ (datagramOf host g).length ≤ bufferSize ∧
      replyVerdict host familyId sequence dump (datagramOf host g) = .keep (values g)) → ∀ (held : List Message),
    receiveLoop bufferSize genericClosed (requestDatagram host familyId sequence dump) held
      ((groups ++ [last]).map (fun g => .datagram (datagramOf host g))) =
        (.ok (held ++ (groups ++ [last]).flatMap values), [])
  | [], _, held => by
    rw [List.nil_append, List.map_singleton, receiveReplies_datagram hne hfits, hlast, List.flatMap_singleton]
  | g :: groups, h, held => by
    obtain ⟨hg, hgfits, hkeep⟩ := h g List.mem_cons_self
    have ih := receiveReplies_groups hne hfits values hlast groups (fun x hx => h x (List.mem_cons_of_mem g hx))
    rw [List.cons_append, List.map_cons, receiveReplies_datagram hg hgfits, hkeep]
    dsimp only
    rw [ih, List.flatMap_cons, List.append_assoc]

/-- A message that reports no error, and carries a message if it is of the family, fails no request. -/
theorem genericEnding_of_clean {m : WireMessage}
    (hclean : m.header.sequence = sequence →
      m.header.messageType ≠ nlmsgError ∧ m.header.messageType ≠ nlmsgOverrun)
    (hcarries : isEntry sequence familyId m = true → ∃ message, CarriesMessage host message m) :
    genericEnding host familyId sequence (m.item host) = none := by
  unfold WireMessage.item genericEnding
  dsimp only
  by_cases hseq : m.header.sequence = sequence
  · obtain ⟨herror, hoverrun⟩ := hclean hseq
    rw [if_neg (not_not_intro hseq), if_neg herror, if_neg hoverrun]
    by_cases htype : m.header.messageType = familyId
    · obtain ⟨message, hmessage⟩ := hcarries (by simp [isEntry, hseq, htype])
      rw [if_pos htype, parseGenericPayload_of_carries hmessage]
    · rw [if_neg htype]
  · rw [if_pos hseq]

/-- **The messages read are those carried.** -/
theorem flatMap_genericValues (hcontrol : isControl familyId = false) {messages : List Message}
    {ms : List WireMessage} (h : List.Forall₂ (CarriesMessage host) messages (ms.filter (isEntry sequence familyId))) :
    ms.flatMap (fun m => genericValues host familyId sequence (m.item host)) = messages := by
  have hcarried : ∀ (messages : List Message) (entries : List WireMessage),
      List.Forall₂ (CarriesMessage host) messages entries →
      entries.flatMap (fun m => parsedMessage host (m.message host)) = messages := by
    intro messages entries h
    induction h with
    | nil => rfl
    | cons hmessage _ ih =>
      rw [List.flatMap_cons, ih, parsedMessage, parseGenericPayload_of_carries hmessage]
      rfl
  have hrecords := recordsOf_eq_flatMap host sequence familyId (parsedMessage host)
    (genericValues_item host sequence hcontrol) ms
  rw [hrecords]
  exact hcarried messages _ h

/-- Every message of the family carries one of the messages. -/
theorem exists_carries {messages : List Message} {ms : List WireMessage}
    (h : List.Forall₂ (CarriesMessage host) messages (ms.filter (isEntry sequence familyId))) {m : WireMessage}
    (hm : m ∈ ms) (hentry : isEntry sequence familyId m = true) : ∃ message, CarriesMessage host message m := by
  have hmem : m ∈ ms.filter (isEntry sequence familyId) := List.mem_filter.2 ⟨hm, hentry⟩
  obtain ⟨i, hi, rfl⟩ := List.mem_iff_getElem.1 hmem
  have hi' : i < messages.length := by rw [h.length_eq]; exact hi
  exact ⟨messages[i], h.get hi' hi⟩

/-- **An answer in one datagram** is read as the messages it carries. -/
theorem receiveReplies_answered (hcontrol : isControl familyId = false) {messages : List Message}
    {ms : List WireMessage} (hne : ms ≠ []) (hfits : (datagramOf host ms).length ≤ bufferSize)
    (hclean : ∀ m ∈ ms, m.header.sequence = sequence →
      m.header.messageType ≠ nlmsgError ∧ m.header.messageType ≠ nlmsgOverrun)
    (hcarried : List.Forall₂ (CarriesMessage host) messages (ms.filter (isEntry sequence familyId))) :
    receiveReplies host familyId sequence false [.datagram (datagramOf host ms)] = (.ok messages, []) := by
  have hnone : ∀ i ∈ items (messageFormat host) (datagramOf host ms),
      genericEnding host familyId sequence i = none := by
    intro i hi
    rw [items_datagramOf] at hi
    obtain ⟨m, hm, rfl⟩ := List.mem_map.1 hi
    exact genericEnding_of_clean (hclean m hm) (exists_carries hcarried hm)
  have hverdict := replyVerdict_of_none host false hnone
  rw [Bool.not_false, Bool.or_true, if_pos rfl, items_datagramOf, List.flatMap_map,
    flatMap_genericValues hcontrol hcarried] at hverdict
  rw [receiveReplies, receiveReplies_datagram hne hfits, hverdict]
  rfl

/-- **A dump is read as the messages it carries**, however it is packed. -/
theorem receiveReplies_dumped (hcontrol : isControl familyId = false) {messages : List Message} {replies : Socket}
    (h : Answers host sequence familyId (CarriesMessage host) messages replies) :
    receiveReplies host familyId sequence true (uninterrupted replies) = (.ok messages, []) := by
  obtain ⟨groups, last, hgroups, hnot, hmem⟩ := groups_concat host h.cutting
  have hdone := h.dump.isDone_done
  simp only [WireMessage.item, isDone, Bool.and_eq_true, decide_eq_true_eq] at hdone
  have hfamily : h.dump.done.header.messageType ≠ familyId := by
    simp only [isControl, Bool.or_eq_false_iff, decide_eq_false_iff_not] at hcontrol
    rw [hdone.2]
    exact fun heq => hcontrol.1.1 heq.symm
  have hall : ∀ g ∈ h.cutting.groups, ∀ m ∈ g, genericEnding host familyId sequence (m.item host) = none := by
    intro g hg m hm
    have hm : m ∈ h.dump.all := by
      rw [← h.cutting.flatten_eq]
      exact List.mem_flatten.2 ⟨g, hg, hm⟩
    rcases List.mem_append.1 hm with hrecord | hm
    · exact genericEnding_of_clean (h.clean m hrecord) (exists_carries h.described hrecord)
    · rw [List.mem_singleton.1 hm]
      refine genericEnding_of_clean (fun _ => by rw [hdone.2]; decide) (fun hentry => ?_)
      simp [isEntry, hfamily] at hentry
  have hverdict : ∀ g ∈ h.cutting.groups, replyVerdict host familyId sequence true (datagramOf host g) =
      if g.any (fun m => isDone sequence (m.item host)) = true then
        .finish (g.flatMap (fun m => genericValues host familyId sequence (m.item host)))
      else .keep (g.flatMap (fun m => genericValues host familyId sequence (m.item host))) := by
    intro g hg
    have hnone : ∀ i ∈ items (messageFormat host) (datagramOf host g),
        genericEnding host familyId sequence i = none := by
      intro i hi
      rw [items_datagramOf] at hi
      obtain ⟨m, hm, rfl⟩ := List.mem_map.1 hi
      exact hall g hg m hm
    rw [replyVerdict_of_none host true hnone, items_datagramOf, List.flatMap_map, List.any_map, Bool.not_true,
      Bool.or_false]
    rfl
  have hvalues : h.cutting.groups.flatMap
      (fun g => g.flatMap (fun m => genericValues host familyId sequence (m.item host))) = messages := by
    have hdoneValues : genericValues host familyId sequence (h.dump.done.item host) = [] := by
      rw [genericValues_item host sequence hcontrol, if_neg (fun hboth => hfamily hboth.2)]
    have hflatten := @List.flatMap_assoc _ _ _ h.cutting.groups (fun g => g)
      (fun m => genericValues host familyId sequence (m.item host))
    rw [← hflatten, List.flatMap_id', h.cutting.flatten_eq, DumpMessages.all, List.flatMap_append,
      List.flatMap_singleton, hdoneValues, List.append_nil]
    exact flatMap_genericValues hcontrol h.described
  rw [hgroups] at hverdict hvalues
  have hlast := hverdict last (by simp)
  rw [if_pos (List.any_eq_true.2 ⟨_, hmem, h.dump.isDone_done⟩)] at hlast
  have hloop := receiveReplies_groups (h.cutting.nonempty last (by rw [hgroups]; simp))
    (h.cutting.fits last (by rw [hgroups]; simp)) _ hlast groups ?_ []
  · rw [receiveReplies, h.replies_eq, Cutting.socket, hgroups, hloop, hvalues]
    rfl
  · intro g hg
    have hg' : g ∈ h.cutting.groups := by rw [hgroups]; exact List.mem_append_left _ hg
    refine ⟨h.cutting.nonempty g hg', h.cutting.fits g hg', ?_⟩
    rw [hverdict g (List.mem_append_left _ hg), if_neg]
    rw [List.any_eq_true]
    rintro ⟨m, hm, hisDone⟩
    rw [hnot m (List.mem_flatten.2 ⟨g, hg, hm⟩)] at hisDone
    cases hisDone

theorem receiveReplies_refused {m : WireMessage} {error : Int32} (hseq : m.header.sequence = sequence)
    (htype : m.header.messageType = nlmsgError)
    (hread : readI32 host (m.message host) MessageHeader.size = some error) (hleast : -4096 < error) (hneg : error < 0)
    (hfits : (datagramOf host [m]).length ≤ bufferSize) :
    receiveReplies host familyId sequence dump [.datagram (datagramOf host [m])] = (.err (.os (-error)), []) := by
  have hending : genericEnding host familyId sequence (m.item host) = some (.failed (.os (-error))) := by
    have hmin : error ≠ Int32.minValue := by
      rintro rfl
      exact absurd hleast (by decide)
    have hzero : error ≠ 0 := by
      rintro rfl
      exact absurd hneg (by decide)
    unfold WireMessage.item genericEnding
    simp [hseq, htype, hread, hzero, errorEnding, i32Neg, hmin]
  have hitems : items (messageFormat host) (datagramOf host [m]) = [] ++ m.item host :: [] := by
    rw [items_datagramOf]
    rfl
  have hverdict := replyVerdict_of_some host dump hitems (by simp) hending
  rw [receiveReplies, receiveReplies_datagram (List.cons_ne_nil m []) hfits, hverdict]
  rfl

/-- **What a request comes to.** -/
inductive ComesTo : Option (List Message) → IoResult (List Message) → Prop where
  | failed (e : IoError) : ComesTo none (.err e)
  | messages (messages : List Message) : ComesTo (some messages) (.ok messages)

/-- **A request over an idle socket comes to what the kernel makes of it**, and leaves the socket idle. -/
theorem request_serves {client : Client} {x : Exchange} {outcome : Option (List Message)}
    (hcontrol : isControl client.familyId = false) (hidle : client.Idle)
    (h : Serves host client.familyId (client.sequence + 1) x.dump (client.requestMessage host x).length
      ⟨x.sent, x.replies⟩ outcome) :
    ComesTo outcome (client.request host x).1 ∧ (client.request host x).2.Idle := by
  -- what the loop makes of the uninterrupted calls is what the request comes to
  have hloop : ∀ {result : IoResult (List Message)}, x.sent = .bytes (client.requestMessage host x).length →
      receiveReplies host client.familyId (client.sequence + 1) x.dump (uninterrupted x.replies) = (result, []) →
      (client.request host x).1 = result ∧ (client.request host x).2.Idle := by
    intro result hsent hresult
    have hqueue : uninterrupted (client.socket ++ x.replies) = uninterrupted x.replies := by
      rw [uninterrupted_append, hidle, List.nil_append]
    obtain ⟨hfst, hsnd⟩ := receiveLoop_uninterrupted bufferSize genericClosed
      (requestDatagram host client.familyId (client.sequence + 1) x.dump) (client.socket ++ x.replies) []
    rw [hqueue] at hfst hsnd
    rw [receiveReplies] at hresult
    rw [hresult] at hfst hsnd
    have hsend : sendMessage x.sent (client.requestMessage host x) = .ok () := by simp [sendMessage, hsent]
    unfold Client.request
    rw [hsend]
    exact ⟨hfst.symm, hsnd.symm⟩
  have hunsent : ∀ e, x.replies = [] → sendMessage x.sent (client.requestMessage host x) = .error e →
      (client.request host x).1 = .err e ∧ (client.request host x).2.Idle := by
    intro e hreplies hsend
    rw [Client.Idle, Client.request, hsend]
    refine ⟨rfl, ?_⟩
    dsimp only
    rw [hreplies, List.append_nil]
    exact hidle
  generalize hlength : (client.requestMessage host x).length = length at h hloop
  generalize hcall : KernelCall.mk x.sent x.replies = call at h
  cases h with
  | unsent errno =>
    obtain ⟨hsent, hreplies⟩ := KernelCall.mk.inj hcall
    obtain ⟨hfst, hsnd⟩ := hunsent (.os errno) hreplies (by rw [hsent]; rfl)
    exact ⟨hfst ▸ .failed _, hsnd⟩
  | partly hn =>
    obtain ⟨hsent, hreplies⟩ := KernelCall.mk.inj hcall
    obtain ⟨hfst, hsnd⟩ := hunsent _ hreplies (by
      rw [hsent, sendMessage]
      exact if_pos (hlength ▸ hn))
    exact ⟨hfst ▸ .failed _, hsnd⟩
  | lost herrno hreplies =>
    obtain ⟨hsent, rfl⟩ := KernelCall.mk.inj hcall
    obtain ⟨hfst, hsnd⟩ := hloop hsent (by rw [hreplies]; exact receiveLoop_failed _ _ _ _ herrno [])
    exact ⟨hfst ▸ .failed _, hsnd⟩
  | refused hseq htype hread hleast hneg hfits hreplies =>
    obtain ⟨hsent, rfl⟩ := KernelCall.mk.inj hcall
    obtain ⟨hfst, hsnd⟩ := hloop hsent (by
      rw [hreplies]
      exact receiveReplies_refused hseq htype hread hleast hneg hfits)
    exact ⟨hfst ▸ .failed _, hsnd⟩
  | answered hdump hne hfits hreplies hclean hcarried =>
    obtain ⟨hsent, rfl⟩ := KernelCall.mk.inj hcall
    obtain ⟨hfst, hsnd⟩ := hloop hsent (by
      rw [hreplies, hdump]
      exact receiveReplies_answered hcontrol hne hfits hclean hcarried)
    exact ⟨hfst ▸ .messages _, hsnd⟩
  | dumped hdump hanswers =>
    obtain ⟨hsent, rfl⟩ := KernelCall.mk.inj hcall
    obtain ⟨hfst, hsnd⟩ := hloop hsent (by
      rw [hdump]
      exact receiveReplies_dumped hcontrol hanswers)
    exact ⟨hfst ▸ .messages _, hsnd⟩

/-! ## Requests for a table -/

/-- The bytes of a request. -/
def requestBytes (host : Host) (familyId : UInt16) (sequence : UInt32) (x : Exchange) : Bytes :=
  buildMessage host familyId sequence x.command x.version (nlmFRequest ||| if x.dump then nlmFDump else 0) x.attributes

variable {D : Type}

/-- **A kernel serves a request with a table**, one message for each entry, or fails it. -/
def ServesTable (host : Host) (familyId : UInt16) (sequence : UInt32) (sends : D → Message → Prop) (x : Exchange)
    (table : Option (List D)) : Prop :=
  ∃ outcome, Option.Rel (List.Forall₂ sends) table outcome ∧
    Serves host familyId sequence x.dump (requestBytes host familyId sequence x).length ⟨x.sent, x.replies⟩ outcome

/-- **A client between two requests**: its socket is idle, and the last request had this sequence number. -/
structure Client.IdleAt (client : Client) (familyId : UInt16) (sequence : UInt32) : Prop where
  idle : client.Idle
  familyId_eq : client.familyId = familyId
  sequence_eq : client.sequence = sequence

variable (host) in
/-- `client.request(..).ok()`. -/
def attempt (client : Client) (x : Exchange) : IoResult (Option (List Message) × Client) :=
  match client.request host x with
  | (.ok messages, client) => .ok (some messages, client)
  | (.err _, client) => .ok (none, client)
  | (.panicked p, _) => .panicked p
  | (.waiting, _) => .waiting

variable (host) in
/-- `client.request(..)?`. -/
def require (client : Client) (x : Exchange) : IoResult (List Message × Client) :=
  match client.request host x with
  | (.ok messages, client) => .ok (messages, client)
  | (.err e, _) => .err e
  | (.panicked p, _) => .panicked p
  | (.waiting, _) => .waiting

section
variable {client : Client} {familyId : UInt16} {sequence : UInt32} {sends : D → Message → Prop} {x : Exchange}
  (hcontrol : isControl familyId = false) (hclient : client.IdleAt familyId sequence)

include hcontrol hclient

/-- **A request that may fail** returns the table it is served with, or that it failed, and leaves the client between
two requests. -/
theorem attempt_serves {table : Option (List D)} (h : ServesTable host familyId (sequence + 1) sends x table) :
    ∃ reply client', attempt host client x = .ok (reply, client') ∧
      Option.Rel (List.Forall₂ sends) table reply ∧ client'.IdleAt familyId (sequence + 1) := by
  obtain ⟨hidle, rfl, rfl⟩ := hclient
  obtain ⟨outcome, htable, hserves⟩ := h
  obtain ⟨hresult, hnext⟩ := request_serves hcontrol hidle hserves
  have hat : (client.request host x).2.IdleAt client.familyId (client.sequence + 1) :=
    ⟨hnext, request_familyId host client x, request_sequence host client x⟩
  refine ⟨outcome, (client.request host x).2, ?_, htable, hat⟩
  unfold attempt
  generalize client.request host x = step at hresult
  obtain ⟨result, next⟩ := step
  cases hresult <;> rfl

/-- **A request that must succeed** returns the table it is served with. -/
theorem require_serves {table : List D} (h : ServesTable host familyId (sequence + 1) sends x (some table)) :
    ∃ messages client', require host client x = .ok (messages, client') ∧
      List.Forall₂ sends table messages ∧ client'.IdleAt familyId (sequence + 1) := by
  obtain ⟨reply, client', hattempt, htable, hat⟩ := attempt_serves hcontrol hclient h
  cases htable with
  | @some _ messages htable =>
    refine ⟨messages, client', ?_, htable, hat⟩
    unfold attempt at hattempt
    unfold require
    generalize client.request host x = step at hattempt
    obtain ⟨result, next⟩ := step
    cases result with
    | ok found =>
      cases hattempt
      rfl
    | err e => cases hattempt
    | panicked p => cases hattempt
    | waiting => cases hattempt

end

/-! ## Connecting -/

theorem receive_uninterrupted (size : Nat) (closed : Text) : ∀ (socket : Socket),
    (receive size closed (uninterrupted socket)).1 = (receive size closed socket).1 ∧
      (receive size closed (uninterrupted socket)).2 = uninterrupted (receive size closed socket).2
  | [] => ⟨rfl, rfl⟩
  | .failed errno :: socket => by
    by_cases h : errno = eintr
    · rw [h, uninterrupted_interrupted, receive, if_pos rfl]
      exact receive_uninterrupted size closed socket
    · rw [uninterrupted, List.filter_cons_of_pos (by simpa using h), receive, receive, if_neg h, if_neg h]
      exact ⟨rfl, rfl⟩
  | .datagram bytes :: socket => by
    rw [uninterrupted, List.filter_cons_of_pos (by simp), receive, receive]
    split <;> exact ⟨rfl, rfl⟩

/-- The request `connect` sends. -/
def familyRequest (host : Host) (familyName : Text) : Bytes :=
  buildMessage host genlIdCtrl 1 ctrlCmdGetfamily 1 nlmFRequest
    [{ kind := ctrlAttrFamilyName, value := (String.ofList familyName).toUTF8.toList ++ [0] }]

/-- **The kernel has registered a family** under a name, and says so to the lookup of `connect`. -/
structure Registers (host : Host) (familyName : Text) (familyId : UInt16) (call : KernelCall) where
  message : Message
  wire : WireMessage
  sent_eq : call.sent = .bytes (familyRequest host familyName).length
  sequence_eq : wire.header.sequence = 1
  type_eq : wire.header.messageType = genlIdCtrl
  carries : CarriesMessage host message wire
  presents : PresentsFields [(ctrlAttrFamilyId, some (host.byteOrder.u16Bytes familyId))] message.attributes
  fits : (datagramOf host [wire]).length ≤ bufferSize
  replies_eq : uninterrupted call.replies = [.datagram (datagramOf host [wire])]

/-- **Connecting to a family that is registered** leaves an idle client. -/
theorem connect_registers {familyName : Text} {familyId : UInt16} {call : KernelCall}
    (h : Registers host familyName familyId call) :
    ∃ client, Client.connect host familyName call.sent call.replies = .ok client ∧ client.IdleAt familyId 1 := by
  have htake : (datagramOf host [h.wire]).take bufferSize = datagramOf host [h.wire] :=
    List.take_of_length_le h.fits
  have hempty : (datagramOf host [h.wire]).isEmpty = false := by
    rw [List.isEmpty_eq_false_iff]
    exact datagramOf_ne_nil host (List.cons_ne_nil h.wire [])
  obtain ⟨hfst, hsnd⟩ := receive_uninterrupted bufferSize genericClosed call.replies
  rw [h.replies_eq, receive] at hfst hsnd
  simp only [htake, hempty, Bool.false_eq_true, if_false] at hfst hsnd
  have hcarried : List.Forall₂ (CarriesMessage host) [h.message] ([h.wire].filter (isEntry 1 genlIdCtrl)) := by
    rw [List.filter_cons_of_pos (by simp [isEntry, h.sequence_eq, h.type_eq])]
    exact .cons h.carries .nil
  have hnone : ∀ i ∈ items (messageFormat host) (datagramOf host [h.wire]),
      genericEnding host genlIdCtrl 1 i = none := by
    intro i hi
    rw [items_datagramOf, List.map_singleton, List.mem_singleton] at hi
    rw [hi]
    exact genericEnding_of_clean (fun _ => by rw [h.type_eq]; decide) (fun _ => ⟨h.message, h.carries⟩)
  have hparse := parseMessages_of_none host hnone
  rw [items_datagramOf, List.flatMap_map, flatMap_genericValues (by decide) hcarried] at hparse
  have hfamily := h.presents.findSome?_eq ctrlAttrFamilyId rfl (nativeU16 host)
  rw [Option.bind_some, nativeU16_u16Bytes] at hfamily
  have hsend : sendMessage call.sent (familyRequest host familyName) = .ok () := by simp [sendMessage, h.sent_eq]
  rw [familyRequest] at hsend
  rcases hreceive : receive bufferSize genericClosed call.replies with ⟨outcome, unread⟩
  rw [hreceive] at hfst hsnd
  obtain rfl : Outcome.ok (datagramOf host [h.wire]) = outcome := hfst
  refine ⟨⟨unread, familyId, 1⟩, ?_, hsnd.symm, rfl, rfl⟩
  unfold Client.connect
  simp only [hsend, hreceive, hparse, List.flatMap_singleton, hfamily]

/-! ## Answers in one datagram -/

/-- **Written attributes are a section**, of their kinds without flag bits. -/
theorem encodes_encodeAttributes : ∀ (attributes : List Attribute), (∀ a ∈ attributes, a.value.length ≤ maxValue) →
    Encodes host (attributes.map (fun a => (a.kind &&& nlaTypeMask, a.value))) (encodeAttributes host attributes)
  | [], _ => .nil
  | a :: attributes, h => by
    have ih := encodes_encodeAttributes attributes (fun x hx => h x (List.mem_cons_of_mem a hx))
    have hvalue : a.value.length ≤ 65531 := h a List.mem_cons_self
    have hlength : (attributeHeader a).length.toNat = AttributeHeader.size + a.value.length := by
      show (UInt16.ofNat (AttributeHeader.size + a.value.length)).toNat = _
      rw [UInt16.toNat_ofNat', Nat.mod_eq_of_lt]
      simp only [AttributeHeader.size]
      omega
    have hcons := Encodes.cons (attributeHeader a) a.value (attributePadding a) hlength (length_attributePadding a) ih
    rw [encodeAttributes, List.flatMap_cons, attributeRecord, List.append_assoc _ (attributePadding a)]
    exact hcons

/-- The bytes behind the netlink header of a message. -/
def Message.wirePayload (host : Host) (message : Message) : Bytes :=
  GenericHeader.bytes host ⟨message.command, 1, 0⟩ ++ encodeAttributes host message.attributes

theorem Message.length_wirePayload (message : Message) :
    (message.wirePayload host).length = 4 + (encodeAttributes host message.attributes).length := by
  have hgeneric : (GenericHeader.bytes host ⟨message.command, 1, 0⟩).length = 4 := by simp [GenericHeader.bytes]
  rw [Message.wirePayload, List.length_append, hgeneric]

theorem Message.wirePayload_length_eq (host : Host) (message : Message)
    (h : (encodeAttributes host message.attributes).length < 65536) :
    (UInt32.ofNat (MessageHeader.size + (message.wirePayload host).length)).toNat =
      MessageHeader.size + (message.wirePayload host).length := by
  rw [UInt32.toNat_ofNat', Message.length_wirePayload, Nat.mod_eq_of_lt]
  simp only [MessageHeader.size]
  omega

theorem Message.wirePayload_padding_eq (host : Host) (message : Message) :
    MessageHeader.size + (message.wirePayload host).length + ([] : Bytes).length =
      alignTo4 (MessageHeader.size + (message.wirePayload host).length) := by
  have hmod := length_encodeAttributes_mod host message.attributes
  rw [Message.length_wirePayload, List.length_nil, alignTo4_of_mod]
  · rfl
  · simp only [MessageHeader.size]
    omega

/-- A message as a kernel writes it. -/
def Message.wire (host : Host) (message : Message) (messageType : UInt16) (sequence : UInt32)
    (h : (encodeAttributes host message.attributes).length < 65536) : WireMessage where
  header :=
    ⟨UInt32.ofNat (MessageHeader.size + (message.wirePayload host).length), messageType, 2, sequence, 0⟩
  payload := message.wirePayload host
  padding := []
  length_eq := message.wirePayload_length_eq host h
  padding_eq := message.wirePayload_padding_eq host

/-- The attributes of a message are written with their kinds alone. -/
def Message.Plain (message : Message) : Prop :=
  ∀ a ∈ message.attributes, a.value.length ≤ maxValue ∧ a.kind &&& nlaTypeMask = a.kind

instance (message : Message) : Decidable message.Plain := inferInstanceAs (Decidable (∀ a ∈ message.attributes, _ ∧ _))

theorem carries_wire {message : Message} (hplain : message.Plain) (messageType : UInt16) (sequence : UInt32)
    (h : (encodeAttributes host message.attributes).length < 65536) :
    CarriesMessage host message (message.wire host messageType sequence h) := by
  refine ⟨1, 0, encodeAttributes host message.attributes, ?_, rfl⟩
  have hencodes := @encodes_encodeAttributes host message.attributes (fun a ha => (hplain a ha).1)
  have hkinds : message.attributes.map (fun a => (a.kind &&& nlaTypeMask, a.value)) =
      message.attributes.map (fun a => (a.kind, a.value)) :=
    List.map_congr_left (fun a ha => by rw [(hplain a ha).2])
  rwa [hkinds] at hencodes

section
variable {familyId : UInt16} {sequence : UInt32} {sends : D → Message → Prop} {x : Exchange} {d : D} {message : Message}
  (hcontrol : isControl familyId = false) (hplain : message.Plain) (hsends : sends d message)
  (hfits : (encodeAttributes host message.attributes).length < 65536)

/-- A request that is not taken. -/
theorem servesTable_unsent {errno : Int32} (hsent : x.sent = .failed errno) (hreplies : x.replies = []) :
    ServesTable host familyId sequence sends x none := by
  refine ⟨none, .none, ?_⟩
  rw [hsent, hreplies]
  exact .unsent errno

include hcontrol hplain hsends

/-- A dump of a table of one entry, in one datagram. -/
theorem servesTable_dump (hdump : x.dump = true)
    (hsent : x.sent = .bytes (requestBytes host familyId sequence x).length)
    (hreplies : x.replies = [.datagram (datagramOf host [message.wire host familyId sequence hfits,
      doneMessage sequence])])
    (hbuffer :
      (datagramOf host [message.wire host familyId sequence hfits, doneMessage sequence]).length ≤ bufferSize) :
    ServesTable host familyId sequence sends x (some [d]) := by
  refine ⟨some [message], .some (.cons hsends .nil), ?_⟩
  rw [hsent, hreplies]
  exact .dumped hdump (oneEntry hcontrol ⟨rfl, rfl⟩ (carries_wire hplain familyId sequence hfits) hbuffer)

/-- An answer of one message. -/
theorem servesTable_answer (hdump : x.dump = false)
    (hsent : x.sent = .bytes (requestBytes host familyId sequence x).length)
    (hreplies : x.replies = [.datagram (datagramOf host [message.wire host familyId sequence hfits])])
    (hbuffer : (datagramOf host [message.wire host familyId sequence hfits]).length ≤ bufferSize) :
    ServesTable host familyId sequence sends x (some [d]) := by
  refine ⟨some [message], .some (.cons hsends .nil), ?_⟩
  rw [hsent, hreplies]
  refine .answered hdump (List.cons_ne_nil _ _) hbuffer rfl ?_ ?_
  · intro m hm _
    rw [List.mem_singleton.1 hm]
    simp only [isControl, Bool.or_eq_false_iff, decide_eq_false_iff_not] at hcontrol
    exact ⟨hcontrol.1.2, hcontrol.2⟩
  · rw [List.filter_cons_of_pos (by simp [isEntry, Message.wire])]
    exact .cons (carries_wire hplain familyId sequence hfits) .nil

end

/-- The reply of a kernel to the lookup of a family. -/
def familyReply (host : Host) (familyId : UInt16) : Message :=
  ⟨1, [⟨ctrlAttrFamilyId, host.byteOrder.u16Bytes familyId⟩]⟩

theorem length_familyReply (host : Host) (familyId : UInt16) :
    (encodeAttributes host (familyReply host familyId).attributes).length = 8 := by
  simp [familyReply, encodeAttributes, attributePadding, AttributeHeader.size, alignTo4]

def familyWire (host : Host) (familyId : UInt16) : WireMessage :=
  (familyReply host familyId).wire host genlIdCtrl 1 (by rw [length_familyReply]; decide)

/-- A family that is found in one datagram. -/
def registersFamily (host : Host) (familyName : Text) (familyId : UInt16) : Registers host familyName familyId
    ⟨.bytes (familyRequest host familyName).length, [.datagram (datagramOf host [familyWire host familyId])]⟩ where
  message := familyReply host familyId
  wire := familyWire host familyId
  sent_eq := rfl
  sequence_eq := rfl
  type_eq := rfl
  carries := carries_wire (by
    intro a ha
    rw [List.mem_singleton.1 ha]
    exact ⟨by simp [maxValue], (by decide : ctrlAttrFamilyId &&& nlaTypeMask = ctrlAttrFamilyId)⟩) _ _ _
  presents := by
    simp [PresentsFields, Presents, familyReply]
  fits := by
    simp [datagramOf, familyWire, Message.wire, WireMessage.message, Message.length_wirePayload, length_familyReply,
      bufferSize]
  replies_eq := rfl

end Networkrs
