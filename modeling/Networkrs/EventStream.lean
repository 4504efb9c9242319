import Networkrs.Events
/-!
# EventStream — events of the parts of a stream

Whole messages in front of other bytes are parsed first: their events come before those of the rest, and their error
instead of it (`parseEvents_append`).  The law fails where the parser stops without a result, at an error code that has
no negation.  `watch_events` hands over the events of a datagram after parsing all of it, so what precedes an error in
its datagram is lost.
-/
namespace Networkrs

open Machine Framing Collect

variable (host : Host)

theorem eventEnding_ne_complete (i : MessageItem) : eventEnding host i ≠ some .complete := by
  intro h
  unfold eventEnding at h
  split at h
  · cases h
  · split at h
    · split at h
      · cases h
      · split at h
        · cases h
        · exact errorEnding_ne_complete _ (Option.some.inj h)
    · split at h <;> cases h

/-- An error message with the code that has no negation. -/
def HasLeastCode : MessageItem → Prop
  | .fault _ => False
  | .record header message =>
    header.messageType = nlmsgError ∧ readI32 host message MessageHeader.size = some Int32.minValue

theorem errorEnding_eq_panicked_iff (error : Int32) (p : Panic) :
    errorEnding error = .panicked p ↔ p = .negation ∧ error = Int32.minValue := by
  unfold errorEnding i32Neg
  by_cases h : error = Int32.minValue
  · rw [if_pos h]
    simp [h, eq_comm]
  · rw [if_neg h]
    simp [h]

theorem eventEnding_eq_panicked_iff (i : MessageItem) (p : Panic) :
    eventEnding host i = some (.panicked p) ↔ p = .negation ∧ HasLeastCode host i := by
  cases i with
  | fault f => simp [eventEnding, HasLeastCode]
  | record header message =>
    unfold eventEnding HasLeastCode
    by_cases herror : header.messageType = nlmsgError
    · simp only [herror, if_true, true_and]
      cases readI32 host message MessageHeader.size with
      | none => simp
      | some error =>
        by_cases h0 : error = 0
        · subst h0
          have hne : ¬ (0 : Int32) = Int32.minValue := by decide
          simp [hne]
        · simp only [h0, if_false, Option.some.injEq]
          exact errorEnding_eq_panicked_iff error p
    · dsimp only
      rw [if_neg herror]
      refine iff_of_false (fun h => ?_) (fun h => herror h.2.1)
      split at h <;> cases h

/-- **The first message that ends a datagram carries the code that has no negation.** -/
def PanicsFirst (response : Bytes) : Prop :=
  ∃ pre i post, items (messageFormat host) response = pre ++ i :: post ∧
    (∀ x ∈ pre, eventEnding host x = none) ∧ HasLeastCode host i

theorem parseEvents_eq_error_iff (response : Bytes) (p : Panic) :
    parseEvents host response = .error p ↔ p = .negation ∧ PanicsFirst host response := by
  constructor
  · intro h
    rcases exists_ending (eventEnding host) (items (messageFormat host) response) with
      hall | ⟨pre, i, e, post, hitems, hpre, hi⟩
    · rw [parseEvents_of_no_ending host hall] at h
      cases h
    · rw [parseEvents_of_ending host hitems hpre hi] at h
      cases e with
      | complete => cases h
      | failed error => cases h
      | panicked q =>
        obtain rfl := Except.error.inj h
        obtain ⟨hp, hleast⟩ := (eventEnding_eq_panicked_iff host i q).1 hi
        exact ⟨hp, pre, i, post, hitems, hpre, hleast⟩
  · rintro ⟨rfl, pre, i, post, hitems, hpre, hleast⟩
    have hi := (eventEnding_eq_panicked_iff host i .negation).2 ⟨rfl, hleast⟩
    rw [parseEvents_of_ending host hitems hpre hi]
    rfl

/-! ## Parts of a datagram -/

section

variable {records : List (MessageHeader × Bytes)} {a : Bytes}

/-- **Whole messages are parsed first**: what they fail with is the result, and their events are the first. -/
theorem parseEvents_append (ha : Framed (messageFormat host) records a) (b : Bytes) :
    parseEvents host (a ++ b) = (do
      match ← parseEvents host a with
      | .error e => return .error e
      | .ok events =>
        match ← parseEvents host b with
        | .error e => return .error e
        | .ok events' => return .ok (events ++ events')) := by
  have hitems : items (messageFormat host) (a ++ b) =
      items (messageFormat host) a ++ items (messageFormat host) b := by
    rw [items_append_of_framed _ b ha, items_of_framed _ ha]
  rcases exists_ending (eventEnding host) (items (messageFormat host) a) with
    hall | ⟨pre, i, e, post, hsplit, hpre, hi⟩
  · rw [parseEvents_of_no_ending host hall, ok_bind]
    rcases exists_ending (eventEnding host) (items (messageFormat host) b) with
      hall' | ⟨pre, i, e, post, hsplit, hpre, hi⟩
    · have hboth : ∀ x ∈ items (messageFormat host) (a ++ b), eventEnding host x = none := by
        intro x hx
        rw [hitems] at hx
        rcases List.mem_append.1 hx with hx | hx
        · exact hall x hx
        · exact hall' x hx
      rw [parseEvents_of_no_ending host hall', parseEvents_of_no_ending host hboth, hitems, List.flatMap_append]
      rfl
    · have hboth : ∀ x ∈ items (messageFormat host) a ++ pre, eventEnding host x = none := by
        intro x hx
        rcases List.mem_append.1 hx with hx | hx
        · exact hall x hx
        · exact hpre x hx
      rw [hsplit, ← List.append_assoc] at hitems
      rw [parseEvents_of_ending host hsplit hpre hi, parseEvents_of_ending host hitems hboth hi]
      cases e with
      | complete => exact absurd hi (eventEnding_ne_complete host i)
      | failed error => rfl
      | panicked p => rfl
  · rw [hsplit, List.append_assoc, List.cons_append] at hitems
    rw [parseEvents_of_ending host hsplit hpre hi, parseEvents_of_ending host hitems hpre hi]
    cases e with
    | complete => exact absurd hi (eventEnding_ne_complete host i)
    | failed error => rfl
    | panicked p => rfl

theorem parseEvents_of_framed (ha : Framed (messageFormat host) records a) {events : List NetworkEvent}
    (h : parseEvents host a = .ok (.ok events)) :
    events = (records.map (fun r => recordEvent host r.1 r.2)).flatMap Option.toList := by
  rcases exists_ending (eventEnding host) (items (messageFormat host) a) with
    hall | ⟨pre, i, e, post, hsplit, hpre, hi⟩
  · rw [parseEvents_of_no_ending host hall, items_of_framed _ ha] at h
    obtain rfl := Except.ok.inj (Except.ok.inj h)
    rw [List.flatMap_map, List.flatMap_map]
    rfl
  · rw [parseEvents_of_ending host hsplit hpre hi] at h
    cases e with
    | complete => exact absurd hi (eventEnding_ne_complete host i)
    | failed error => cases h
    | panicked p => cases h

/-- The message type an event is sent with. -/
def NetworkEvent.messageType : NetworkEvent → UInt16
  | .link removed .. => if removed then rtmDellink else rtmNewlink
  | .address removed .. => if removed then rtmDeladdr else rtmNewaddr
  | .route removed .. => if removed then rtmDelroute else rtmNewroute
  | .neighbor removed .. => if removed then rtmDelneigh else rtmNewneigh

/-- An event comes from a record that was parsed. -/
theorem exists_of_event {T : Type} {parse : Checked (Option T)} {next : Option T → Checked (Option NetworkEvent)}
    {event : NetworkEvent} (h : parse >>= next = .ok (some event)) (hnone : next none = .ok none) :
    ∃ record, next (some record) = .ok (some event) := by
  obtain ⟨found, -, hnext⟩ := (bind_eq_ok_iff _ _ _).1 h
  cases found with
  | none =>
    rw [hnone] at hnext
    cases hnext
  | some record => exact ⟨record, hnext⟩

/-- **An event is of the type of its message**, and is a removal for the types that remove. -/
theorem messageType_of_messageEvent {messageType : UInt16} {message : Bytes} {event : NetworkEvent}
    (h : messageEvent host messageType message = .ok (some event)) : event.messageType = messageType := by
  revert h
  refine messageEvent_cases host (P := fun result => result = .ok (some event) → event.messageType = messageType)
    (fun removed htype h => ?_) (fun removed htype h => ?_) (fun removed htype h => ?_) (fun removed htype h => ?_)
    (fun h => by cases h)
  · obtain ⟨link, hlink⟩ := exists_of_event h rfl
    cases hlink
    exact htype.symm
  · obtain ⟨address, haddress⟩ := exists_of_event h rfl
    cases haddress
    exact htype.symm
  · obtain ⟨route, hroute⟩ := exists_of_event h rfl
    cases hroute
    exact htype.symm
  · obtain ⟨neighbor, hneighbor⟩ := exists_of_event h rfl
    cases hneighbor
    exact htype.symm

/-- A parse that returns an error. -/
def IsErr {T : Type} (result : Checked (Except IoError T)) : Prop := ∃ e, result = .ok (.error e)

/-- **A datagram parses in parts**: it fails when a part fails, and else has the events of both parts. -/
def ParsesInParts (a b : Bytes) : Prop :=
  (IsErr (parseEvents host a) ∨ IsErr (parseEvents host b) → IsErr (parseEvents host (a ++ b))) ∧
  (¬ (IsErr (parseEvents host a) ∨ IsErr (parseEvents host b)) →
    ∃ events events', parseEvents host a = .ok (.ok events) ∧ parseEvents host b = .ok (.ok events') ∧
      parseEvents host (a ++ b) = .ok (.ok (events ++ events')))

/-- **The events of whole messages are what the parsers of their types make of them**, one by one and in order. -/
def ParsesEach (records : List (MessageHeader × Bytes)) (a : Bytes) : Prop :=
  ∀ events, parseEvents host a = .ok (.ok events) →
    ∃ found, records.mapM (fun r => messageEvent host r.1.messageType r.2) = .ok found ∧
      events = found.flatMap Option.toList ∧
      List.Forall₂ (fun r event => ∀ e, event = some e → e.messageType = r.1.messageType) records found

theorem parsesEach_of_framed (ha : Framed (messageFormat host) records a) : ParsesEach host records a := by
  intro events h
  refine ⟨records.map (fun r => recordEvent host r.1 r.2), ?_, parseEvents_of_framed host ha h, ?_⟩
  · exact mapM_of_ok records (fun r _ => messageEvent_eq host r.1 r.2)
  · rw [List.forall₂_map_right_iff, List.forall₂_same]
    intro r _ e he
    exact messageType_of_messageEvent host ((messageEvent_eq host r.1 r.2).trans (congrArg Except.ok he))

/-- **Whole messages in front of any bytes parse in parts exactly when parsing returns.** -/
theorem parsesInParts_iff (ha : Framed (messageFormat host) records a) (b : Bytes) :
    ParsesInParts host a b ↔ ∀ p, parseEvents host (a ++ b) ≠ .error p := by
  constructor
  · rintro ⟨herr, hok⟩ p hp
    by_cases h : IsErr (parseEvents host a) ∨ IsErr (parseEvents host b)
    · obtain ⟨e, he⟩ := herr h
      rw [hp] at he
      cases he
    · obtain ⟨events, events', -, -, hboth⟩ := hok h
      rw [hp] at hboth
      cases hboth
  · intro hreturns
    have happend := parseEvents_append host ha b
    cases hfirst : parseEvents host a with
    | error p =>
      rw [hfirst] at happend
      exact absurd happend (hreturns p)
    | ok result =>
      rw [hfirst, ok_bind] at happend
      cases result with
      | error e => exact ⟨fun _ => ⟨e, happend⟩, fun h => absurd (Or.inl ⟨e, hfirst⟩) h⟩
      | ok events =>
        dsimp only at happend
        cases hrest : parseEvents host b with
        | error p =>
          rw [hrest] at happend
          exact absurd happend (hreturns p)
        | ok result =>
          rw [hrest, ok_bind] at happend
          cases result with
          | error e => exact ⟨fun _ => ⟨e, happend⟩, fun h => absurd (Or.inr ⟨e, hrest⟩) h⟩
          | ok events' =>
            refine ⟨fun h => ?_, fun _ => ⟨events, events', hfirst, hrest, happend⟩⟩
            rcases h with ⟨e, he⟩ | ⟨e, he⟩
            · rw [hfirst] at he
              cases he
            · rw [hrest] at he
              cases he

theorem not_panicsFirst_iff (response : Bytes) :
    ¬ PanicsFirst host response ↔ ∀ p, parseEvents host response ≠ .error p := by
  constructor
  · intro h p hp
    exact h ((parseEvents_eq_error_iff host response p).1 hp).2
  · intro h hpanics
    exact h .negation ((parseEvents_eq_error_iff host response .negation).2 ⟨rfl, hpanics⟩)

/-- **Whole messages in front of any bytes parse in parts, each by the parser of its type**, exactly when the first
message that ends the datagram does not carry the error code without a negation. -/
theorem parseEvents_in_parts_iff (ha : Framed (messageFormat host) records a) (b : Bytes) :
    ParsesInParts host a b ∧ ParsesEach host records a ↔ ¬ PanicsFirst host (a ++ b) := by
  rw [not_panicsFirst_iff, ← parsesInParts_iff host ha b]
  exact and_iff_left (parsesEach_of_framed host ha)

end

/-! ### A route, and error messages -/

def routeHeader : MessageHeader := ⟨28, rtmNewroute, 0, 0, 0⟩

/-- A default route without attributes. -/
def routeMessage : Bytes := routeHeader.bytes hostX86 ++ [2, 0, 0, 0, 254, 3, 0, 1, 0, 0, 0, 0]

def errorHeader : MessageHeader := ⟨20, nlmsgError, 0, 0, 0⟩

def overrunHeader : MessageHeader := ⟨16, nlmsgOverrun, 0, 0, 0⟩

/-- An error message with the code `i32::MIN`. -/
def leastCodeMessage : Bytes := errorHeader.bytes hostX86 ++ [0, 0, 0, 0x80]

theorem framed_routeMessage : Framed (messageFormat hostX86) [(routeHeader, routeMessage)] routeMessage :=
  .cons [] (MessageHeader.read_bytes hostX86 routeHeader _) rfl rfl .nil

theorem framed_leastCodeMessage :
    Framed (messageFormat hostX86) [(errorHeader, leastCodeMessage)] leastCodeMessage :=
  .cons [] (MessageHeader.read_bytes hostX86 errorHeader _) rfl rfl .nil

theorem items_routeMessage (b : Bytes) : items (messageFormat hostX86) (routeMessage ++ b) =
    .record routeHeader routeMessage :: items (messageFormat hostX86) b := by
  rw [items_append_of_framed _ b framed_routeMessage]
  rfl

theorem not_panicsFirst_routes : ¬ PanicsFirst hostX86 (routeMessage ++ routeMessage) := by
  rintro ⟨pre, i, post, hitems, -, hcode⟩
  have hroute : i = .record routeHeader routeMessage := by
    have hi : i ∈ items (messageFormat hostX86) (routeMessage ++ routeMessage) := by
      rw [hitems]
      exact List.mem_append_right _ List.mem_cons_self
    rw [items_routeMessage, items_of_framed _ framed_routeMessage] at hi
    simpa using hi
  rw [hroute] at hcode
  exact absurd hcode.1 (by decide)

theorem panicsFirst_leastCodeMessage (b : Bytes) : PanicsFirst hostX86 (leastCodeMessage ++ b) := by
  refine ⟨[], .record errorHeader leastCodeMessage, items (messageFormat hostX86) b, ?_, ?_, rfl, by decide⟩
  · rw [items_append_of_framed _ b framed_leastCodeMessage]
    rfl
  · intro x hx
    cases hx

/-- A route parses in front of another one, and not in front of an error message with the least code. -/
theorem parseEvents_in_parts_iff_route :
    (ParsesInParts hostX86 routeMessage routeMessage ∧
      ParsesEach hostX86 [(routeHeader, routeMessage)] routeMessage) ∧
    ¬ (ParsesInParts hostX86 routeMessage leastCodeMessage ∧
      ParsesEach hostX86 [(routeHeader, routeMessage)] routeMessage) := by
  refine ⟨(parseEvents_in_parts_iff hostX86 framed_routeMessage routeMessage).2 not_panicsFirst_routes,
    fun h => (parseEvents_in_parts_iff hostX86 framed_routeMessage leastCodeMessage).1 h ?_⟩
  obtain ⟨pre, i, post, hitems, hpre, hcode⟩ := panicsFirst_leastCodeMessage []
  rw [List.append_nil] at hitems
  refine ⟨.record routeHeader routeMessage :: pre, i, post, ?_, List.forall_mem_cons.2 ⟨rfl, hpre⟩, hcode⟩
  rw [items_routeMessage, hitems]
  rfl

/-- A message with the least error code panics the parser, whatever fails behind it. -/
theorem least_code_hides_error : ¬ ∀ (records : List (MessageHeader × Bytes)) (a b : Bytes),
    Framed (messageFormat hostX86) records a →
      ParsesInParts hostX86 a b ∧ ParsesEach hostX86 records a := by
  intro h
  have hparts := (h _ leastCodeMessage (List.replicate 16 0) framed_leastCodeMessage).1
  exact (not_panicsFirst_iff hostX86 _).2 ((parsesInParts_iff hostX86 framed_leastCodeMessage _).1 hparts)
    (panicsFirst_leastCodeMessage _)

/-! ## Events before an error -/

section

variable {σ : Type} (handler : σ → NetworkEvent → σ)

/-- The messages of a datagram as `watch_events` receives it. -/
def datagramItems (bytes : Bytes) : List MessageItem := items (messageFormat host) (bytes.take bufferSize)

/-- A receive `watch_events` goes on after: an interrupted one, or a datagram without an ending. -/
def GoesOn : Recv → Prop
  | .failed errno => errno = eintr
  | .datagram bytes =>
    (bytes.take bufferSize).isEmpty = false ∧ ∀ i ∈ datagramItems host bytes, eventEnding host i = none

/-- The events of a receive that goes on. -/
def recvEvents : Recv → List NetworkEvent
  | .failed _ => []
  | .datagram bytes => (datagramItems host bytes).flatMap (eventValues host)

/-- The events of the messages in front of the first ending of a datagram. -/
def eventsBeforeError (bytes : Bytes) : List NetworkEvent :=
  ((datagramItems host bytes).takeWhile (fun i => (eventEnding host i).isNone)).flatMap (eventValues host)

/-- **The loop hands over the events of the datagrams it goes on after**, in their order. -/
theorem watchEvents_of_goesOn (rest : Socket) : ∀ (pre : Socket) (s : σ), (∀ r ∈ pre, GoesOn host r) →
    watchEvents host handler s (pre ++ rest) =
      watchEvents host handler ((pre.flatMap (recvEvents host)).foldl handler s) rest
  | [], _, _ => rfl
  | .failed errno :: pre, s, h => by
    have ih := watchEvents_of_goesOn rest pre s (fun r hr => h r (List.mem_cons_of_mem _ hr))
    obtain rfl : errno = eintr := h _ List.mem_cons_self
    rw [List.cons_append, watchEvents_eq, receive, if_pos rfl, ← watchEvents_eq, ih]
    rfl
  | .datagram bytes :: pre, s, h => by
    obtain ⟨hbytes, hitems⟩ := h _ List.mem_cons_self
    rw [List.cons_append, watchEvents_eq, receive]
    simp only [hbytes, Bool.false_eq_true, if_false, parseEvents_of_no_ending host hitems]
    rw [watchEvents_of_goesOn rest pre _ (fun r hr => h r (List.mem_cons_of_mem _ hr)), List.flatMap_cons,
      List.foldl_append]
    rfl

/-- **At a datagram with an error the loop fails, and hands over nothing of it.** -/
theorem watchEvents_of_fails {failing : Bytes} (rest : Socket) (s : σ)
    (h : FailsFirst (eventEnding host) (datagramItems host failing)) :
    ∃ e, watchEvents host handler s (.datagram failing :: rest) = (s, .err e) := by
  obtain ⟨pre, i, post, e, hitems, hpre, hi⟩ := h
  have hbytes : (failing.take bufferSize).isEmpty = false := by
    cases hempty : failing.take bufferSize with
    | nil =>
      rw [datagramItems, hempty, items_of_short _ (l := []) (messageFormat host).size_pos] at hitems
      exact absurd hitems.symm (by simp)
    | cons b l => rfl
  have hparse : parseEvents host (failing.take bufferSize) = .ok (.error e) :=
    parseEvents_of_ending host hitems hpre hi
  refine ⟨e, ?_⟩
  rw [watchEvents_eq, receive]
  simp only [hbytes, Bool.false_eq_true, if_false, hparse]

/-- **A handler has seen every event before the error**: those of the datagrams before, and those in front of the
error in its own datagram. -/
def DeliversBefore (pre : Socket) (failing : Bytes) (rest : Socket) : Prop :=
  ∀ (σ : Type) (handler : σ → NetworkEvent → σ) (s : σ),
    (watchEvents host handler s (pre ++ .datagram failing :: rest)).1 =
      (pre.flatMap (recvEvents host) ++ eventsBeforeError host failing).foldl handler s

end

section

variable {pre : Socket} {failing : Bytes} (rest : Socket) (hpre : ∀ r ∈ pre, GoesOn host r)
  (hfailing : FailsFirst (eventEnding host) (datagramItems host failing))
include hpre hfailing

/-- **What the loop hands over before it fails**: the events of the datagrams before the failing one. -/
theorem watchEvents_before {σ : Type} (handler : σ → NetworkEvent → σ) (s : σ) :
    ∃ e, watchEvents host handler s (pre ++ .datagram failing :: rest) =
      ((pre.flatMap (recvEvents host)).foldl handler s, .err e) := by
  rw [watchEvents_of_goesOn host handler _ pre s hpre]
  exact watchEvents_of_fails host handler rest _ hfailing

theorem deliversBefore_iff : DeliversBefore host pre failing rest ↔ eventsBeforeError host failing = [] := by
  constructor
  · intro h
    -- A handler that keeps what it sees has seen one list and should have seen the other.
    have hkeep : ∀ (events seen : List NetworkEvent),
        events.foldl (fun seen event => seen ++ [event]) seen = seen ++ events := fun events seen => by
      rw [foldl_append_map (fun event => event) events seen, List.map_id']
    obtain ⟨e, he⟩ :=
      watchEvents_before host rest hpre hfailing (fun seen event => seen ++ [event]) ([] : List NetworkEvent)
    have hseen := h (List NetworkEvent) (fun seen event => seen ++ [event]) ([] : List NetworkEvent)
    rw [he, hkeep, hkeep, List.nil_append, List.nil_append] at hseen
    exact List.self_eq_append_right.1 hseen
  · intro h σ handler s
    obtain ⟨e, he⟩ := watchEvents_before host rest hpre hfailing handler s
    rw [he, h, List.append_nil]

end

/-- **What a datagram with an error holds before the error is lost**: `watch_events` fails there, and its handler has
seen every event before the error exactly when there are none in the same datagram. -/
theorem watchEvents_delivers_iff {pre : Socket} {failing : Bytes} (rest : Socket) (hpre : ∀ r ∈ pre, GoesOn host r)
    (hfailing : FailsFirst (eventEnding host) (datagramItems host failing)) :
    (∀ (σ : Type) (handler : σ → NetworkEvent → σ) (s : σ),
      ∃ e, (watchEvents host handler s (pre ++ .datagram failing :: rest)).2 = .err e) ∧
    (DeliversBefore host pre failing rest ↔ eventsBeforeError host failing = []) := by
  refine ⟨fun σ handler s => ?_, deliversBefore_iff host rest hpre hfailing⟩
  obtain ⟨e, he⟩ := watchEvents_before host rest hpre hfailing handler s
  exact ⟨e, by rw [he]⟩

/-- A datagram of a route and an overrun. -/
def routeThenOverrun : Bytes := routeMessage ++ overrunHeader.bytes hostX86

theorem framed_overrun : Framed (messageFormat hostX86)
    [(routeHeader, routeMessage), (overrunHeader, overrunHeader.bytes hostX86)] routeThenOverrun :=
  .cons [] (MessageHeader.read_bytes hostX86 routeHeader _) rfl rfl
    (.cons [] (MessageHeader.read_bytes hostX86 overrunHeader []) rfl rfl .nil)

theorem datagramItems_routeThenOverrun : datagramItems hostX86 routeThenOverrun =
    [.record routeHeader routeMessage, .record overrunHeader (overrunHeader.bytes hostX86)] := by
  have htake : routeThenOverrun.take bufferSize = routeThenOverrun := List.take_of_length_le (by decide)
  rw [datagramItems, htake, items_of_framed _ framed_overrun]
  rfl

theorem failsFirst_routeThenOverrun : FailsFirst (eventEnding hostX86) (datagramItems hostX86 routeThenOverrun) := by
  refine ⟨[.record routeHeader routeMessage], .record overrunHeader (overrunHeader.bytes hostX86), [],
    .custom .other "netlink event receive buffer overrun", ?_, fun x hx => ?_, rfl⟩
  · rw [datagramItems_routeThenOverrun]
    rfl
  · obtain rfl := List.mem_singleton.1 hx
    rfl

theorem eventsBeforeError_routeThenOverrun : eventsBeforeError hostX86 routeThenOverrun ≠ [] := by
  have hown : isOwnRoute routeMessage = true := by decide
  have hdrop : routeMessage.drop routeOffset = [] := by decide
  have hattributes : (attributesIn hostX86 (routeMessage.drop routeOffset)).isSome = true := by
    rw [hdrop, attributesIn, items_of_short _ (l := []) (attributeFormat hostX86).size_pos]
    rfl
  obtain ⟨route, hroute⟩ := (parseRoute_reads hostX86).of_wellFormed routeMessage hown hattributes
  have hevent : recordEvent hostX86 routeHeader routeMessage = some (.route false route) := by
    have hmessage : messageEvent hostX86 routeHeader.messageType routeMessage =
        parseRouteEvent hostX86 routeMessage false := rfl
    rw [recordEvent, hmessage, parseRouteEvent, hroute]
    rfl
  rw [eventsBeforeError, datagramItems_routeThenOverrun, List.takeWhile_cons_of_pos rfl, List.flatMap_cons, eventValues,
    hevent]
  exact fun h => by cases h

theorem watchEvents_delivers_iff_route :
    (∀ (σ : Type) (handler : σ → NetworkEvent → σ) (s : σ),
      ∃ e, (watchEvents hostX86 handler s ([] ++ [.datagram routeThenOverrun])).2 = .err e) ∧
    (DeliversBefore hostX86 [] routeThenOverrun [] ↔ eventsBeforeError hostX86 routeThenOverrun = []) :=
  watchEvents_delivers_iff hostX86 [] (fun _ h => by cases h) failsFirst_routeThenOverrun

/-- A route in front of an overrun never reaches the handler. -/
theorem route_before_overrun_is_lost : ¬ ∀ (pre : Socket) (failing : Bytes) (rest : Socket),
    (∀ r ∈ pre, GoesOn hostX86 r) → FailsFirst (eventEnding hostX86) (datagramItems hostX86 failing) →
      DeliversBefore hostX86 pre failing rest := by
  intro h
  have hdelivers := h [] routeThenOverrun [] (fun _ hr => by cases hr) failsFirst_routeThenOverrun
  exact eventsBeforeError_routeThenOverrun
    ((deliversBefore_iff hostX86 [] (fun _ hr => by cases hr) failsFirst_routeThenOverrun).1 hdelivers)

end Networkrs
