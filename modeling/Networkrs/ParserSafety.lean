import Networkrs.EventStream
import Networkrs.GenlMessage
/-!
# ParserSafety — the netlink parsers stay inside their bytes

Every slice, difference and sum of offsets in the parsers is checked, and every parser is a total function.  The
parsers of records and attributes return on every input.  The parsers of datagrams do too, up to one case: an error
code that has no negation, at which they stop without having left their bytes (`parsers_stay_in_bounds`).
-/
namespace Networkrs

open Machine Framing Collect

variable (host : Host)

/-- A message of the bytes carries the code that has no negation. -/
def CarriesLeastCode (response : Bytes) : Prop :=
  ∃ header message, .record header message ∈ items (messageFormat host) response ∧
    readI32 host message MessageHeader.size = some Int32.minValue

/-- **A parse of bytes stays in its bounds**: it returns, unless it negates an error code that has no negation. -/
def StaysInBounds {T : Type} (response : Bytes) (result : Checked T) : Prop :=
  (∃ value, result = .ok value) ∨ result = .error .negation ∧ CarriesLeastCode host response

theorem rawOsError_eq_error_iff {T : Type} (error : Int32) (p : Panic) :
    (rawOsError error : Checked (Except IoError T)) = .error p ↔ p = .negation ∧ error = Int32.minValue := by
  unfold rawOsError i32Neg
  by_cases h : error = Int32.minValue
  · rw [if_pos h, and_iff_left h]
    constructor
    · intro h'
      cases h'
      rfl
    · rintro rfl
      rfl
  · rw [if_neg h]
    exact iff_of_false (fun h' => by cases h') (fun h' => h h'.2)

theorem parseError_of_panic {truncated : Text} {message : Bytes} {p : Panic}
    (h : parseError host truncated message = .error p) :
    p = .negation ∧ readI32 host message MessageHeader.size = some Int32.minValue := by
  unfold parseError at h
  split at h
  · cases h
  · rename_i error hread
    split at h
    · cases h
    · obtain ⟨hp, rfl⟩ := (rawOsError_eq_error_iff error p).1 h
      exact ⟨hp, hread⟩

theorem finishDump_of_panic {T : Type} {texts : DumpTexts} {header : MessageHeader} {message : Bytes}
    {values : List T} {p : Panic} (h : finishDump host texts header message values = .error p) :
    p = .negation ∧ readI32 host message MessageHeader.size = some Int32.minValue := by
  unfold finishDump at h
  split at h
  · cases h
  · split at h
    · rename_i error hread
      split at h
      · obtain ⟨hp, rfl⟩ := (rawOsError_eq_error_iff error p).1 h
        exact ⟨hp, hread⟩
      · cases h
    · cases h

/-! ## The loops over messages -/

/-- **A loop over messages stays in its bounds** when its steps panic only at the code that has no negation. -/
theorem walk_staysInBounds {σ ρ T : Type} {step : σ → MessageHeader → Bytes → Checked (Flow σ ρ)}
    {fault : σ → Fault → ρ} {finish : Flow σ ρ → Checked T} (response : Bytes) (s : σ)
    (hstep : ∀ s header message p, step s header message = .error p →
      p = .negation ∧ readI32 host message MessageHeader.size = some Int32.minValue)
    (hfinish : ∀ flow, ∃ value, finish flow = .ok value) :
    StaysInBounds host response (walk (messageFormat host) step fault response 0 s >>= finish) := by
  rw [walk_eq_scan, List.drop_zero]
  cases hscan : scan (itemStep step fault) (items (messageFormat host) response) s with
  | ok flow => exact Or.inl (hfinish flow)
  | error p =>
    obtain ⟨s', i, hi, hpanic⟩ := exists_of_scan_eq_error _ _ hscan
    cases i with
    | fault f => cases hpanic
    | record header message =>
      obtain ⟨rfl, hread⟩ := hstep s' header message p hpanic
      exact Or.inr ⟨rfl, header, message, hi, hread⟩

/-- A check of an error message panics as the check does. -/
theorem parseError_bind_of_panic {T : Type} {truncated : Text} {message : Bytes}
    {next : Except IoError Unit → Checked T} {p : Panic} (hnext : ∀ result, ∃ value, next result = .ok value)
    (h : parseError host truncated message >>= next = .error p) :
    p = .negation ∧ readI32 host message MessageHeader.size = some Int32.minValue := by
  cases hparse : parseError host truncated message with
  | error q =>
    rw [hparse] at h
    cases h
    exact parseError_of_panic host hparse
  | ok result =>
    obtain ⟨value, hvalue⟩ := hnext result
    rw [hparse, ok_bind, hvalue] at h
    cases h

theorem eventStep_of_panic {events : List NetworkEvent} {header : MessageHeader} {message : Bytes} {p : Panic}
    (h : eventStep host events header message = .error p) :
    p = .negation ∧ readI32 host message MessageHeader.size = some Int32.minValue := by
  unfold eventStep at h
  split at h
  · exact parseError_bind_of_panic host (fun result => by cases result <;> exact ⟨_, rfl⟩) h
  · split at h
    · cases h
    · rw [messageEvent_eq, ok_bind] at h
      cases hevent : recordEvent host header message with
      | none => rw [hevent] at h; cases h
      | some event => rw [hevent] at h; cases h

theorem responseStep_of_panic {T : Type} {expectedSequence : UInt32} {expectedType : UInt16} {texts : DumpTexts}
    {parse : Bytes → Checked (Option T)} (hparse : ∀ message, ∃ value, parse message = .ok value) {values : List T}
    {header : MessageHeader} {message : Bytes} {p : Panic}
    (h : responseStep host expectedSequence expectedType texts parse values header message = .error p) :
    p = .negation ∧ readI32 host message MessageHeader.size = some Int32.minValue := by
  unfold responseStep at h
  split at h
  · split at h
    · cases hfinish : finishDump host texts header message values with
      | error q =>
        rw [hfinish] at h
        cases h
        exact finishDump_of_panic host hfinish
      | ok result =>
        rw [hfinish, ok_bind] at h
        cases result <;> cases h
    · split at h
      · exact parseError_bind_of_panic host (fun result => by cases result <;> exact ⟨_, rfl⟩) h
      · split at h
        · cases h
        · split at h
          · obtain ⟨value, hvalue⟩ := hparse message
            rw [hvalue, ok_bind] at h
            cases value <;> cases h
          · cases h
  · cases h

theorem parseGenericPayload_isOk (message : Bytes) : ∃ parsed, parseGenericPayload host message = .ok parsed := by
  unfold parseGenericPayload
  cases getFrom message MessageHeader.size with
  | none => exact ⟨_, rfl⟩
  | some payload =>
    dsimp only
    cases GenericHeader.read host payload with
    | none => exact ⟨_, rfl⟩
    | some generic =>
      dsimp only
      rw [parseAttributes_eq, ok_bind]
      split <;> exact ⟨_, rfl⟩

theorem genericStep_of_panic {messageType : UInt16} {sequence : UInt32} {messages : List Message}
    {header : MessageHeader} {message : Bytes} {p : Panic}
    (h : genericStep host messageType sequence messages header message = .error p) :
    p = .negation ∧ readI32 host message MessageHeader.size = some Int32.minValue := by
  unfold genericStep at h
  split at h
  · split at h
    · exact parseError_bind_of_panic host (fun result => by cases result <;> exact ⟨_, rfl⟩) h
    · split at h
      · cases h
      · split at h
        · obtain ⟨parsed, hparsed⟩ := parseGenericPayload_isOk host message
          rw [hparsed, ok_bind] at h
          cases parsed <;> cases h
        · cases h
  · cases h

/-! ## The parsers -/

theorem parseDumpResponse_staysInBounds {T : Type} (expectedType : UInt16) (texts : DumpTexts)
    {parse : Bytes → Checked (Option T)} (hparse : ∀ message, ∃ value, parse message = .ok value) (response : Bytes)
    (expectedSequence : UInt32) (values : List T) :
    StaysInBounds host response
      (parseDumpResponse host expectedType texts parse response expectedSequence values) :=
  walk_staysInBounds host response values (fun _ _ _ _ h => responseStep_of_panic host hparse h)
    (fun flow => by cases flow <;> exact ⟨_, rfl⟩)

/-- **The netlink parsers are safe on every input.**  The parsers of datagrams stay in their bounds, and the parsers of
records and attributes they call return. -/
theorem parsers_stay_in_bounds (host : Host) (bytes : Bytes) :
    (StaysInBounds host bytes (parseEvents host bytes) ∧
      (∀ sequence neighbors, StaysInBounds host bytes (parseResponse host bytes sequence neighbors)) ∧
      (∀ sequence addresses, StaysInBounds host bytes (parseAddressResponse host bytes sequence addresses)) ∧
      (∀ messageType sequence, StaysInBounds host bytes (parseMessages host bytes messageType sequence)) ∧
      ∀ sequence, ∃ done, responseHasDone host bytes sequence = .ok done) ∧
    (∃ link, parseLink host bytes = .ok link) ∧
    (∃ info, parseLinkInfo host bytes = .ok info) ∧
    (∃ address, parseAddress host bytes = .ok address) ∧
    (∃ route, parseRoute host bytes = .ok route) ∧
    (∀ family, ∃ hops, parseNextHops host bytes family = .ok hops) ∧
    (∃ rule, parseRule host bytes = .ok rule) ∧
    (∀ removed, ∃ neighbor, parseNeighbor host removed bytes = .ok neighbor) ∧
    (∀ offset, ∃ attributes, attributesFromOffset host bytes offset = .ok attributes) ∧
    ∀ offset, ∃ attributes, parseAttributes host bytes offset = .ok attributes := by
  refine ⟨⟨?_, fun sequence neighbors => ?_, fun sequence addresses => ?_, fun messageType sequence => ?_,
    fun sequence => ?_⟩, parseLink_isOk host bytes, parseLinkInfo_isOk host bytes, parseAddress_isOk host bytes,
    (parseRoute_reads host).isOk host bytes, parseNextHops_isOk host bytes, (parseRule_reads host).isOk host bytes,
    fun removed => parseNeighbor_isOk host removed bytes, fun offset => ⟨_, attributesFromOffset_eq host bytes offset⟩,
    fun offset => ⟨_, parseAttributes_eq host bytes offset⟩⟩
  · exact walk_staysInBounds host bytes [] (fun _ _ _ _ h => eventStep_of_panic host h)
      (fun flow => by cases flow <;> exact ⟨_, rfl⟩)
  · exact parseDumpResponse_staysInBounds host _ _ (parseNeighbor_isOk host false) bytes sequence neighbors
  · exact parseDumpResponse_staysInBounds host _ _ (parseAddress_isOk host) bytes sequence addresses
  · exact walk_staysInBounds host bytes [] (fun _ _ _ _ h => genericStep_of_panic host h)
      (fun flow => by cases flow <;> exact ⟨_, rfl⟩)
  · have hstep : ∀ (u : Unit), ∀ i ∈ items (messageFormat host) (bytes.drop 0),
        ∃ flow, itemStep (completionStep sequence) (fun _ f => .error (completionFault f)) u i = .ok flow := by
      intro u i _
      cases i with
      | fault f => exact ⟨_, rfl⟩
      | record header message =>
        rw [itemStep, completionStep]
        split <;> exact ⟨_, rfl⟩
    obtain ⟨flow, hflow⟩ := scan_of_next hstep ()
    rw [responseHasDone, walk_eq_scan, hflow, ok_bind]
    cases flow <;> exact ⟨_, rfl⟩

end Networkrs
