import Networkrs.Lib.Once
import Networkrs.Ping
/-!
# EchoSchedule — which replies a run counts

The datagrams on the ping socket stay queued in the order they arrive, and a run reads at most one of them a request.
Its system calls are those of a schedule of arrivals and of the pace of the process (`Schedule.calls`).  A request is
counted when the first unread datagram arrives while `poll` waits and is its reply (`counted_iff`); a reply behind
another datagram, or in the part of a millisecond `poll` does not wait, is not (`counts_answered_iff`).  Where every
datagram is the reply to its request and comes before its `poll` gives up, all are counted
(`Schedule.Prompt.counts_answered`).
-/
namespace Networkrs

open Machine Collect

/-- A datagram, at a time in nanoseconds. -/
structure Arrival where
  time : Nat
  bytes : Bytes
  deriving DecidableEq

/-- The datagrams that arrive on a socket, in order. -/
structure Schedule where
  arrivals : List Arrival
  ordered : arrivals.Pairwise (fun a b => a.time ≤ b.time)

/-- The time a process takes at one request: before it sends, from there to its `poll`, past the timeout of `poll`, and
from the return of `poll` until the time is taken. -/
structure Pace where
  pause : Nat
  setup : Nat
  overrun : Nat
  read : Nat

/-- The time between two requests, and the datagrams not read by then. -/
structure EchoState where
  now : Nat
  unread : List Arrival

section
variable (ms : Nat) (pace : Pace) (state : EchoState)

def EchoState.sentAt : Nat := state.now + pace.pause

/-- Until when `poll` waits for a datagram. -/
def EchoState.waitsUntil : Nat := state.sentAt pace + pace.setup + ms * 1000000 + pace.overrun

/-- The datagram that `poll` reports: the first unread one, if it arrives in time. -/
def EchoState.ready : Option Arrival :=
  match state.unread with
  | [] => none
  | a :: _ => if a.time ≤ state.waitsUntil ms pace then some a else none

def EchoState.next : EchoState :=
  match state.ready ms pace with
  | some a => ⟨max a.time (state.sentAt pace + pace.setup) + pace.read, state.unread.tail⟩
  | none => ⟨state.waitsUntil ms pace, state.unread⟩

/-- The calls of a request on an open socket.  The buffer of `recv` has 256 bytes; it is called for a datagram only. -/
def EchoState.calls : EchoCalls where
  sendto := fun _ _ => .ok ()
  poll := fun ms => .ok (state.ready ms pace).isSome
  recv :=
    match state.unread with
    | [] => .error 11
    | a :: _ => .ok (a.bytes.take 256)
  elapsed := (state.next ms pace).now - state.sentAt pace

end

/-- The state before each request. -/
def Schedule.stateAt (schedule : Schedule) (ms : Nat) (paces : Nat → Pace) : Nat → EchoState
  | 0 => ⟨0, schedule.arrivals⟩
  | i + 1 => (schedule.stateAt ms paces i).next ms (paces i)

def Schedule.calls (schedule : Schedule) (ms : Nat) (paces : Nat → Pace) (i : Nat) : EchoCalls :=
  (schedule.stateAt ms paces i).calls ms (paces i)

/-! ## What a reply is -/

/-- The sequence number of an ICMP echo reply. -/
def replySequence : Bytes → Option Nat
  | type :: _ :: _ :: _ :: _ :: _ :: high :: low :: _ => if type = 0 then some (high.toNat * 256 + low.toNat) else none
  | _ => none

theorem toNat_u16At_pair (high low : UInt8) : (UInt16.ofNat (ByteOrder.big.read [high, low])).toNat =
    high.toNat * 256 + low.toNat := by
  have hhigh := high.toNat_lt
  have hlow := low.toNat_lt
  have hread : ByteOrder.big.read [high, low] = high.toNat * 256 + low.toNat := by
    have hnil : leValue [] = 0 := rfl
    show leValue [low, high] = high.toNat * 256 + low.toNat
    rw [leValue_cons, leValue_cons, hnil]
    omega
  rw [hread]
  exact UInt16.toNat_ofNat_of_lt' (by rw [UInt16.size]; omega)

/-- The sequence number stands behind the type, the code, the checksum and the identifier. -/
theorem replySequence_eq_some_iff (bytes : Bytes) (n : Nat) : replySequence bytes = some n ↔
    8 ≤ bytes.length ∧ u8At bytes 0 = 0 ∧ (ByteOrder.big.u16At bytes 6).toNat = n := by
  unfold replySequence
  split
  · next type _ _ _ _ _ high low rest =>
    have hword := toNat_u16At_pair high low
    simp [u8At, ByteOrder.u16At, bytesAt, hword]
  · next hshort =>
    constructor
    · intro h
      cases h
    · rintro ⟨hlength, -⟩
      exfalso
      have hhead : (bytes.take 4).length = 4 := List.length_take_of_le (by omega)
      have htail : ((bytes.drop 4).take 4).length = 4 :=
        List.length_take_of_le (by rw [List.length_drop]; omega)
      obtain ⟨type, a, b, c, hfirst⟩ := List.length_eq_four.1 hhead
      obtain ⟨d, e, high, low, hsecond⟩ := List.length_eq_four.1 htail
      have hbytes : bytes = bytes.take 4 ++ ((bytes.drop 4).take 4 ++ (bytes.drop 4).drop 4) := by
        rw [List.take_append_drop, List.take_append_drop]
      rw [hfirst, hsecond] at hbytes
      exact hshort type a b c d e high low ((bytes.drop 4).drop 4) hbytes

theorem isEchoReply_iff {i : Nat} (hi : i < 65536) (bytes : Bytes) :
    isEchoReply (UInt16.ofNat i) (bytes.take 256) = true ↔ replySequence bytes = some i := by
  have hsequence : (UInt16.ofNat i).toNat = i := UInt16.toNat_ofNat_of_lt' hi
  have hfirst : u8At (bytes.take 256) 0 = u8At bytes 0 := by
    cases bytes <;> rfl
  have hlength : 8 ≤ (bytes.take 256).length ↔ 8 ≤ bytes.length := by
    rw [List.length_take]
    omega
  rw [replySequence_eq_some_iff, isEchoReply, decide_eq_true_eq, hfirst, hlength,
    ByteOrder.big.u16At_take bytes (by decide), ← UInt16.toNat_inj, hsequence]

/-- A reply to request `i` that arrives after the request was sent and within the timeout. -/
def EchoState.InTime (timeout : Nat) (pace : Pace) (i : Nat) (state : EchoState) (a : Arrival) : Prop :=
  replySequence a.bytes = some i ∧ state.sentAt pace < a.time ∧ a.time ≤ state.sentAt pace + timeout

instance (timeout : Nat) (pace : Pace) (i : Nat) (state : EchoState) (a : Arrival) :
    Decidable (state.InTime timeout pace i a) :=
  inferInstanceAs (Decidable (_ ∧ _ ∧ _))

section
variable (schedule : Schedule) (paces : Nat → Pace) (address : Ipv4Addr) (timeout : Nat)

/-- A reply to request `i` arrives within the timeout after the request was sent. -/
def Schedule.Answered (i : Nat) : Prop :=
  ∃ a ∈ schedule.arrivals, (schedule.stateAt (timeoutMs timeout) paces i).InTime timeout (paces i) i a

instance (i : Nat) : Decidable (schedule.Answered paces timeout i) :=
  inferInstanceAs (Decidable (∃ a ∈ schedule.arrivals, _))

/-- The run counts a reply to request `i`. -/
def Schedule.Counted (i : Nat) : Prop :=
  ∃ elapsed, echoRound address timeout i (schedule.calls (timeoutMs timeout) paces i) = .ok (some elapsed)

/-- **A run that counts the requests answered in time.** -/
structure CountsAnswered (count : UInt32) : Prop where
  counted : ∀ i < count.toNat, schedule.Answered paces timeout i → schedule.Counted paces address timeout i
  received : ∃ result, echo address timeout (.ok ()) count (schedule.calls (timeoutMs timeout) paces) = .ok result ∧
    result.received.toNat = (List.range count.toNat).countP (fun i => schedule.Answered paces timeout i)

end

/-! ## The unread datagrams -/

theorem EchoState.unread_of_ready {ms : Nat} {pace : Pace} {state : EchoState} {a : Arrival}
    (h : state.ready ms pace = some a) :
    (∃ rest, state.unread = a :: rest) ∧ a.time ≤ state.waitsUntil ms pace := by
  unfold EchoState.ready at h
  cases hunread : state.unread with
  | nil => rw [hunread] at h; cases h
  | cons b rest =>
    rw [hunread] at h
    dsimp only at h
    split at h
    · next hle =>
      cases h
      exact ⟨⟨rest, rfl⟩, hle⟩
    · cases h

theorem EchoState.sentAt_le_next (ms : Nat) (pace : Pace) (state : EchoState) :
    state.sentAt pace ≤ (state.next ms pace).now := by
  unfold EchoState.next
  cases state.ready ms pace with
  | none =>
    unfold EchoState.waitsUntil
    dsimp only
    omega
  | some a =>
    dsimp only
    omega

/-- **A request reads at most the first unread datagram**, once it has arrived. -/
theorem EchoState.next_spec (ms : Nat) (pace : Pace) (state : EchoState) :
    ∃ read, state.unread = read ++ (state.next ms pace).unread ∧ ∀ a ∈ read, a.time ≤ (state.next ms pace).now := by
  unfold EchoState.next
  cases hready : state.ready ms pace with
  | none => exact ⟨[], rfl, fun a ha => (by cases ha)⟩
  | some a =>
    obtain ⟨⟨rest, hunread⟩, -⟩ := EchoState.unread_of_ready hready
    refine ⟨[a], by rw [hunread]; rfl, fun b hb => ?_⟩
    obtain rfl := List.mem_singleton.1 hb
    dsimp only
    omega

/-- **What is read before a request arrived before it**, over a whole run. -/
theorem Schedule.stateAt_spec (schedule : Schedule) (ms : Nat) (paces : Nat → Pace) : ∀ i : Nat,
    ∃ read, schedule.arrivals = read ++ (schedule.stateAt ms paces i).unread ∧
      ∀ a ∈ read, a.time ≤ (schedule.stateAt ms paces i).now
  | 0 => ⟨[], rfl, fun a ha => (by cases ha)⟩
  | i + 1 => by
    show ∃ read, schedule.arrivals = read ++ ((schedule.stateAt ms paces i).next ms (paces i)).unread ∧
      ∀ a ∈ read, a.time ≤ ((schedule.stateAt ms paces i).next ms (paces i)).now
    obtain ⟨read, harrivals, hread⟩ := schedule.stateAt_spec ms paces i
    obtain ⟨last, hunread, hlast⟩ := (schedule.stateAt ms paces i).next_spec ms (paces i)
    have hle := (schedule.stateAt ms paces i).sentAt_le_next ms (paces i)
    refine ⟨read ++ last, ?_, fun a ha => ?_⟩
    · rw [harrivals, List.append_assoc, ← hunread]
    · rcases List.mem_append.1 ha with ha | ha
      · have hbefore := hread a ha
        unfold EchoState.sentAt at hle
        omega
      · exact hlast a ha

/-! ## What is counted -/

section
variable (schedule : Schedule) (paces : Nat → Pace) (address : Ipv4Addr) (timeout : Nat)

/-- **A datagram that arrives after a request was sent is unread at the request.** -/
theorem Schedule.answered_iff (i : Nat) : schedule.Answered paces timeout i ↔
    ∃ a ∈ (schedule.stateAt (timeoutMs timeout) paces i).unread,
      (schedule.stateAt (timeoutMs timeout) paces i).InTime timeout (paces i) i a := by
  obtain ⟨read, harrivals, hread⟩ := schedule.stateAt_spec (timeoutMs timeout) paces i
  unfold Schedule.Answered
  rw [harrivals]
  constructor
  · rintro ⟨a, ha, hreply, hafter, hbefore⟩
    rcases List.mem_append.1 ha with ha | ha
    · have hle := hread a ha
      unfold EchoState.sentAt at hafter
      omega
    · exact ⟨a, ha, hreply, hafter, hbefore⟩
  · rintro ⟨a, ha, hin⟩
    exact ⟨a, List.mem_append_right _ ha, hin⟩

theorem Schedule.answer_isSome_iff {i : Nat} (hi : i < 65536) :
    ((schedule.calls (timeoutMs timeout) paces i).answer timeout i).isSome = true ↔
      ∃ a, (schedule.stateAt (timeoutMs timeout) paces i).ready (timeoutMs timeout) (paces i) = some a ∧
        replySequence a.bytes = some i := by
  unfold EchoCalls.answer Schedule.calls EchoState.calls
  dsimp only
  cases hready : (schedule.stateAt (timeoutMs timeout) paces i).ready (timeoutMs timeout) (paces i) with
  | none => simp
  | some a =>
    obtain ⟨⟨rest, hunread⟩, -⟩ := EchoState.unread_of_ready hready
    rw [hunread]
    simp only [Option.isSome_some, Option.some.injEq, exists_eq_left', ← isEchoReply_iff hi]
    by_cases hreply : isEchoReply (UInt16.ofNat i) (a.bytes.take 256) = true
    · rw [if_pos hreply, hreply]
      simp
    · rw [if_neg hreply]
      simp [hreply]

/-- A run on an open socket that sends and polls without a failure. -/
theorem Schedule.echoRound_calls (i : Nat) :
    echoRound address timeout i (schedule.calls (timeoutMs timeout) paces i) =
      .ok ((schedule.calls (timeoutMs timeout) paces i).answer timeout i) := by
  obtain ⟨packet, hpacket⟩ := exists_echoRequest (UInt16.ofNat i)
  rw [echoRound_eq address timeout hpacket]
  rfl

theorem Schedule.not_stops (i : Nat) : ¬ (schedule.calls (timeoutMs timeout) paces i).Stops address timeout i := by
  obtain ⟨packet, hpacket⟩ := exists_echoRequest (UInt16.ofNat i)
  exact not_stops_of_sends address timeout ⟨packet, hpacket, rfl⟩ rfl

/-- **What a run counts**: the requests at which the first unread datagram comes while `poll` waits and is the reply. -/
theorem Schedule.counted_iff {i : Nat} (hi : i < 65536) : schedule.Counted paces address timeout i ↔
    ∃ a, (schedule.stateAt (timeoutMs timeout) paces i).ready (timeoutMs timeout) (paces i) = some a ∧
      replySequence a.bytes = some i := by
  rw [← schedule.answer_isSome_iff paces timeout hi, Option.isSome_iff_exists]
  unfold Schedule.Counted
  rw [schedule.echoRound_calls]
  simp only [Outcome.ok.injEq]

/-- **A request at which the socket is clear.**  The first unread datagram is the reply to it or no reply arrives in
time: no reply is behind another datagram (`alone`) or arrives after `poll` gave up (`uncut`), and one to be counted is
not itself early or late (`timely`). -/
structure EchoState.Clear (timeout : Nat) (pace : Pace) (i : Nat) (state : EchoState) : Prop where
  alone : ∀ a ∈ state.ready (timeoutMs timeout) pace, replySequence a.bytes ≠ some i →
    ∀ b ∈ state.unread, ¬ state.InTime timeout pace i b
  uncut : state.ready (timeoutMs timeout) pace = none → ∀ b ∈ state.unread, ¬ state.InTime timeout pace i b
  timely : ∀ a ∈ state.ready (timeoutMs timeout) pace, replySequence a.bytes = some i →
    ∃ b ∈ state.unread, state.InTime timeout pace i b

/-- **A request is counted for what it is answered by** exactly when the socket is clear at it. -/
theorem EchoState.clear_iff (pace : Pace) (i : Nat) (state : EchoState) : state.Clear timeout pace i ↔
    ((∃ b ∈ state.unread, state.InTime timeout pace i b) ↔
      ∃ a, state.ready (timeoutMs timeout) pace = some a ∧ replySequence a.bytes = some i) := by
  constructor
  · intro h
    constructor
    · rintro ⟨b, hb, hin⟩
      cases hready : state.ready (timeoutMs timeout) pace with
      | none => exact absurd hin (h.uncut hready b hb)
      | some a =>
        by_cases hreply : replySequence a.bytes = some i
        · exact ⟨a, rfl, hreply⟩
        · exact absurd hin (h.alone a hready hreply b hb)
    · rintro ⟨a, hready, hreply⟩
      exact h.timely a hready hreply
  · intro h
    refine ⟨fun a hready hreply b hb hin => ?_, fun hready b hb hin => ?_, fun a hready hreply => ?_⟩
    · obtain ⟨a', hready', hreply'⟩ := h.1 ⟨b, hb, hin⟩
      obtain rfl := Option.some.inj (Eq.trans (Eq.symm hready) hready')
      exact hreply hreply'
    · obtain ⟨a', hready', -⟩ := h.1 ⟨b, hb, hin⟩
      rw [hready] at hready'
      cases hready'
    · exact h.2 ⟨a, hready, hreply⟩

/-- The statistics of a run on a schedule. -/
theorem Schedule.echo_calls (count : UInt32) :
    ∃ result, echo address timeout (.ok ()) count (schedule.calls (timeoutMs timeout) paces) = .ok result ∧
      result.received.toNat = (List.range count.toNat).countP
        (fun i => ((schedule.calls (timeoutMs timeout) paces i).answer timeout i).isSome) := by
  rcases echo_cases address timeout (.ok ()) count (schedule.calls (timeoutMs timeout) paces) with
    ⟨⟨errno, hsocket⟩ | ⟨i, -, hstops⟩, -⟩ | ⟨-, -, hlength, hok⟩
  · cases hsocket
  · exact absurd hstops (schedule.not_stops paces address timeout i)
  · refine ⟨_, hok, ?_⟩
    rw [echoStatistics, UInt32.toNat_ofNat_of_lt' (Nat.lt_of_le_of_lt hlength count.toNat_lt),
      List.length_mergeSort, List.length_filterMap_eq_countP]

/-- **A run counts exactly the requests answered in time** when it does so at each of them. -/
theorem Schedule.countsAnswered_iff_each (count : UInt32) (hcount : count.toNat ≤ 65536) :
    CountsAnswered schedule paces address timeout count ↔
      ∀ i < count.toNat, (schedule.Answered paces timeout i ↔ schedule.Counted paces address timeout i) := by
  have hsome : ∀ i < count.toNat, (((schedule.calls (timeoutMs timeout) paces i).answer timeout i).isSome = true ↔
      schedule.Counted paces address timeout i) := fun i hi => by
    rw [schedule.counted_iff paces address timeout (Nat.lt_of_lt_of_le hi hcount),
      schedule.answer_isSome_iff paces timeout (Nat.lt_of_lt_of_le hi hcount)]
  have hnumber : (∀ i < count.toNat, schedule.Answered paces timeout i → schedule.Counted paces address timeout i) →
      ((List.range count.toNat).countP
          (fun i => ((schedule.calls (timeoutMs timeout) paces i).answer timeout i).isSome) =
        (List.range count.toNat).countP (fun i => schedule.Answered paces timeout i) ↔
      ∀ i < count.toNat, schedule.Counted paces address timeout i → schedule.Answered paces timeout i) := fun himp => by
    rw [countP_eq_iff_of_imp (fun i hi hanswered => ?_)]
    · constructor
      · intro h i hi hcounted
        exact of_decide_eq_true (h i (List.mem_range.2 hi) ((hsome i hi).2 hcounted))
      · intro h i hi hanswer
        have hi' := List.mem_range.1 hi
        exact decide_eq_true (h i hi' ((hsome i hi').1 hanswer))
    · have hi' := List.mem_range.1 hi
      exact (hsome i hi').2 (himp i hi' (of_decide_eq_true hanswered))
  obtain ⟨result, hok, hreceived⟩ := schedule.echo_calls paces address timeout count
  constructor
  · rintro ⟨hcounted, result', hok', hreceived'⟩ i hi
    obtain rfl := Outcome.ok.inj (hok.symm.trans hok')
    rw [hreceived] at hreceived'
    exact ⟨hcounted i hi, (hnumber hcounted).1 hreceived' i hi⟩
  · intro h
    have hcounted : ∀ i < count.toNat, schedule.Answered paces timeout i → schedule.Counted paces address timeout i :=
      fun i hi => (h i hi).1
    refine ⟨hcounted, result, hok, ?_⟩
    rw [hreceived]
    exact (hnumber hcounted).2 (fun i hi => (h i hi).2)

theorem Schedule.clear_iff {i : Nat} (hi : i < 65536) :
    (schedule.stateAt (timeoutMs timeout) paces i).Clear timeout (paces i) i ↔
      (schedule.Answered paces timeout i ↔ schedule.Counted paces address timeout i) := by
  rw [EchoState.clear_iff, schedule.answered_iff, schedule.counted_iff paces address timeout hi]

/-- **When a run counts exactly the requests answered in time**: when the socket is clear at each of them. -/
theorem counts_answered_iff (count : UInt32) (hcount : count.toNat ≤ 65536) :
    CountsAnswered schedule paces address timeout count ↔
      ∀ i < count.toNat, (schedule.stateAt (timeoutMs timeout) paces i).Clear timeout (paces i) i := by
  rw [schedule.countsAnswered_iff_each paces address timeout count hcount]
  exact forall₂_congr (fun i hi =>
    (schedule.clear_iff paces address timeout (Nat.lt_of_lt_of_le hi hcount)).symm)

/-! ## Prompt replies -/

/-- **A schedule of prompt replies**: every datagram is the reply to one of the requests, comes after it was sent,
within the timeout and before its `poll` gives up, and no two are replies to one request.  A request may have none. -/
structure Schedule.Prompt (count : UInt32) : Prop where
  replies : ∀ a ∈ schedule.arrivals, ∃ i < count.toNat,
    (schedule.stateAt (timeoutMs timeout) paces i).InTime timeout (paces i) i a ∧
      a.time ≤ (schedule.stateAt (timeoutMs timeout) paces i).waitsUntil (timeoutMs timeout) (paces i)
  once : schedule.arrivals.Pairwise (fun a b => replySequence a.bytes ≠ replySequence b.bytes)

theorem Schedule.now_mono (ms : Nat) {i j : Nat} (h : i ≤ j) :
    (schedule.stateAt ms paces i).now ≤ (schedule.stateAt ms paces j).now := by
  induction j, h using Nat.le_induction with
  | base => exact Nat.le_refl _
  | succ j _ ih =>
    have hnext := (schedule.stateAt ms paces j).sentAt_le_next ms (paces j)
    unfold EchoState.sentAt at hnext
    have hstep : (schedule.stateAt ms paces (j + 1)).now = ((schedule.stateAt ms paces j).next ms (paces j)).now := rfl
    omega

variable {schedule paces timeout} {count : UInt32}

theorem Schedule.mem_of_unread {ms i : Nat} {a : Arrival} (h : a ∈ (schedule.stateAt ms paces i).unread) :
    a ∈ schedule.arrivals := by
  obtain ⟨read, harrivals, -⟩ := schedule.stateAt_spec ms paces i
  rw [harrivals]
  exact List.mem_append_right _ h

/-- The datagrams unread at a request are in the order they arrive. -/
theorem Schedule.pairwise_unread {R : Arrival → Arrival → Prop} (h : schedule.arrivals.Pairwise R) (ms i : Nat) :
    (schedule.stateAt ms paces i).unread.Pairwise R := by
  obtain ⟨read, harrivals, -⟩ := schedule.stateAt_spec ms paces i
  rw [harrivals] at h
  exact (List.pairwise_append.1 h).2.1

/-- A reply to a later request comes after `poll` has returned. -/
theorem Schedule.Prompt.not_ready (h : schedule.Prompt paces timeout count) {i : Nat} {a : Arrival}
    (ha : a ∈ schedule.arrivals) (hlater : ∀ n, replySequence a.bytes = some n → i < n) :
    (schedule.stateAt (timeoutMs timeout) paces i).ready (timeoutMs timeout) (paces i) ≠ some a := by
  intro hready
  obtain ⟨n, -, hin, -⟩ := h.replies a ha
  have hsent := hin.2.1
  have hmono := schedule.now_mono paces (timeoutMs timeout) (Nat.succ_le_of_lt (hlater n hin.1))
  have hread : a.time ≤ (schedule.stateAt (timeoutMs timeout) paces (i + 1)).now := by
    show a.time ≤ ((schedule.stateAt (timeoutMs timeout) paces i).next (timeoutMs timeout) (paces i)).now
    unfold EchoState.next
    rw [hready]
    dsimp only
    omega
  unfold EchoState.sentAt at hsent
  rw [Nat.succ_eq_add_one] at hmono
  omega

/-- **What a request meets** when nothing unread is a reply to an earlier one: the reply to it, in time, or no datagram
while `poll` waits and no reply to it at all. -/
theorem Schedule.Prompt.at_request (h : schedule.Prompt paces timeout count) {i : Nat}
    (hlater : ∀ a ∈ (schedule.stateAt (timeoutMs timeout) paces i).unread,
      ∀ n, replySequence a.bytes = some n → i ≤ n) :
    (∃ a rest, (schedule.stateAt (timeoutMs timeout) paces i).unread = a :: rest ∧ replySequence a.bytes = some i ∧
      (schedule.stateAt (timeoutMs timeout) paces i).InTime timeout (paces i) i a ∧
      (schedule.stateAt (timeoutMs timeout) paces i).ready (timeoutMs timeout) (paces i) = some a) ∨
    (schedule.stateAt (timeoutMs timeout) paces i).ready (timeoutMs timeout) (paces i) = none ∧
      ∀ b ∈ (schedule.stateAt (timeoutMs timeout) paces i).unread, replySequence b.bytes ≠ some i := by
  cases hunread : (schedule.stateAt (timeoutMs timeout) paces i).unread with
  | nil =>
    refine .inr ⟨?_, fun b hb => (by cases hb)⟩
    unfold EchoState.ready
    rw [hunread]
  | cons a rest =>
    have hmem : a ∈ (schedule.stateAt (timeoutMs timeout) paces i).unread := by
      rw [hunread]
      exact List.mem_cons_self
    have hready : (schedule.stateAt (timeoutMs timeout) paces i).ready (timeoutMs timeout) (paces i) =
        if a.time ≤ (schedule.stateAt (timeoutMs timeout) paces i).waitsUntil (timeoutMs timeout) (paces i) then
          some a else none := by
      unfold EchoState.ready
      rw [hunread]
    obtain ⟨n, -, hin, hwaits⟩ := h.replies a (schedule.mem_of_unread hmem)
    rcases Nat.lt_or_eq_of_le (hlater a hmem n hin.1) with hlt | rfl
    · have hnot := h.not_ready (schedule.mem_of_unread hmem) (fun m hm => by
        obtain rfl := Option.some.inj (hin.1.symm.trans hm)
        exact hlt)
      have hlate : ¬ a.time ≤ (schedule.stateAt (timeoutMs timeout) paces i).waitsUntil (timeoutMs timeout) (paces i) :=
        fun hle => hnot (hready.trans (if_pos hle))
      refine .inr ⟨hready.trans (if_neg hlate), fun b hb hreply => ?_⟩
      -- a reply to this request would come before `poll` gave up, and so before the first unread datagram
      have hordered : (schedule.stateAt (timeoutMs timeout) paces i).unread.Pairwise (fun a b => a.time ≤ b.time) :=
        Schedule.pairwise_unread schedule.ordered _ i
      rw [hunread] at hordered
      obtain ⟨m, -, hin', hwaits'⟩ := h.replies b (schedule.mem_of_unread (hunread ▸ hb))
      obtain rfl := Option.some.inj (hin'.1.symm.trans hreply)
      rcases List.mem_cons.1 hb with rfl | hb
      · exact hlate hwaits'
      · exact hlate (Nat.le_trans ((List.pairwise_cons.1 hordered).1 b hb) hwaits')
    · exact .inl ⟨a, rest, rfl, hin.1, hin, hready.trans (if_pos hwaits)⟩

/-- **What is unread at a request replies to none before it.** -/
theorem Schedule.Prompt.unread_later (h : schedule.Prompt paces timeout count) : ∀ (i : Nat),
    ∀ a ∈ (schedule.stateAt (timeoutMs timeout) paces i).unread, ∀ n, replySequence a.bytes = some n → i ≤ n
  | 0, _, _, n, _ => Nat.zero_le n
  | i + 1, b, hb, n, hn => by
    have hstep : (schedule.stateAt (timeoutMs timeout) paces (i + 1)).unread =
      ((schedule.stateAt (timeoutMs timeout) paces i).next (timeoutMs timeout) (paces i)).unread := rfl
    have ih := h.unread_later i
    unfold EchoState.next at hstep
    rcases h.at_request ih with ⟨a, rest, hunread, hreply, -, hready⟩ | ⟨hready, hnone⟩
    · -- the reply to the request is read, and no other datagram is one
      rw [hready, hunread] at hstep
      rw [hstep] at hb
      have honce : (schedule.stateAt (timeoutMs timeout) paces i).unread.Pairwise
          (fun a b => replySequence a.bytes ≠ replySequence b.bytes) := Schedule.pairwise_unread h.once _ i
      rw [hunread] at honce ih
      have hne := (List.pairwise_cons.1 honce).1 b hb
      rw [hreply, hn] at hne
      exact Nat.lt_of_le_of_ne (ih b (List.mem_cons_of_mem _ hb) n hn) (fun heq => hne (congrArg some heq))
    · rw [hready] at hstep
      rw [hstep] at hb
      exact Nat.lt_of_le_of_ne (ih b hb n hn) (fun heq => hnone b hb (hn.trans (congrArg some heq.symm)))

/-- **The socket is clear at every request of a prompt schedule.** -/
theorem Schedule.Prompt.clear (h : schedule.Prompt paces timeout count) (i : Nat) :
    (schedule.stateAt (timeoutMs timeout) paces i).Clear timeout (paces i) i := by
  rw [EchoState.clear_iff]
  rcases h.at_request (h.unread_later i) with ⟨a, rest, hunread, hreply, hin, hready⟩ | ⟨hready, hnone⟩
  · rw [hunread]
    exact iff_of_true ⟨a, List.mem_cons_self, hin⟩ ⟨a, hready, hreply⟩
  · refine iff_of_false ?_ ?_
    · rintro ⟨b, hb, hin⟩
      exact hnone b hb hin.1
    · rintro ⟨a, ha, -⟩
      rw [hready] at ha
      cases ha

/-- **A run counts every request answered by a prompt schedule**, and no other. -/
theorem Schedule.Prompt.counts_answered (h : schedule.Prompt paces timeout count) (hcount : count.toNat ≤ 65536) :
    CountsAnswered schedule paces address timeout count :=
  (schedule.countsAnswered_iff_each paces address timeout count hcount).2 (fun i hi =>
    (schedule.clear_iff paces address timeout (Nat.lt_of_lt_of_le hi hcount)).1 (h.clear i))

end

/-- A reply to one of the first 256 requests. -/
def echoReply (sequence : UInt8) : Bytes := [0, 0, 0, 0, 0, 0, 0, sequence]

/-- A process that pauses for ten milliseconds before a request and is fast otherwise. -/
def steadyPace (_ : Nat) : Pace := ⟨10000000, 0, 0, 0⟩

/-- Replies to the first two of three requests, five milliseconds after each. -/
def promptSchedule : Schedule := ⟨[⟨15000000, echoReply 0⟩, ⟨30000000, echoReply 1⟩], by decide⟩

theorem promptSchedule_prompt : promptSchedule.Prompt steadyPace 800000000 3 where
  replies a ha := by
    rcases List.mem_pair.1 ha with rfl | rfl
    · exact ⟨0, by decide, by decide +kernel, by decide +kernel⟩
    · exact ⟨1, by decide, by decide +kernel, by decide +kernel⟩
  once := by decide

theorem counts_answered_iff_prompt :
    CountsAnswered promptSchedule steadyPace (Ipv4Addr.new 192 168 1 1) 800000000 3 :=
  (counts_answered_iff promptSchedule steadyPace (Ipv4Addr.new 192 168 1 1) 800000000 3 (by decide)).2
    (fun i _ => promptSchedule_prompt.clear i)

/-- A reply to the first of three requests after its timeout of a millisecond, and prompt ones to the others. -/
def lateSchedule : Schedule :=
  ⟨[⟨11500000, echoReply 0⟩, ⟨21500000, echoReply 1⟩, ⟨31900000, echoReply 2⟩], by decide⟩

/-- A reply that is late for its request takes the place of each later one. -/
theorem late_reply_shifts_the_rest :
    (∃ result, echo (Ipv4Addr.new 192 168 1 1) 1000000 (.ok ()) 3
        (lateSchedule.calls (timeoutMs 1000000) steadyPace) = .ok result ∧ result.received = 0) ∧
      (List.range 3).filter (fun i => lateSchedule.Answered steadyPace 1000000 i) = [1, 2] ∧
      ¬ CountsAnswered lateSchedule steadyPace (Ipv4Addr.new 192 168 1 1) 1000000 3 := by
  obtain ⟨result, hok, hreceived⟩ := lateSchedule.echo_calls steadyPace (Ipv4Addr.new 192 168 1 1) 1000000 3
  have hnone : (List.range (3 : UInt32).toNat).countP
      (fun i => ((lateSchedule.calls (timeoutMs 1000000) steadyPace i).answer 1000000 i).isSome) = 0 := by
    decide +kernel
  have hanswered : (List.range (3 : UInt32).toNat).countP
      (fun i => lateSchedule.Answered steadyPace 1000000 i) = 2 := by
    decide +kernel
  rw [hnone] at hreceived
  refine ⟨⟨result, hok, UInt32.toNat_inj.1 hreceived⟩, by decide +kernel, fun h => ?_⟩
  obtain ⟨result', hok', hreceived'⟩ := h.received
  obtain rfl := Outcome.ok.inj (hok.symm.trans hok')
  rw [hreceived, hanswered] at hreceived'
  cases hreceived'

end Networkrs
