import Networkrs.Address
import Networkrs.Io
import Networkrs.Lib.Gather
/-!
# Ping — ICMP echo measurements

`ping.rs`: the echo request with its checksum, and the loop that sends a request, waits for one datagram and counts it
when it is the reply.  Durations are numbers of nanoseconds.  What the system calls of a request return is a value
(`EchoCalls`), so a run gathers what its requests come to (`echoRound_cases`, `echo_cases`).

A failed `sendto` or `poll` ends a run with its error, a failed `recv` passes for a lost reply
(`reports_failures_iff`).
-/
namespace Networkrs

open Machine Collect

/-- The result of a bounded echo run, which receives no more than it sends. -/
structure PingResult where
  transmitted : UInt32
  received : UInt32
  minimum : Option Nat
  average : Option Nat
  maximum : Option Nat
  received_le : received ≤ transmitted

/-! ## The request -/

/-- The sum of the big-endian words of some bytes, the last one filled up with zero. -/
def sumWords : Bytes → UInt32 → Checked UInt32
  | [], sum => .ok sum
  | [high], sum => u32Add sum (ByteOrder.big.u16At [high, 0] 0).toUInt32
  | high :: low :: rest, sum => do
    let sum ← u32Add sum (ByteOrder.big.u16At [high, low] 0).toUInt32
    sumWords rest sum

theorem toNat_foldCarry (sum : UInt32) :
    ((sum &&& (0xffff : UInt32)) + (sum >>> 16)).toNat = sum.toNat % 2 ^ 16 + sum.toNat / 2 ^ 16 := by
  have hlow : (sum &&& (0xffff : UInt32)).toNat = sum.toNat % 2 ^ 16 := by
    rw [UInt32.toNat_and]
    exact Nat.and_two_pow_sub_one_eq_mod sum.toNat 16
  have hhigh : (sum >>> 16).toNat = sum.toNat / 2 ^ 16 := by
    rw [UInt32.toNat_shiftRight, Nat.shiftRight_eq_div_pow]
    rfl
  have hsum := sum.toNat_lt
  rw [UInt32.toNat_add, hlow, hhigh]
  omega

/-- `while sum > u16::MAX`: the two halves add up to less than `2^17`. -/
def foldCarries (sum : UInt32) : UInt32 :=
  if 0xffff < sum then foldCarries ((sum &&& (0xffff : UInt32)) + (sum >>> 16)) else sum
termination_by sum.toNat
decreasing_by
  rename_i h
  rw [UInt32.lt_iff_toNat_lt, show (0xffff : UInt32).toNat = 65535 from rfl] at h
  rw [toNat_foldCarry]
  omega

def checksum (bytes : Bytes) : Checked UInt16 := do
  let sum ← sumWords bytes 0
  return ~~~(foldCarries sum).toUInt16

def echoRequest (sequence : UInt16) : Checked Bytes := do
  let packet : UInt16 → Bytes := fun sum =>
    [8, 0] ++ ByteOrder.big.u16Bytes sum ++ [0, 0] ++ ByteOrder.big.u16Bytes sequence ++
      [0x6e, 0x65, 0x74, 0x77, 0x6f, 0x72, 0x6b, 0x72]  -- "networkr"
  let sum ← checksum (packet 0)
  return packet sum

/-! ## The run -/

/-- What the system calls of one request return, or the `errno` they fail with, and the time from before the request to
after its reply. -/
structure EchoCalls where
  sendto : Ipv4Addr → Bytes → Except Int32 Unit
  poll : Nat → Except Int32 Bool
  recv : Except Int32 Bytes
  elapsed : Nat

/-- The timeout in whole milliseconds, at most `c_int::MAX`. -/
def timeoutMs (timeout : Nat) : Nat := min (timeout / 1000000) 2147483647

def isEchoReply (sequence : UInt16) (response : Bytes) : Bool :=
  8 ≤ response.length ∧ u8At response 0 = 0 ∧ ByteOrder.big.u16At response 6 = sequence

section
variable (address : Ipv4Addr) (timeout : Nat)

/-- One request: the time its reply took, if one was read. -/
def echoRound (sequence : Nat) (calls : EchoCalls) : IoResult (Option Nat) := do
  let sequence := UInt16.ofNat sequence
  let packet ← .ofChecked (echoRequest sequence)
  match calls.sendto address packet with
  | .error errno => .err (.os errno)
  | .ok () =>
    match calls.poll (timeoutMs timeout) with
    | .error errno => .err (.os errno)
    | .ok false => return none
    | .ok true =>
      match calls.recv with
      -- the negative length is below 8
      | .error _ => return none
      | .ok response => return if isEchoReply sequence response then some calls.elapsed else none

/-- The times of the replies to the first `count` requests. -/
def echoElapsed (count : Nat) (calls : Nat → EchoCalls) : IoResult (List Nat) :=
  gather (fun sequence => echoRound address timeout sequence (calls sequence)) (List.range count)

theorem length_echoElapsed_le {count : Nat} {calls : Nat → EchoCalls} {elapsed : List Nat}
    (h : echoElapsed address timeout count calls = .ok elapsed) : elapsed.length ≤ count := by
  have hlength := length_le_of_gather h
  rwa [List.length_range] at hlength

/-- The statistics of the sorted times.  The average is cut to `u64::MAX` nanoseconds; the `u128` sum of at most `2^32`
durations does not overflow. -/
def echoStatistics (count : UInt32) (elapsed : List Nat) (h : elapsed.length ≤ count.toNat) : PingResult where
  transmitted := count
  received := UInt32.ofNat elapsed.length
  minimum := elapsed.head?
  average := if elapsed.isEmpty then none else some (min (elapsed.sum / elapsed.length) (2 ^ 64 - 1))
  maximum := elapsed.getLast?
  received_le := by
    have hcount := count.toNat_lt
    rw [UInt32.le_iff_toNat_le, UInt32.toNat_ofNat_of_lt' (Nat.lt_of_le_of_lt h hcount)]
    exact h

theorem length_sorted_le {count : Nat} {calls : Nat → EchoCalls} {elapsed : List Nat}
    (h : echoElapsed address timeout count calls = .ok elapsed) : (elapsed.mergeSort (· ≤ ·)).length ≤ count := by
  rw [List.length_mergeSort]
  exact length_echoElapsed_le address timeout h

def echo (socket : Except Int32 Unit) (count : UInt32) (calls : Nat → EchoCalls) : IoResult PingResult :=
  match socket with
  | .error errno => .err (.os errno)
  | .ok () =>
    match h : echoElapsed address timeout count.toNat calls with
    | .ok elapsed => .ok (echoStatistics count (elapsed.mergeSort (· ≤ ·)) (length_sorted_le address timeout h))
    | .err e => .err e
    | .panicked p => .panicked p
    | .waiting => .waiting

end

/-! ## What a request comes to -/

/-- The big-endian words of some bytes, the last one filled up with zero. -/
def words : Bytes → List UInt16
  | [] => []
  | [high] => [ByteOrder.big.u16At [high, 0] 0]
  | high :: low :: rest => ByteOrder.big.u16At [high, low] 0 :: words rest

def wordSum (bytes : Bytes) : Nat := ((words bytes).map UInt16.toNat).sum

theorem u32Add_word (sum : UInt32) (word : UInt16) :
    u32Add sum word.toUInt32 =
      if sum.toNat + word.toNat < 2 ^ 32 then .ok (UInt32.ofNat (sum.toNat + word.toNat)) else .error .overflow := by
  have hadd : sum + word.toUInt32 = UInt32.ofNat (sum.toNat + word.toNat) := by
    apply UInt32.toNat_inj.1
    rw [UInt32.toNat_add, UInt16.toNat_toUInt32, UInt32.toNat_ofNat']
  rw [u32Add, UInt16.toNat_toUInt32, hadd]
  rfl

/-- **The sum of the words, while it fits.** -/
theorem sumWords_eq : ∀ (bytes : Bytes) (sum : UInt32),
    sumWords bytes sum =
      if sum.toNat + wordSum bytes < 2 ^ 32 then .ok (UInt32.ofNat (sum.toNat + wordSum bytes)) else .error .overflow
  | [], sum => by
    have hsum : sum.toNat + wordSum [] = sum.toNat := rfl
    rw [sumWords, hsum, if_pos sum.toNat_lt, UInt32.ofNat_toNat]
  | [high], sum => by
    have hsum : wordSum [high] = (ByteOrder.big.u16At [high, 0] 0).toNat := Nat.add_zero _
    rw [sumWords, u32Add_word, hsum]
  | high :: low :: rest, sum => by
    have hsum : wordSum (high :: low :: rest) = (ByteOrder.big.u16At [high, low] 0).toNat + wordSum rest := rfl
    rw [sumWords, u32Add_word, hsum, ← Nat.add_assoc]
    by_cases hfits : sum.toNat + (ByteOrder.big.u16At [high, low] 0).toNat < 2 ^ 32
    · rw [if_pos hfits, ok_bind, sumWords_eq rest, UInt32.toNat_ofNat_of_lt' hfits]
    · rw [if_neg hfits, if_neg (by omega)]
      rfl

theorem wordSum_le : ∀ (bytes : Bytes), wordSum bytes ≤ 65535 * ((bytes.length + 1) / 2)
  | [] => Nat.zero_le _
  | [high] => by
    have hsum : wordSum [high] = (ByteOrder.big.u16At [high, 0] 0).toNat := Nat.add_zero _
    have hword := (ByteOrder.big.u16At [high, 0] 0).toNat_lt
    rw [hsum, List.length_singleton]
    omega
  | high :: low :: rest => by
    have hsum : wordSum (high :: low :: rest) = (ByteOrder.big.u16At [high, low] 0).toNat + wordSum rest := rfl
    have hword := (ByteOrder.big.u16At [high, low] 0).toNat_lt
    have ih := wordSum_le rest
    rw [hsum, List.length_cons, List.length_cons]
    omega

/-- Up to 65537 words fit into the sum. -/
theorem sumWords_of_length_le {bytes : Bytes} (h : bytes.length ≤ 131074) :
    sumWords bytes 0 = .ok (UInt32.ofNat (wordSum bytes)) ∧ wordSum bytes < 2 ^ 32 := by
  have hle := wordSum_le bytes
  have hzero : (0 : UInt32).toNat + wordSum bytes = wordSum bytes := Nat.zero_add _
  have hfits : wordSum bytes < 2 ^ 32 := by omega
  rw [sumWords_eq, hzero, if_pos hfits]
  exact ⟨rfl, hfits⟩

/-- **A request is made without a panic.** -/
theorem exists_echoRequest (sequence : UInt16) : ∃ packet, echoRequest sequence = .ok packet := by
  unfold echoRequest checksum
  dsimp only
  obtain ⟨hsum, -⟩ := @sumWords_of_length_le ([8, 0] ++ ByteOrder.big.u16Bytes 0 ++ [0, 0] ++
    ByteOrder.big.u16Bytes sequence ++ [0x6e, 0x65, 0x74, 0x77, 0x6f, 0x72, 0x6b, 0x72]) (by simp)
  rw [hsum]
  exact ⟨_, rfl⟩

section
variable (address : Ipv4Addr) (timeout : Nat)

/-- What `sendto` returns for the packet of a request. -/
def EchoCalls.Sends (sequence : Nat) (calls : EchoCalls) (result : Except Int32 Unit) : Prop :=
  ∃ packet, echoRequest (UInt16.ofNat sequence) = .ok packet ∧ calls.sendto address packet = result

/-- The `sendto` or the `poll` of a request fails. -/
def EchoCalls.Stops (sequence : Nat) (calls : EchoCalls) : Prop :=
  (∃ errno, calls.Sends address sequence (.error errno)) ∨
    calls.Sends address sequence (.ok ()) ∧ ∃ errno, calls.poll (timeoutMs timeout) = .error errno

/-- The `recv` of a request is made and fails. -/
def EchoCalls.FailsToRead (sequence : Nat) (calls : EchoCalls) : Prop :=
  calls.Sends address sequence (.ok ()) ∧ calls.poll (timeoutMs timeout) = .ok true ∧ ∃ errno, calls.recv = .error errno

/-- What a request is answered by, as far as its calls go well. -/
def EchoCalls.answer (sequence : Nat) (calls : EchoCalls) : Option Nat :=
  match calls.poll (timeoutMs timeout), calls.recv with
  | .ok true, .ok response => if isEchoReply (UInt16.ofNat sequence) response then some calls.elapsed else none
  | _, _ => none

theorem EchoCalls.sends_unique {sequence : Nat} {calls : EchoCalls} {r r' : Except Int32 Unit}
    (h : calls.Sends address sequence r) (h' : calls.Sends address sequence r') : r = r' := by
  obtain ⟨packet, hpacket, hr⟩ := h
  obtain ⟨packet', hpacket', hr'⟩ := h'
  obtain rfl := Except.ok.inj (hpacket.symm.trans hpacket')
  rw [← hr, ← hr']

theorem echoRound_eq {sequence : Nat} {packet : Bytes} (hpacket : echoRequest (UInt16.ofNat sequence) = .ok packet)
    (calls : EchoCalls) : echoRound address timeout sequence calls =
      match calls.sendto address packet with
      | .error errno => .err (.os errno)
      | .ok () =>
        match calls.poll (timeoutMs timeout) with
        | .error errno => .err (.os errno)
        | .ok _ => .ok (calls.answer timeout sequence) := by
  unfold echoRound EchoCalls.answer
  dsimp only
  rw [hpacket, Outcome.ofChecked_ok_bind]
  cases calls.sendto address packet with
  | error errno => rfl
  | ok u =>
    cases calls.poll (timeoutMs timeout) with
    | error errno => rfl
    | ok ready =>
      cases ready with
      | false => rfl
      | true => cases calls.recv <;> rfl

/-- **What one request comes to**: an error where its `sendto` or its `poll` fails, and its answer otherwise. -/
theorem echoRound_cases (sequence : Nat) (calls : EchoCalls) :
    calls.Stops address timeout sequence ∧ (echoRound address timeout sequence calls).IsErr ∨
      calls.Sends address sequence (.ok ()) ∧ (∃ ready, calls.poll (timeoutMs timeout) = .ok ready) ∧
        echoRound address timeout sequence calls = .ok (calls.answer timeout sequence) := by
  obtain ⟨packet, hpacket⟩ := exists_echoRequest (UInt16.ofNat sequence)
  rw [echoRound_eq address timeout hpacket]
  cases hsend : calls.sendto address packet with
  | error errno => exact .inl ⟨.inl ⟨errno, packet, hpacket, hsend⟩, .os errno, rfl⟩
  | ok u =>
    cases hpoll : calls.poll (timeoutMs timeout) with
    | error errno => exact .inl ⟨.inr ⟨⟨packet, hpacket, hsend⟩, errno, hpoll⟩, .os errno, rfl⟩
    | ok ready => exact .inr ⟨⟨packet, hpacket, hsend⟩, ⟨ready, rfl⟩, rfl⟩

theorem not_stops_of_sends {sequence : Nat} {calls : EchoCalls} {ready : Bool}
    (hsends : calls.Sends address sequence (.ok ())) (hpoll : calls.poll (timeoutMs timeout) = .ok ready) :
    ¬ calls.Stops address timeout sequence := by
  rintro (⟨errno, hfails⟩ | ⟨-, errno, hfails⟩)
  · cases calls.sends_unique address hsends hfails
  · rw [hpoll] at hfails
    cases hfails

variable {count : Nat} {calls : Nat → EchoCalls}

/-- **A run whose requests are all sent and polled** holds their answers. -/
theorem echoElapsed_of_not_stops (h : ∀ i < count, ¬ (calls i).Stops address timeout i) :
    echoElapsed address timeout count calls =
      .ok ((List.range count).filterMap (fun i => (calls i).answer timeout i)) := by
  refine gather_of_ok (fun i hi => ?_)
  rcases echoRound_cases address timeout i (calls i) with ⟨hstops, -⟩ | ⟨-, -, hround⟩
  · exact absurd hstops (h i (List.mem_range.1 hi))
  · exact hround

/-- **A run with a request whose `sendto` or `poll` fails** fails. -/
theorem echoElapsed_of_stops (h : ∃ i < count, (calls i).Stops address timeout i) :
    (echoElapsed address timeout count calls).IsErr := by
  refine gather_isErr (fun i _ => ?_) ?_
  · rcases echoRound_cases address timeout i (calls i) with ⟨-, herr⟩ | ⟨-, -, hround⟩
    · exact .inr herr
    · exact .inl ⟨_, hround⟩
  · obtain ⟨i, hi, hstops⟩ := h
    refine ⟨i, List.mem_range.2 hi, ?_⟩
    rcases echoRound_cases address timeout i (calls i) with ⟨-, herr⟩ | ⟨hsends, ⟨ready, hpoll⟩, -⟩
    · exact herr
    · exact absurd hstops (not_stops_of_sends address timeout hsends hpoll)

end

section
variable (address : Ipv4Addr) (timeout : Nat) (socket : Except Int32 Unit) (count : UInt32) (calls : Nat → EchoCalls)

/-- **How a run ends**: with an error where the socket, a `sendto` or a `poll` fails, else with its statistics. -/
theorem echo_cases :
    ((∃ errno, socket = .error errno) ∨ ∃ i < count.toNat, (calls i).Stops address timeout i) ∧
        (echo address timeout socket count calls).IsErr ∨
      socket = .ok () ∧ (∀ i < count.toNat, ¬ (calls i).Stops address timeout i) ∧
        ∃ h, echo address timeout socket count calls = .ok (echoStatistics count
          (((List.range count.toNat).filterMap (fun i => (calls i).answer timeout i)).mergeSort (· ≤ ·)) h) := by
  unfold echo
  cases socket with
  | error errno => exact .inl ⟨.inl ⟨errno, rfl⟩, .os errno, rfl⟩
  | ok u =>
    dsimp only
    by_cases hstops : ∃ i < count.toNat, (calls i).Stops address timeout i
    · obtain ⟨e, he⟩ := echoElapsed_of_stops address timeout hstops
      refine .inl ⟨.inr hstops, ?_⟩
      split
      · next h => rw [he] at h; cases h
      · next e' h => exact ⟨e', rfl⟩
      · next h => rw [he] at h; cases h
      · next h => rw [he] at h; cases h
    · have hnot : ∀ i < count.toNat, ¬ (calls i).Stops address timeout i := fun i hi h => hstops ⟨i, hi, h⟩
      have helapsed := echoElapsed_of_not_stops address timeout hnot
      refine .inr ⟨rfl, hnot, ?_⟩
      split
      · next elapsed h =>
        obtain rfl := Outcome.ok.inj (h.symm.trans helapsed)
        exact ⟨length_sorted_le address timeout helapsed, rfl⟩
      · next h => rw [helapsed] at h; cases h
      · next h => rw [helapsed] at h; cases h
      · next h => rw [helapsed] at h; cases h

/-- A run gets to a request when no call of an earlier one ended it. -/
def EchoReaches (i : Nat) : Prop := socket = .ok () ∧ ∀ j < i, ¬ (calls j).Stops address timeout j

/-- **A run that reports failures**: a failed call it makes is an error, and statistics are returned only when each
request was sent and polled and, unless `poll` timed out, a datagram was read. -/
structure ReportsFailures : Prop where
  err : ∀ i < count.toNat, EchoReaches address timeout socket calls i →
    (calls i).Stops address timeout i ∨ (calls i).FailsToRead address timeout i →
    (echo address timeout socket count calls).IsErr
  ok : ∀ result, echo address timeout socket count calls = .ok result → ∀ i < count.toNat,
    (calls i).Sends address i (.ok ()) ∧ ((calls i).poll (timeoutMs timeout) = .ok false ∨
      (calls i).poll (timeoutMs timeout) = .ok true ∧ ∃ response, (calls i).recv = .ok response)

/-- **When a run reports its failures**: exactly when another call than `recv` fails, or no `recv` does. -/
theorem reports_failures_iff :
    ReportsFailures address timeout socket count calls ↔
      (∃ errno, socket = .error errno) ∨ (∃ i < count.toNat, (calls i).Stops address timeout i) ∨
        ∀ i < count.toNat, ¬ (calls i).FailsToRead address timeout i := by
  rcases echo_cases address timeout socket count calls with ⟨hends, e, herr⟩ | ⟨hsocket, hnot, hlength, hok⟩
  · refine ⟨fun _ => ?_, fun _ => ⟨fun i _ _ _ => ⟨e, herr⟩, fun result hresult => ?_⟩⟩
    · exact hends.imp_right .inl
    · rw [herr] at hresult
      cases hresult
  · constructor
    · rintro ⟨-, hreads⟩
      refine .inr (.inr (fun i hi hfails => ?_))
      obtain ⟨-, htimeout | ⟨-, response, hresponse⟩⟩ := hreads _ hok i hi
      · rw [hfails.2.1] at htimeout
        cases htimeout
      · obtain ⟨errno, herrno⟩ := hfails.2.2
        rw [hresponse] at herrno
        cases herrno
    · rintro (⟨errno, hsocket'⟩ | ⟨i, hi, hstops⟩ | hreads)
      · rw [hsocket] at hsocket'
        cases hsocket'
      · exact absurd hstops (hnot i hi)
      · refine ⟨fun i hi _ hfails => ?_, fun result _ i hi => ?_⟩
        · exact absurd hfails (not_or.2 ⟨hnot i hi, hreads i hi⟩)
        · rcases echoRound_cases address timeout i (calls i) with ⟨hstops, -⟩ | ⟨hsends, ⟨ready, hpoll⟩, -⟩
          · exact absurd hstops (hnot i hi)
          refine ⟨hsends, ?_⟩
          cases ready with
          | false => exact .inl hpoll
          | true =>
            refine .inr ⟨hpoll, ?_⟩
            cases hrecv : (calls i).recv with
            | ok response => exact ⟨response, rfl⟩
            | error errno => exact absurd ⟨hsends, hpoll, errno, hrecv⟩ (hreads i hi)

end

/-- A request that is sent and polled, and whose `recv` is refused. -/
def refusedCalls : EchoCalls := ⟨fun _ _ => .ok (), fun _ => .ok true, .error 111, 1000⟩

/-- A run of one request whose only `recv` fails returns statistics, and those of a lost reply. -/
theorem failed_recv_is_a_lost_reply :
    (∃ result, echo (Ipv4Addr.new 192 168 1 1) 800000000 (.ok ()) 1 (fun _ => refusedCalls) = .ok result ∧
      result.transmitted = 1 ∧ result.received = 0 ∧ result.minimum = none) ∧
    ¬ ReportsFailures (Ipv4Addr.new 192 168 1 1) 800000000 (.ok ()) 1 (fun _ => refusedCalls) := by
  obtain ⟨packet, hpacket⟩ := exists_echoRequest (UInt16.ofNat 0)
  have hsends : refusedCalls.Sends (Ipv4Addr.new 192 168 1 1) 0 (.ok ()) := ⟨packet, hpacket, rfl⟩
  have hnot : ∀ i < (1 : UInt32).toNat, ¬ refusedCalls.Stops (Ipv4Addr.new 192 168 1 1) 800000000 i := fun i hi => by
    obtain rfl := Nat.lt_one_iff.1 hi
    exact not_stops_of_sends _ _ hsends rfl
  rcases echo_cases (Ipv4Addr.new 192 168 1 1) 800000000 (.ok ()) 1 (fun _ => refusedCalls) with
    ⟨⟨errno, hsocket⟩ | ⟨i, hi, hstops⟩, -⟩ | ⟨-, -, hlength, hok⟩
  · cases hsocket
  · exact absurd hstops (hnot i hi)
  · have hreceived : UInt32.ofNat (([] : List Nat).mergeSort (· ≤ ·)).length = 0 := by
      rw [List.mergeSort_nil, List.length_nil]
      rfl
    have hminimum : (([] : List Nat).mergeSort (· ≤ ·)).head? = none := by
      rw [List.mergeSort_nil, List.head?_nil]
    refine ⟨⟨_, hok, rfl, hreceived, hminimum⟩, fun h => ?_⟩
    obtain ⟨-, htimeout | ⟨-, response, hresponse⟩⟩ := h.ok _ hok 0 (by decide)
    · cases htimeout
    · cases hresponse

end Networkrs
