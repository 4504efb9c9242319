import Mathlib.Algebra.Order.Field.Basic
import Mathlib.Data.Rat.Floor
import Networkrs.Lib.Sorted
import Networkrs.Ping
/-!
# PingStatistics — what a run's statistics say of its measured times

The statistics of a run are those of the times its loop pushed (`echoElapsed`): their number, their least, their
greatest and the floor of their mean (`PingResult.Consistent`).  The mean is taken of a `u128` sum and cut to `u64`;
neither loses anything while the times stay below `2^64` nanoseconds (`meanElapsed_eq`).

`main.rs`: `ping_loss`, up to the rounding of its division of doubles.
-/
namespace Networkrs

open Machine Collect

/-- The average of a run's times as it is computed: the sum in `u128`, the quotient narrowed to `u64` or else replaced
by `u64::MAX`. -/
def meanElapsed (elapsed : List Nat) : Checked (Option Nat) :=
  if elapsed.isEmpty then return none
  else do
    let sum ← u128Sum elapsed
    let mean := sum / elapsed.length
    return some (if mean < 2 ^ 64 then mean else 2 ^ 64 - 1)

/-- The share of the requests that were lost, in percent. -/
def pingLoss (result : PingResult) : Checked ℚ :=
  if result.transmitted = 0 then return 0
  else do
    let lost ← u32Sub result.transmitted result.received
    return lost.toNat * 100 / result.transmitted.toNat

/-- **Statistics that say what was measured**: a run of `count` requests whose replies took `times`. -/
structure PingResult.Consistent (count : UInt32) (times : List Nat) (result : PingResult) : Prop where
  transmitted : result.transmitted = count
  received : result.received.toNat = times.length
  received_le : result.received ≤ result.transmitted
  loss : ∃ loss, pingLoss result = .ok loss ∧ 0 ≤ loss ∧ loss ≤ 100
  lost : result.received = 0 → result.minimum = none ∧ result.average = none ∧ result.maximum = none
  measured : 0 < result.received → ∃ minimum average maximum, result.minimum = some minimum ∧
    result.average = some average ∧ result.maximum = some maximum ∧ minimum ≤ average ∧ average ≤ maximum ∧
    IsLeast {time | time ∈ times} minimum ∧ IsGreatest {time | time ∈ times} maximum ∧
    (average : ℤ) = ⌊(times.sum : ℚ) / times.length⌋

/-! ## The mean -/

/-- **Neither the sum nor the quotient loses anything**: fewer than `2^32` times below `2^64` sum to less than `2^128`,
and their mean is below `2^64`. -/
theorem meanElapsed_eq {elapsed : List Nat} (hlength : elapsed.length < 2 ^ 32) (h : ∀ time ∈ elapsed, time < 2 ^ 64) :
    u128Sum elapsed = .ok elapsed.sum ∧
      meanElapsed elapsed = .ok (if elapsed.isEmpty then none else some (elapsed.sum / elapsed.length)) := by
  have hle : ∀ time ∈ elapsed, time ≤ 2 ^ 64 - 1 := fun time htime => Nat.le_sub_one_of_lt (h time htime)
  have hsum : elapsed.sum < 2 ^ 128 := by
    have hbound := List.sum_le_card_nsmul elapsed _ hle
    have hproduct := Nat.mul_le_mul (Nat.le_of_lt hlength) (Nat.le_refl (2 ^ 64 - 1))
    rw [smul_eq_mul] at hbound
    exact Nat.lt_of_le_of_lt (Nat.le_trans hbound hproduct) (by decide)
  have hmean : elapsed.sum / elapsed.length < 2 ^ 64 := Nat.lt_of_le_of_lt (mean_le hle) (by decide)
  have hadd : u128Sum elapsed = .ok elapsed.sum := by rw [u128Sum_eq, if_pos hsum]
  refine ⟨hadd, ?_⟩
  unfold meanElapsed
  by_cases hempty : elapsed.isEmpty
  · rw [if_pos hempty, if_pos hempty]
    rfl
  · rw [if_neg hempty, if_neg hempty, hadd, ok_bind]
    dsimp only
    rw [if_pos hmean]
    rfl

/-- **The average of a run is the mean as it is computed.** -/
theorem average_eq_meanElapsed {count : UInt32} {elapsed : List Nat} (h : elapsed.length ≤ count.toNat)
    (htimes : ∀ time ∈ elapsed, time < 2 ^ 64) :
    meanElapsed elapsed = .ok (echoStatistics count elapsed h).average := by
  have hcount := count.toNat_lt
  have hmean := (meanElapsed_eq (Nat.lt_of_le_of_lt h hcount) htimes).2
  have hle : elapsed.sum / elapsed.length ≤ 2 ^ 64 - 1 :=
    mean_le (fun time htime => Nat.le_sub_one_of_lt (htimes time htime))
  rw [hmean]
  unfold echoStatistics
  dsimp only
  rw [Nat.min_eq_left hle]

/-! ## The loss -/

theorem pingLoss_bounds {result : PingResult} (h : result.received ≤ result.transmitted) :
    ∃ loss, pingLoss result = .ok loss ∧ 0 ≤ loss ∧ loss ≤ 100 := by
  unfold pingLoss
  by_cases hzero : result.transmitted = 0
  · rw [if_pos hzero]
    exact ⟨0, rfl, le_refl 0, by norm_num⟩
  · have hle := UInt32.le_iff_toNat_le.1 h
    have hpos : (0 : ℚ) < result.transmitted.toNat := by
      rw [Nat.cast_pos]
      exact Nat.pos_of_ne_zero (fun h0 => hzero (UInt32.toNat_inj.1 h0))
    have hlost : ((result.transmitted - result.received).toNat : ℚ) ≤ result.transmitted.toNat := by
      rw [UInt32.toNat_sub_of_le _ _ h]
      exact_mod_cast Nat.sub_le _ _
    rw [if_neg hzero, u32Sub_of_le hle, ok_bind]
    refine ⟨_, rfl, by positivity, ?_⟩
    rw [div_le_iff₀ hpos]
    linarith

/-! ## A run -/

/-- **Statistics of sorted times** below `2^64` nanoseconds are consistent with them. -/
theorem echoStatistics_consistent {count : UInt32} {times : List Nat}
    (h : (times.mergeSort (· ≤ ·)).length ≤ count.toNat) (hbound : ∀ time ∈ times, time < 2 ^ 64) :
    (echoStatistics count (times.mergeSort (· ≤ ·)) h).Consistent count times := by
  have hperm := List.mergeSort_perm times (· ≤ ·)
  have hlength : (times.mergeSort (· ≤ ·)).length = times.length := List.length_mergeSort times
  have hsum : (times.mergeSort (· ≤ ·)).sum = times.sum := hperm.sum_eq
  have hsorted : ∀ time ∈ times.mergeSort (· ≤ ·), time < 2 ^ 64 := fun time htime =>
    hbound time (List.mem_mergeSort.1 htime)
  have hfits : (times.mergeSort (· ≤ ·)).length < 2 ^ 32 := Nat.lt_of_le_of_lt h count.toNat_lt
  have hreceived : (echoStatistics count (times.mergeSort (· ≤ ·)) h).received.toNat = times.length :=
    (UInt32.toNat_ofNat_of_lt' hfits).trans hlength
  have hle := (echoStatistics count (times.mergeSort (· ≤ ·)) h).received_le
  refine ⟨rfl, hreceived, hle, pingLoss_bounds hle, fun hzero => ?_, fun hpos => ?_⟩
  · have hnil : times = [] := by
      rw [hzero] at hreceived
      exact List.length_eq_zero_iff.1 hreceived.symm
    subst hnil
    simp [echoStatistics]
  · have hne : times ≠ [] := by
      rintro rfl
      rw [UInt32.lt_iff_toNat_lt, hreceived] at hpos
      exact Nat.lt_irrefl 0 hpos
    have hne' : times.mergeSort (· ≤ ·) ≠ [] := by
      rwa [← List.length_pos_iff, hlength, List.length_pos_iff]
    obtain ⟨minimum, hminimum⟩ := Option.isSome_iff_exists.1 (List.isSome_head?.2 hne')
    obtain ⟨maximum, hmaximum⟩ := Option.isSome_iff_exists.1 (List.getLast?_isSome.2 hne')
    have hleast := isLeast_of_head? hminimum
    have hgreatest := isGreatest_of_getLast? hmaximum
    have hmean := average_eq_meanElapsed h hsorted
    rw [(meanElapsed_eq hfits hsorted).2, if_neg (by rwa [List.isEmpty_iff]), hsum, hlength] at hmean
    refine ⟨minimum, times.sum / times.length, maximum, hminimum, ?_, hmaximum, ?_, ?_, hleast, hgreatest, ?_⟩
    · exact (Except.ok.inj hmean).symm
    · exact le_mean hne (fun time htime => hleast.2 htime)
    · exact mean_le (fun time htime => hgreatest.2 htime)
    · exact (Rat.floor_natCast_div_natCast _ _).symm

section
variable {address : Ipv4Addr} {timeout : Nat} {socket : Except Int32 Unit} {count : UInt32} {calls : Nat → EchoCalls}

/-- **The statistics of a run are those of the times its loop pushed.** -/
theorem echo_eq_ok {result : PingResult} (h : echo address timeout socket count calls = .ok result) :
    ∃ times hlength, echoElapsed address timeout count.toNat calls = .ok times ∧
      result = echoStatistics count (times.mergeSort (· ≤ ·)) hlength := by
  rcases echo_cases address timeout socket count calls with ⟨-, e, herr⟩ | ⟨-, hnot, hlength, hok⟩
  · rw [herr] at h
    cases h
  · rw [hok] at h
    exact ⟨_, hlength, echoElapsed_of_not_stops address timeout hnot, (Outcome.ok.inj h).symm⟩

/-- **The statistics of every run are consistent** with the times it measured, and their mean is computed without a
loss, where these are below `2^64` nanoseconds. -/
theorem ping_statistics_consistent {result : PingResult} (h : echo address timeout socket count calls = .ok result) :
    ∃ times, echoElapsed address timeout count.toNat calls = .ok times ∧
      ((∀ time ∈ times, time < 2 ^ 64) → result.Consistent count times ∧
        u128Sum (times.mergeSort (· ≤ ·)) = .ok times.sum ∧
        meanElapsed (times.mergeSort (· ≤ ·)) = .ok result.average) := by
  obtain ⟨times, hlength, htimes, rfl⟩ := echo_eq_ok h
  have hperm := List.mergeSort_perm times (· ≤ ·)
  refine ⟨times, htimes, fun hbound => ?_⟩
  have hsorted : ∀ time ∈ times.mergeSort (· ≤ ·), time < 2 ^ 64 := fun time htime =>
    hbound time (List.mem_mergeSort.1 htime)
  have hsum := (meanElapsed_eq (Nat.lt_of_le_of_lt hlength count.toNat_lt) hsorted).1
  rw [hperm.sum_eq] at hsum
  exact ⟨echoStatistics_consistent hlength hbound, hsum, average_eq_meanElapsed hlength hsorted⟩

end

/-- A request whose reply takes some nanoseconds. -/
def answeredCalls (sequence : UInt16) (elapsed : Nat) : EchoCalls :=
  ⟨fun _ _ => .ok (), fun _ => .ok true, .ok ([0, 0, 0, 0, 0, 0] ++ ByteOrder.big.u16Bytes sequence), elapsed⟩

/-- Three requests, the second of which reads a reply to another. -/
def measuredCalls : Nat → EchoCalls
  | 1 => answeredCalls 0 500
  | 2 => answeredCalls 2 301
  | _ => answeredCalls 0 700

/-- A run that loses one of its three requests. -/
theorem ping_statistics_of_measuredCalls :
    ∃ result, echo (Ipv4Addr.new 192 168 1 1) 800000000 (.ok ()) 3 measuredCalls = .ok result ∧
      result.Consistent 3 [700, 301] := by
  have hnot : ∀ i < (3 : UInt32).toNat,
      ¬ (measuredCalls i).Stops (Ipv4Addr.new 192 168 1 1) 800000000 i := fun i _ => by
    obtain ⟨packet, hpacket⟩ := exists_echoRequest (UInt16.ofNat i)
    have hsends : (measuredCalls i).Sends (Ipv4Addr.new 192 168 1 1) i (.ok ()) := by
      refine ⟨packet, hpacket, ?_⟩
      unfold measuredCalls
      split <;> rfl
    refine @not_stops_of_sends _ _ _ _ true hsends ?_
    unfold measuredCalls
    split <;> rfl
  have helapsed := echoElapsed_of_not_stops (Ipv4Addr.new 192 168 1 1) 800000000 hnot
  have htimes : (List.range (3 : UInt32).toNat).filterMap (fun i => (measuredCalls i).answer 800000000 i) =
      [700, 301] := by
    decide
  rw [htimes] at helapsed
  rcases echo_cases (Ipv4Addr.new 192 168 1 1) 800000000 (.ok ()) 3 measuredCalls with
    ⟨⟨errno, hsocket⟩ | ⟨i, hi, hstops⟩, -⟩ | ⟨-, -, hlength, hok⟩
  · cases hsocket
  · exact absurd hstops (hnot i hi)
  · obtain ⟨times, hpushed, hconsistent⟩ := ping_statistics_consistent hok
    obtain rfl := Outcome.ok.inj (hpushed.symm.trans helapsed)
    exact ⟨_, hok, (hconsistent (by decide)).1⟩

end Networkrs
