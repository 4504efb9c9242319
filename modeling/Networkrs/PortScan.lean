import Networkrs.Arguments
import Networkrs.Lib.Sorted
import Networkrs.Lib.Workers
import Mathlib.Data.List.Nodup
import Mathlib.Data.List.Perm.Subperm
/-!
# PortScan — the concurrent TCP port scan

`tcp_probe_ports` shares its ports out to at most 64 workers.  Under every interleaving of their steps each port that is
drawn is held by one worker or pushed, once, and the sorted results are those of probing one port after another
(`port_scan_exact`); the scan of one port takes a shorter path to the same list.
-/
namespace Networkrs

open Machine Workers

def maxConcurrentProbes : Nat := 64

structure TcpProbeResult where
  port : UInt16
  status : TcpProbeStatus
  error : Option Text
  elapsed : Nat
  deriving DecidableEq, Repr

/-- The network: what `connect_timeout` returns, the nanoseconds it takes, and the texts of errors. -/
structure Connector where
  connect : IpAddr → UInt16 → UInt64 → Except IoError Unit
  elapsed : IpAddr → UInt16 → UInt64 → Nat
  errorText : IoError → Text

def econnrefused : Int32 := 111

/-- `error.kind() == io::ErrorKind::ConnectionRefused`. -/
def isConnectionRefused : IoError → Bool
  | .os code => code = econnrefused
  | .custom kind _ => kind = .connectionRefused

variable (connector : Connector)

def tcpProbe (address : IpAddr) (port : UInt16) (timeoutMs : UInt64) : TcpProbeResult :=
  let elapsed := connector.elapsed address port timeoutMs
  match connector.connect address port timeoutMs with
  | .ok () => { port := port, status := .connected, error := none, elapsed := elapsed }
  | .error e =>
    if isConnectionRefused e then
      { port := port, status := .connectionRefused, error := some (connector.errorText e), elapsed := elapsed }
    else { port := port, status := .failed, error := some (connector.errorText e), elapsed := elapsed }

@[simp] theorem port_tcpProbe (address : IpAddr) (port : UInt16) (timeoutMs : UInt64) :
    (tcpProbe connector address port timeoutMs).port = port := by
  unfold tcpProbe
  cases connector.connect address port timeoutMs with
  | ok _ => rfl
  | error e => dsimp only; split <;> rfl

variable (address : IpAddr) (ports : List UInt16) (timeoutMs : UInt64)

/-- The workers of a scan after the steps of a schedule. -/
def scanWorkers (schedule : List Nat) : Option (Pool UInt16 TcpProbeResult) :=
  (Pool.start (min ports.length maxConcurrentProbes)).run ports (fun port => tcpProbe connector address port timeoutMs)
    schedule

/-- `results.sort_by_key(|result| result.port)`. -/
def sortResults (results : List TcpProbeResult) : List TcpProbeResult := results.mergeSort (fun a b => a.port ≤ b.port)

/-- What the workers return under a schedule that stops them all. -/
def tcpProbeWorkers (schedule : List Nat) : Option (List TcpProbeResult) :=
  (scanWorkers connector address ports timeoutMs schedule).bind fun s =>
    if s.stopped then some (sortResults s.results) else none

def tcpProbePorts (schedule : List Nat) : Option (List TcpProbeResult) :=
  match ports with
  | [port] => some [tcpProbe connector address port timeoutMs]
  | _ => tcpProbeWorkers connector address ports timeoutMs schedule

/-- The port a worker holds. -/
def heldPort : Worker UInt16 TcpProbeResult → Option UInt16
  | .idle | .stopped => none
  | .fetched port | .working port => some port
  | .done result => some result.port

theorem heldPort_eq (w : Worker UInt16 TcpProbeResult) :
    heldPort w = (w.pending (fun port => tcpProbe connector address port timeoutMs)).map TcpProbeResult.port := by
  cases w with
  | idle | stopped | done => rfl
  | fetched port | working port => exact congrArg some (port_tcpProbe connector address port timeoutMs).symm

variable {ports}

/-- Ports in strictly ascending order are fewer than the numbers of 16 bits. -/
theorem length_le_of_ascending (h : ports.Pairwise (· < ·)) : ports.length ≤ 65536 := by
  have hnodup : (ports.map UInt16.toNat).Nodup :=
    List.pairwise_map.2 (h.imp (fun hlt => Nat.ne_of_lt (UInt16.lt_iff_toNat_lt.1 hlt)))
  have hsubset : ports.map UInt16.toNat ⊆ List.range 65536 := by
    intro n hn
    obtain ⟨port, -, rfl⟩ := List.mem_map.1 hn
    exact List.mem_range.2 port.toNat_lt
  have hle := (hnodup.subperm hsubset).length_le
  rwa [List.length_map, List.length_range] at hle

section

variable (hne : ports ≠ []) (hascending : ports.Pairwise (· < ·))

include hascending

theorem counter_fits : ports.length + min ports.length maxConcurrentProbes < 2 ^ 64 := by
  have hle := length_le_of_ascending hascending
  omega

theorem inv_scanWorkers {schedule : List Nat} {s : Pool UInt16 TcpProbeResult}
    (hrun : scanWorkers connector address ports timeoutMs schedule = some s) :
    Inv ports (fun port => tcpProbe connector address port timeoutMs) (min ports.length maxConcurrentProbes) s :=
  inv_run (counter_fits hascending) schedule (inv_start _ _ _) hrun

/-- The ports drawn so far are held by a worker or pushed. -/
theorem drawn_ports {schedule : List Nat} {s : Pool UInt16 TcpProbeResult}
    (hrun : scanWorkers connector address ports timeoutMs schedule = some s) :
    (s.workers.filterMap heldPort ++ s.results.map TcpProbeResult.port).Perm (ports.take s.next.toNat) := by
  have hdrawn := (inv_scanWorkers connector address timeoutMs hascending hrun).drawn.map TcpProbeResult.port
  have hheld : (s.workers.filterMap (Worker.pending (fun port => tcpProbe connector address port timeoutMs))).map
      TcpProbeResult.port = s.workers.filterMap heldPort := by
    rw [List.map_filterMap]
    apply List.filterMap_congr
    intro w _
    exact (heldPort_eq connector address timeoutMs w).symm
  rw [List.map_append, hheld, List.map_map] at hdrawn
  simpa only [Function.comp_def, port_tcpProbe, List.map_id'] using hdrawn

include hne

/-- **When all workers have stopped, the sorted results are those of probing the ports in order.** -/
theorem sortResults_of_stopped {schedule : List Nat} {s : Pool UInt16 TcpProbeResult}
    (hrun : scanWorkers connector address ports timeoutMs schedule = some s) (hstopped : s.stopped = true) :
    sortResults s.results = ports.map (fun port => tcpProbe connector address port timeoutMs) := by
  have hworkers : 0 < min ports.length maxConcurrentProbes := by
    have hpos := List.length_pos_iff.2 hne
    unfold maxConcurrentProbes
    omega
  have hperm := results_of_stopped (inv_scanWorkers connector address timeoutMs hascending hrun) hworkers hstopped
  refine mergeSort_eq_of_perm_sorted ?_ ?_ ?_ hperm ?_
  · intro a b c hab hbc
    rw [decide_eq_true_eq] at hab hbc ⊢
    exact UInt16.le_trans hab hbc
  · intro a b
    rw [Bool.or_eq_true, decide_eq_true_eq, decide_eq_true_eq]
    exact UInt16.le_total a.port b.port
  · intro a ha b hb hab hba
    rw [decide_eq_true_eq] at hab hba
    obtain ⟨port, -, rfl⟩ := List.mem_map.1 (hperm.mem_iff.1 ha)
    obtain ⟨port', -, rfl⟩ := List.mem_map.1 (hperm.mem_iff.1 hb)
    rw [port_tcpProbe, port_tcpProbe] at hab hba
    rw [UInt16.le_antisymm hab hba]
  · rw [List.pairwise_map]
    exact hascending.imp (fun hlt => by
      rw [port_tcpProbe, port_tcpProbe, decide_eq_true_eq]
      exact UInt16.le_of_lt hlt)

/-- **The concurrent scan loses and duplicates nothing.** -/
theorem port_scan_exact {schedule : List Nat} {s : Pool UInt16 TcpProbeResult}
    (hrun : scanWorkers connector address ports timeoutMs schedule = some s) :
    (∀ i port, ports[i]? = some port → i < s.next.toNat →
        (s.workers.filterMap heldPort).count port + (s.results.map TcpProbeResult.port).count port = 1) ∧
      s.workers.countP Worker.isWorking ≤ 64 ∧
      (s.stopped = true →
        tcpProbeWorkers connector address ports timeoutMs schedule =
            some (ports.map (fun port => tcpProbe connector address port timeoutMs)) ∧
          tcpProbePorts connector address ports timeoutMs schedule =
            tcpProbeWorkers connector address ports timeoutMs schedule) := by
  have hinv := inv_scanWorkers connector address timeoutMs hascending hrun
  refine ⟨?_, ?_, ?_⟩
  · intro i port hport hi
    have hnodup : ports.Nodup := hascending.imp (fun hlt => UInt16.ne_of_lt hlt)
    have hmem : port ∈ ports.take s.next.toNat := by
      rw [List.mem_iff_getElem?]
      exact ⟨i, by rw [List.getElem?_take_of_lt hi, hport]⟩
    rw [← List.count_append, (drawn_ports connector address timeoutMs hascending hrun).count_eq]
    exact List.count_eq_one_of_mem ((List.take_sublist _ _).nodup hnodup) hmem
  · exact Nat.le_trans (working_le hinv) (Nat.min_le_right _ _)
  · intro hstopped
    have hsorted := sortResults_of_stopped connector address timeoutMs hne hascending hrun hstopped
    have hworkers : tcpProbeWorkers connector address ports timeoutMs schedule =
        some (ports.map (fun port => tcpProbe connector address port timeoutMs)) := by
      unfold tcpProbeWorkers
      rw [hrun, Option.bind_some, if_pos hstopped, hsorted]
    refine ⟨hworkers, ?_⟩
    unfold tcpProbePorts
    split
    · rw [hworkers]
      rfl
    · rfl

end

/-- **Every scan ends**: a schedule has at most four steps a port and one a worker, and can be completed. -/
theorem port_scan_ends (hascending : ports.Pairwise (· < ·)) {schedule : List Nat} {s : Pool UInt16 TcpProbeResult}
    (hrun : scanWorkers connector address ports timeoutMs schedule = some s) :
    schedule.length ≤ 4 * ports.length + min ports.length maxConcurrentProbes ∧
      ∃ rest s', s.run ports (fun port => tcpProbe connector address port timeoutMs) rest = some s' ∧
        s'.stopped = true := by
  have hfit := counter_fits hascending
  refine ⟨?_, exists_completion hfit (inv_scanWorkers connector address timeoutMs hascending hrun)⟩
  have hle := length_le_of_run hfit schedule (inv_start _ _ _) hrun
  rw [remaining_start] at hle
  exact Nat.le_of_add_right_le hle

/-! ## A scan of three ports -/

def scanTarget : IpAddr := .v4 (Ipv4Addr.new 192 168 1 1)

def scanConnector : Connector where
  connect _ port _ := if port = 22 then .ok () else if port = 80 then .error (.os 111) else .error (.os 113)
  elapsed _ port _ := port.toNat
  errorText _ := "unreachable"

/-- The last port is pushed first. -/
def scanSchedule : List Nat := [0, 1, 2, 2, 2, 2, 1, 0, 1, 1, 0, 0, 2, 1, 0]

def scannedPool : Pool UInt16 TcpProbeResult where
  next := 6
  workers := [.stopped, .stopped, .stopped]
  results := [443, 80, 22].map (fun port => tcpProbe scanConnector scanTarget port 1000)

theorem port_scan_exact_three :
    (∀ i port, ([22, 80, 443] : List UInt16)[i]? = some port → i < scannedPool.next.toNat →
        (scannedPool.workers.filterMap heldPort).count port +
          (scannedPool.results.map TcpProbeResult.port).count port = 1) ∧
      scannedPool.workers.countP Worker.isWorking ≤ 64 ∧
      (scannedPool.stopped = true →
        tcpProbeWorkers scanConnector scanTarget [22, 80, 443] 1000 scanSchedule =
            some ([22, 80, 443].map (fun port => tcpProbe scanConnector scanTarget port 1000)) ∧
          tcpProbePorts scanConnector scanTarget [22, 80, 443] 1000 scanSchedule =
            tcpProbeWorkers scanConnector scanTarget [22, 80, 443] 1000 scanSchedule) :=
  port_scan_exact scanConnector scanTarget 1000 (by decide) (by decide) (by decide +kernel)

end Networkrs
