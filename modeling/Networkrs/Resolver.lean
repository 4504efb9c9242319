import Networkrs.Address
import Networkrs.Lib.Fork
import Networkrs.Lib.Keyed
/-!
# Resolver — names of addresses, looked up in parallel

`resolver.rs`: `reverse_names` cuts the addresses into chunks for at most eight threads, each of which collects the
names of its chunk into a map of its own, and merges the maps in the order of the chunks.  The lookup of one address is
a parameter.  Whatever the order in which the threads run, the merged map is that of looking the addresses up one after
the other (`reverse_names_sequential`).
-/
namespace Networkrs

open Fork

def maxResolverWorkers : Nat := 8

/-- The chunks of the addresses, one for each thread that is started. -/
def addressChunks (addresses : List IpAddr) : List (List IpAddr) :=
  if addresses.isEmpty then []
  else
    let workerCount := min addresses.length maxResolverWorkers
    let chunkSize := addresses.length ⌈/⌉ workerCount
    chunks chunkSize addresses

/-- `reverse_name`, as it answers during a call. -/
abbrev ReverseLookup := IpAddr → Option Text

variable (lookup : ReverseLookup) (addresses : List IpAddr)

/-- The threads after the steps of a schedule: one looks its next address up and keeps a name that is found. -/
def resolverRun (schedule : List Nat) : Option (Pool IpAddr (Keyed.Map IpAddr Text)) :=
  (Pool.start (addressChunks addresses) Keyed.Map.empty).run (Keyed.insertFound lookup) schedule

/-- What is returned under a schedule that ends all threads: their maps, merged in the order of their chunks. -/
def reverseNames (schedule : List Nat) : Option (Keyed.Map IpAddr Text) :=
  if addresses.isEmpty then some Keyed.Map.empty
  else
    (resolverRun lookup addresses schedule).bind fun s =>
      if s.finished then some ((s.workers.map Worker.state).foldl Keyed.Map.extend Keyed.Map.empty) else none

/-- The names of some addresses, looked up one after the other. -/
def sequentialNames : Keyed.Map IpAddr Text := Keyed.restrict lookup addresses

/-! ## The chunks -/

/-- **The chunks partition the addresses among at most eight threads.** -/
theorem addressChunks_partition :
    (addressChunks addresses).flatten = addresses ∧ (∀ chunk ∈ addressChunks addresses, chunk ≠ []) ∧
      (addressChunks addresses).length ≤ min maxResolverWorkers addresses.length := by
  unfold addressChunks
  dsimp only
  by_cases hempty : addresses.isEmpty
  · rw [if_pos hempty]
    rw [List.isEmpty_iff] at hempty
    subst hempty
    simp
  · rw [if_neg hempty]
    have hne : addresses ≠ [] := fun h => hempty (List.isEmpty_iff.2 h)
    have hworkers : 0 < min addresses.length maxResolverWorkers := by
      have hpos := List.length_pos_iff.2 hne
      unfold maxResolverWorkers
      omega
    obtain ⟨hsize, hlength⟩ := length_chunks_le hworkers hne
    refine ⟨flatten_chunks hsize addresses, fun chunk => ne_nil_of_mem_chunks hsize, ?_⟩
    rwa [Nat.min_comm maxResolverWorkers]

/-! ## The threads -/

variable {lookup addresses}

theorem inv_resolverRun {schedule : List Nat} {s : Pool IpAddr (Keyed.Map IpAddr Text)}
    (h : resolverRun lookup addresses schedule = some s) :
    Inv (Keyed.insertFound lookup) (addressChunks addresses) Keyed.Map.empty s :=
  inv_run schedule inv_start h

/-- **The maps of threads that have ended, merged in any order**, are the map of all addresses. -/
theorem merged_eq_sequentialNames {s : Pool IpAddr (Keyed.Map IpAddr Text)}
    (h : Inv (Keyed.insertFound lookup) (addressChunks addresses) Keyed.Map.empty s) (hfinished : s.finished = true)
    {maps : List (Keyed.Map IpAddr Text)} (hmaps : maps.Perm (s.workers.map Worker.state)) :
    maps.foldl Keyed.Map.extend Keyed.Map.empty = sequentialNames lookup addresses := by
  have hstates : s.workers.map Worker.state = (addressChunks addresses).map (Keyed.restrict lookup) := by
    rw [states_of_finished h hfinished]
    apply List.map_congr_left
    intro chunk _
    exact Keyed.foldl_insertFound lookup chunk []
  have hrestrict : ∀ m ∈ maps, ∃ chunk, m = Keyed.restrict lookup chunk := by
    intro m hm
    have hmem := hmaps.mem_iff.1 hm
    rw [hstates] at hmem
    obtain ⟨chunk, -, rfl⟩ := List.mem_map.1 hmem
    exact ⟨chunk, rfl⟩
  have hmerged := Keyed.foldl_extend_restrict lookup (addressChunks addresses) []
  rw [List.nil_append, (addressChunks_partition addresses).1, ← hstates] at hmerged
  rw [Keyed.foldl_extend_eq_of_perm hrestrict hmaps]
  exact hmerged

/-- **Looking names up in parallel is looking them up one after the other.**  At most eight threads share the addresses
out; whatever the order of their steps, they can all end, and then each has looked its chunk up and no other address,
every occurrence is looked up once, and the map that is returned sends each address with a name to that name. -/
theorem reverse_names_sequential (lookup : ReverseLookup) (addresses : List IpAddr) :
    (addressChunks addresses).length ≤ min maxResolverWorkers addresses.length ∧
      (addressChunks addresses).flatten = addresses ∧
      ∀ schedule s, resolverRun lookup addresses schedule = some s →
        (∃ rest s', s.run (Keyed.insertFound lookup) rest = some s' ∧ s'.finished = true) ∧
        (s.finished = true →
          s.workers.length = (addressChunks addresses).length ∧
          (∀ k chunk, (addressChunks addresses)[k]? = some chunk → s.callsOf k = chunk) ∧
          (s.calls.map Prod.snd).Perm addresses ∧
          (∀ maps : List (Keyed.Map IpAddr Text), maps.Perm (s.workers.map Worker.state) →
            maps.foldl Keyed.Map.extend Keyed.Map.empty =
              fun address => if address ∈ addresses then lookup address else none) ∧
          reverseNames lookup addresses schedule =
            some (fun address => if address ∈ addresses then lookup address else none)) := by
  obtain ⟨hflatten, -, hlength⟩ := addressChunks_partition addresses
  refine ⟨hlength, hflatten, fun schedule s hrun => ⟨exists_completion _ s, fun hfinished => ?_⟩⟩
  have hinv := inv_resolverRun hrun
  have hcalls := calls_of_finished hinv hfinished
  rw [hflatten] at hcalls
  refine ⟨hinv.length, fun k chunk => callsOf_of_finished hinv hfinished, hcalls,
    fun _ => merged_eq_sequentialNames hinv hfinished, ?_⟩
  unfold reverseNames
  by_cases hempty : addresses.isEmpty
  · rw [if_pos hempty]
    rw [List.isEmpty_iff] at hempty
    subst hempty
    rfl
  · rw [if_neg hempty, hrun, Option.bind_some, if_pos hfinished,
      merged_eq_sequentialNames hinv hfinished (List.Perm.refl _)]
    rfl

/-- Three addresses, two of them the same, of which one has a name. -/
def sharedAddresses : List IpAddr :=
  [.v4 (Ipv4Addr.new 10 0 0 1), .v4 (Ipv4Addr.new 10 0 0 2), .v4 (Ipv4Addr.new 10 0 0 1)]

def routerLookup : ReverseLookup := fun address =>
  if address = .v4 (Ipv4Addr.new 10 0 0 1) then some "router" else none

/-- Three threads that run in reverse order. -/
theorem reverse_names_of_sharedAddresses :
    ∃ names, reverseNames routerLookup sharedAddresses [2, 0, 1] = some names ∧
      names (.v4 (Ipv4Addr.new 10 0 0 1)) = some ("router" : Text) ∧ names (.v4 (Ipv4Addr.new 10 0 0 2)) = none := by
  have hrun : ∃ s, resolverRun routerLookup sharedAddresses [2, 0, 1] = some s ∧ s.finished = true := ⟨_, rfl, rfl⟩
  obtain ⟨s, hrun, hfinished⟩ := hrun
  obtain ⟨-, -, hruns⟩ := reverse_names_sequential routerLookup sharedAddresses
  obtain ⟨-, hends⟩ := hruns _ _ hrun
  obtain ⟨-, -, -, -, hnames⟩ := hends hfinished
  exact ⟨_, hnames, by decide, by decide⟩

end Networkrs
