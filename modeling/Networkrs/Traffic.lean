import Networkrs.System
/-!
# Traffic — rates from the counters of sysfs

`traffic.rs`: a sample reads the counters of one interface or of every entry of `/sys/class/net`, waits, reads them
again and reports the rates.  A selected path has to be a directory, an enumerated one is taken as it is; and the
counters of all paths are read or the sample fails.  So an entry that is no interface fails the sample of all
interfaces, and exactly where some entries are interfaces and others are not, sampling all is not sampling each
(`agreesWithEach_iff`).
-/
namespace Networkrs

open Machine

structure Counters where
  bytes : UInt64
  packets : UInt64
  errors : UInt64
  dropped : UInt64
  deriving DecidableEq, Repr

structure DirectionRate where
  bytesPerSecond : UInt64
  packetsPerSecond : UInt64
  errors : UInt64
  dropped : UInt64
  deriving DecidableEq, Repr

structure InterfaceRate where
  interface : Text
  received : DirectionRate
  transmitted : DirectionRate
  deriving DecidableEq, Repr

/-- `traffic::Sample`; the time is in nanoseconds. -/
structure TrafficSample where
  elapsed : Nat
  interfaces : List InterfaceRate
  deriving DecidableEq, Repr

/-! ## Paths -/

/-- The names on a path, as `Path::components` goes through them. -/
def pathComponents (path : Text) : List Text :=
  (splitAll '/' path).filter (fun component => component ≠ [] ∧ component ≠ ("." : Text))

/-- `Path::file_name`. -/
def fileName (path : Text) : Option Text :=
  (pathComponents path).getLast?.filter (fun component => component ≠ ("..": Text))

def componentsLe : List Text → List Text → Bool
  | [], _ => true
  | _ :: _, [] => false
  | a :: s, b :: t => if a = b then componentsLe s t else textLe a b

/-- The order of absolute paths. -/
def pathLe (left right : Text) : Bool := componentsLe (pathComponents left) (pathComponents right)

/-- A name a directory can list. -/
def IsFileName (name : Text) : Prop := name ≠ [] ∧ '/' ∉ name ∧ name ≠ ("." : Text) ∧ name ≠ (".." : Text)

theorem pathComponents_pathJoin (path : Text) {name : Text} (h : IsFileName name) :
    pathComponents (pathJoin path name) = pathComponents path ++ [name] := by
  obtain ⟨hne, hslash, hdot, -⟩ := h
  have hname : (splitAll '/' name).filter (fun component => component ≠ [] ∧ component ≠ ("." : Text)) = [name] := by
    have hdot' : name ≠ ['.'] := hdot
    rw [splitAll_eq_splitOn, List.splitOn_eq_singleton hslash]
    simp [hne, hdot']
  have hhead : name.head? ≠ some '/' := fun hhead => hslash (List.mem_of_mem_head? hhead)
  unfold pathComponents pathJoin
  rw [if_neg hhead]
  split
  · next hlast =>
    obtain ⟨before, rfl⟩ := List.getLast?_eq_some_iff.1 hlast
    rw [List.append_assoc, List.singleton_append, splitAll_eq_splitOn, splitAll_eq_splitOn,
      List.splitOn_append_cons_self, List.splitOn_append_cons_self, List.filter_append, List.filter_append,
      ← splitAll_eq_splitOn _ name, hname]
    simp
  · rw [splitAll_eq_splitOn, List.splitOn_append_cons_self, List.filter_append, ← splitAll_eq_splitOn,
      ← splitAll_eq_splitOn, hname]

/-- **The file name of a joined path** is the name joined. -/
theorem fileName_pathJoin (path : Text) {name : Text} (h : IsFileName name) :
    fileName (pathJoin path name) = some name := by
  have hparent : name ≠ ['.', '.'] := h.2.2.2
  unfold fileName
  rw [pathComponents_pathJoin path h, List.getLast?_concat]
  simp [hparent]

theorem componentsLe_append (a b : Text) : ∀ components : List Text,
    componentsLe (components ++ [a]) (components ++ [b]) = textLe a b
  | [] => by
    rw [List.nil_append, List.nil_append, componentsLe]
    split
    · next heq =>
      subst heq
      have htotal := textLe_total a a
      rw [Bool.or_self] at htotal
      rw [htotal]
      rfl
    · rfl
  | component :: components => by
    rw [List.cons_append, List.cons_append, componentsLe, if_pos rfl, componentsLe_append a b components]

/-- **Paths of one directory are in the order of their names.** -/
theorem pathLe_pathJoin (path : Text) {a b : Text} (ha : IsFileName a) (hb : IsFileName b) :
    pathLe (pathJoin path a) (pathJoin path b) = textLe a b := by
  unfold pathLe
  rw [pathComponents_pathJoin path ha, pathComponents_pathJoin path hb, componentsLe_append]

/-! ## Reading the counters -/

/-- Whether `u64::from_str` stops at a number that is too large. -/
def overflowsU64 : Text → Nat → Bool
  | [], _ => false
  | c :: cs, value =>
    match toDigit 10 c with
    | none => false
    | some digit => if value * 10 + digit < 2 ^ 64 then overflowsU64 cs (value * 10 + digit) else true

/-- What `u64::from_str` says of a text it does not take. -/
def parseU64Error (text : Text) : Text :=
  if text = [] then "cannot parse integer from empty string"
  else if overflowsU64 (if text.head? = some '+' then text.tail else text) 0 then
    "number too large to fit in target type"
  else "invalid digit found in string"

/-- What the reads of one pass over the counters return.  A pass reads a file once, so the content may be that of any
moment of the pass. -/
abbrev Reads := Text → Except IoError Text

section
variable (reads : Reads)

def readCounter (path : Text) : Except IoError UInt64 := do
  let contents ← reads path
  match parseUnsigned 10 (2 ^ 64 - 1) (trim contents) with
  | some value => return UInt64.ofNat value
  | none => throw (.custom .invalidData (parseU64Error (trim contents)))

def readDirection (path direction : Text) : Except IoError Counters := do
  let statistics := pathJoin path "statistics"
  let bytes ← readCounter reads (pathJoin statistics (direction ++ "_bytes"))
  let packets ← readCounter reads (pathJoin statistics (direction ++ "_packets"))
  let errors ← readCounter reads (pathJoin statistics (direction ++ "_errors"))
  let dropped ← readCounter reads (pathJoin statistics (direction ++ "_dropped"))
  return ⟨bytes, packets, errors, dropped⟩

def readAll (paths : List Text) : Except IoError (List (Counters × Counters)) :=
  paths.mapM (fun path => do
    let received ← readDirection reads path "rx"
    let transmitted ← readDirection reads path "tx"
    return (received, transmitted))

end

/-! ## Rates -/

def u64SaturatingSub (a b : UInt64) : UInt64 := if b ≤ a then a - b else 0

/-- `per_second`; the product of a `u64` and `10^9` is a `u128`. -/
def perSecond (delta : UInt64) (elapsed : Nat) : UInt64 :=
  if elapsed = 0 then 0
  else
    let rate := delta.toNat * 1000000000 / elapsed
    if rate < 2 ^ 64 then UInt64.ofNat rate else UInt64.ofNat (2 ^ 64 - 1)

def directionRate (before after : Counters) (elapsed : Nat) : DirectionRate where
  bytesPerSecond := perSecond (u64SaturatingSub after.bytes before.bytes) elapsed
  packetsPerSecond := perSecond (u64SaturatingSub after.packets before.packets) elapsed
  errors := u64SaturatingSub after.errors before.errors
  dropped := u64SaturatingSub after.dropped before.dropped

example : directionRate ⟨100, 20, 2, 4⟩ ⟨2100, 120, 3, 6⟩ 500000000 = ⟨4000, 200, 1, 2⟩ := by decide
example : directionRate ⟨10, 10, 10, 10⟩ ⟨1, 1, 1, 1⟩ 1000000000 = ⟨0, 0, 0, 0⟩ := by decide

/-! ## Sampling -/

/-- What stays the same of a file system while counters change: the entries of its directories, each of which may fail
to be read, which paths are directories, and which files hold a counter. -/
structure Sysfs where
  readDir : Text → Except IoError (List (Except IoError Text))
  isDir : Text → Bool
  /-- What a pass over the counters may read. -/
  mayRead : Reads → Prop
  exists_reads : ∃ reads, mayRead reads
  names_valid : ∀ path entries, readDir path = .ok entries →
    ∀ name ∈ entries.filterMap Except.toOption, IsFileName name
  isDir_of_read : ∀ reads, mayRead reads → ∀ path name, IsFileName name →
    ∀ contents, reads (pathJoin path name) = .ok contents → isDir path = true
  isDir_of_isDir : ∀ path name, IsFileName name → isDir (pathJoin path name) = true → isDir path = true
  steady : ∀ reads reads', mayRead reads → mayRead reads' → ∀ path,
    (∃ value, readCounter reads path = .ok value) → ∃ value, readCounter reads' path = .ok value

variable (sysfs : Sysfs)

def interfacePaths (selection : Option Text) : Except IoError (List Text) :=
  match selection with
  | some interface =>
    let path := pathJoin sysClassNet interface
    if !sysfs.isDir path then throw (.custom .notFound ("interface " ++ interface ++ " does not exist"))
    else return [path]
  | none => do
    let entries ← sysfs.readDir sysClassNet
    let paths := ((entries.filterMap Except.toOption).map (fun name => pathJoin sysClassNet name)).mergeSort pathLe
    if paths.isEmpty then throw (.custom .notFound "no network interfaces found") else return paths

/-- `traffic::sample`: `before` and `after` are what its two passes over the counters read. -/
def sample (before after : Reads) (elapsed : Nat) (selection : Option Text) : Except IoError TrafficSample := do
  let paths ← interfacePaths sysfs selection
  let before ← readAll before paths
  let after ← readAll after paths
  let interfaces := (paths.zip (before.zip after)).filterMap (fun (path, before, after) => do
    let interface ← fileName path
    return {
      interface := interface
      received := directionRate before.1 after.1 elapsed
      transmitted := directionRate before.2 after.2 elapsed })
  return { elapsed := elapsed, interfaces := interfaces }

/-! ## When a sample succeeds -/

/-- A file that holds a `u64`. -/
def HoldsCounter (reads : Reads) (path : Text) : Prop :=
  ∃ contents, reads path = .ok contents ∧ (parseUnsigned 10 (2 ^ 64 - 1) (trim contents)).isSome

/-- The counters of an entry, as files of its `statistics`. -/
def counterFiles : List Text :=
  ["rx_bytes", "rx_packets", "rx_errors", "rx_dropped", "tx_bytes", "tx_packets", "tx_errors", "tx_dropped"]

def HoldsCounters (reads : Reads) (path : Text) : Prop :=
  ∀ file ∈ counterFiles, HoldsCounter reads (pathJoin (pathJoin path "statistics") file)

theorem readCounter_iff (reads : Reads) (path : Text) :
    (∃ value, readCounter reads path = .ok value) ↔ HoldsCounter reads path := by
  unfold readCounter HoldsCounter
  cases reads path with
  | error e =>
    constructor
    · rintro ⟨value, h⟩
      cases h
    · rintro ⟨contents, h, -⟩
      cases h
  | ok contents =>
    rw [ok_bind]
    cases hvalue : parseUnsigned 10 (2 ^ 64 - 1) (trim contents) with
    | none =>
      constructor
      · rintro ⟨value, h⟩
        cases h
      · rintro ⟨contents', h, hsome⟩
        cases h
        rw [hvalue] at hsome
        cases hsome
    | some value => exact ⟨fun _ => ⟨contents, rfl, by rw [hvalue]; rfl⟩, fun _ => ⟨_, rfl⟩⟩

/-- What follows a read that succeeded returns, too. -/
theorem exists_return {α : Type} (value : α) : (∃ result, (pure value : Except IoError α) = .ok result) ↔ True :=
  iff_of_true ⟨value, rfl⟩ trivial

theorem readDirection_iff (reads : Reads) (path direction : Text) :
    (∃ counters, readDirection reads path direction = .ok counters) ↔
      ∀ counter ∈ [("_bytes" : Text), "_packets", "_errors", "_dropped"],
        HoldsCounter reads (pathJoin (pathJoin path "statistics") (direction ++ counter)) := by
  unfold readDirection
  rw [exists_bind_iff _ (fun bytes => exists_bind_iff _ (fun packets => exists_bind_iff _ (fun errors =>
    exists_bind_iff _ (fun dropped => exists_return _))))]
  simp only [readCounter_iff, List.forall_mem_cons, List.not_mem_nil, false_implies, implies_true]

theorem readAll_iff (reads : Reads) (paths : List Text) :
    (∃ values, readAll reads paths = .ok values) ↔ ∀ path ∈ paths, HoldsCounters reads path := by
  unfold readAll
  rw [exists_mapM_iff]
  refine forall₂_congr (fun path _ => ?_)
  rw [exists_bind_iff _ (fun received => exists_bind_iff _ (fun transmitted => exists_return _)), readDirection_iff,
    readDirection_iff]
  unfold HoldsCounters counterFiles
  simp only [List.forall_mem_cons, List.not_mem_nil, false_implies, implies_true, and_true, and_assoc]
  exact Iff.rfl

/-- **A sample succeeds** exactly when there are paths and both passes read the counters of all of them. -/
theorem sample_iff (sysfs : Sysfs) (before after : Reads) (elapsed : Nat) (selection : Option Text) :
    (∃ result, sample sysfs before after elapsed selection = .ok result) ↔
      ∃ paths, interfacePaths sysfs selection = .ok paths ∧
        ∀ path ∈ paths, HoldsCounters before path ∧ HoldsCounters after path := by
  unfold sample
  constructor
  · rintro ⟨result, h⟩
    obtain ⟨paths, hpaths, h⟩ := (bind_eq_ok_iff _ _ _).1 h
    obtain ⟨first, hfirst, h⟩ := (bind_eq_ok_iff _ _ _).1 h
    obtain ⟨second, hsecond, h⟩ := (bind_eq_ok_iff _ _ _).1 h
    have hbefore := (readAll_iff before paths).1 ⟨first, hfirst⟩
    have hafter := (readAll_iff after paths).1 ⟨second, hsecond⟩
    exact ⟨paths, hpaths, fun path hpath => ⟨hbefore path hpath, hafter path hpath⟩⟩
  · rintro ⟨paths, hpaths, hcounters⟩
    obtain ⟨first, hfirst⟩ := (readAll_iff before paths).2 (fun path hpath => (hcounters path hpath).1)
    obtain ⟨second, hsecond⟩ := (readAll_iff after paths).2 (fun path hpath => (hcounters path hpath).2)
    rw [hpaths, ok_bind, hfirst, ok_bind, hsecond]
    exact ⟨_, rfl⟩

section

variable (sysfs : Sysfs)

/-- The names of the entries of `/sys/class/net`, in the order in which it is read. -/
def Sysfs.names : List Text :=
  match sysfs.readDir sysClassNet with
  | .ok entries => entries.filterMap Except.toOption
  | .error _ => []

theorem Sysfs.isFileName {name : Text} (h : name ∈ sysfs.names) : IsFileName name := by
  unfold Sysfs.names at h
  cases hentries : sysfs.readDir sysClassNet with
  | error e =>
    rw [hentries] at h
    cases h
  | ok entries =>
    rw [hentries] at h
    exact sysfs.names_valid _ _ hentries name h

/-- An entry that is an interface: the eight files of its `statistics` hold a `u64`. -/
def Sysfs.IsInterface (name : Text) : Prop :=
  ∀ reads, sysfs.mayRead reads → HoldsCounters reads (pathJoin sysClassNet name)

variable {sysfs} {before after : Reads} (hbefore : sysfs.mayRead before) (hafter : sysfs.mayRead after)

/-- What one pass reads of an entry, every other pass reads, too. -/
theorem Sysfs.isInterface_iff (hbefore : sysfs.mayRead before) (name : Text) :
    sysfs.IsInterface name ↔ HoldsCounters before (pathJoin sysClassNet name) := by
  constructor
  · exact fun h => h before hbefore
  · intro h reads hreads file hfile
    have hcounter := (readCounter_iff before _).2 (h file hfile)
    exact (readCounter_iff reads _).1 (sysfs.steady before reads hbefore hreads _ hcounter)

theorem isFileName_statistics : IsFileName "statistics" := by
  refine ⟨?_, ?_, ?_, ?_⟩ <;> decide

theorem isFileName_counterFiles : ∀ file ∈ counterFiles, IsFileName file := by
  unfold IsFileName
  decide

include hbefore in
theorem Sysfs.isDir_of_holdsCounters {path : Text} (h : HoldsCounters before path) : sysfs.isDir path = true := by
  have hmem : ("rx_bytes" : Text) ∈ counterFiles := List.mem_cons_self
  obtain ⟨contents, hread, -⟩ := h _ hmem
  have hstatistics := sysfs.isDir_of_read before hbefore _ _ (isFileName_counterFiles _ hmem) contents hread
  exact sysfs.isDir_of_isDir path _ isFileName_statistics hstatistics

include hbefore hafter

/-- **An entry can be sampled exactly when it is an interface.** -/
theorem sample_some_iff (elapsed : Nat) (name : Text) :
    (∃ result, sample sysfs before after elapsed (some name) = .ok result) ↔ sysfs.IsInterface name := by
  rw [sample_iff]
  constructor
  · rintro ⟨paths, hpaths, hcounters⟩
    unfold interfacePaths at hpaths
    dsimp only at hpaths
    split at hpaths
    · cases hpaths
    · cases hpaths
      exact (sysfs.isInterface_iff hbefore name).2 (hcounters _ List.mem_cons_self).1
  · intro h
    have hdir := sysfs.isDir_of_holdsCounters hbefore (h before hbefore)
    refine ⟨[pathJoin sysClassNet name], ?_, fun path hpath => ?_⟩
    · unfold interfacePaths
      dsimp only
      rw [hdir]
      rfl
    · obtain rfl := List.mem_singleton.1 hpath
      exact ⟨h before hbefore, h after hafter⟩

/-- **All entries can be sampled exactly when there are any and each is an interface.** -/
theorem sample_none_iff (elapsed : Nat) :
    (∃ result, sample sysfs before after elapsed none = .ok result) ↔
      sysfs.names ≠ [] ∧ ∀ name ∈ sysfs.names, sysfs.IsInterface name := by
  rw [sample_iff]
  unfold interfacePaths Sysfs.names
  cases sysfs.readDir sysClassNet with
  | error e =>
    constructor
    · rintro ⟨paths, hpaths, -⟩
      cases hpaths
    · rintro ⟨hne, -⟩
      exact absurd rfl hne
  | ok entries =>
    rw [ok_bind]
    dsimp only
    constructor
    · rintro ⟨paths, hpaths, hcounters⟩
      split at hpaths
      · cases hpaths
      · next hne =>
        cases hpaths
        refine ⟨fun hnil => hne (by rw [hnil, List.map_nil, List.mergeSort_nil]; rfl), fun name hname => ?_⟩
        have hcounter := hcounters _ (List.mem_mergeSort.2 (List.mem_map_of_mem hname))
        exact (sysfs.isInterface_iff hbefore name).2 hcounter.1
    · rintro ⟨hne, hinterfaces⟩
      refine ⟨_, if_neg ?_, fun path hpath => ?_⟩
      · rw [List.isEmpty_iff, ← List.length_eq_zero_iff, List.length_mergeSort, List.length_map,
          List.length_eq_zero_iff]
        exact hne
      · obtain ⟨name, hname, rfl⟩ := List.mem_map.1 (List.mem_mergeSort.1 hpath)
        exact ⟨hinterfaces name hname before hbefore, hinterfaces name hname after hafter⟩

omit hbefore hafter

/-- The paths of all entries are in the order of their names. -/
theorem interfacePaths_none {paths : List Text} (h : interfacePaths sysfs none = .ok paths) :
    paths = (sysfs.names.mergeSort textLe).map (fun name => pathJoin sysClassNet name) := by
  have hvalid : ∀ name ∈ sysfs.names, IsFileName name := fun name => sysfs.isFileName
  unfold interfacePaths at h
  unfold Sysfs.names at hvalid ⊢
  cases hentries : sysfs.readDir sysClassNet with
  | error e =>
    rw [hentries] at h
    cases h
  | ok entries =>
    rw [hentries, ok_bind] at h
    rw [hentries] at hvalid
    dsimp only at h hvalid ⊢
    split at h
    · cases h
    · cases h
      exact (List.map_mergeSort (fun a ha b hb => (pathLe_pathJoin sysClassNet (hvalid a ha) (hvalid b hb)).symm)).symm

/-- **A sample of all entries names them in order.** -/
theorem names_of_sample_none {elapsed : Nat} {result : TrafficSample}
    (h : sample sysfs before after elapsed none = .ok result) :
    result.interfaces.map InterfaceRate.interface = sysfs.names.mergeSort textLe := by
  obtain ⟨paths, hpaths, h⟩ := (bind_eq_ok_iff _ _ _).1 h
  obtain ⟨first, hfirst, h⟩ := (bind_eq_ok_iff _ _ _).1 h
  obtain ⟨second, hsecond, h⟩ := (bind_eq_ok_iff _ _ _).1 h
  cases h
  have hlength : paths.length ≤ (first.zip second).length := by
    rw [List.length_zip, length_of_mapM hfirst, length_of_mapM hsecond, Nat.min_self]
  have hnames : ∀ l : List (Text × (Counters × Counters) × (Counters × Counters)),
      (l.filterMap (fun x => (fileName x.1).bind (fun interface => some {
        interface := interface
        received := directionRate x.2.1.1 x.2.2.1 elapsed
        transmitted := directionRate x.2.1.2 x.2.2.2 elapsed : InterfaceRate }))).map InterfaceRate.interface =
      (l.map Prod.fst).filterMap fileName := by
    intro l
    rw [List.map_filterMap, List.filterMap_map]
    apply List.filterMap_congr
    intro x _
    cases hname : fileName x.1 with
    | none => simp [hname]
    | some name => simp [hname]
  refine (hnames _).trans ?_
  rw [List.map_fst_zip hlength, interfacePaths_none hpaths, List.filterMap_map]
  refine (List.filterMap_congr (fun name hname => ?_)).trans List.filterMap_some
  exact fileName_pathJoin sysClassNet (sysfs.isFileName (List.mem_mergeSort.1 hname))

end

/-! ## Sampling all and sampling each -/

/-- A call of `sample`: what its passes read, and the time between them. -/
structure Sampling (sysfs : Sysfs) where
  before : Reads
  after : Reads
  elapsed : Nat
  mayRead_before : sysfs.mayRead before
  mayRead_after : sysfs.mayRead after

def Sampling.run {sysfs : Sysfs} (call : Sampling sysfs) (selection : Option Text) : Except IoError TrafficSample :=
  sample sysfs call.before call.after call.elapsed selection

/-- **Sampling all entries agrees with sampling each**: it names those that can be sampled, in order, and it succeeds
where there is one. -/
structure Sysfs.AgreesWithEach (sysfs : Sysfs) : Prop where
  names : ∀ (call : Sampling sysfs) (calls : Text → Sampling sysfs) result, call.run none = .ok result →
    result.interfaces.map InterfaceRate.interface =
      (sysfs.names.filter (fun name => ((calls name).run (some name)).isOk)).mergeSort textLe
  succeeds : ∀ call call' : Sampling sysfs, ∀ name ∈ sysfs.names,
    (call'.run (some name)).isOk = true → (call.run none).isOk = true

theorem isOk_iff {ε α : Type} (x : Except ε α) : x.isOk = true ↔ ∃ a, x = .ok a := by
  cases x with
  | error e =>
    constructor
    · intro h
      cases h
    · rintro ⟨a, h⟩
      cases h
  | ok a => exact ⟨fun _ => ⟨a, rfl⟩, fun _ => rfl⟩

variable {sysfs : Sysfs}

theorem Sampling.some_iff (call : Sampling sysfs) (name : Text) :
    (call.run (some name)).isOk = true ↔ sysfs.IsInterface name := by
  rw [isOk_iff]
  exact sample_some_iff call.mayRead_before call.mayRead_after call.elapsed name

theorem Sampling.none_iff (call : Sampling sysfs) :
    (call.run none).isOk = true ↔ sysfs.names ≠ [] ∧ ∀ name ∈ sysfs.names, sysfs.IsInterface name := by
  rw [isOk_iff]
  exact sample_none_iff call.mayRead_before call.mayRead_after call.elapsed

/-- **An entry that is no interface beside one that is** breaks the agreement. -/
theorem not_agreesWithEach {name other : Text} (hname : name ∈ sysfs.names) (hinterface : sysfs.IsInterface name)
    (hother : other ∈ sysfs.names) (hnot : ¬ sysfs.IsInterface other) : ¬ sysfs.AgreesWithEach := by
  intro h
  obtain ⟨reads, hreads⟩ := sysfs.exists_reads
  have call : Sampling sysfs := ⟨reads, reads, 0, hreads, hreads⟩
  have hall := h.succeeds call call name hname ((call.some_iff name).2 hinterface)
  exact hnot ((call.none_iff.1 hall).2 other hother)

/-- **When sampling all agrees with sampling each**: exactly when all entries are interfaces, or none is. -/
theorem agreesWithEach_iff (sysfs : Sysfs) :
    sysfs.AgreesWithEach ↔
      (∀ name ∈ sysfs.names, sysfs.IsInterface name) ∨ ∀ name ∈ sysfs.names, ¬ sysfs.IsInterface name := by
  constructor
  · intro h
    by_contra hmixed
    obtain ⟨hsome, hnone⟩ := not_or.1 hmixed
    simp only [not_forall, not_not] at hsome hnone
    obtain ⟨other, hother, hnot⟩ := hsome
    obtain ⟨name, hname, hinterface⟩ := hnone
    exact not_agreesWithEach hname hinterface hother hnot h
  · intro h
    refine ⟨fun call calls result hresult => ?_, fun call call' name hname hok => ?_⟩
    · have hall := call.none_iff.1 ((isOk_iff _).2 ⟨result, hresult⟩)
      have hfilter : sysfs.names.filter (fun name => ((calls name).run (some name)).isOk) = sysfs.names := by
        rw [List.filter_eq_self]
        exact fun name hname => ((calls name).some_iff name).2 (hall.2 name hname)
      rw [hfilter]
      exact names_of_sample_none hresult
    · have hinterface := (call'.some_iff name).1 hok
      refine call.none_iff.2 ⟨List.ne_nil_of_mem hname, ?_⟩
      rcases h with hall | hnone
      · exact hall
      · exact absurd hinterface (hnone name hname)

/-! ## A bonding master -/

/-- The reads of some files with what they hold, by the names on their paths. -/
def readsOf (files : List (List Text × Text)) : Reads := fun path =>
  match files.find? (fun file => file.1 = pathComponents path) with
  | some file => .ok file.2
  | none => .error (.os 2)

def isDirOf (files : List (List Text × Text)) (path : Text) : Bool :=
  files.any (fun file => (pathComponents path).isPrefixOf file.1 && pathComponents path ≠ file.1)

/-- A file system of fixed files, in which `/sys/class/net` has some entries. -/
def Sysfs.ofFiles (files : List (List Text × Text)) (entries : List Text) (h : ∀ name ∈ entries, IsFileName name) :
    Sysfs where
  readDir path := if path = sysClassNet then .ok (entries.map .ok) else .error (.os 2)
  isDir := isDirOf files
  mayRead reads := reads = readsOf files
  exists_reads := ⟨_, rfl⟩
  names_valid := by
    intro path listed hlisted name hname
    split at hlisted
    · cases hlisted
      obtain ⟨entry, hentry, hok⟩ := List.mem_filterMap.1 hname
      obtain ⟨listed, hmem, rfl⟩ := List.mem_map.1 hentry
      cases hok
      exact h _ hmem
    · cases hlisted
  isDir_of_read := by
    rintro reads rfl path name hname contents hread
    unfold readsOf at hread
    rw [pathComponents_pathJoin path hname] at hread
    cases hfile : files.find? (fun file => file.1 = pathComponents path ++ [name]) with
    | none =>
      rw [hfile] at hread
      cases hread
    | some file =>
      have hfound := List.find?_some hfile
      have hcomponents : file.1 = pathComponents path ++ [name] := of_decide_eq_true hfound
      refine List.any_eq_true.2 ⟨file, List.mem_of_find?_eq_some hfile, ?_⟩
      rw [hcomponents]
      simp
  isDir_of_isDir := by
    intro path name hname hdir
    obtain ⟨file, hfile, hprefix⟩ := List.any_eq_true.1 hdir
    rw [pathComponents_pathJoin path hname, Bool.and_eq_true, List.isPrefixOf_iff_prefix] at hprefix
    obtain ⟨rest, hrest⟩ := hprefix.1
    refine List.any_eq_true.2 ⟨file, hfile, ?_⟩
    rw [← hrest]
    simp
  steady := by
    rintro reads reads' rfl rfl path h
    exact h

/-- The file of the bonding driver, beside the counters of one interface. -/
def bondingFiles : List (List Text × Text) :=
  (["sys", "class", "net", "bonding_masters"], "bond0\n") ::
    counterFiles.map (fun file => (["sys", "class", "net", "eth0", "statistics", file], "0\n"))

theorem isFileName_bondingEntries : ∀ name ∈ [("bonding_masters" : Text), "eth0"], IsFileName name := by
  unfold IsFileName
  decide

def bondingSysfs : Sysfs := Sysfs.ofFiles bondingFiles ["bonding_masters", "eth0"] isFileName_bondingEntries

/-- `eth0` can be sampled by itself and is not sampled with all others, since `bonding_masters` has no counters. -/
theorem bondingSysfs_disagrees : ¬ bondingSysfs.AgreesWithEach := by
  have hreads : bondingSysfs.mayRead (readsOf bondingFiles) := rfl
  have hinterface : bondingSysfs.IsInterface "eth0" := by
    rw [bondingSysfs.isInterface_iff hreads]
    intro file hfile
    refine ⟨"0\n", ?_, by decide⟩
    revert file
    decide
  have hother : ¬ bondingSysfs.IsInterface "bonding_masters" := by
    rw [bondingSysfs.isInterface_iff hreads]
    intro h
    obtain ⟨contents, hread, -⟩ := h "rx_bytes" (by decide)
    cases hread
  have hmem : ∀ name ∈ [("bonding_masters" : Text), "eth0"], name ∈ bondingSysfs.names := fun name hname => hname
  exact not_agreesWithEach (hmem _ (by decide)) hinterface (hmem _ (by decide)) hother

end Networkrs
