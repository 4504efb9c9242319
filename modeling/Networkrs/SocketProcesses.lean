import Networkrs.Lib.Grouped
import Networkrs.Lib.Sorted
import Networkrs.Sockets
/-!
# SocketProcesses — which processes hold a socket

`socket_processes` of `sockets.rs` walks `/proc`: every directory named by a number is a process, and every link of its
`fd` directory that reads `socket:[N]` a socket it holds.  What it finds for a socket are the processes that hold it,
each once and in the order of their numbers, in whatever order the directories are read (`socket_processes_exact`).
-/
namespace Networkrs

open Machine Keyed

/-- A directory of `/proc`, as the walk finds it: its name and the targets of its descriptors where they can be read
and are UTF-8, and its `comm` where that can be read. -/
structure ProcessDirectory where
  fileName : Option Text
  descriptors : Option (List (Option Text))
  comm : Option Text
  deriving DecidableEq, Repr

def stripPrefix (start text : Text) : Option Text :=
  if start.isPrefixOf text then some (text.drop start.length) else none

def stripSuffix (last : Char) (text : Text) : Option Text :=
  if text.getLast? = some last then some text.dropLast else none

def parseSocketInode (target : Text) : Option UInt64 := do
  let inode ← stripPrefix "socket:[" target
  let inode ← stripSuffix ']' inode
  let inode ← parseUnsigned 10 (2 ^ 64 - 1) inode
  return UInt64.ofNat inode

def parsePid (name : Text) : Option UInt32 := (parseUnsigned 10 (2 ^ 32 - 1) name).map UInt32.ofNat

def ProcessDirectory.name (directory : ProcessDirectory) : Text := (directory.comm.map trim).getD "unknown"

section
variable (inodes : List UInt64)

/-- One descriptor of a process. -/
def holdDescriptor (process : SocketProcess) (result : Map UInt64 (List SocketProcess)) (target : Option Text) :
    Map UInt64 (List SocketProcess) :=
  match target.bind parseSocketInode with
  | none => result
  | some inode => if inode ∈ inodes then addTo SocketProcess.pid result (inode, process) else result

/-- One directory of `/proc`. -/
def holdDirectory (result : Map UInt64 (List SocketProcess)) (directory : ProcessDirectory) :
    Map UInt64 (List SocketProcess) :=
  match directory.fileName.bind parsePid with
  | none => result
  | some pid =>
    match directory.descriptors with
    | none => result
    | some descriptors => descriptors.foldl (holdDescriptor inodes ⟨pid, directory.name⟩) result

/-- `socket_processes`, of the directories of `/proc` where they can be read. -/
def socketProcesses (proc : Option (List ProcessDirectory)) : Map UInt64 (List SocketProcess) :=
  match proc with
  | none => Map.empty
  | some directories =>
    let result := directories.foldl (holdDirectory inodes) Map.empty
    fun inode => (result inode).map (sortByKey (fun process => process.pid.toNat))

end

/-! ## Who holds a socket -/

/-- The link of a descriptor of a socket, as the kernel writes it. -/
def socketLink (inode : UInt64) : Text := "socket:[" ++ decimal inode.toNat ++ "]"

/-- A directory of `/proc` is a process and one of its descriptors a socket. -/
def ProcessDirectory.Holds (directory : ProcessDirectory) (process : SocketProcess) (inode : UInt64) : Prop :=
  directory.fileName.bind parsePid = some process.pid ∧ directory.name = process.name ∧
    ∃ descriptors, directory.descriptors = some descriptors ∧
      ∃ target, some target ∈ descriptors ∧ parseSocketInode target = some inode

def Holds (directories : List ProcessDirectory) (process : SocketProcess) (inode : UInt64) : Prop :=
  ∃ directory ∈ directories, directory.Holds process inode

/-- **The processes shown for a socket** are those that hold it, if any is looked for and found: none of them twice, and
in the order of their numbers. -/
structure ShowsHolders (directories : List ProcessDirectory) (inodes : List UInt64) (inode : UInt64)
    (shown : Option (List SocketProcess)) : Prop where
  isSome_iff : shown.isSome ↔ inode ∈ inodes ∧ ∃ process, Holds directories process inode
  sorted : ∀ processes, shown = some processes → processes.Pairwise (fun a b => a.pid.toNat < b.pid.toNat)
  holds : ∀ processes, shown = some processes → ∀ process ∈ processes, Holds directories process inode
  complete : ∀ processes, shown = some processes → ∀ process, Holds directories process inode →
    ∃ shownProcess ∈ processes, shownProcess.pid = process.pid

theorem stripPrefix_append (start text : Text) : stripPrefix start (start ++ text) = some text := by
  have hstripped : start.isPrefixOf (start ++ text) = true :=
    List.isPrefixOf_iff_prefix.2 (List.prefix_append start text)
  rw [stripPrefix, if_pos hstripped, List.drop_left]

theorem stripSuffix_concat (text : Text) (last : Char) : stripSuffix last (text ++ [last]) = some text := by
  rw [stripSuffix, if_pos (by simp), List.dropLast_concat]

/-- **The link of a socket is read as its inode.** -/
theorem parseSocketInode_socketLink (inode : UInt64) : parseSocketInode (socketLink inode) = some inode := by
  have hnumber : parseUnsigned 10 (2 ^ 64 - 1) (decimal inode.toNat) = some inode.toNat :=
    parseUnsigned_toDigits (by decide) (by decide) (Nat.le_sub_one_of_lt inode.toNat_lt)
  have hstripped : stripPrefix "socket:[" (socketLink inode) = some (decimal inode.toNat ++ "]") := by
    unfold socketLink
    rw [List.append_assoc]
    exact stripPrefix_append _ _
  unfold parseSocketInode
  dsimp only [Option.bind_eq_bind]
  rw [hstripped, Option.bind_some]
  show (stripSuffix ']' (decimal inode.toNat ++ [']'])).bind _ = _
  rw [stripSuffix_concat, Option.bind_some, hnumber, Option.bind_some, UInt64.ofNat_toNat]
  rfl

/-- The sockets a directory of `/proc` holds, of those looked for, each with the process. -/
def ProcessDirectory.holdings (inodes : List UInt64) (directory : ProcessDirectory) :
    List (UInt64 × SocketProcess) :=
  match directory.fileName.bind parsePid, directory.descriptors with
  | some pid, some descriptors =>
    descriptors.filterMap (fun target => ((target.bind parseSocketInode).filter (fun inode => inode ∈ inodes)).map
      (fun inode => (inode, ⟨pid, directory.name⟩)))
  | _, _ => []

theorem foldl_holdDescriptor (inodes : List UInt64) (process : SocketProcess) : ∀ (descriptors : List (Option Text))
    (result : Map UInt64 (List SocketProcess)),
    descriptors.foldl (holdDescriptor inodes process) result =
      (descriptors.filterMap (fun target => ((target.bind parseSocketInode).filter (fun inode => inode ∈ inodes)).map
        (fun inode => (inode, process)))).foldl (addTo SocketProcess.pid) result
  | [], _ => rfl
  | target :: descriptors, result => by
    rw [List.foldl_cons, foldl_holdDescriptor inodes process descriptors, holdDescriptor]
    cases htarget : target.bind parseSocketInode with
    | none => simp [htarget]
    | some inode =>
      by_cases hmem : inode ∈ inodes
      · simp [htarget, hmem]
      · simp [htarget, hmem]

theorem holdDirectory_eq (inodes : List UInt64) (result : Map UInt64 (List SocketProcess))
    (directory : ProcessDirectory) :
    holdDirectory inodes result directory = (directory.holdings inodes).foldl (addTo SocketProcess.pid) result := by
  unfold holdDirectory ProcessDirectory.holdings
  cases directory.fileName.bind parsePid with
  | none => rfl
  | some pid =>
    cases directory.descriptors with
    | none => rfl
    | some descriptors => exact foldl_holdDescriptor inodes _ descriptors result

/-- **The walk groups what the directories hold.** -/
theorem foldl_holdDirectory (inodes : List UInt64) (directories : List ProcessDirectory) :
    directories.foldl (holdDirectory inodes) Map.empty =
      group SocketProcess.pid (directories.flatMap (ProcessDirectory.holdings inodes)) := by
  unfold group
  rw [List.foldl_flatMap]
  congr 1
  funext result directory
  exact holdDirectory_eq inodes result directory

theorem mem_holdings_iff (inodes : List UInt64) (directory : ProcessDirectory) (inode : UInt64)
    (process : SocketProcess) :
    (inode, process) ∈ directory.holdings inodes ↔ inode ∈ inodes ∧ directory.Holds process inode := by
  unfold ProcessDirectory.holdings ProcessDirectory.Holds
  cases hpid : directory.fileName.bind parsePid with
  | none => simp
  | some pid =>
    cases hdescriptors : directory.descriptors with
    | none => simp
    | some descriptors =>
      simp only [List.mem_filterMap, Option.map_eq_some_iff, Option.filter_eq_some_iff, decide_eq_true_eq,
        Prod.mk.injEq, Option.some.injEq]
      constructor
      · rintro ⟨target, htarget, _, ⟨hparsed, hmem⟩, rfl, rfl⟩
        obtain ⟨text, rfl, hparsed⟩ := Option.bind_eq_some_iff.1 hparsed
        exact ⟨hmem, rfl, rfl, descriptors, rfl, text, htarget, hparsed⟩
      · rintro ⟨hmem, hprocess, hname, _, rfl, text, htarget, hparsed⟩
        refine ⟨some text, htarget, inode, ⟨hparsed, hmem⟩, rfl, ?_⟩
        rw [hprocess, hname]

section
variable (directories : List ProcessDirectory) (inodes : List UInt64) (inode : UInt64)

/-- The processes found with a socket, in the order of the walk. -/
def foundHolders : List SocketProcess :=
  ((directories.flatMap (ProcessDirectory.holdings inodes)).filter (fun held => held.1 = inode)).map Prod.snd

theorem mem_foundHolders_iff (process : SocketProcess) :
    process ∈ foundHolders directories inodes inode ↔ inode ∈ inodes ∧ Holds directories process inode := by
  have hpair : process ∈ foundHolders directories inodes inode ↔
      ∃ directory ∈ directories, (inode, process) ∈ directory.holdings inodes := by
    unfold foundHolders
    rw [List.mem_map]
    constructor
    · rintro ⟨⟨inode', process'⟩, hmem, rfl⟩
      obtain ⟨hheld, hinode⟩ := List.mem_filter.1 hmem
      obtain rfl : inode' = inode := of_decide_eq_true hinode
      exact List.mem_flatMap.1 hheld
    · rintro hmem
      exact ⟨(inode, process), List.mem_filter.2 ⟨List.mem_flatMap.2 hmem, decide_eq_true rfl⟩, rfl⟩
  rw [hpair]
  simp only [mem_holdings_iff]
  constructor
  · rintro ⟨directory, hdirectory, hmem, hholds⟩
    exact ⟨hmem, directory, hdirectory, hholds⟩
  · rintro ⟨hmem, directory, hdirectory, hholds⟩
    exact ⟨directory, hdirectory, hmem, hholds⟩

/-- **What the walk finds for a socket**: the first of each process among those found with it, sorted. -/
theorem socketProcesses_eq :
    socketProcesses inodes (some directories) inode =
      if foundHolders directories inodes inode = [] then none
      else some (sortByKey (fun process => process.pid.toNat)
        (firsts SocketProcess.pid (foundHolders directories inodes inode))) := by
  unfold socketProcesses foundHolders
  dsimp only
  rw [foldl_holdDirectory, group_eq]
  simp only [List.map_eq_nil_iff]
  split <;> rfl

theorem pairwise_pid_sort {l : List SocketProcess} (h : (l.map SocketProcess.pid).Nodup) :
    (sortByKey (fun process => process.pid.toNat) l).Pairwise (fun a b => a.pid.toNat < b.pid.toNat) := by
  have hsorted := pairwise_sortByKey (fun process : SocketProcess => process.pid.toNat) l
  have hnodup : ((sortByKey (fun process => process.pid.toNat) l).map SocketProcess.pid).Nodup :=
    ((sortByKey_perm _ l).map SocketProcess.pid).nodup_iff.2 h
  rw [List.Nodup, List.pairwise_map] at hnodup
  refine (hsorted.and hnodup).imp (fun hab => ?_)
  exact Nat.lt_of_le_of_ne hab.1 (fun heq => hab.2 (UInt32.toNat_inj.1 heq))

theorem isSome_socketProcesses_iff :
    (socketProcesses inodes (some directories) inode).isSome ↔
      inode ∈ inodes ∧ ∃ process, Holds directories process inode := by
  have hfound := mem_foundHolders_iff directories inodes inode
  rw [socketProcesses_eq]
  constructor
  · intro hsome
    split at hsome
    · cases hsome
    · next hne =>
      obtain ⟨process, hprocess⟩ := List.exists_mem_of_ne_nil _ hne
      obtain ⟨hinode, hholds⟩ := (hfound process).1 hprocess
      exact ⟨hinode, process, hholds⟩
  · rintro ⟨hinode, process, hholds⟩
    rw [if_neg (List.ne_nil_of_mem ((hfound process).2 ⟨hinode, hholds⟩))]
    rfl

theorem showsHolders :
    ShowsHolders directories inodes inode (socketProcesses inodes (some directories) inode) := by
  have hshown : ∀ processes, socketProcesses inodes (some directories) inode = some processes →
      inode ∈ inodes ∧ processes.Perm (firsts SocketProcess.pid (foundHolders directories inodes inode)) ∧
        processes.Pairwise (fun a b => a.pid.toNat < b.pid.toNat) := by
    intro processes h
    have hinode := ((isSome_socketProcesses_iff directories inodes inode).1 (by rw [h]; rfl)).1
    rw [socketProcesses_eq] at h
    split at h
    · cases h
    · obtain rfl := Option.some.inj h
      exact ⟨hinode, sortByKey_perm _ _, pairwise_pid_sort (nodup_firsts SocketProcess.pid _)⟩
  refine ⟨isSome_socketProcesses_iff directories inodes inode, fun processes h => (hshown processes h).2.2, ?_, ?_⟩
  · intro processes h process hprocess
    obtain ⟨-, hperm, -⟩ := hshown processes h
    obtain ⟨pre, post, heq, -⟩ := (mem_firsts_iff _ _ _).1 (hperm.mem_iff.1 hprocess)
    have hfound : process ∈ foundHolders directories inodes inode := by
      rw [heq]
      exact List.mem_append_right pre List.mem_cons_self
    exact ((mem_foundHolders_iff directories inodes inode process).1 hfound).2
  · intro processes h process hholds
    obtain ⟨hinode, hperm, -⟩ := hshown processes h
    have hfound := (mem_foundHolders_iff directories inodes inode process).2 ⟨hinode, hholds⟩
    obtain ⟨first, hfirst, hpid⟩ := (exists_mem_firsts SocketProcess.pid _ process.pid).2 ⟨process, hfound, rfl⟩
    exact ⟨first, hperm.mem_iff.2 hfirst, hpid⟩

end

/-- Each process has one name. -/
def NamesProcesses (directories : List ProcessDirectory) : Prop :=
  ∀ process other inode inode', Holds directories process inode → Holds directories other inode' →
    process.pid = other.pid → process = other

/-- **The walk's order does not matter**, nor how often a directory or a link is met. -/
theorem socketProcesses_congr {directories directories' : List ProcessDirectory} (inodes : List UInt64)
    (hnames : NamesProcesses directories)
    (h : ∀ process inode, Holds directories process inode ↔ Holds directories' process inode) :
    socketProcesses inodes (some directories') = socketProcesses inodes (some directories) := by
  have hmem : ∀ process inode, process ∈ foundHolders directories inodes inode ↔
      process ∈ foundHolders directories' inodes inode := by
    intro process inode
    rw [mem_foundHolders_iff, mem_foundHolders_iff, h]
  funext inode
  have hunique : ∀ p ∈ foundHolders directories inodes inode, ∀ q ∈ foundHolders directories inodes inode,
      p.pid = q.pid → p = q := by
    intro p hp q hq
    obtain ⟨-, hp⟩ := (mem_foundHolders_iff directories inodes inode p).1 hp
    obtain ⟨-, hq⟩ := (mem_foundHolders_iff directories inodes inode q).1 hq
    exact hnames p q inode inode hp hq
  have hunique' : ∀ p ∈ foundHolders directories' inodes inode, ∀ q ∈ foundHolders directories' inodes inode,
      p.pid = q.pid → p = q := by
    intro p hp q hq
    exact hunique p ((hmem p inode).2 hp) q ((hmem q inode).2 hq)
  have hperm : (firsts SocketProcess.pid (foundHolders directories' inodes inode)).Perm
      (firsts SocketProcess.pid (foundHolders directories inodes inode)) := by
    rw [List.perm_ext_iff_of_nodup (nodup_firsts SocketProcess.pid _).of_map (nodup_firsts SocketProcess.pid _).of_map]
    intro process
    rw [mem_firsts_of_unique SocketProcess.pid hunique, mem_firsts_of_unique SocketProcess.pid hunique', hmem]
  have hnil : foundHolders directories' inodes inode = [] ↔ foundHolders directories inodes inode = [] := by
    simp only [List.eq_nil_iff_forall_not_mem, hmem]
  rw [socketProcesses_eq, socketProcesses_eq, if_congr hnil rfl rfl]
  congr 2
  refine sortByKey_eq_of_perm (fun a ha b hb hab => ?_) hperm
  exact List.inj_on_of_nodup_map (nodup_firsts SocketProcess.pid _) ha hb (UInt32.toNat_inj.1 hab)

/-- **The walk of `/proc` finds the holders of every socket**: those of the inodes looked for, each process once and in
the order of their numbers; nothing of an unreadable `/proc`; and the same whatever the order of the directories and of
their links, where no two of them give a process different names. -/
theorem socket_processes_exact (proc : Option (List ProcessDirectory)) (inodes : List UInt64) :
    (∀ inode, ShowsHolders (proc.getD []) inodes inode (socketProcesses inodes proc inode)) ∧
      (NamesProcesses (proc.getD []) → ∀ directories : List ProcessDirectory,
        (∀ process inode, Holds (proc.getD []) process inode ↔ Holds directories process inode) →
        socketProcesses inodes (some directories) = socketProcesses inodes proc) ∧
      ∀ inode, parseSocketInode (socketLink inode) = some inode := by
  have hproc : socketProcesses inodes proc = socketProcesses inodes (some (proc.getD [])) := by
    cases proc <;> rfl
  rw [hproc]
  refine ⟨showsHolders (proc.getD []) inodes, fun hnames directories h => ?_, parseSocketInode_socketLink⟩
  exact socketProcesses_congr inodes hnames h

end Networkrs
