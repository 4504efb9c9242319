import Networkrs.Arguments
import Networkrs.Sockets
/-!
# CommandLine — which command lines are valid, with `--json` and without

`run` and `run_json` of `main.rs` up to their first query: a command line is rejected with a message, or it asks for
one action.  The two validate their arguments in different places, and `run_json` takes any arguments of the commands
that have none.  On every other line they ask for the same action (`runJson_eq_ok_iff`), so `--json` changes which lines
are valid exactly for those commands (`json_rejects_alike_iff`).
-/
namespace Networkrs

/-- The words of the `match` over commands. -/
inductive Command where
  | all
  | interfaces
  | links
  | hardware
  | addresses
  | routes
  | rules
  | route
  | neighbors
  | scan
  | watch
  | check
  | probe
  | sockets
  | traffic
  | wifi
  | dns
  | help
  | version
  deriving DecidableEq, Repr

def commandNames : List (Text × Command) :=
  [("all", .all), ("interfaces", .interfaces), ("links", .links), ("hardware", .hardware), ("addresses", .addresses),
    ("routes", .routes), ("rules", .rules), ("route", .route), ("neighbors", .neighbors), ("scan", .scan),
    ("watch", .watch), ("check", .check), ("probe", .probe), ("sockets", .sockets), ("traffic", .traffic),
    ("wifi", .wifi), ("dns", .dns), ("-h", .help), ("--help", .help), ("help", .help), ("-V", .version),
    ("--version", .version)]

def Command.fromName (name : Text) : Option Command := commandNames.lookup name

/-- What a valid command line asks for. -/
inductive Action where
  | all
  | interfaces
  | links
  | hardware (selection : Option Text)
  | addresses
  | routes
  | rules
  | route (destination : IpAddr)
  | neighbors (selection : Option Text)
  | scan (arguments : ScanArguments)
  | watch (filter : Option WatchFilter)
  | check (active : Bool)
  | probe (arguments : ProbeArguments)
  | sockets (view : View)
  | traffic (arguments : TrafficArguments)
  | wifi
  | dns
  | help
  | version
  deriving DecidableEq, Repr

def usage : Text :=
  join "\n"
    ["Usage: networkrs [--json] [COMMAND]",
      "",
      "Commands:",
      "  all                    Show current network configuration (default)",
      "  interfaces             Show interfaces, addresses, link state, and counters",
      "  links                  Show kernel link topology and metadata",
      "  hardware [INTERFACE]   Show driver, link modes, features, and statistics",
      "  addresses              Show detailed kernel IP address records",
      "  routes                 Show all IPv4 and IPv6 routing tables",
      "  rules                  Show IPv4 and IPv6 policy-routing rules",
      "  route <ADDRESS>        Show the kernel route to an IP address",
      "  neighbors [INTERFACE]  Show cached IPv4 and IPv6 neighbors",
      "  scan [OPTIONS] [TARGET] Actively discover neighbors on a local IPv4 network",
      "  watch [OPTIONS]        Stream kernel network changes",
      "  check [--active]       Check IPv4 health; optionally exercise the path",
      "  probe HOST [PORTS]     Test one or more TCP ports and report route and timing",
      "  sockets [VIEW]         Show IP sockets (all, tcp, udp, listening, connected)",
      "  traffic [OPTIONS]      Sample or continuously watch interface traffic rates",
      "  wifi                   Show nl80211 Wi-Fi connection details",
      "  dns                    Show resolver configuration",
      "  help                   Show this help",
      "",
      "Global options:",
      "  --json                 Emit JSON; streaming commands emit one object per line"]

variable (osError : Int32 → Text)

/-- `map_err` with a text before the error. -/
def cannot {α : Type} (what : Text) : Except IoError α → Except Text α
  | .ok a => .ok a
  | .error e => .error ("cannot " ++ what ++ ": " ++ e.display osError)

def unexpectedArgument (argument : Text) : Except Text Action :=
  .error ("unexpected argument: " ++ argument ++ "\n\n" ++ usage)

def unknownCommand (command : Text) : Except Text Action := .error ("unknown command: " ++ command ++ "\n\n" ++ usage)

def routeDestination (argument : Text) : Except Text Action :=
  match IpAddr.parse argument with
  | none => .error "route destination must be an IP address"
  | some destination => .ok (.route destination)

def checkAction : List Text → Except Text Action
  | [] => .ok (.check false)
  | [option] => if option = "--active" then .ok (.check true) else .error ("unknown check option: " ++ option)
  | _ => .error "check accepts only --active"

def socketsAction (argument : Option Text) : Except Text Action :=
  match argument with
  | none => .ok (.sockets .all)
  | some name =>
    match View.fromName name with
    | none =>
      .error ("unknown socket view: " ++ name ++ "; expected all, tcp, udp, listening, or connected")
    | some view => .ok (.sockets view)

/-- The commands that read a whole list of arguments. -/
def takesArguments (command : Option Command) : Bool :=
  command = some .scan || command = some .probe || command = some .traffic || command = some .watch

/-- The commands that read at least one argument. -/
def takesArgument (command : Option Command) : Bool :=
  command = some .route || command = some .scan || command = some .probe || command = some .check ||
    command = some .neighbors || command = some .hardware || command = some .sockets || command = some .traffic ||
    command = some .watch

/-- The `match` of `run`, behind its two guards. -/
def textAction (command : Text) (arguments : List Text) : Except Text Action :=
  match Command.fromName command with
  | some .all => .ok .all
  | some .interfaces => .ok .interfaces
  | some .links => .ok .links
  | some .hardware => .ok (.hardware arguments.head?)
  | some .addresses => .ok .addresses
  | some .routes => .ok .routes
  | some .rules => .ok .rules
  | some .route =>
    match arguments.head? with
    | none => .error ("route requires an IP address\n\n" ++ usage)
    | some argument => routeDestination argument
  | some .neighbors => .ok (.neighbors arguments.head?)
  | some .scan => cannot osError "scan network" ((parseScanArguments arguments).map .scan)
  | some .watch => cannot osError "watch network" ((parseWatchArguments arguments).map .watch)
  | some .check => checkAction arguments
  | some .probe => cannot osError "probe destination" ((parseProbeArguments arguments).map .probe)
  | some .sockets => socketsAction arguments.head?
  | some .traffic => cannot osError "sample traffic" ((parseTrafficArguments arguments).map .traffic)
  | some .wifi => .ok .wifi
  | some .dns => .ok .dns
  | some .help => .ok .help
  | some .version => .ok .version
  | none => unknownCommand command

/-- `run` without `--json`. -/
def runText (command : Text) (arguments : List Text) : Except Text Action :=
  match if takesArguments (Command.fromName command) then none else arguments[1]? with
  | some extra => unexpectedArgument extra
  | none =>
    match if takesArgument (Command.fromName command) then none else arguments.head? with
    | some argument => unexpectedArgument argument
    | none => textAction osError command arguments

def runJson (command : Text) (arguments : List Text) : Except Text Action :=
  match Command.fromName command with
  | some .watch => cannot osError "watch network" ((parseWatchArguments arguments).map .watch)
  | some .traffic => cannot osError "sample traffic" ((parseTrafficArguments arguments).map .traffic)
  | some .probe => cannot osError "probe destination" ((parseProbeArguments arguments).map .probe)
  | some .check => checkAction arguments
  | some .all => .ok .all
  | some .interfaces => .ok .interfaces
  | some .links => .ok .links
  | some .addresses => .ok .addresses
  | some .routes => .ok .routes
  | some .rules => .ok .rules
  | some .route =>
    match arguments with
    | [argument] => routeDestination argument
    | _ => .error "route requires one IP address"
  | some .neighbors =>
    if 1 < arguments.length then .error "neighbors accepts at most one interface"
    else .ok (.neighbors arguments.head?)
  | some .hardware =>
    if 1 < arguments.length then .error "hardware accepts at most one interface"
    else .ok (.hardware arguments.head?)
  | some .scan => cannot osError "scan network" ((parseScanArguments arguments).map .scan)
  | some .sockets =>
    if 1 < arguments.length then .error "sockets accepts at most one view" else socketsAction arguments.head?
  | some .wifi => if !arguments.isEmpty then .error "wifi accepts no arguments" else .ok .wifi
  | some .dns => if !arguments.isEmpty then .error "dns accepts no arguments" else .ok .dns
  | some .version => .ok .version
  | some .help => .ok .help
  | none => unknownCommand command

def jsonFlag : Text := "--json"

/-- A command line once `run` has taken `--json` out of it. -/
structure Invocation where
  json : Bool
  command : Text
  arguments : List Text
  deriving DecidableEq, Repr

def invocation (line : List Text) : Invocation :=
  let json := decide (jsonFlag ∈ line)
  match line.erase jsonFlag with
  | [] => ⟨json, "all", []⟩
  | command :: arguments => ⟨json, command, arguments⟩

def run (line : List Text) : Except Text Action :=
  let i := invocation line
  if i.json then runJson osError i.command i.arguments else runText osError i.command i.arguments

def Rejects (result : Except Text Action) : Prop := ∃ message, result = .error message

/-! ## The two validations -/

/-- The commands without arguments that `run_json` does not check for any. -/
def isLenient (command : Option Command) : Bool :=
  command = some .all || command = some .interfaces || command = some .links || command = some .addresses ||
    command = some .routes || command = some .rules || command = some .help || command = some .version

theorem rejects_iff (result : Except Text Action) : Rejects result ↔ ∀ action, result ≠ .ok action := by
  unfold Rejects
  cases result with
  | error message => simp
  | ok action => simp

/-- **On a line whose arguments both modes check, both ask for the same action**, or neither for any. -/
theorem runJson_eq_ok_iff {command : Text} {arguments : List Text}
    (h : isLenient (Command.fromName command) = false ∨ arguments = []) (action : Action) :
    runJson osError command arguments = .ok action ↔ runText osError command arguments = .ok action := by
  unfold runJson runText textAction
  cases hcommand : Command.fromName command with
  | none =>
    rcases arguments with _ | ⟨first, _ | ⟨second, rest⟩⟩ <;>
      simp [takesArguments, takesArgument, unknownCommand, unexpectedArgument]
  | some known =>
    rw [hcommand] at h
    rcases arguments with _ | ⟨first, _ | ⟨second, rest⟩⟩
    · cases known <;> simp [takesArguments, takesArgument]
    · cases known <;> simp [takesArguments, takesArgument, unexpectedArgument] <;> simp [isLenient] at h
    · cases known <;> simp [takesArguments, takesArgument, unexpectedArgument, checkAction] <;> simp [isLenient] at h

/-- **`run` rejects every argument of a command that has none.** -/
theorem runText_rejects_of_isLenient {command : Text} (h : isLenient (Command.fromName command) = true)
    (argument : Text) (arguments : List Text) : Rejects (runText osError command (argument :: arguments)) := by
  unfold runText
  cases hcommand : Command.fromName command with
  | none => rw [hcommand] at h; cases h
  | some known =>
    rw [hcommand] at h
    have htakes : takesArguments (some known) = false ∧ takesArgument (some known) = false := by
      cases known <;> first | exact ⟨rfl, rfl⟩ | cases h
    rw [htakes.1, htakes.2]
    cases arguments with
    | nil => exact ⟨_, rfl⟩
    | cons extra rest => exact ⟨_, rfl⟩

theorem runJson_isOk_of_isLenient {command : Text} (h : isLenient (Command.fromName command) = true)
    (arguments : List Text) : ∃ action, runJson osError command arguments = .ok action := by
  unfold runJson
  cases hcommand : Command.fromName command with
  | none => rw [hcommand] at h; cases h
  | some known =>
    rw [hcommand] at h
    cases known <;> first | exact ⟨_, rfl⟩ | cases h

/-! ## Lines with `--json` in them -/

theorem invocation_of_not_mem {line : List Text} (h : jsonFlag ∉ line) : (invocation line).json = false := by
  unfold invocation
  rw [List.erase_of_not_mem h, decide_eq_false h]
  cases line <;> rfl

/-- **`--json` may stand anywhere in a line**: the command and its arguments are those of the rest. -/
theorem invocation_insert {pre post : List Text} (h : jsonFlag ∉ pre ++ post) :
    invocation (pre ++ jsonFlag :: post) = { invocation (pre ++ post) with json := true } := by
  have hpre : jsonFlag ∉ pre := fun hmem => h (List.mem_append_left post hmem)
  have hmem : jsonFlag ∈ pre ++ jsonFlag :: post := List.mem_append_right pre List.mem_cons_self
  unfold invocation
  rw [List.erase_append_right _ hpre, List.erase_cons_head, List.erase_of_not_mem h, decide_eq_true hmem]
  cases pre ++ post <;> rfl

/-- **Which lines are valid does not depend on `--json`, unless they give arguments to a command that has none and
that `run_json` does not check**; `--json` itself may stand anywhere. -/
theorem json_rejects_alike_iff (line : List Text) (h : jsonFlag ∉ line) :
    (∀ pre post, line = pre ++ post →
      invocation (pre ++ jsonFlag :: post) = { invocation line with json := true }) ∧
    ((∀ pre post, line = pre ++ post →
        (Rejects (run osError line) ↔ Rejects (run osError (pre ++ jsonFlag :: post)))) ↔
      ¬ (isLenient (Command.fromName (invocation line).command) = true ∧ (invocation line).arguments ≠ [])) := by
  have hinsert : ∀ pre post, line = pre ++ post →
      invocation (pre ++ jsonFlag :: post) = { invocation line with json := true } := by
    rintro pre post rfl
    exact invocation_insert h
  have htext : run osError line = runText osError (invocation line).command (invocation line).arguments := by
    unfold run
    dsimp only
    rw [invocation_of_not_mem h]
    rfl
  have hjson : ∀ pre post, line = pre ++ post →
      run osError (pre ++ jsonFlag :: post) =
        runJson osError (invocation line).command (invocation line).arguments := by
    intro pre post hline
    unfold run
    dsimp only
    rw [hinsert pre post hline]
    rfl
  refine ⟨hinsert, ?_, ?_⟩
  · rintro hall ⟨hlenient, harguments⟩
    have hsame := hall [] line rfl
    rw [htext, hjson [] line rfl] at hsame
    obtain ⟨action, haction⟩ := runJson_isOk_of_isLenient osError hlenient (invocation line).arguments
    cases hlist : (invocation line).arguments with
    | nil => exact harguments hlist
    | cons argument arguments =>
      have hrejects := runText_rejects_of_isLenient osError hlenient argument arguments
      rw [← hlist] at hrejects
      exact (rejects_iff _).1 (hsame.1 hrejects) action haction
  · intro hnot pre post hline
    have hchecked : isLenient (Command.fromName (invocation line).command) = false ∨
        (invocation line).arguments = [] := by
      by_cases hlenient : isLenient (Command.fromName (invocation line).command) = true
      · exact .inr (Classical.not_not.1 (fun hne => hnot ⟨hlenient, hne⟩))
      · exact .inl (Bool.eq_false_iff.2 hlenient)
    rw [htext, hjson pre post hline, rejects_iff, rejects_iff]
    exact forall_congr' (fun action => not_congr (runJson_eq_ok_iff osError hchecked action).symm)

/-- The argument of `wifi` is rejected with `--json` before it as without. -/
theorem json_rejects_alike_iff_wifi :
    Rejects (run (fun _ => []) ["wifi", "eth0"]) ↔ Rejects (run (fun _ => []) ["wifi", jsonFlag, "eth0"]) :=
  (json_rejects_alike_iff (fun _ => []) ["wifi", "eth0"] (by decide +kernel)).2.2 (by decide +kernel) ["wifi"] ["eth0"]
    rfl

/-- `links` rejects an argument, and takes it with `--json`. -/
theorem links_takes_argument_as_json :
    jsonFlag ∉ [("links" : Text), "eth0"] ∧
      run (fun _ => []) ["links", "eth0", jsonFlag] = .ok .links ∧
      ¬ (Rejects (run (fun _ => []) ["links", "eth0"]) ↔ Rejects (run (fun _ => []) ["links", "eth0", jsonFlag])) := by
  have hjson : run (fun _ => []) ["links", "eth0", jsonFlag] = .ok .links := by decide +kernel
  have htext : Rejects (run (fun _ => []) ["links", "eth0"]) := ⟨_, rfl⟩
  refine ⟨by decide +kernel, hjson, fun h => ?_⟩
  exact (rejects_iff _).1 (h.1 htext) .links hjson

end Networkrs
