import Networkrs.Address
/-!
# Arguments — the argument lists of the commands

The argument parsers of `main.rs`.  The commands that take options share the shape of their loop: an argument is read
with the one behind it, and the second is passed over when the first is an option with a value (`parseLoop`).  What a
parser accepts is within the bounds it documents: at most ten passes of a scan (`retries_of_parseScanArguments`), and
between one and 4096 ports of a probe, each once and in order (`parseProbePorts_spec`).
-/
namespace Networkrs

open Machine

def invalidArgument {α : Type} (message : Text) : Except IoError α := .error (.custom .invalidInput message)

theorem invalidArgument_ne_ok {α : Type} (message : Text) (a : α) : invalidArgument message ≠ .ok a := by
  intro h
  cases h

/-- The value behind an option: `arguments.get(index)` after `index += 1`. -/
def requireValue (message : Text) (value : Option Text) : Except IoError Text :=
  match value with
  | none => invalidArgument message
  | some value => .ok value

/-- `parse_option_value` on the unsigned type whose greatest value is `max`. -/
def parseOptionValue (max : Nat) (option : Text) (value : Option Text) : Except IoError Nat := do
  let value ← requireValue (option ++ " requires a value") value
  match parseUnsigned 10 max value with
  | none => invalidArgument ("invalid value for " ++ option)
  | some n => return n

def isOption (argument : Text) : Bool := argument.head? = some '-'

section
variable {σ : Type}

/-- The loop over an argument list: `step` sees an argument and the one behind it, and says whether it took both. -/
def parseLoop (step : σ → Text → Option Text → Except IoError (σ × Bool)) : List Text → σ → Except IoError σ
  | [], parsed => .ok parsed
  | argument :: rest, parsed =>
    match step parsed argument rest.head? with
    | .error e => .error e
    | .ok (parsed, false) => parseLoop step rest parsed
    | .ok (parsed, true) =>
      match rest with
      | [] => .ok parsed
      | _ :: rest => parseLoop step rest parsed

/-- **What every accepted argument preserves, an accepted list preserves.** -/
theorem of_parseLoop {step : σ → Text → Option Text → Except IoError (σ × Bool)} {P : σ → Prop}
    (hstep : ∀ parsed argument value parsed' took, step parsed argument value = .ok (parsed', took) →
      P parsed → P parsed') :
    ∀ (fuel : Nat) (arguments : List Text) (parsed result : σ), arguments.length ≤ fuel →
      parseLoop step arguments parsed = .ok result → P parsed → P result
  | _, [], parsed, result, _, h, hparsed => by
    cases h
    exact hparsed
  | 0, argument :: rest, _, _, hfuel, _, _ => by simp at hfuel
  | fuel + 1, argument :: rest, parsed, result, hfuel, h, hparsed => by
    rw [List.length_cons] at hfuel
    rw [parseLoop] at h
    split at h
    · cases h
    · next parsed' hone =>
      exact of_parseLoop hstep fuel rest parsed' result (by omega) h (hstep _ _ _ _ _ hone hparsed)
    · next parsed' hboth =>
      have hparsed' := hstep _ _ _ _ _ hboth hparsed
      cases rest with
      | nil =>
        cases h
        exact hparsed'
      | cons value rest =>
        rw [List.length_cons] at hfuel
        exact of_parseLoop hstep fuel rest parsed' result (by omega) h hparsed'

end

/-! ## `scan` -/

inductive ScanFilter where
  | changed
  | unchanged
  deriving DecidableEq, Repr

structure ScanArguments where
  selection : Option Text
  waitMs : UInt64
  retries : UInt32
  resolveNames : Bool
  excluded : List Ipv4Addr
  filter : Option ScanFilter
  deriving DecidableEq, Repr

def ScanArguments.default : ScanArguments := ⟨none, 1200, 1, true, [], none⟩

def parseScanFilter (value : Text) : Except IoError ScanFilter :=
  if value = "changed" then .ok .changed
  else if value = "unchanged" then .ok .unchanged
  else invalidArgument "--filter must be changed or unchanged"

def scanArgument (parsed : ScanArguments) (argument : Text) (value : Option Text) :
    Except IoError (ScanArguments × Bool) :=
  if argument = "--filter" then do
    let value ← requireValue "--filter requires changed or unchanged" value
    let filter ← parseScanFilter value
    if parsed.filter.isSome then invalidArgument "scan filter was specified more than once"
    else return ({ parsed with filter := some filter }, true)
  else if argument = "--wait" then do
    let waitMs ← parseOptionValue (2 ^ 64 - 1) "--wait" value
    if 60000 < waitMs then invalidArgument "--wait cannot exceed 60000 milliseconds"
    else return ({ parsed with waitMs := UInt64.ofNat waitMs }, true)
  else if argument = "--retries" then do
    let retries ← parseOptionValue (2 ^ 32 - 1) "--retries" value
    if ¬ (1 ≤ retries ∧ retries ≤ 10) then invalidArgument "--retries must be between 1 and 10"
    else return ({ parsed with retries := UInt32.ofNat retries }, true)
  else if argument = "--exclude" then do
    let value ← requireValue "--exclude requires an IPv4 address" value
    match Ipv4Addr.parse value with
    | none => invalidArgument ("invalid excluded IPv4 address: " ++ value)
    | some address => return ({ parsed with excluded := parsed.excluded ++ [address] }, true)
  else if argument = "--no-resolve" then return ({ parsed with resolveNames := false }, false)
  else if isOption argument then invalidArgument ("unknown scan option: " ++ argument)
  else if parsed.selection.isSome then invalidArgument "scan accepts only one interface or CIDR"
  else return ({ parsed with selection := some argument }, false)

def parseScanArguments (arguments : List Text) : Except IoError ScanArguments :=
  parseLoop scanArgument arguments ScanArguments.default

/-- **An option of a scan that is accepted** leaves the retries as they were or sets them within their bounds. -/
theorem retries_of_scanArgument {parsed parsed' : ScanArguments} {argument : Text} {value : Option Text} {took : Bool}
    (h : scanArgument parsed argument value = .ok (parsed', took)) :
    parsed'.retries = parsed.retries ∨ 1 ≤ parsed'.retries.toNat ∧ parsed'.retries.toNat ≤ 10 := by
  unfold scanArgument at h
  split at h
  · obtain ⟨text, -, h⟩ := (bind_eq_ok_iff _ _ _).1 h
    obtain ⟨filter, -, h⟩ := (bind_eq_ok_iff _ _ _).1 h
    split at h
    · exact absurd h (invalidArgument_ne_ok _ _)
    · cases h
      exact .inl rfl
  split at h
  · obtain ⟨waitMs, -, h⟩ := (bind_eq_ok_iff _ _ _).1 h
    split at h
    · exact absurd h (invalidArgument_ne_ok _ _)
    · cases h
      exact .inl rfl
  split at h
  · obtain ⟨retries, -, h⟩ := (bind_eq_ok_iff _ _ _).1 h
    split at h
    · exact absurd h (invalidArgument_ne_ok _ _)
    · next hrange =>
      cases h
      have hsize : UInt32.size = 2 ^ 32 := rfl
      refine .inr ?_
      dsimp only
      rw [UInt32.toNat_ofNat_of_lt' (by omega)]
      omega
  split at h
  · obtain ⟨text, -, h⟩ := (bind_eq_ok_iff _ _ _).1 h
    split at h
    · exact absurd h (invalidArgument_ne_ok _ _)
    · cases h
      exact .inl rfl
  split at h
  · cases h
    exact .inl rfl
  split at h
  · exact absurd h (invalidArgument_ne_ok _ _)
  split at h
  · exact absurd h (invalidArgument_ne_ok _ _)
  · cases h
    exact .inl rfl

/-- **A scan that is accepted makes between one and ten passes.** -/
theorem retries_of_parseScanArguments {arguments : List Text} {parsed : ScanArguments}
    (h : parseScanArguments arguments = .ok parsed) : 1 ≤ parsed.retries.toNat ∧ parsed.retries.toNat ≤ 10 := by
  refine of_parseLoop (P := fun parsed => 1 ≤ parsed.retries.toNat ∧ parsed.retries.toNat ≤ 10) ?_ arguments.length
    arguments _ parsed (Nat.le_refl _) h ⟨by decide, by decide⟩
  intro parsed argument value parsed' took hone hparsed
  rcases retries_of_scanArgument hone with hsame | hbounds
  · rw [hsame]
    exact hparsed
  · exact hbounds

/-! ## `probe` -/

def maxProbePorts : Nat := 4096

inductive TcpProbeStatus where
  | connected
  | connectionRefused
  | failed
  deriving DecidableEq, Repr

structure ProbeArguments where
  host : Text
  ports : List UInt16
  filter : Option TcpProbeStatus
  timeoutMs : UInt64
  deriving DecidableEq, Repr

def parseProbeFilter (value : Text) : Except IoError TcpProbeStatus :=
  if value = "open" then .ok .connected
  else if value = "closed" then .ok .connectionRefused
  else if value = "failed" then .ok .failed
  else invalidArgument "--filter must be open, closed, or failed"

def parseProbePort (value : Text) : Except IoError UInt16 :=
  match parseUnsigned 10 (2 ^ 16 - 1) value with
  | none => invalidArgument ("invalid TCP port: " ++ value)
  | some port => if port = 0 then invalidArgument "TCP port must be between 1 and 65535" else .ok (UInt16.ofNat port)

def tooManyProbePorts {α : Type} : Except IoError α :=
  invalidArgument ("probe accepts at most " ++ decimal maxProbePorts ++ " distinct ports")

/-- `BTreeSet::insert`, the set as its elements in order. -/
def insertPort (port : UInt16) : List UInt16 → List UInt16
  | [] => [port]
  | p :: ports =>
    if port < p then port :: p :: ports
    else if port = p then p :: ports
    else p :: insertPort port ports

/-- The ports of a range, inserted one after the other. -/
def insertPorts : List UInt16 → List UInt16 → Except IoError (List UInt16)
  | [], ports => .ok ports
  | port :: rest, ports =>
    let ports := insertPort port ports
    if maxProbePorts < ports.length then tooManyProbePorts else insertPorts rest ports

/-- `first..=last`. -/
def portRange (first last : UInt16) : List UInt16 :=
  (List.range' first.toNat (last.toNat + 1 - first.toNat)).map UInt16.ofNat

/-- The ports with those of one item of the list added. -/
def addProbePorts (item : Text) (ports : List UInt16) : Except IoError (List UInt16) :=
  if item = [] then invalidArgument "probe port list contains an empty item"
  else
    match splitOnce '-' item with
    | some (first, last) => do
      let first ← parseProbePort first
      let last ← parseProbePort last
      if last < first then invalidArgument ("invalid descending port range: " ++ item)
      else insertPorts (portRange first last) ports
    | none => do
      let port ← parseProbePort item
      return insertPort port ports

def probePortsFrom : List Text → List UInt16 → Except IoError (List UInt16)
  | [], ports => .ok ports
  | item :: items, ports => do
    let ports ← addProbePorts (trim item) ports
    if maxProbePorts < ports.length then tooManyProbePorts else probePortsFrom items ports

def parseProbePorts (value : Text) : Except IoError (List UInt16) := probePortsFrom (splitAll ',' value) []

theorem mem_insertPort (port x : UInt16) : ∀ (ports : List UInt16), x ∈ insertPort port ports ↔ x = port ∨ x ∈ ports
  | [] => by simp [insertPort]
  | p :: ports => by
    rw [insertPort]
    split
    · simp
    split
    · next h => simp [h]
    · rw [List.mem_cons, mem_insertPort port x ports, List.mem_cons]
      exact or_left_comm

/-- **An ordered set stays ordered**, each element once. -/
theorem sorted_insertPort (port : UInt16) : ∀ {ports : List UInt16}, ports.Pairwise (· < ·) →
    (insertPort port ports).Pairwise (· < ·)
  | [], _ => List.pairwise_singleton _ _
  | p :: ports, h => by
    obtain ⟨hp, hports⟩ := List.pairwise_cons.1 h
    rw [insertPort]
    split
    · next hlt =>
      refine List.pairwise_cons.2 ⟨fun x hx => ?_, h⟩
      rcases List.mem_cons.1 hx with rfl | hx
      · exact hlt
      · exact UInt16.lt_trans hlt (hp x hx)
    split
    · exact h
    · next hlt hne =>
      refine List.pairwise_cons.2 ⟨fun x hx => ?_, sorted_insertPort port hports⟩
      rcases (mem_insertPort port x ports).1 hx with rfl | hx
      · exact UInt16.lt_of_le_of_ne (UInt16.not_lt.1 hlt) (fun h => hne h.symm)
      · exact hp x hx

theorem insertPort_ne_nil (port : UInt16) (ports : List UInt16) : insertPort port ports ≠ [] :=
  List.ne_nil_of_mem ((mem_insertPort port port ports).2 (.inl rfl))

/-- A set of ports a probe accepts so far. -/
def IsPortSet (ports : List UInt16) : Prop := ports.Pairwise (· < ·) ∧ ports.length ≤ maxProbePorts

theorem insertPorts_spec : ∀ (range : List UInt16) {ports ports' : List UInt16}, IsPortSet ports →
    insertPorts range ports = .ok ports' → IsPortSet ports' ∧ (ports ≠ [] ∨ range ≠ [] → ports' ≠ [])
  | [], ports, ports', hports, h => by
    cases h
    exact ⟨hports, fun hne => hne.elim id (fun hne => absurd rfl hne)⟩
  | port :: range, ports, ports', hports, h => by
    rw [insertPorts] at h
    split at h
    · cases h
    · next hle =>
      obtain ⟨hset, hne⟩ := insertPorts_spec range ⟨sorted_insertPort port hports.1, Nat.not_lt.1 hle⟩ h
      exact ⟨hset, fun _ => hne (.inl (insertPort_ne_nil port ports))⟩

theorem portRange_ne_nil {first last : UInt16} (h : ¬ last < first) : portRange first last ≠ [] := by
  rw [UInt16.not_lt, UInt16.le_iff_toNat_le] at h
  intro hnil
  have hlength := congrArg List.length hnil
  rw [portRange, List.length_map, List.length_range', List.length_nil] at hlength
  omega

/-- **One item of a port list adds its ports**: what is accepted is a nonempty ordered set. -/
theorem addProbePorts_spec {item : Text} {ports ports' : List UInt16} (hports : IsPortSet ports)
    (h : addProbePorts item ports = .ok ports') : ports'.Pairwise (· < ·) ∧ ports' ≠ [] := by
  unfold addProbePorts at h
  split at h
  · cases h
  split at h
  · next first last _ =>
    cases hfirst : parseProbePort first with
    | error e => simp only [hfirst, bind, Except.bind] at h; cases h
    | ok first =>
      cases hlast : parseProbePort last with
      | error e => simp only [hfirst, hlast, bind, Except.bind] at h; cases h
      | ok last =>
        simp only [hfirst, hlast, bind, Except.bind] at h
        split at h
        · cases h
        · next hrange =>
          obtain ⟨hset, hne⟩ := insertPorts_spec _ hports h
          exact ⟨hset.1, hne (.inr (portRange_ne_nil hrange))⟩
  · cases hport : parseProbePort item with
    | error e => simp only [hport, bind, Except.bind] at h; cases h
    | ok port =>
      simp only [hport, bind, Except.bind] at h
      cases h
      exact ⟨sorted_insertPort port hports.1, insertPort_ne_nil port ports⟩

theorem probePortsFrom_spec : ∀ (items : List Text) {ports ports' : List UInt16}, IsPortSet ports →
    probePortsFrom items ports = .ok ports' → IsPortSet ports' ∧ (ports ≠ [] ∨ items ≠ [] → ports' ≠ [])
  | [], ports, ports', hports, h => by
    cases h
    exact ⟨hports, fun hne => hne.elim id (fun hne => absurd rfl hne)⟩
  | item :: items, ports, ports', hports, h => by
    rw [probePortsFrom] at h
    cases hadd : addProbePorts (trim item) ports with
    | error e => simp only [hadd, bind, Except.bind] at h; cases h
    | ok added =>
      simp only [hadd, bind, Except.bind] at h
      split at h
      · cases h
      · next hle =>
        obtain ⟨hsorted, hne⟩ := addProbePorts_spec hports hadd
        obtain ⟨hset, hne'⟩ := probePortsFrom_spec items ⟨hsorted, Nat.not_lt.1 hle⟩ h
        exact ⟨hset, fun _ => hne' (.inl hne)⟩

/-- **A port list that is accepted** holds between one and 4096 ports, in ascending order and each once. -/
theorem parseProbePorts_spec {value : Text} {ports : List UInt16} (h : parseProbePorts value = .ok ports) :
    ports ≠ [] ∧ ports.Pairwise (· < ·) ∧ ports.length ≤ maxProbePorts := by
  obtain ⟨hset, hne⟩ := probePortsFrom_spec _ ⟨List.Pairwise.nil, Nat.zero_le _⟩ h
  exact ⟨hne (.inr (splitAll_ne_nil ',' value)), hset.1, hset.2⟩

/-- The locals of the loop of `parse_probe_arguments`. -/
structure ProbeOptions where
  host : Option Text
  ports : Option (List UInt16)
  filter : Option TcpProbeStatus
  timeoutMs : UInt64

def probeOption (parsed : ProbeOptions) (argument : Text) (value : Option Text) :
    Except IoError (ProbeOptions × Bool) :=
  if argument = "--filter" then do
    let value ← requireValue "--filter requires open, closed, or failed" value
    let filter ← parseProbeFilter value
    if parsed.filter.isSome then invalidArgument "probe filter was specified more than once"
    else return ({ parsed with filter := some filter }, true)
  else if argument = "--timeout" then do
    let timeoutMs ← parseOptionValue (2 ^ 64 - 1) "--timeout" value
    if ¬ (100 ≤ timeoutMs ∧ timeoutMs ≤ 60000) then
      invalidArgument "--timeout must be between 100 and 60000 milliseconds"
    else return ({ parsed with timeoutMs := UInt64.ofNat timeoutMs }, true)
  else if isOption argument then invalidArgument ("unknown probe option: " ++ argument)
  else if parsed.host.isNone then return ({ parsed with host := some argument }, false)
  else if parsed.ports.isNone then do
    let ports ← parseProbePorts argument
    return ({ parsed with ports := some ports }, false)
  else invalidArgument ("unexpected probe argument: " ++ argument)

def parseProbeArguments (arguments : List Text) : Except IoError ProbeArguments := do
  let parsed ← parseLoop probeOption arguments ⟨none, none, none, 3000⟩
  match parsed.host with
  | none => invalidArgument "probe requires a host"
  | some host => return ⟨host, parsed.ports.getD [443], parsed.filter, parsed.timeoutMs⟩

/-! ## `traffic` and `watch` -/

structure TrafficArguments where
  selection : Option Text
  intervalMs : UInt64
  watch : Bool
  deriving DecidableEq, Repr

def trafficArgument (parsed : TrafficArguments) (argument : Text) (value : Option Text) :
    Except IoError (TrafficArguments × Bool) :=
  if argument = "--watch" then return ({ parsed with watch := true }, false)
  else if argument = "--interval" then do
    let intervalMs ← parseOptionValue (2 ^ 64 - 1) "--interval" value
    if ¬ (100 ≤ intervalMs ∧ intervalMs ≤ 60000) then
      invalidArgument "--interval must be between 100 and 60000 milliseconds"
    else return ({ parsed with intervalMs := UInt64.ofNat intervalMs }, true)
  else if isOption argument then invalidArgument ("unknown traffic option: " ++ argument)
  else if parsed.selection.isSome then invalidArgument "traffic accepts only one interface"
  else return ({ parsed with selection := some argument }, false)

def parseTrafficArguments (arguments : List Text) : Except IoError TrafficArguments :=
  parseLoop trafficArgument arguments ⟨none, 1000, false⟩

inductive WatchFilter where
  | link
  | address
  | route
  | neighbor
  deriving DecidableEq, Repr

def parseWatchFilter (value : Text) : Except IoError WatchFilter :=
  if value = "link" then .ok .link
  else if value = "address" then .ok .address
  else if value = "route" then .ok .route
  else if value = "neighbor" then .ok .neighbor
  else invalidArgument "--filter must be link, address, route, or neighbor"

def parseWatchArguments : List Text → Except IoError (Option WatchFilter)
  | [] => .ok none
  | option :: rest =>
    match rest with
    | [value] =>
      if option = "--filter" then (parseWatchFilter value).map some
      else if isOption option then invalidArgument ("unknown watch option: " ++ option)
      else invalidArgument "watch accepts only --filter link|address|route|neighbor"
    | _ =>
      if option = "--filter" ∧ rest = [] then invalidArgument "--filter requires link, address, route, or neighbor"
      else if isOption option then invalidArgument ("unknown watch option: " ++ option)
      else invalidArgument "watch accepts only --filter link|address|route|neighbor"

end Networkrs
