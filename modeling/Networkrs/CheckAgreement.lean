import Networkrs.Check
import Networkrs.Lib.Tally
/-!
# CheckAgreement — the two health checks count the same

What there is to warn of is counted on what the calls return.  Each part of `check` and of `check_json` adds its
conditions to its counter (`adds_textChecks`, `adds_jsonChecks`), so the two agree below the limit of the narrower
counter, and only there (`checks_agree_iff`).
-/
namespace Networkrs

open Machine

variable (calls : CheckCalls)

/-! ## The records of a report -/

/-- The status of a record. -/
def recordStatus : Json.Value → Option Text
  | .object fields =>
    fields.findSome? fun field =>
      match field with
      | (name, .string value) => if name = "status" then some value else none
      | _ => none
  | _ => none

def isWarning (record : Json.Value) : Bool := recordStatus record = some ("warning" : Text)

/-! ## What there is to warn of -/

def interfaceWarnings (inputs : CheckInputs) : Nat := if interfaceIsUp inputs then 0 else 1

def gatewayWarnings (inputs : CheckInputs) : Nat :=
  if inputs.route.gateway ≠ Ipv4Addr.unspecified ∧ inputs.gatewayNeighbor = none then 1 else 0

def dnsWarnings (inputs : CheckInputs) : Nat := if inputs.nameservers = [] then 1 else 0

/-- An echo that fails, but for want of permission, or that nothing answers. -/
def echoFails : Except IoError PingResult → Bool
  | .ok result => result.received = 0
  | .error e => !isDenied e

def icmpWarnings (inputs : CheckInputs) : Nat :=
  if inputs.route.gateway ≠ Ipv4Addr.unspecified ∧ echoFails (calls.echo inputs.route.gateway) = true then 1 else 0

/-- An address without a route, or at which no host is reached, when it is the nameserver at a place. -/
def addressFails (place : Nat) (address : IpAddr) : Bool :=
  match calls.routeTo place address with
  | .error _ => true
  | .ok _ =>
    match calls.connect place address 53 2000 with
    | .ok () => false
    | .error e => !isConnectionRefused e

def nameserverWarnings (nameserver : Text × Nat) : Nat :=
  if (IpAddr.parse nameserver.1).any (addressFails calls nameserver.2) then 1 else 0

def activeWarnings (active : Bool) (inputs : CheckInputs) : Nat :=
  if active then icmpWarnings calls inputs + (inputs.nameservers.zipIdx.map (nameserverWarnings calls)).sum else 0

/-- **The conditions to warn of**, counted on what the calls return. -/
def warningCount (active : Bool) (inputs : CheckInputs) : Nat :=
  interfaceWarnings inputs + (gatewayWarnings inputs + (dnsWarnings inputs + activeWarnings calls active inputs))

/-! ## Each part counts its conditions -/

def textCount (report : TextReport) : Nat := report.warnings.toInt.toNat

def TextGood (report : TextReport) : Prop := 0 ≤ report.warnings.toInt

def TextAdds (f : TextReport → Checked TextReport) (n : Nat) : Prop := Tally.Adds textCount (2 ^ 31) TextGood f n

def jsonCount (report : JsonReport) : Nat := report.warnings.toNat

/-- The records with a warning are those that were counted. -/
def JsonGood (report : JsonReport) : Prop := report.checks.countP isWarning = report.warnings.toNat

def JsonAdds (f : JsonReport → Checked JsonReport) (n : Nat) : Prop := Tally.Adds jsonCount (2 ^ 32) JsonGood f n

theorem textAdds_println (line : Text) : TextAdds (fun report => .ok (report.println line)) 0 :=
  Tally.Adds.pure (fun _ h => h) (fun _ => rfl)

theorem textAdds_warn (line : Text) : TextAdds (fun report => report.warn line) 1 where
  ok := by
    intro report hgood hlt
    have hnonneg : 0 ≤ report.warnings.toInt := hgood
    unfold textCount at hlt ⊢
    have hone : (1 : Int32).toInt = 1 := rfl
    have hsum : (report.warnings + 1).toInt = report.warnings.toInt + 1 := by
      rw [Int32.toInt_add, hone, Int.bmod_eq_of_le (by omega) (by omega)]
    refine ⟨{ lines := report.lines ++ [line], warnings := report.warnings + 1 }, ?_, ?_, ?_⟩
    · unfold TextReport.warn i32Add
      rw [hone, if_pos (by omega)]
      rfl
    · show 0 ≤ (report.warnings + 1).toInt
      omega
    · rw [hsum]
      omega
  overflow := by
    intro report hgood hlt hle
    have hnonneg : 0 ≤ report.warnings.toInt := hgood
    unfold textCount at hle
    have hone : (1 : Int32).toInt = 1 := rfl
    unfold TextReport.warn i32Add
    rw [hone, if_neg (by omega)]
    rfl

theorem jsonAdds_push {record : Json.Value} (h : isWarning record = false) :
    JsonAdds (fun report => .ok (report.push record)) 0 := by
  refine Tally.Adds.pure ?_ (fun _ => rfl)
  intro report hgood
  unfold JsonGood at hgood ⊢
  show (report.checks ++ [record]).countP isWarning = report.warnings.toNat
  rw [List.countP_append, List.countP_singleton, h, hgood]
  rfl

theorem jsonAdds_warn {record : Json.Value} (h : isWarning record = true) :
    JsonAdds (fun report => report.warn record) 1 where
  ok := by
    intro report hgood hlt
    unfold jsonCount at hlt ⊢
    have hone : (1 : UInt32).toNat = 1 := rfl
    have hsum : (report.warnings + 1).toNat = report.warnings.toNat + 1 := by
      rw [UInt32.toNat_add, hone, Nat.mod_eq_of_lt hlt]
    refine ⟨{ checks := report.checks ++ [record], warnings := report.warnings + 1 }, ?_, ?_, hsum⟩
    · have hsize : UInt32.size = 2 ^ 32 := rfl
      unfold JsonReport.warn u32Add
      rw [hone, hsize, if_pos hlt]
      rfl
    · unfold JsonGood at hgood ⊢
      rw [List.countP_append, List.countP_singleton, h, hgood, hsum]
      rfl
  overflow := by
    intro report _ _ hle
    unfold jsonCount at hle
    have hone : (1 : UInt32).toNat = 1 := rfl
    have hsize : UInt32.size = 2 ^ 32 := rfl
    unfold JsonReport.warn u32Add
    rw [hone, if_neg (by omega)]
    rfl

theorem zero_lt_iff {n : UInt32} : 0 < n ↔ n ≠ 0 := by
  rw [UInt32.lt_iff_toNat_lt, ne_eq, ← UInt32.toNat_inj]
  exact Nat.pos_iff_ne_zero

section

variable (inputs : CheckInputs)

theorem adds_textInterface : TextAdds (textInterface inputs) (interfaceWarnings inputs) := by
  unfold textInterface interfaceWarnings
  cases interfaceIsUp inputs with
  | true => exact textAdds_println _
  | false => exact textAdds_warn _

theorem adds_jsonInterface : JsonAdds (jsonInterface inputs) (interfaceWarnings inputs) := by
  unfold jsonInterface interfaceWarnings
  cases interfaceIsUp inputs with
  | true => exact jsonAdds_push rfl
  | false => exact jsonAdds_warn rfl

theorem adds_textDns : TextAdds (textDns inputs) (dnsWarnings inputs) := by
  unfold textDns dnsWarnings
  cases inputs.nameservers with
  | nil => exact textAdds_warn _
  | cons nameserver rest => exact textAdds_println _

theorem adds_jsonDns : JsonAdds (jsonDns inputs) (dnsWarnings inputs) := by
  unfold jsonDns dnsWarnings
  cases inputs.nameservers with
  | nil => exact jsonAdds_warn rfl
  | cons nameserver rest => exact jsonAdds_push rfl

/-! The parts with more outcomes branch alike in both functions, whatever they report in each branch. -/

section

variable {σ : Type} {count : σ → Nat} {limit : Nat} {Good : σ → Prop}

theorem adds_gateway {direct missing : σ → Checked σ} {found : Neighbor → σ → Checked σ}
    (hdirect : Tally.Adds count limit Good direct 0)
    (hfound : ∀ neighbor, Tally.Adds count limit Good (found neighbor) 0)
    (hmissing : Tally.Adds count limit Good missing 1) :
    Tally.Adds count limit Good
      (fun report =>
        if inputs.route.gateway = Ipv4Addr.unspecified then direct report
        else
          match inputs.gatewayNeighbor with
          | some neighbor => found neighbor report
          | none => missing report)
      (gatewayWarnings inputs) := by
  unfold gatewayWarnings
  by_cases h : inputs.route.gateway = Ipv4Addr.unspecified
  · rw [if_neg (fun hwarn => hwarn.1 h)]
    simp only [if_pos h]
    exact hdirect
  · simp only [if_neg h]
    cases inputs.gatewayNeighbor with
    | some neighbor =>
      rw [if_neg (fun hwarn => by cases hwarn.2)]
      exact hfound neighbor
    | none =>
      rw [if_pos ⟨h, rfl⟩]
      exact hmissing

theorem adds_icmp {direct : σ → Checked σ} {answered unanswered : PingResult → σ → Checked σ}
    {denied failed : IoError → σ → Checked σ} (hdirect : Tally.Adds count limit Good direct 0)
    (hanswered : ∀ result, Tally.Adds count limit Good (answered result) 0)
    (hunanswered : ∀ result, Tally.Adds count limit Good (unanswered result) 1)
    (hdenied : ∀ e, Tally.Adds count limit Good (denied e) 0)
    (hfailed : ∀ e, Tally.Adds count limit Good (failed e) 1) :
    Tally.Adds count limit Good
      (fun report =>
        if inputs.route.gateway = Ipv4Addr.unspecified then direct report
        else
          match calls.echo inputs.route.gateway with
          | .ok result => if 0 < result.received then answered result report else unanswered result report
          | .error e => if isDenied e then denied e report else failed e report)
      (icmpWarnings calls inputs) := by
  unfold icmpWarnings
  by_cases h : inputs.route.gateway = Ipv4Addr.unspecified
  · rw [if_neg (fun hwarn => hwarn.1 h)]
    simp only [if_pos h]
    exact hdirect
  · simp only [if_neg h]
    cases calls.echo inputs.route.gateway with
    | ok result =>
      by_cases hreceived : 0 < result.received
      · have hfails : ¬ echoFails (.ok result) = true := fun h => zero_lt_iff.1 hreceived (of_decide_eq_true h)
        rw [if_neg (fun hwarn => hfails hwarn.2)]
        simp only [if_pos hreceived]
        exact hanswered result
      · have hfails : echoFails (.ok result) = true := decide_eq_true (not_not.1 (fun h => hreceived (zero_lt_iff.2 h)))
        rw [if_pos ⟨h, hfails⟩]
        simp only [if_neg hreceived]
        exact hunanswered result
    | error e =>
      dsimp only
      cases hcode : isDenied e with
      | true =>
        rw [if_neg (fun hwarn => by simp [echoFails, hcode] at hwarn)]
        exact hdenied e
      | false =>
        rw [if_pos ⟨h, by simp [echoFails, hcode]⟩]
        exact hfailed e

theorem adds_nameserver {skipped : σ → Checked σ} {unrouted : IpAddr → IoError → σ → Checked σ}
    {connected refused : IpAddr → Route → σ → Checked σ} {failed : IpAddr → Route → IoError → σ → Checked σ}
    (nameserver : Text × Nat) (hskipped : Tally.Adds count limit Good skipped 0)
    (hunrouted : ∀ address e, Tally.Adds count limit Good (unrouted address e) 1)
    (hconnected : ∀ address route, Tally.Adds count limit Good (connected address route) 0)
    (hrefused : ∀ address route, Tally.Adds count limit Good (refused address route) 0)
    (hfailed : ∀ address route e, Tally.Adds count limit Good (failed address route e) 1) :
    Tally.Adds count limit Good
      (fun report =>
        match IpAddr.parse nameserver.1 with
        | none => skipped report
        | some address =>
          match calls.routeTo nameserver.2 address with
          | .error e => unrouted address e report
          | .ok route =>
            match calls.connect nameserver.2 address 53 2000 with
            | .ok () => connected address route report
            | .error e => if isConnectionRefused e then refused address route report else failed address route e report)
      (nameserverWarnings calls nameserver) := by
  unfold nameserverWarnings
  cases IpAddr.parse nameserver.1 with
  | none => exact hskipped
  | some address =>
    rw [Option.any_some, addressFails]
    dsimp only
    cases calls.routeTo nameserver.2 address with
    | error e => exact hunrouted address e
    | ok route =>
      dsimp only
      cases calls.connect nameserver.2 address 53 2000 with
      | ok _ => exact hconnected address route
      | error e =>
        dsimp only
        by_cases h : isConnectionRefused e = true
        · rw [if_neg (by simp [h])]
          simp only [if_pos h]
          exact hrefused address route
        · rw [if_pos (by simp [h])]
          simp only [if_neg h]
          exact hfailed address route e

end

theorem adds_textGateway : TextAdds (textGateway inputs) (gatewayWarnings inputs) :=
  adds_gateway inputs (textAdds_println _) (fun _ => textAdds_println _) (textAdds_warn _)

theorem adds_jsonGateway : JsonAdds (jsonGateway inputs) (gatewayWarnings inputs) :=
  adds_gateway inputs (jsonAdds_push rfl) (fun _ => jsonAdds_push rfl) (jsonAdds_warn rfl)

theorem adds_textIcmp : TextAdds (textIcmp calls inputs) (icmpWarnings calls inputs) :=
  adds_icmp calls inputs (Tally.Adds.pure (fun _ h => h) (fun _ => rfl)) (fun _ => textAdds_println _)
    (fun _ => textAdds_warn _) (fun _ => textAdds_println _) (fun _ => textAdds_warn _)

theorem adds_jsonIcmp : JsonAdds (jsonIcmp calls inputs) (icmpWarnings calls inputs) :=
  adds_icmp calls inputs (Tally.Adds.pure (fun _ h => h) (fun _ => rfl)) (fun _ => jsonAdds_push rfl)
    (fun _ => jsonAdds_warn rfl) (fun _ => jsonAdds_push rfl) (fun _ => jsonAdds_warn rfl)

theorem adds_textNameserver (nameserver : Text × Nat) :
    TextAdds (fun report => textNameserver calls report nameserver) (nameserverWarnings calls nameserver) :=
  adds_nameserver calls nameserver (textAdds_println _) (fun _ _ => textAdds_warn _)
    (fun _ _ => Tally.Adds.bind (textAdds_println _) (textAdds_println _))
    (fun _ _ => Tally.Adds.bind (textAdds_println _) (textAdds_println _))
    (fun _ _ _ => Tally.Adds.bind (textAdds_println _) (textAdds_warn _))

theorem adds_jsonNameserver (interfaceNames : Keyed.Map Int32 Text) (nameserver : Text × Nat) :
    JsonAdds (fun report => jsonNameserver calls interfaceNames report nameserver)
      (nameserverWarnings calls nameserver) :=
  adds_nameserver calls nameserver (jsonAdds_push rfl) (fun _ _ => jsonAdds_warn rfl)
    (fun _ _ => Tally.Adds.bind (jsonAdds_push rfl) (jsonAdds_push rfl))
    (fun _ _ => Tally.Adds.bind (jsonAdds_push rfl) (jsonAdds_push rfl))
    (fun _ _ _ => Tally.Adds.bind (jsonAdds_push rfl) (jsonAdds_warn rfl))

theorem adds_textActive :
    TextAdds (textActive calls inputs)
      (icmpWarnings calls inputs + (inputs.nameservers.zipIdx.map (nameserverWarnings calls)).sum) := by
  have hloop : TextAdds (fun report => inputs.nameservers.zipIdx.foldlM (textNameserver calls) report)
      (inputs.nameservers.zipIdx.map (nameserverWarnings calls)).sum :=
    Tally.Adds.foldlM (adds_textNameserver calls) inputs.nameservers.zipIdx
  have hactive := (textAdds_println "  Active checks:").bind ((adds_textIcmp calls inputs).bind hloop)
  rwa [Nat.zero_add] at hactive

theorem adds_jsonActive :
    JsonAdds (jsonActive calls inputs)
      (icmpWarnings calls inputs + (inputs.nameservers.zipIdx.map (nameserverWarnings calls)).sum) :=
  (adds_jsonIcmp calls inputs).bind
    (Tally.Adds.foldlM (adds_jsonNameserver calls (interfaceNames calls.system)) inputs.nameservers.zipIdx)

/-- **The text check counts its conditions.** -/
theorem adds_textChecks (active : Bool) :
    TextAdds (textChecks calls active inputs) (warningCount calls active inputs) := by
  refine (adds_textInterface inputs).bind ((adds_textGateway inputs).bind ((adds_textDns inputs).bind ?_))
  cases active with
  | true => exact adds_textActive calls inputs
  | false => exact Tally.Adds.pure (fun _ h => h) (fun _ => rfl)

/-- **The JSON check counts the same conditions**, each with a record. -/
theorem adds_jsonChecks (active : Bool) :
    JsonAdds (jsonChecks calls active inputs) (warningCount calls active inputs) := by
  refine (adds_jsonInterface inputs).bind ((adds_jsonGateway inputs).bind ((adds_jsonDns inputs).bind ?_))
  cases active with
  | true => exact adds_jsonActive calls inputs
  | false => exact Tally.Adds.pure (fun _ h => h) (fun _ => rfl)

end

/-! ## Agreement -/

def resultText (warnings : Nat) : Text := if warnings = 0 then "ok" else decimal warnings ++ " warning(s)"

def resultLine (warnings : Nat) : Text := "  Result: " ++ resultText warnings

/-- Both checks fail, or both report one count of warnings, which is that of the records with a warning, and the
verdict it makes. -/
def ChecksAgree (active : Bool) : Prop :=
  match check calls active, checkJson calls active with
  | .ok (.error _), .ok (.error _) => True
  | .ok (.ok (lines, healthy)), .ok (.ok (value, healthy')) =>
    ∃ warnings checks, lines.getLast? = some (resultLine warnings) ∧
      value = .object [("active", .bool active), ("healthy", .bool healthy'), ("warnings", Json.ofNat warnings),
        ("checks", .array checks)] ∧
      checks.countP isWarning = warnings ∧ healthy = healthy' ∧ (healthy = true ↔ warnings = 0)
  | _, _ => False

/-- The check fails before it counts, or there are fewer conditions to warn of than the counter of `check` holds. -/
def CountFits (active : Bool) : Prop :=
  ∀ inputs, checkInputs calls active = .ok inputs → warningCount calls active inputs < 2 ^ 31

variable {calls}

theorem check_of_error {active : Bool} {e : IoError} (h : checkInputs calls active = .error e) :
    check calls active = .ok (.error e) := by
  unfold check
  rw [h]
  rfl

theorem checkJson_of_error {active : Bool} {e : IoError} (h : checkInputs calls active = .error e) :
    checkJson calls active = .ok (.error e) := by
  unfold checkJson
  rw [h]
  rfl

theorem check_of_inputs {active : Bool} {inputs : CheckInputs} (h : checkInputs calls active = .ok inputs)
    (hfits : warningCount calls active inputs < 2 ^ 31) :
    ∃ lines, check calls active = .ok (.ok (lines ++ [resultLine (warningCount calls active inputs)],
      decide (warningCount calls active inputs = 0))) := by
  have hadds := adds_textChecks calls inputs active
  obtain ⟨report, hrun, hgood, hcount⟩ := hadds.ok
    { lines := ["Network check", "  Default route: ok via " ++ inputs.route.gateway.display ++ " dev " ++
        inputs.route.interface ++ " metric " ++ decimal inputs.route.metric.toNat]
      warnings := 0 } (Int.le_refl 0) (by rw [show textCount _ = 0 from rfl, Nat.zero_add]; exact hfits)
  rw [show textCount ⟨_, 0⟩ = 0 from rfl, Nat.zero_add] at hcount
  have hint : report.warnings.toInt = (warningCount calls active inputs : Int) := by
    rw [← hcount]
    exact (Int.toNat_of_nonneg hgood).symm
  have hzero : report.warnings = 0 ↔ warningCount calls active inputs = 0 := by
    rw [← Int32.toInt_inj, hint]
    exact Int.natCast_eq_zero
  have hresult : (if report.warnings = 0 then ("ok" : Text) else decimalInt report.warnings.toInt ++ " warning(s)") =
      resultText (warningCount calls active inputs) := by
    unfold resultText
    by_cases hw : warningCount calls active inputs = 0
    · rw [if_pos hw, if_pos (hzero.2 hw)]
    · rw [if_neg hw, if_neg (fun h => hw (hzero.1 h)), hint, decimalInt, if_neg (by omega), Int.natAbs_natCast]
  refine ⟨report.lines, ?_⟩
  unfold check
  rw [h]
  dsimp only
  rw [hrun, ok_bind, hresult, decide_eq_decide.2 hzero]
  rfl

theorem check_of_overflow {active : Bool} {inputs : CheckInputs} (h : checkInputs calls active = .ok inputs)
    (hfull : 2 ^ 31 ≤ warningCount calls active inputs) : check calls active = .error .overflow := by
  have hover := (adds_textChecks calls inputs active).overflow
    { lines := ["Network check", "  Default route: ok via " ++ inputs.route.gateway.display ++ " dev " ++
        inputs.route.interface ++ " metric " ++ decimal inputs.route.metric.toNat]
      warnings := 0 } (Int.le_refl 0) (show 0 < 2 ^ 31 by decide)
    (by rw [show textCount ⟨_, 0⟩ = 0 from rfl, Nat.zero_add]; exact hfull)
  unfold check
  rw [h]
  dsimp only
  rw [hover]
  rfl

theorem not_agree_of_overflow {active : Bool} {inputs : CheckInputs} (h : checkInputs calls active = .ok inputs)
    (hfull : 2 ^ 31 ≤ warningCount calls active inputs) : ¬ ChecksAgree calls active := by
  unfold ChecksAgree
  rw [check_of_overflow h hfull]
  exact fun hagree => hagree

theorem checkJson_of_inputs {active : Bool} {inputs : CheckInputs} (h : checkInputs calls active = .ok inputs)
    (hfits : warningCount calls active inputs < 2 ^ 32) :
    ∃ checks, checkJson calls active = .ok (.ok (.object [("active", .bool active),
        ("healthy", .bool (decide (warningCount calls active inputs = 0))),
        ("warnings", Json.ofNat (warningCount calls active inputs)), ("checks", .array checks)],
        decide (warningCount calls active inputs = 0))) ∧
      checks.countP isWarning = warningCount calls active inputs := by
  have hadds := adds_jsonChecks calls inputs active
  obtain ⟨report, hrun, hgood, hcount⟩ := hadds.ok
    { checks := [jsonCheckItem "default-route" "ok" ("via " ++ inputs.route.gateway.display ++ " dev " ++
        inputs.route.interface ++ " metric " ++ decimal inputs.route.metric.toNat)]
      warnings := 0 } rfl (by rw [show jsonCount ⟨_, 0⟩ = 0 from rfl, Nat.zero_add]; exact hfits)
  rw [show jsonCount ⟨_, 0⟩ = 0 from rfl, Nat.zero_add] at hcount
  have hnat : report.warnings.toNat = warningCount calls active inputs := hcount
  have hzero : report.warnings = 0 ↔ warningCount calls active inputs = 0 := by
    rw [← UInt32.toNat_inj, hnat]
    exact Iff.rfl
  refine ⟨report.checks, ?_, hgood.trans hnat⟩
  unfold checkJson
  rw [h]
  dsimp only
  rw [hrun, ok_bind, hnat, decide_eq_decide.2 hzero]
  rfl

/-- **The checks agree exactly while the counter of `check` holds what there is to warn of.** -/
theorem checks_agree_iff (calls : CheckCalls) (active : Bool) : ChecksAgree calls active ↔ CountFits calls active := by
  unfold CountFits
  cases h : checkInputs calls active with
  | error e =>
    unfold ChecksAgree
    rw [check_of_error h, checkJson_of_error h]
    exact iff_of_true trivial (fun inputs hinputs => by cases hinputs)
  | ok inputs =>
    by_cases hfits : warningCount calls active inputs < 2 ^ 31
    · obtain ⟨lines, hcheck⟩ := check_of_inputs h hfits
      obtain ⟨checks, hjson, hwarnings⟩ := checkJson_of_inputs h (by omega)
      unfold ChecksAgree
      rw [hcheck, hjson]
      refine iff_of_true ⟨_, checks, ?_, rfl, hwarnings, rfl, ?_⟩ ?_
      · rw [List.getLast?_append, List.getLast?_singleton]
        rfl
      · exact decide_eq_true_iff
      · intro inputs' hinputs
        cases hinputs
        exact hfits
    · exact iff_of_false (not_agree_of_overflow h (Nat.not_lt.1 hfits)) (fun hall => hfits (hall inputs rfl))

def nameserverLine : Text := "nameserver 0.0.0.0"

/-- A resolver configuration with one nameserver on each of `n` lines. -/
def manyNameservers (n : Nat) : Text := (List.replicate n (nameserverLine ++ ['\n'])).flatten

theorem parseNameservers_manyNameservers : ∀ (n : Nat),
    parseNameservers (manyNameservers n) = List.replicate n ("0.0.0.0" : Text)
  | 0 => rfl
  | n + 1 => by
    have ih := parseNameservers_manyNameservers n
    have hline : parseNameserver nameserverLine = some ("0.0.0.0" : Text) := by decide +kernel
    unfold parseNameservers manyNameservers at ih ⊢
    rw [List.replicate_succ, List.flatten_cons, List.append_assoc, List.singleton_append,
      lines_append _ (by decide +kernel) (by decide +kernel), List.filterMap_cons_some hline, ih]
    rfl

theorem warningCount_manyNameservers (n : Nat) :
    n ≤ warningCount (wiredMachine (manyNameservers n) []) true
      { route := ⟨"eth0", Ipv4Addr.new 10 0 0 1, 100⟩
        state := "up"
        carrier := some "1"
        gatewayNeighbor := none
        nameservers := parseNameservers (manyNameservers n) } := by
  have hone : ∀ entry ∈ (List.replicate n ("0.0.0.0" : Text)).zipIdx,
      nameserverWarnings (wiredMachine (manyNameservers n) []) entry = 1 := by
    rintro ⟨nameserver, place⟩ hentry
    obtain rfl := List.eq_of_mem_replicate (List.fst_mem_of_mem_zipIdx hentry)
    rfl
  have hsum : ((parseNameservers (manyNameservers n)).zipIdx.map
      (nameserverWarnings (wiredMachine (manyNameservers n) []))).sum = n := by
    rw [parseNameservers_manyNameservers, List.map_congr_left hone, List.map_const', List.sum_replicate_nat,
      List.length_zipIdx, List.length_replicate, Nat.mul_one]
  unfold warningCount activeWarnings
  rw [if_pos rfl]
  dsimp only
  rw [hsum]
  omega

theorem not_agree_of_manyNameservers {n : Nat} (hn : 2 ^ 31 ≤ n) :
    ¬ ChecksAgree (wiredMachine (manyNameservers n) []) true :=
  not_agree_of_overflow (wiredMachine_inputs _ _ _) (Nat.le_trans hn (warningCount_manyNameservers n))

/-- More nameservers without a route than the counter of `check` holds. -/
theorem unreachable_nameservers_overflow : ¬ ChecksAgree (wiredMachine (manyNameservers (2 ^ 31)) []) true :=
  not_agree_of_manyNameservers (Nat.le_refl (2 ^ 31))

end Networkrs
