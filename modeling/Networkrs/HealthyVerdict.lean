import Networkrs.CheckAgreement
/-!
# HealthyVerdict — what a healthy verdict says about the machine

A check that sends nothing is healthy exactly when it has nothing to warn of (`reports_healthy_iff`): there is a usable
default route, its interface is up with a carrier, a nameserver is configured, and the gateway's address is resolved.
The neighbor table covers every interface and the check compares addresses only, so the verdict is sound exactly when
the address is not resolved on other interfaces alone (`healthy_is_sound_iff`).
-/
namespace Networkrs

open Machine

variable (calls : CheckCalls)

/-- The index of an interface, as `interface_names` reads it. -/
def interfaceIndexOf (system : System) (interface : Text) : Option Int32 :=
  (readTrimmed system (pathJoin (pathJoin sysClassNet interface) "ifindex")).bind parseI32

def ReportsHealthy : Prop :=
  (∃ lines, check calls false = .ok (.ok (lines, true))) ∨ ∃ value, checkJson calls false = .ok (.ok (value, true))

/-- The machine routes by default through an interface that is up with a carrier, and a nameserver is configured. -/
structure Usable (contents : Text) (route : DefaultIpv4Route) (neighbors : List Neighbor) : Prop where
  table : calls.system.readToString procNetRoute = .ok contents
  defaultRoute : parseDefaultIpv4Route contents = some route
  isUp : interfaceState calls.system (pathJoin sysClassNet route.interface)
    (interfaceKind calls.system (pathJoin sysClassNet route.interface)) = "up"
  hasCarrier : readTrimmed calls.system (pathJoin (pathJoin sysClassNet route.interface) "carrier") = some "1"
  configured : nameservers calls.system ≠ []
  dump : calls.ipv4Neighbors = .ok neighbors

/-- The gateway has an entry in the neighbor table, on the interface of the route. -/
def ResolvedOnRoute (route : DefaultIpv4Route) (neighbors : List Neighbor) : Prop :=
  ∃ neighbor ∈ neighbors, neighbor.address = .v4 route.gateway ∧
    interfaceIndexOf calls.system route.interface = some neighbor.interfaceIndex

/-- A healthy verdict is given on a usable machine whose gateway, if there is one, is resolved on its interface. -/
def HealthyIsSound : Prop :=
  ReportsHealthy calls → ∃ contents route neighbors, Usable calls contents route neighbors ∧
    (∃ line ∈ (lines contents).drop 1, UsableRouteLine line route) ∧
    (route.gateway = Ipv4Addr.unspecified ∨ ResolvedOnRoute calls route neighbors)

/-- A usable machine resolves its gateway's address on other interfaces only if also on that of the route. -/
def GatewayNotElsewhere : Prop :=
  ∀ contents route neighbors, Usable calls contents route neighbors → route.gateway ≠ Ipv4Addr.unspecified →
    ∀ neighbor ∈ neighbors, neighbor.address = .v4 route.gateway → ResolvedOnRoute calls route neighbors

variable {calls}

theorem warningCount_eq_zero_iff {inputs : CheckInputs} :
    warningCount calls false inputs = 0 ↔ interfaceIsUp inputs = true ∧
      (inputs.route.gateway = Ipv4Addr.unspecified ∨ inputs.gatewayNeighbor ≠ none) ∧ inputs.nameservers ≠ [] := by
  have hinterface : interfaceWarnings inputs = 0 ↔ interfaceIsUp inputs = true := by
    unfold interfaceWarnings
    split <;> simp_all
  have hgateway : gatewayWarnings inputs = 0 ↔
      inputs.route.gateway = Ipv4Addr.unspecified ∨ inputs.gatewayNeighbor ≠ none := by
    unfold gatewayWarnings
    by_cases hdirect : inputs.route.gateway = Ipv4Addr.unspecified
    · simp [hdirect]
    · by_cases hneighbor : inputs.gatewayNeighbor = none
      · simp [hdirect, hneighbor]
      · simp [hneighbor]
  have hdns : dnsWarnings inputs = 0 ↔ inputs.nameservers ≠ [] := by
    unfold dnsWarnings
    split <;> simp_all
  have hactive : activeWarnings calls false inputs = 0 := rfl
  unfold warningCount
  rw [hactive, Nat.add_zero, Nat.add_eq_zero_iff, Nat.add_eq_zero_iff, hinterface, hgateway, hdns]

theorem warningCount_le (inputs : CheckInputs) : warningCount calls false inputs ≤ 3 := by
  have hactive : activeWarnings calls false inputs = 0 := rfl
  unfold warningCount interfaceWarnings gatewayWarnings dnsWarnings
  rw [hactive]
  split <;> split <;> split <;> decide

/-- **The verdict is healthy when there is nothing to warn of.** -/
theorem reports_healthy_iff :
    ReportsHealthy calls ↔ ∃ inputs, checkInputs calls false = .ok inputs ∧ warningCount calls false inputs = 0 := by
  unfold ReportsHealthy
  cases h : checkInputs calls false with
  | error e =>
    rw [check_of_error h, checkJson_of_error h]
    refine iff_of_false ?_ (fun ⟨inputs, hinputs, _⟩ => by cases hinputs)
    rintro (⟨lines, hcheck⟩ | ⟨value, hjson⟩)
    · cases hcheck
    · cases hjson
  | ok inputs =>
    have hle := @warningCount_le calls inputs
    obtain ⟨lines, hcheck⟩ := check_of_inputs h (by omega)
    obtain ⟨checks, hjson, -⟩ := checkJson_of_inputs h (by omega)
    rw [hcheck, hjson]
    constructor
    · rintro (⟨lines', heq⟩ | ⟨value, heq⟩)
      · exact ⟨inputs, rfl, of_decide_eq_true (Prod.mk.inj (Except.ok.inj (Except.ok.inj heq))).2⟩
      · exact ⟨inputs, rfl, of_decide_eq_true (Prod.mk.inj (Except.ok.inj (Except.ok.inj heq))).2⟩
    · rintro ⟨inputs', hinputs, hzero⟩
      cases hinputs
      exact .inl ⟨_, by rw [decide_eq_true hzero]⟩

/-- **A healthy verdict means a usable machine** on which the gateway's address is in the neighbor table. -/
theorem reports_healthy_iff_usable :
    ReportsHealthy calls ↔ ∃ contents route neighbors, Usable calls contents route neighbors ∧
      (route.gateway = Ipv4Addr.unspecified ∨ ∃ neighbor ∈ neighbors, neighbor.address = .v4 route.gateway) := by
  have hfind : ∀ (neighbors : List Neighbor) (gateway : Ipv4Addr),
      neighbors.find? (fun neighbor => neighbor.address = .v4 gateway) ≠ none ↔
        ∃ neighbor ∈ neighbors, neighbor.address = .v4 gateway := by
    intro neighbors gateway
    rw [← Option.isSome_iff_ne_none, List.find?_isSome]
    simp
  rw [reports_healthy_iff]
  constructor
  · rintro ⟨inputs, hinputs, hzero⟩
    obtain ⟨contents, route, neighbors, htable, hroute, -, hdump, rfl⟩ := checkInputs_eq_ok_iff.1 hinputs
    obtain ⟨hup, hgateway, hconfigured⟩ := warningCount_eq_zero_iff.1 hzero
    obtain ⟨hstate, hcarrier⟩ := Bool.and_eq_true_iff.1 hup
    refine ⟨contents, route, neighbors,
      ⟨htable, hroute, of_decide_eq_true hstate, of_decide_eq_true hcarrier, hconfigured, hdump⟩, ?_⟩
    exact hgateway.imp_right (hfind neighbors route.gateway).1
  · rintro ⟨contents, route, neighbors, husable, hgateway⟩
    refine ⟨_, checkInputs_eq_ok_iff.2
      ⟨contents, route, neighbors, husable.table, husable.defaultRoute, nofun, husable.dump, rfl⟩, ?_⟩
    refine warningCount_eq_zero_iff.2 ⟨?_, hgateway.imp_right (hfind neighbors route.gateway).2, husable.configured⟩
    exact Bool.and_eq_true_iff.2 ⟨decide_eq_true husable.isUp, decide_eq_true husable.hasCarrier⟩

/-- **The verdict is sound exactly when no gateway is resolved on other interfaces alone.** -/
theorem healthy_is_sound_iff (calls : CheckCalls) : HealthyIsSound calls ↔ GatewayNotElsewhere calls := by
  unfold HealthyIsSound GatewayNotElsewhere
  rw [reports_healthy_iff_usable]
  constructor
  · intro hsound contents route neighbors husable hgateway neighbor hmem haddress
    obtain ⟨contents', route', neighbors', husable', -, hresolved⟩ :=
      hsound ⟨contents, route, neighbors, husable, .inr ⟨neighbor, hmem, haddress⟩⟩
    -- The table, the route and the dump are read from the machine, so they are the same.
    have hcontents : contents' = contents := Except.ok.inj (husable'.table.symm.trans husable.table)
    subst hcontents
    have hroute : route' = route := Option.some.inj (husable'.defaultRoute.symm.trans husable.defaultRoute)
    subst hroute
    have hneighbors : neighbors' = neighbors := Except.ok.inj (husable'.dump.symm.trans husable.dump)
    subst hneighbors
    exact hresolved.resolve_left hgateway
  · rintro helsewhere ⟨contents, route, neighbors, husable, hgateway⟩
    obtain ⟨line, hline, hparse⟩ := (line_of_parseDefaultIpv4Route husable.defaultRoute).1
    refine ⟨contents, route, neighbors, husable, ⟨line, hline, usable_of_parseRouteLine hparse⟩, ?_⟩
    by_cases hdirect : route.gateway = Ipv4Addr.unspecified
    · exact .inl hdirect
    · obtain ⟨neighbor, hmem, haddress⟩ := hgateway.resolve_left hdirect
      exact .inr (helsewhere contents route neighbors husable hdirect neighbor hmem haddress)

/-- The gateway's address on the third interface, where the default route leaves by the second. -/
def elsewhereNeighbor : Neighbor where
  address := .v4 (Ipv4Addr.new 10 0 0 1)
  linkAddress := some "52:54:00:12:34:56"
  interfaceIndex := 3
  state := "reachable"
  flags := ""
  protocol := none
  kind := "unicast"
  probes := none
  confirmedMsAgo := none
  usedMsAgo := none
  updatedMsAgo := none
  referenceCount := none
  masterIndex := none

/-- A gateway that only another interface has resolved passes for healthy. -/
theorem elsewhere_passes_for_healthy :
    ¬ HealthyIsSound (wiredMachine "nameserver 10.0.0.1\n" [elsewhereNeighbor]) := by
  intro hsound
  have hinputs := wiredMachine_inputs "nameserver 10.0.0.1\n" [elsewhereNeighbor] false
  have hhealthy := reports_healthy_iff.2 ⟨_, hinputs, by decide +kernel⟩
  obtain ⟨contents, route, neighbors, husable, -, hgateway⟩ := hsound hhealthy
  have hroute : route = ⟨"eth0", Ipv4Addr.new 10 0 0 1, 100⟩ := by
    have hdefault := husable.defaultRoute
    rw [← Except.ok.inj husable.table] at hdefault
    exact Option.some.inj (hdefault.symm.trans parseDefaultIpv4Route_routeTable)
  subst hroute
  obtain hdirect | ⟨neighbor, hmem, -, hindex⟩ := hgateway
  · exact absurd hdirect (by decide)
  · rw [← Except.ok.inj husable.dump] at hmem
    rw [List.mem_singleton.1 hmem] at hindex
    exact absurd hindex (by decide +kernel)

end Networkrs
