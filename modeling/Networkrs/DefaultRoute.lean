import Networkrs.System
/-!
# DefaultRoute — which row of the routing table is the default route

`parse_default_ipv4_route` drops the rows that are not usable and takes the first of those with the least metric
(`parseDefaultIpv4Route_eq_some_iff`).  So it depends on nothing but the usable rows of each metric, in their order
(`parseDefaultIpv4Route_congr`): rows that are malformed, and the order of rows with different metrics, do not matter.
-/
namespace Networkrs

open Machine

/-! ## The first of the least -/

section

variable {α : Type} (key : α → Nat)

/-- An entry with the least key of a list, and the first of those. -/
def IsFirstLeast (l : List α) (x : α) : Prop :=
  ∃ pre post, l = pre ++ x :: post ∧ (∀ y ∈ pre, key x < key y) ∧ ∀ y ∈ post, key x ≤ key y

theorem IsFirstLeast.le {key : α → Nat} {l : List α} {x : α} (h : IsFirstLeast key l x) : ∀ y ∈ l, key x ≤ key y := by
  obtain ⟨pre, post, rfl, hpre, hpost⟩ := h
  intro y hy
  rcases List.mem_append.1 hy with hy | hy
  · exact Nat.le_of_lt (hpre y hy)
  · rcases List.mem_cons.1 hy with rfl | hy
    · exact Nat.le_refl _
    · exact hpost y hy

/-- **The first of the least**, by the entries that share its key. -/
theorem isFirstLeast_iff (l : List α) (x : α) :
    IsFirstLeast key l x ↔ (l.filter (fun y => key y = key x)).head? = some x ∧ ∀ y ∈ l, key x ≤ key y := by
  constructor
  · intro h
    refine ⟨?_, h.le⟩
    obtain ⟨pre, post, rfl, hpre, -⟩ := h
    have hnone : pre.filter (fun y => key y = key x) = [] := by
      rw [List.filter_eq_nil_iff]
      intro y hy heq
      have hlt := hpre y hy
      have heq' : key y = key x := of_decide_eq_true heq
      omega
    rw [List.filter_append, hnone, List.nil_append, List.filter_cons_of_pos (by simp), List.head?_cons]
  · rintro ⟨hfirst, hle⟩
    rw [List.head?_filter, List.find?_eq_some_iff_append] at hfirst
    obtain ⟨-, pre, post, rfl, hpre⟩ := hfirst
    refine ⟨pre, post, rfl, fun y hy => ?_, fun y hy => ?_⟩
    · have hne : key y ≠ key x := by simpa using hpre y hy
      have hle' := hle y (List.mem_append_left _ hy)
      omega
    · exact hle y (List.mem_append_right _ (List.mem_cons_of_mem x hy))

theorem IsFirstLeast.unique {key : α → Nat} {l : List α} {x y : α} (hx : IsFirstLeast key l x)
    (hy : IsFirstLeast key l y) : x = y := by
  obtain ⟨hfirst, hle⟩ := (isFirstLeast_iff key l x).1 hx
  obtain ⟨hfirst', hle'⟩ := (isFirstLeast_iff key l y).1 hy
  have hmem : ∀ {z : α}, (l.filter (fun w => key w = key z)).head? = some z → z ∈ l := fun h =>
    List.mem_of_mem_filter (List.mem_of_mem_head? h)
  have hkey : key x = key y := Nat.le_antisymm (hle y (hmem hfirst')) (hle' x (hmem hfirst))
  rw [hkey, hfirst'] at hfirst
  exact (Option.some.inj hfirst).symm

theorem minByKey_eq_some_iff (l : List α) (x : α) : minByKey key l = some x ↔ IsFirstLeast key l x := by
  refine ⟨split_of_minByKey key l x, fun h => ?_⟩
  cases hmin : minByKey key l with
  | none =>
    obtain ⟨pre, post, hl, -, -⟩ := h
    rw [minByKey_eq_none_iff] at hmin
    rw [hmin] at hl
    exact absurd hl.symm (by simp)
  | some y => rw [IsFirstLeast.unique h (split_of_minByKey key l y hmin)]

/-- **Only the entries of each key matter**, in their order. -/
theorem minByKey_congr {l l' : List α}
    (h : ∀ k, l.filter (fun y => key y = k) = l'.filter (fun y => key y = k)) : minByKey key l = minByKey key l' := by
  have hmem : ∀ y, y ∈ l ↔ y ∈ l' := by
    intro y
    have hfilter : ∀ m : List α, y ∈ m ↔ y ∈ m.filter (fun z => key z = key y) := by simp
    rw [hfilter l, hfilter l', h]
  apply Option.ext
  intro x
  rw [minByKey_eq_some_iff, minByKey_eq_some_iff, isFirstLeast_iff, isFirstLeast_iff, h]
  simp only [hmem]

end

/-! ## Rows -/

/-- The rows of a table: its lines after the header. -/
def routeRows (contents : Text) : List Text := (lines contents).drop 1

def isUsableRow (line : Text) : Bool := (parseRouteLine line).isSome

def hasMetric (metric : UInt32) (line : Text) : Bool :=
  decide ((parseRouteLine line).map DefaultIpv4Route.metric = some metric)

/-- **A row is parsed exactly when it is usable.** -/
theorem parseRouteLine_eq_some_iff (line : Text) (route : DefaultIpv4Route) :
    parseRouteLine line = some route ↔ UsableRouteLine line route := by
  refine ⟨usable_of_parseRouteLine, ?_⟩
  rintro ⟨gateway, flags, references, uses, metric, rest, bits, hfields, hbits, hup, hreject, hgateway, hmetric⟩
  have hflags : ¬ (UInt32.ofNat bits &&& 0x0001 = 0 ∨ UInt32.ofNat bits &&& 0x0200 ≠ 0) :=
    not_or.2 ⟨hup, not_not.2 hreject⟩
  unfold parseRouteLine
  rw [hfields]
  dsimp only [Option.bind_eq_bind]
  rw [if_neg (by simp), hbits, Option.bind_some, if_neg hflags, hgateway, Option.bind_some, hmetric, Option.bind_some,
    UInt32.ofNat_toNat]
  rfl

theorem isUsableRow_iff (line : Text) : isUsableRow line = true ↔ ∃ route, UsableRouteLine line route := by
  unfold isUsableRow
  rw [Option.isSome_iff_exists]
  simp only [parseRouteLine_eq_some_iff]

/-- **There is no default route exactly when no row is usable.** -/
theorem parseDefaultIpv4Route_eq_none_iff (contents : Text) :
    parseDefaultIpv4Route contents = none ↔ ∀ line ∈ routeRows contents, ∀ route, ¬ UsableRouteLine line route := by
  unfold parseDefaultIpv4Route
  rw [minByKey_eq_none_iff, List.filterMap_eq_nil_iff]
  refine forall₂_congr (fun line _ => ?_)
  rw [Option.eq_none_iff_forall_ne_some]
  exact forall_congr' (fun route => not_congr (parseRouteLine_eq_some_iff line route))

/-- **The default route is the first usable row of the least metric.** -/
theorem parseDefaultIpv4Route_eq_some_iff (contents : Text) (route : DefaultIpv4Route) :
    parseDefaultIpv4Route contents = some route ↔ ∃ before line after, routeRows contents = before ++ line :: after ∧
      UsableRouteLine line route ∧ (∀ l ∈ before, ∀ r, UsableRouteLine l r → route.metric < r.metric) ∧
      ∀ l ∈ after, ∀ r, UsableRouteLine l r → route.metric ≤ r.metric := by
  unfold parseDefaultIpv4Route
  rw [minByKey_eq_some_iff]
  constructor
  · rintro ⟨pre, post, hroutes, hpre, hpost⟩
    obtain ⟨before, rest, hrows, hbefore, hrest⟩ := List.filterMap_eq_append_iff.1 hroutes
    obtain ⟨skipped, line, after, hsplit, hskipped, hline, hafter⟩ := List.filterMap_eq_cons_iff.1 hrest
    refine ⟨before ++ skipped, line, after, ?_, (parseRouteLine_eq_some_iff line route).1 hline, ?_, ?_⟩
    · rw [routeRows, hrows, hsplit, List.append_assoc]
    · intro l hl r hr
      rw [← parseRouteLine_eq_some_iff] at hr
      rcases List.mem_append.1 hl with hl | hl
      · exact UInt32.lt_iff_toNat_lt.2 (hpre r (hbefore ▸ List.mem_filterMap.2 ⟨l, hl, hr⟩))
      · rw [hskipped l hl] at hr
        cases hr
    · intro l hl r hr
      rw [← parseRouteLine_eq_some_iff] at hr
      exact UInt32.le_iff_toNat_le.2 (hpost r (hafter ▸ List.mem_filterMap.2 ⟨l, hl, hr⟩))
  · rintro ⟨before, line, after, hrows, hline, hbefore, hafter⟩
    refine ⟨before.filterMap parseRouteLine, after.filterMap parseRouteLine, ?_, fun r hr => ?_, fun r hr => ?_⟩
    · rw [show (lines contents).drop 1 = _ from hrows, List.filterMap_append, List.filterMap_cons,
        (parseRouteLine_eq_some_iff line route).2 hline]
    · obtain ⟨l, hl, hr⟩ := List.mem_filterMap.1 hr
      exact UInt32.lt_iff_toNat_lt.1 (hbefore l hl r ((parseRouteLine_eq_some_iff l r).1 hr))
    · obtain ⟨l, hl, hr⟩ := List.mem_filterMap.1 hr
      exact UInt32.le_iff_toNat_le.1 (hafter l hl r ((parseRouteLine_eq_some_iff l r).1 hr))

/-! ## What does not matter -/

/-- The routes of one metric are those of its rows. -/
theorem filter_routes (rows : List Text) (metric : UInt32) :
    (rows.filterMap parseRouteLine).filter (fun route => route.metric.toNat = metric.toNat) =
      (rows.filter (hasMetric metric)).filterMap parseRouteLine := by
  rw [List.filter_filterMap, List.filterMap_filter]
  apply List.filterMap_congr
  intro line _
  unfold hasMetric
  cases parseRouteLine line with
  | none => rfl
  | some route =>
    simp only [Option.map_some, Option.some.injEq, Option.filter_some, UInt32.toNat_inj]

/-- **Only the usable rows of each metric matter**, in their order. -/
theorem parseDefaultIpv4Route_congr {contents contents' : Text}
    (h : ∀ metric, (routeRows contents).filter (hasMetric metric) = (routeRows contents').filter (hasMetric metric)) :
    parseDefaultIpv4Route contents = parseDefaultIpv4Route contents' := by
  apply minByKey_congr
  intro k
  by_cases hk : k < 2 ^ 32
  · have hmetric : (UInt32.ofNat k).toNat = k := UInt32.toNat_ofNat_of_lt' hk
    have hroutes := congrArg (fun rows => rows.filterMap parseRouteLine) (h (UInt32.ofNat k))
    rwa [← filter_routes, ← filter_routes, hmetric] at hroutes
  · have hnone : ∀ routes : List DefaultIpv4Route, routes.filter (fun route => route.metric.toNat = k) = [] := by
      intro routes
      rw [List.filter_eq_nil_iff]
      intro route _ heq
      have hlt := route.metric.toNat_lt
      have heq' : route.metric.toNat = k := of_decide_eq_true heq
      omega
    rw [hnone, hnone]

theorem hasMetric_iff {line : Text} {route : DefaultIpv4Route} (h : UsableRouteLine line route) (metric : UInt32) :
    hasMetric metric line = decide (route.metric = metric) := by
  unfold hasMetric
  rw [(parseRouteLine_eq_some_iff line route).2 h, Option.map_some, decide_eq_decide, Option.some.injEq]

/-- Rows with a metric are usable. -/
theorem filter_hasMetric (rows : List Text) (metric : UInt32) :
    rows.filter (hasMetric metric) = (rows.filter isUsableRow).filter (hasMetric metric) := by
  rw [List.filter_filter]
  apply List.filter_congr
  intro line _
  unfold hasMetric isUsableRow
  cases parseRouteLine line <;> simp

/-- **Default-route selection is a stable minimum over the usable rows**: none without a usable row, the first of the
least metric otherwise.  Rows that are not usable do not matter, nor does the order of rows whose metrics differ. -/
theorem default_route_is_first_least :
    (∀ contents, parseDefaultIpv4Route contents = none ↔
      ∀ line ∈ routeRows contents, ∀ route, ¬ UsableRouteLine line route) ∧
    (∀ contents route, parseDefaultIpv4Route contents = some route ↔
      ∃ before line after, routeRows contents = before ++ line :: after ∧ UsableRouteLine line route ∧
        (∀ l ∈ before, ∀ r, UsableRouteLine l r → route.metric < r.metric) ∧
        ∀ l ∈ after, ∀ r, UsableRouteLine l r → route.metric ≤ r.metric) ∧
    (∀ line, isUsableRow line = true ↔ ∃ route, UsableRouteLine line route) ∧
    (∀ contents contents', (routeRows contents).filter isUsableRow = (routeRows contents').filter isUsableRow →
      parseDefaultIpv4Route contents = parseDefaultIpv4Route contents') ∧
    (∀ contents contents' before after a b routeA routeB, routeRows contents = before ++ a :: b :: after →
      routeRows contents' = before ++ b :: a :: after → UsableRouteLine a routeA → UsableRouteLine b routeB →
      routeA.metric ≠ routeB.metric → parseDefaultIpv4Route contents = parseDefaultIpv4Route contents') ∧
    ∀ contents contents',
      (∀ metric, (routeRows contents).filter (hasMetric metric) = (routeRows contents').filter (hasMetric metric)) →
      parseDefaultIpv4Route contents = parseDefaultIpv4Route contents' := by
  refine ⟨parseDefaultIpv4Route_eq_none_iff, parseDefaultIpv4Route_eq_some_iff, isUsableRow_iff, ?_, ?_, ?_⟩
  · intro contents contents' h
    apply parseDefaultIpv4Route_congr
    intro metric
    rw [filter_hasMetric, h, ← filter_hasMetric]
  · intro contents contents' before after a b routeA routeB hrows hrows' ha hb hne
    apply parseDefaultIpv4Route_congr
    intro metric
    rw [hrows, hrows', List.filter_append, List.filter_append, List.filter_cons, List.filter_cons, List.filter_cons,
      List.filter_cons, hasMetric_iff ha, hasMetric_iff hb]
    by_cases hmetric : routeA.metric = metric
    · have hother : routeB.metric ≠ metric := fun heq => hne (hmetric.trans heq.symm)
      simp only [hmetric, hother, decide_true, decide_false, if_true, if_false, Bool.false_eq_true]
    · simp only [hmetric, decide_false, if_false, Bool.false_eq_true]
  · intro contents contents' h
    exact parseDefaultIpv4Route_congr h

/-- The table of two default routes, and the same table with a row that is cut off and the two exchanged. -/
def exchangedTable : Text :=
  join "\n"
    ["Iface\tDestination\tGateway \tFlags\tRefCnt\tUse\tMetric\tMask\t\tMTU\tWindow\tIRTT",
      "eth0\t00000000\t0100000A\t0003\t0\t0\t100\t00000000\t0\t0\t0", "eth1\t00000000\t0100000A\t0003",
      "wlan0\t00000000\t0101A8C0\t0003\t0\t0\t600\t00000000\t0\t0\t0"]

theorem default_route_of_exchangedTable :
    parseDefaultIpv4Route exchangedTable = parseDefaultIpv4Route
        (join "\n" ["Iface\tDestination\tGateway \tFlags\tRefCnt\tUse\tMetric\tMask\t\tMTU\tWindow\tIRTT",
          "eth0\t00000000\t0100000A\t0003\t0\t0\t100\t00000000\t0\t0\t0",
          "wlan0\t00000000\t0101A8C0\t0003\t0\t0\t600\t00000000\t0\t0\t0"]) ∧
      parseDefaultIpv4Route exchangedTable = some ⟨"eth0", Ipv4Addr.new 10 0 0 1, 100⟩ := by
  obtain ⟨-, -, -, hunusable, -, -⟩ := default_route_is_first_least
  exact ⟨hunusable _ _ (by decide +kernel), by decide +kernel⟩

end Networkrs
