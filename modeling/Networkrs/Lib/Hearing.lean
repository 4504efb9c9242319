import Mathlib.Data.List.Flatten
import Networkrs.Lib.Collect
/-!
# Hearing — a receiver that misses items of its stream

A stream whose items are tagged with whether a receiver hears them: one receiver reads all of it, another what it
hears.  `HearsEnough` says when the two end alike (`run_heard_eq_iff`): the first ending of the stream is heard, and no
value before it is missed; or it is missed, and what is heard after it happens to end the same way.  `HearsValues` says
when a run that completes has, up to their order, the values of the whole stream (`run_heard_perm_iff`).
-/
namespace Collect

variable {ι ε τ : Type}

def whole (l : List (ι × Bool)) : List ι := l.map Prod.fst

def heardOf (l : List (ι × Bool)) : List ι := (l.filter Prod.snd).map Prod.fst

@[simp] theorem whole_append (l m : List (ι × Bool)) : whole (l ++ m) = whole l ++ whole m := by
  simp [whole]

@[simp] theorem heardOf_append (l m : List (ι × Bool)) : heardOf (l ++ m) = heardOf l ++ heardOf m := by
  simp [heardOf]

@[simp] theorem whole_cons (x : ι × Bool) (l : List (ι × Bool)) : whole (x :: l) = x.1 :: whole l := rfl

theorem heardOf_cons (x : ι × Bool) (l : List (ι × Bool)) :
    heardOf (x :: l) = if x.2 = true then x.1 :: heardOf l else heardOf l := by
  unfold heardOf
  rw [List.filter_cons]
  split <;> rfl

theorem mem_whole_of_mem_heardOf {l : List (ι × Bool)} {i : ι} (h : i ∈ heardOf l) : i ∈ whole l := by
  obtain ⟨x, hx, rfl⟩ := List.mem_map.1 h
  exact List.mem_map.2 ⟨x, (List.mem_filter.1 hx).1, rfl⟩

variable (ending : ι → Option (Ending ε)) (values : ι → List τ)

/-- A run leaves an ending's outcome when that ending comes first, and the values agree if it is complete. -/
theorem run_eq_outcome_iff (is : List ι) (e : Ending ε) (vs : List τ) :
    run (verdictOf ending values) is = e.outcome vs ↔
      ∃ pre i post, is = pre ++ i :: post ∧ (∀ x ∈ pre, ending x = none) ∧ ending i = some e ∧
        (e = .complete → vs = pre.flatMap values) := by
  constructor
  · intro h
    rcases exists_ending ending is with hall | ⟨pre, i, e', post, rfl, hpre, hi⟩
    · rw [run_of_no_ending ending values hall] at h
      cases e <;> cases h
    · rw [run_of_ending ending values post hpre hi] at h
      refine ⟨pre, i, post, rfl, hpre, ?_, ?_⟩
      · cases e <;> cases e' <;> simp [Ending.outcome] at h <;> simp [hi, h]
      · rintro rfl
        cases e' with
        | complete => exact (Outcome.ok.inj h).symm
        | failed error => cases h
        | panicked p => cases h
  · rintro ⟨pre, i, post, rfl, hpre, hi, hvs⟩
    rw [run_of_ending ending values post hpre hi]
    cases e with
    | complete => rw [hvs rfl]
    | failed error => rfl
    | panicked p => rfl

theorem map_append_eq_outcome_iff (o : Outcome ε (List τ)) (e : Ending ε) (held vs : List τ) :
    o.map (held ++ ·) = e.outcome vs ↔ ∃ vs', o = e.outcome vs' ∧ (e = .complete → vs = held ++ vs') := by
  constructor
  · intro h
    cases e with
    | complete =>
      obtain ⟨vs', ho, rfl⟩ := (Outcome.map_eq_ok_iff _ o vs).1 h
      exact ⟨vs', ho, fun _ => rfl⟩
    | failed error =>
      cases o <;> cases h
      exact ⟨[], rfl, fun he => by cases he⟩
    | panicked p =>
      cases o <;> cases h
      exact ⟨[], rfl, fun he => by cases he⟩
  · rintro ⟨vs', rfl, hvs⟩
    cases e with
    | complete => rw [hvs rfl]; rfl
    | failed error => rfl
    | panicked p => rfl

/-- The values heard are all the values exactly when no missed item has one. -/
theorem flatMap_heardOf_eq_iff : ∀ (l : List (ι × Bool)),
    (heardOf l).flatMap values = (whole l).flatMap values ↔ ∀ x ∈ l, x.2 = false → values x.1 = []
  | [] => by simp [heardOf, whole]
  | (i, true) :: l => by
    have ih := flatMap_heardOf_eq_iff l
    rw [heardOf_cons, if_pos rfl, whole_cons, List.flatMap_cons, List.flatMap_cons, List.append_cancel_left_eq, ih]
    simp
  | (i, false) :: l => by
    have ih := flatMap_heardOf_eq_iff l
    rw [heardOf_cons, if_neg (by simp), whole_cons, List.flatMap_cons]
    constructor
    · intro h
      have hsub : ((heardOf l).flatMap values).Sublist ((whole l).flatMap values) :=
        (List.filter_sublist.map Prod.fst).flatMap values
      have hle := hsub.length_le
      have hlength : ((heardOf l).flatMap values).length = (values i).length + ((whole l).flatMap values).length := by
        rw [h, List.length_append]
      have hnil : values i = [] := List.eq_nil_of_length_eq_zero (by omega)
      rw [hnil, List.nil_append] at h
      intro x hx hmissed
      rcases List.mem_cons.1 hx with rfl | hx
      · exact hnil
      · exact ih.1 h x hx hmissed
    · intro h
      rw [h (i, false) List.mem_cons_self rfl, List.nil_append]
      exact ih.2 (fun x hx => h x (List.mem_cons_of_mem _ hx))

/-- **What must be heard to end like the whole stream.** -/
def HearsEnough (l : List (ι × Bool)) : Prop :=
  ∀ pre i isHeard post e, l = pre ++ (i, isHeard) :: post → (∀ x ∈ whole pre, ending x = none) → ending i = some e →
    (isHeard = true → e = .complete → ∀ x ∈ pre, x.2 = false → values x.1 = []) ∧
    (isHeard = false → ∃ pre' i' post', heardOf post = pre' ++ i' :: post' ∧ (∀ x ∈ pre', ending x = none) ∧
      ending i' = some e ∧
      (e = .complete → (whole pre).flatMap values = (heardOf pre).flatMap values ++ pre'.flatMap values))

/-- **A receiver that misses items ends like one that does not exactly when it hears enough.** -/
theorem run_heard_eq_iff (l : List (ι × Bool)) :
    run (verdictOf ending values) (heardOf l) = run (verdictOf ending values) (whole l) ↔
      HearsEnough ending values l := by
  rcases exists_ending (fun x : ι × Bool => ending x.1) l with hall | ⟨pre, ⟨i, isHeard⟩, e, post, rfl, hpre, hi⟩
  · have hwhole : ∀ x ∈ whole l, ending x = none := by
      intro x hx
      obtain ⟨y, hy, rfl⟩ := List.mem_map.1 hx
      exact hall y hy
    rw [run_of_no_ending ending values hwhole,
      run_of_no_ending ending values (fun x hx => hwhole x (mem_whole_of_mem_heardOf hx))]
    refine ⟨fun _ pre i isHeard post e hl _ hi => ?_, fun _ => rfl⟩
    rw [hall (i, isHeard) (by rw [hl]; simp)] at hi
    cases hi
  · have hpre' : ∀ x ∈ whole pre, ending x = none := by
      intro x hx
      obtain ⟨y, hy, rfl⟩ := List.mem_map.1 hx
      exact hpre y hy
    have hheard : ∀ x ∈ heardOf pre, ending x = none := fun x hx => hpre' x (mem_whole_of_mem_heardOf hx)
    -- the first ending of the stream is the only one the condition speaks of
    have hcondition : HearsEnough ending values (pre ++ (i, isHeard) :: post) ↔
        (isHeard = true → e = .complete → ∀ x ∈ pre, x.2 = false → values x.1 = []) ∧
        (isHeard = false → ∃ pre' i' post', heardOf post = pre' ++ i' :: post' ∧ (∀ x ∈ pre', ending x = none) ∧
          ending i' = some e ∧
          (e = .complete → (whole pre).flatMap values = (heardOf pre).flatMap values ++ pre'.flatMap values)) := by
      refine ⟨fun h => h pre i isHeard post e rfl hpre' hi, fun h p j isHeard' q e' hsplit hp hj => ?_⟩
      have hp' : ∀ x ∈ p, (fun x : ι × Bool => ending x.1) x = none := fun x hx => hp x.1 (List.mem_map_of_mem hx)
      obtain ⟨rfl, heq, rfl⟩ := split_unique (fun x : ι × Bool => ending x.1) hsplit hpre hi hp' hj
      cases heq
      rw [hi] at hj
      cases hj
      exact h
    rw [hcondition, whole_append, heardOf_append, whole_cons, run_of_ending ending values _ hpre' hi, heardOf_cons]
    cases isHeard with
    | true =>
      rw [if_pos rfl, run_of_ending ending values _ hheard hi]
      cases e with
      | complete =>
        simp only [Ending.outcome, Outcome.ok.injEq, true_implies, reduceCtorEq, false_implies, and_true]
        exact flatMap_heardOf_eq_iff values pre
      | failed error => simp [Ending.outcome]
      | panicked p => simp [Ending.outcome]
    | false =>
      rw [if_neg (by simp), run_append_of_keeps _ _ _
        (fun x hx => (verdictOf_keeps ending values x).2 (hheard x hx)), kept_verdictOf ending values _ hheard]
      simp only [reduceCtorEq, false_implies, true_implies, true_and]
      rw [map_append_eq_outcome_iff]
      constructor
      · rintro ⟨vs', hrun, hvs⟩
        obtain ⟨pre', i', post', hpost, hpre'', hi', hvs'⟩ := (run_eq_outcome_iff ending values _ e vs').1 hrun
        exact ⟨pre', i', post', hpost, hpre'', hi', fun he => by rw [hvs he, hvs' he]⟩
      · rintro ⟨pre', i', post', hpost, hpre'', hi', hvs⟩
        refine ⟨pre'.flatMap values, ?_, hvs⟩
        exact (run_eq_outcome_iff ending values _ e _).2 ⟨pre', i', post', hpost, hpre'', hi', fun _ => rfl⟩

/-! ## Values up to their order -/

def missedOf (l : List (ι × Bool)) : List ι := (l.filter (fun x => !x.2)).map Prod.fst

theorem whole_perm (l : List (ι × Bool)) : (whole l).Perm (heardOf l ++ missedOf l) := by
  have h := (List.filter_append_perm Prod.snd l).symm.map Prod.fst
  rwa [List.map_append] at h

theorem whole_values_perm (l : List (ι × Bool)) :
    ((whole l).flatMap values).Perm ((heardOf l).flatMap values ++ (missedOf l).flatMap values) := by
  rw [← List.flatMap_append]
  exact (whole_perm l).flatMap_right values

theorem mem_whole_iff {l : List (ι × Bool)} {i : ι} : i ∈ whole l ↔ i ∈ heardOf l ∨ i ∈ missedOf l := by
  rw [(whole_perm l).mem_iff, List.mem_append]

/-- An item that is heard stands in the stream, with what is heard before it. -/
theorem exists_split_of_heardOf {l : List (ι × Bool)} {before after : List ι} {i : ι}
    (h : heardOf l = before ++ i :: after) : ∃ pre post, l = pre ++ (i, true) :: post ∧ heardOf pre = before := by
  obtain ⟨a, b, hfilter, rfl, hb⟩ := List.map_eq_append_iff.1 h
  obtain ⟨x, b', rfl, rfl, -⟩ := List.map_eq_cons_iff.1 hb
  obtain ⟨pre, rest, rfl, rfl, hrest⟩ := List.filter_eq_append_iff.1 hfilter
  obtain ⟨missed, post, rfl, hmissed, hx, -⟩ := List.filter_eq_cons_iff.1 hrest
  refine ⟨pre ++ missed, post, ?_, ?_⟩
  · rw [List.append_assoc, ← hx]
  · rw [heardOf_append, heardOf, heardOf, List.filter_eq_nil_iff.2 hmissed, List.map_nil, List.append_nil]

/-- **What must be heard for the values of the whole stream**, when what is heard completes: no item missed before the
completing one ends the run or has a value; or the first missed one that ends it is complete, and what is heard behind
that one are, up to their order, the values missed before it. -/
def HearsValues (l : List (ι × Bool)) : Prop :=
  ∀ pre done post, l = pre ++ (done, true) :: post → (∀ x ∈ heardOf pre, ending x = none) →
    ending done = some .complete →
    (∀ x ∈ missedOf pre, ending x = none ∧ values x = []) ∨
    ∃ p d q, pre = p ++ (d, false) :: q ∧ (∀ x ∈ missedOf p, ending x = none) ∧ ending d = some .complete ∧
      ((missedOf p).flatMap values).Perm ((heardOf q).flatMap values)

/-- What is missed does not show exactly when it has no values. -/
theorem heard_values_perm_iff (l : List (ι × Bool)) :
    ((heardOf l).flatMap values).Perm ((whole l).flatMap values) ↔ ∀ x ∈ missedOf l, values x = [] := by
  have hperm := whole_values_perm values l
  constructor
  · intro h
    have hlength := (h.trans hperm).length_eq
    rw [List.length_append] at hlength
    have hnil : (missedOf l).flatMap values = [] := List.eq_nil_of_length_eq_zero (by omega)
    exact List.flatMap_eq_nil_iff.1 hnil
  · intro h
    rw [List.flatMap_eq_nil_iff.2 h, List.append_nil] at hperm
    exact hperm.symm

theorem run_whole_perm_iff_of_split {pre : List (ι × Bool)} {done : ι} (post : List (ι × Bool))
    (hpre : ∀ x ∈ heardOf pre, ending x = none) (hdone : ending done = some .complete) :
    (∃ vs, run (verdictOf ending values) (whole (pre ++ (done, true) :: post)) = .ok vs ∧
        ((heardOf pre).flatMap values).Perm vs) ↔
      (∀ x ∈ missedOf pre, ending x = none ∧ values x = []) ∨
      ∃ p d q, pre = p ++ (d, false) :: q ∧ (∀ x ∈ missedOf p, ending x = none) ∧ ending d = some .complete ∧
        ((missedOf p).flatMap values).Perm ((heardOf q).flatMap values) := by
  rcases exists_ending (fun x : ι × Bool => ending x.1) pre with hall | ⟨p, ⟨d, isHeard⟩, e, q, rfl, hp, hd⟩
  · -- nothing before the completing item ends the whole run
    have hnone : ∀ x ∈ whole pre, ending x = none := List.forall_mem_map.2 hall
    rw [whole_append, whole_cons, run_of_ending ending values _ hnone hdone]
    constructor
    · rintro ⟨vs, hvs, hperm⟩
      cases hvs
      have hvalues := (heard_values_perm_iff values pre).1 hperm
      exact Or.inl (fun x hx => ⟨hnone x (mem_whole_iff.2 (Or.inr hx)), hvalues x hx⟩)
    · rintro (hmissed | ⟨p, d, q, rfl, -, hd, -⟩)
      · exact ⟨_, rfl, (heard_values_perm_iff values pre).2 (fun x hx => (hmissed x hx).2)⟩
      · have hd' := hnone d (by rw [whole_append, whole_cons]; simp)
        rw [hd] at hd'
        cases hd'
  · -- the first item that ends the whole run is a missed one
    have hnone : ∀ x ∈ whole p, ending x = none := List.forall_mem_map.2 hp
    cases isHeard with
    | true =>
      have hd' := hpre d (by rw [heardOf_append, heardOf_cons, if_pos rfl]; simp)
      rw [show ending d = some e from hd] at hd'
      cases hd'
    | false =>
      have hheard : heardOf (p ++ (d, false) :: q) = heardOf p ++ heardOf q := by
        rw [heardOf_append, heardOf_cons, if_neg (by simp)]
      rw [List.append_assoc, List.cons_append, whole_append, whole_cons, run_of_ending ending values _ hnone hd, hheard,
        List.flatMap_append]
      have hperm := whole_values_perm values p
      constructor
      · rintro ⟨vs, hvs, hvs'⟩
        cases e with
        | complete =>
          cases hvs
          have hrest := (List.perm_append_left_iff _).1 (hvs'.trans hperm)
          exact Or.inr ⟨p, d, q, rfl, fun x hx => hnone x (mem_whole_iff.2 (Or.inr hx)), hd, hrest.symm⟩
        | failed error => cases hvs
        | panicked p => cases hvs
      · rintro (hmissed | ⟨p', d', q', hsplit, hp', hd', hvalues⟩)
        · have hd' := (hmissed d (by simp [missedOf])).1
          rw [show ending d = some e from hd] at hd'
          cases hd'
        · have hnone' : ∀ x ∈ p', (fun x : ι × Bool => ending x.1) x = none := by
            intro x hx
            rcases mem_whole_iff.1 (List.mem_map_of_mem (f := Prod.fst) hx) with hx | hx
            · refine hpre x.1 ?_
              rw [hsplit, heardOf_append]
              exact List.mem_append_left _ hx
            · exact hp' x.1 hx
          obtain ⟨rfl, heq, rfl⟩ := split_unique (fun x : ι × Bool => ending x.1) hsplit hp hd hnone' hd'
          cases heq
          obtain rfl : e = .complete := by
            rw [show ending d = some e from hd] at hd'
            exact Option.some.inj hd'
          exact ⟨_, rfl, ((List.perm_append_left_iff _).2 hvalues.symm).trans hperm.symm⟩

/-- **A run that completes has the values of the whole stream exactly when it hears them.** -/
theorem run_heard_perm_iff {l : List (ι × Bool)} {vs : List τ}
    (h : run (verdictOf ending values) (heardOf l) = .ok vs) :
    (∃ vs', run (verdictOf ending values) (whole l) = .ok vs' ∧ vs.Perm vs') ↔ HearsValues ending values l := by
  have hvalues : ∀ pre done post, l = pre ++ (done, true) :: post → (∀ x ∈ heardOf pre, ending x = none) →
      ending done = some .complete → vs = (heardOf pre).flatMap values := by
    rintro pre done post rfl hpre hdone
    rw [heardOf_append, heardOf_cons, if_pos rfl, run_of_ending ending values _ hpre hdone] at h
    exact (Outcome.ok.inj h).symm
  constructor
  · intro hwhole pre done post hl hpre hdone
    rw [hvalues pre done post hl hpre hdone, hl] at hwhole
    exact (run_whole_perm_iff_of_split ending values post hpre hdone).1 hwhole
  · intro hhears
    obtain ⟨before, done, after, hsplit, hbefore, hdone, -⟩ := (run_verdictOf_eq_ok_iff ending values _ _).1 h
    obtain ⟨pre, post, hl, rfl⟩ := exists_split_of_heardOf hsplit
    rw [hvalues pre done post hl hbefore hdone, hl]
    exact (run_whole_perm_iff_of_split ending values post hbefore hdone).2 (hhears pre done post hl hbefore hdone)

end Collect
