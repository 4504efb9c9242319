import Networkrs.Lib.Keyed
/-!
# Grouped — values collected under their keys, one of each identity

A map of lists, to which each pair adds its value unless the list of its key has one of the same identity.  What the map
holds of a key is the first of each identity among the values with the key (`group_eq`); which values these are is
`mem_firsts_iff`, and where a value is given by its identity they are all of them (`mem_firsts_of_unique`).
-/
namespace Keyed

variable {κ υ ι : Type} [DecidableEq κ] [DecidableEq ι] (identity : υ → ι)

/-- A value at the end of a list, unless one of its identity is there. -/
def addNew (kept : List υ) (v : υ) : List υ :=
  if kept.any (fun w => identity w = identity v) then kept else kept ++ [v]

/-- The first value of each identity. -/
def firsts (l : List υ) : List υ := l.foldl (addNew identity) []

/-- `entry(key).or_default()`, and the value pushed to it if it is new. -/
def addTo (m : Map κ (List υ)) (p : κ × υ) : Map κ (List υ) := m.insert p.1 (addNew identity ((m p.1).getD []) p.2)

def group (pairs : List (κ × υ)) : Map κ (List υ) := pairs.foldl (addTo identity) Map.empty

omit [DecidableEq κ] in
theorem firsts_concat (l : List υ) (v : υ) : firsts identity (l ++ [v]) = addNew identity (firsts identity l) v := by
  unfold firsts
  rw [List.foldl_append]
  rfl

/-- **A key has the first values of each identity** among those with the key, and no entry if there are none. -/
theorem group_eq (pairs : List (κ × υ)) (k : κ) :
    group identity pairs k =
      if pairs.filter (fun p => p.1 = k) = [] then none
      else some (firsts identity ((pairs.filter (fun p => p.1 = k)).map Prod.snd)) := by
  induction pairs using List.reverseRecOn with
  | nil => rfl
  | append_singleton pairs p ih =>
    have hstep : group identity (pairs ++ [p]) = addTo identity (group identity pairs) p := by
      unfold group
      rw [List.foldl_append]
      rfl
    rw [hstep, addTo, Map.insert, List.filter_append]
    by_cases hk : p.1 = k
    · subst hk
      have hone : [p].filter (fun q => q.1 = p.1) = [p] := by simp
      have hgroup : (group identity pairs p.1).getD [] =
          firsts identity ((pairs.filter (fun q => q.1 = p.1)).map Prod.snd) := by
        rw [ih]
        split
        · next hnil =>
          rw [hnil]
          rfl
        · rfl
      rw [Function.update_self, hgroup, hone, if_neg (by simp), List.map_append, List.map_singleton, firsts_concat]
    · have hnone : [p].filter (fun q => q.1 = k) = [] := by simp [hk]
      rw [Function.update_of_ne (Ne.symm hk), ih, hnone, List.append_nil]

section
omit [DecidableEq κ]

theorem mem_addNew (kept : List υ) (v w : υ) :
    w ∈ addNew identity kept v ↔ w ∈ kept ∨ (w = v ∧ ∀ u ∈ kept, identity u ≠ identity v) := by
  unfold addNew
  split
  · next hany =>
    obtain ⟨u, hu, huv⟩ := List.any_eq_true.1 hany
    refine ⟨Or.inl, fun h => h.resolve_right (fun hnew => hnew.2 u hu (of_decide_eq_true huv))⟩
  · next hany =>
    have hnew : ∀ u ∈ kept, identity u ≠ identity v := fun u hu huv =>
      hany (List.any_eq_true.2 ⟨u, hu, decide_eq_true huv⟩)
    rw [List.mem_append, List.mem_singleton]
    exact or_congr_right (and_iff_left hnew).symm

theorem exists_mem_firsts (l : List υ) (i : ι) :
    (∃ w ∈ firsts identity l, identity w = i) ↔ ∃ w ∈ l, identity w = i := by
  induction l using List.reverseRecOn with
  | nil => simp [firsts]
  | append_singleton l v ih =>
    simp only [firsts_concat, mem_addNew, List.mem_append, List.mem_singleton, or_and_right, exists_or, ih]
    constructor
    · rintro (h | ⟨w, ⟨rfl, -⟩, hw⟩)
      · exact .inl h
      · exact .inr ⟨w, rfl, hw⟩
    · rintro (h | ⟨w, rfl, hw⟩)
      · exact .inl h
      · by_cases hknown : ∃ u ∈ l, identity u = i
        · exact .inl hknown
        · refine .inr ⟨w, ⟨rfl, fun u hu huw => hknown ?_⟩, hw⟩
          exact ih.1 ⟨u, hu, huw.trans hw⟩

/-- **The first values of each identity**: those with none of their identity before them. -/
theorem mem_firsts_iff (l : List υ) (v : υ) :
    v ∈ firsts identity l ↔ ∃ pre post, l = pre ++ v :: post ∧ ∀ w ∈ pre, identity w ≠ identity v := by
  induction l using List.reverseRecOn with
  | nil => simp [firsts]
  | append_singleton l u ih =>
    rw [firsts_concat, mem_addNew, ih]
    constructor
    · rintro (⟨pre, post, rfl, hpre⟩ | ⟨rfl, hnew⟩)
      · exact ⟨pre, post ++ [u], by simp, hpre⟩
      · refine ⟨l, [], rfl, fun w hw hwv => ?_⟩
        obtain ⟨u', hu', huv⟩ := (exists_mem_firsts identity l (identity v)).2 ⟨w, hw, hwv⟩
        exact hnew u' hu' huv
    · rintro ⟨pre, post, heq, hpre⟩
      rcases List.eq_nil_or_concat post with rfl | ⟨post, x, rfl⟩
      · obtain ⟨rfl, hv⟩ := List.append_inj' heq rfl
        obtain rfl := List.singleton_inj.1 hv
        refine .inr ⟨rfl, fun w hw hwv => ?_⟩
        obtain ⟨w', hw', hwv'⟩ := (exists_mem_firsts identity l (identity u)).1 ⟨w, hw, hwv⟩
        exact hpre w' hw' hwv'
      · rw [List.concat_eq_append, ← List.cons_append, ← List.append_assoc] at heq
        exact .inl ⟨pre, post, (List.append_inj' heq rfl).1, hpre⟩

theorem nodup_firsts (l : List υ) : ((firsts identity l).map identity).Nodup := by
  induction l using List.reverseRecOn with
  | nil => simp [firsts]
  | append_singleton l v ih =>
    rw [firsts_concat, addNew]
    split
    · exact ih
    · next hany =>
      rw [List.map_append, List.map_singleton, ← List.concat_eq_append, List.nodup_concat]
      refine ⟨fun hmem => hany ?_, ih⟩
      obtain ⟨w, hw, hwv⟩ := List.mem_map.1 hmem
      exact List.any_eq_true.2 ⟨w, hw, decide_eq_true hwv⟩

/-- Where a value is given by its identity, all values are kept. -/
theorem mem_firsts_of_unique {l : List υ} (h : ∀ v ∈ l, ∀ w ∈ l, identity v = identity w → v = w) (v : υ) :
    v ∈ firsts identity l ↔ v ∈ l := by
  constructor
  · intro hv
    obtain ⟨pre, post, rfl, -⟩ := (mem_firsts_iff identity l v).1 hv
    exact List.mem_append_right pre List.mem_cons_self
  · intro hv
    obtain ⟨w, hw, hwv⟩ := (exists_mem_firsts identity l (identity v)).2 ⟨v, hv, rfl⟩
    obtain ⟨pre, post, heq, -⟩ := (mem_firsts_iff identity l w).1 hw
    have hmem : w ∈ l := by
      rw [heq]
      exact List.mem_append_right pre List.mem_cons_self
    rwa [← h w hmem v hv hwv]

end

end Keyed
