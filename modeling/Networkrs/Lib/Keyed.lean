import Mathlib.Data.List.Induction
import Mathlib.Data.List.Nodup
import Mathlib.Logic.Function.Basic
/-!
# Keyed — a map collected from a list of pairs

Collecting pairs into a map keeps one value a key: inserting replaces, so the last pair with a key is the one that
stays (`collect_eq_getLast?`).  What a collected map says of a key is what the end of the list says of it, whatever
came before.

A list whose keys are distinct is a map already, so its order carries nothing: lists that are permutations of each
other, up to the keys nobody reads, have the same entry for every key that is read (`filter_key_eq_of_perm`) and the
same fold of steps on distinct keys (`foldl_eq_of_perm`).
-/
namespace Keyed

variable {κ υ α : Type} [DecidableEq κ]

/-- A map, as what it answers. -/
abbrev Map (κ υ : Type) := κ → Option υ

def Map.empty : Map κ υ := fun _ => none

def Map.insert (m : Map κ υ) (k : κ) (v : υ) : Map κ υ := Function.update m k (some v)

def Map.remove (m : Map κ υ) (k : κ) : Map κ υ := Function.update m k none

/-- `HashMap::extend`: the entries of the other map replace those with their keys. -/
def Map.extend (m m' : Map κ υ) : Map κ υ := fun k => (m' k).or (m k)

/-- The map of a list of pairs. -/
def collect (pairs : List (κ × υ)) : Map κ υ := pairs.foldl (fun m p => m.insert p.1 p.2) Map.empty

theorem collect_concat (pairs : List (κ × υ)) (p : κ × υ) :
    collect (pairs ++ [p]) = (collect pairs).insert p.1 p.2 := by
  unfold collect
  rw [List.foldl_append]
  rfl

/-- **The last pair with a key stays.** -/
theorem collect_eq_getLast? (pairs : List (κ × υ)) (k : κ) :
    collect pairs k = ((pairs.filter (fun p => p.1 = k)).getLast?).map Prod.snd := by
  induction pairs using List.reverseRecOn with
  | nil => rfl
  | append_singleton pairs p ih =>
    rw [collect_concat, List.filter_append]
    by_cases h : p.1 = k
    · subst h
      simp [Map.insert]
    · rw [Map.insert, Function.update_of_ne (Ne.symm h), ih]
      simp [h]

/-- The map of a list by a key and a value of its entries. -/
theorem collect_map (key : α → κ) (value : α → υ) (l : List α) (k : κ) :
    collect (l.map (fun x => (key x, value x))) k =
      ((l.filter (fun x => key x = k)).getLast?).map value := by
  rw [collect_eq_getLast?, List.filter_map, List.getLast?_map, Option.map_map]
  rfl

/-- **The last entry with a property, as a split of the list**: no entry after it has the property. -/
theorem getLast?_filter_eq_some_iff (q : α → Bool) (l : List α) (x : α) :
    (l.filter q).getLast? = some x ↔
      ∃ pre post, l = pre ++ x :: post ∧ q x = true ∧ ∀ y ∈ post, q y = false := by
  rw [List.getLast?_eq_head?_reverse, ← List.filter_reverse, List.head?_filter, List.find?_eq_some_iff_append]
  constructor
  · rintro ⟨hx, before, after, hl, hbefore⟩
    refine ⟨after.reverse, before.reverse, ?_, hx, fun y hy => ?_⟩
    · have := congrArg List.reverse hl
      simpa using this
    · have := hbefore y (List.mem_reverse.1 hy)
      simpa using this
  · rintro ⟨pre, post, rfl, hx, hpost⟩
    refine ⟨hx, post.reverse, pre.reverse, by simp, fun y hy => ?_⟩
    have := hpost y (List.mem_reverse.1 hy)
    simpa using this

/-- **The last value a list holds, as a split of the list**: no entry after it has one. -/
theorem getLast?_filterMap_eq_some_iff {β : Type} (f : α → Option β) (l : List α) (b : β) :
    (l.filterMap f).getLast? = some b ↔
      ∃ pre x post, l = pre ++ x :: post ∧ f x = some b ∧ ∀ y ∈ post, f y = none := by
  rw [List.getLast?_eq_head?_reverse, ← List.filterMap_reverse, List.head?_filterMap, List.findSome?_eq_some_iff]
  constructor
  · rintro ⟨before, x, after, hl, hx, hbefore⟩
    refine ⟨after.reverse, x, before.reverse, ?_, hx, fun y hy => hbefore y (List.mem_reverse.1 hy)⟩
    have hreverse := congrArg List.reverse hl
    simpa using hreverse
  · rintro ⟨pre, x, post, rfl, hx, hpost⟩
    exact ⟨post.reverse, x, pre.reverse, by simp, hx, fun y hy => hpost y (List.mem_reverse.1 hy)⟩

/-- **The map of the pairs some entries yield**: a key has the value of the last entry that yields one for it. -/
theorem collect_filterMap_eq_some_iff (f : α → Option (κ × υ)) (l : List α) (k : κ) (v : υ) :
    collect (l.filterMap f) k = some v ↔
      ∃ pre x post, l = pre ++ x :: post ∧ f x = some (k, v) ∧ ∀ y ∈ post, ∀ v', f y ≠ some (k, v') := by
  have hsome : ∀ x v, (f x).filter (fun p => p.1 = k) = some (k, v) ↔ f x = some (k, v) := by
    intro x v
    simp [Option.filter_eq_some_iff]
  have hnone : ∀ x, (f x).filter (fun p => p.1 = k) = none ↔ ∀ v', f x ≠ some (k, v') := by
    intro x
    rw [Option.filter_eq_none_iff]
    constructor
    · intro h v' hv
      simpa using h _ hv
    · rintro h ⟨k', v'⟩ hp hk
      obtain rfl := of_decide_eq_true hk
      exact h v' hp
  rw [collect_eq_getLast?, List.filter_filterMap, Option.map_eq_some_iff]
  constructor
  · rintro ⟨⟨k', v'⟩, hlast, rfl⟩
    obtain ⟨pre, x, post, rfl, hx, hpost⟩ := (getLast?_filterMap_eq_some_iff _ _ _).1 hlast
    obtain rfl : k' = k := of_decide_eq_true (Option.filter_eq_some_iff.1 hx).2
    exact ⟨pre, x, post, rfl, (hsome x v').1 hx, fun y hy => (hnone y).1 (hpost y hy)⟩
  · rintro ⟨pre, x, post, rfl, hx, hpost⟩
    refine ⟨(k, v), (getLast?_filterMap_eq_some_iff _ _ _).2 ⟨pre, x, post, rfl, (hsome x v).2 hx, ?_⟩, rfl⟩
    exact fun y hy => (hnone y).2 (hpost y hy)

theorem collect_filterMap_eq_none_iff (f : α → Option (κ × υ)) (l : List α) (k : κ) :
    collect (l.filterMap f) k = none ↔ ∀ x ∈ l, ∀ v, f x ≠ some (k, v) := by
  rw [collect_eq_getLast?, Option.map_eq_none_iff, List.getLast?_eq_none_iff, List.filter_eq_nil_iff]
  constructor
  · intro h x hx v hv
    exact h (k, v) (List.mem_filterMap.2 ⟨x, hx, hv⟩) (decide_eq_true rfl)
  · rintro h ⟨k', v⟩ hp hk
    obtain rfl : k' = k := of_decide_eq_true hk
    obtain ⟨x, hx, hv⟩ := List.mem_filterMap.1 hp
    exact h x hx v hv

/-! ## A map looked up part by part -/

/-- What a function answers for the keys of a list, and nothing for the others. -/
def restrict (f : κ → Option υ) (l : List κ) : Map κ υ := fun k => if k ∈ l then f k else none

theorem restrict_append (f : κ → Option υ) (l l' : List κ) :
    (restrict f l).extend (restrict f l') = restrict f (l ++ l') := by
  funext k
  unfold Map.extend restrict
  by_cases hl : k ∈ l
  · by_cases hl' : k ∈ l'
    · simp [hl, hl']
    · simp [hl, hl']
  · simp [hl]

/-- **Maps looked up for parts of a list, merged in turn, are the map of the list.** -/
theorem foldl_extend_restrict (f : κ → Option υ) : ∀ (pieces : List (List κ)) (l : List κ),
    (pieces.map (restrict f)).foldl Map.extend (restrict f l) = restrict f (l ++ pieces.flatten)
  | [], l => by
    rw [List.flatten_nil, List.append_nil]
    rfl
  | piece :: pieces, l => by
    rw [List.map_cons, List.foldl_cons, restrict_append, foldl_extend_restrict f pieces, List.flatten_cons,
      List.append_assoc]

/-- **The order in which such maps are merged does not matter.** -/
theorem foldl_extend_eq_of_perm {f : κ → Option υ} {maps maps' : List (Map κ υ)}
    (h : ∀ m ∈ maps, ∃ l, m = restrict f l) (hperm : maps.Perm maps') (m : Map κ υ) :
    maps.foldl Map.extend m = maps'.foldl Map.extend m := by
  refine hperm.foldl_eq' (fun x hx y hy z => ?_) m
  obtain ⟨l, rfl⟩ := h x hx
  obtain ⟨l', rfl⟩ := h y hy
  funext k
  unfold Map.extend restrict
  by_cases hl : k ∈ l
  · by_cases hl' : k ∈ l'
    · simp [hl, hl']
    · simp [hl, hl']
  · by_cases hl' : k ∈ l'
    · simp [hl, hl']
    · simp [hl, hl']

/-- A key looked up, and put into a map where there is a value for it. -/
def insertFound (f : κ → Option υ) (m : Map κ υ) (k : κ) : Map κ υ :=
  match f k with
  | some v => m.insert k v
  | none => m

theorem insertFound_restrict (f : κ → Option υ) (l : List κ) (a : κ) :
    insertFound f (restrict f l) a = restrict f (l ++ [a]) := by
  rw [← restrict_append]
  funext k
  unfold insertFound
  cases ha : f a with
  | none =>
    by_cases hk : k = a
    · subst hk
      simp [restrict, Map.extend, ha]
    · simp [restrict, Map.extend, hk]
  | some v =>
    by_cases hk : k = a
    · subst hk
      simp [restrict, Map.extend, Map.insert, ha]
    · simp [restrict, Map.extend, Map.insert, hk]

/-- **A map looked up key by key** is the map of the keys. -/
theorem foldl_insertFound (f : κ → Option υ) : ∀ (l before : List κ),
    l.foldl (insertFound f) (restrict f before) = restrict f (before ++ l)
  | [], before => by rw [List.append_nil]; rfl
  | a :: l, before => by
    rw [List.foldl_cons, insertFound_restrict, foldl_insertFound f l, List.append_assoc, List.singleton_append]

/-! ## Distinct keys -/

/-- A list with distinct keys has at most one entry with a key. -/
theorem length_filter_key_le_one {l : List (κ × υ)} (hdistinct : (l.map Prod.fst).Nodup) (k : κ) :
    (l.filter (fun a => a.1 = k)).length ≤ 1 := by
  have hcount : (l.map Prod.fst).count k ≤ 1 := List.nodup_iff_count_le_one.1 hdistinct k
  rw [List.count, List.countP_map, List.countP_eq_length_filter] at hcount
  refine Nat.le_trans (Nat.le_of_eq (congrArg List.length ?_)) hcount
  apply List.filter_congr
  intro a _
  rfl

/-- An entry is found by its key. -/
theorem find?_key_of_mem {l : List (κ × υ)} (hdistinct : (l.map Prod.fst).Nodup) {a : κ × υ} (ha : a ∈ l) :
    l.find? (fun b => b.1 = a.1) = some a := by
  have hle := length_filter_key_le_one hdistinct a.1
  have hmem : a ∈ l.filter (fun b => b.1 = a.1) := List.mem_filter.2 ⟨ha, decide_eq_true rfl⟩
  rw [← List.head?_filter]
  cases hfilter : l.filter (fun b => b.1 = a.1) with
  | nil => rw [hfilter] at hmem; cases hmem
  | cons b rest =>
    rw [hfilter, List.length_cons] at hle
    rw [hfilter, List.eq_nil_of_length_eq_zero (Nat.le_zero.1 (Nat.le_of_succ_le_succ hle)),
      List.mem_singleton] at hmem
    rw [hmem, List.head?_cons]

variable {p : κ → Bool} {l l' : List (κ × υ)}

/-- **The order of distinct keys does not matter to a lookup**, nor do keys that are not read. -/
theorem filter_key_eq_of_perm (hdistinct : (l.map Prod.fst).Nodup)
    (hperm : (l.filter (fun a => p a.1)).Perm (l'.filter (fun a => p a.1))) {k : κ} (hk : p k = true) :
    l.filter (fun a => a.1 = k) = l'.filter (fun a => a.1 = k) := by
  have hread : ∀ (m : List (κ × υ)), (m.filter (fun a => p a.1)).filter (fun a => a.1 = k) =
      m.filter (fun a => a.1 = k) := by
    intro m
    rw [List.filter_filter]
    apply List.filter_congr
    intro a _
    by_cases ha : a.1 = k
    · simp [ha, hk]
    · simp [ha]
  have hfilter := hperm.filter (fun a => decide (a.1 = k))
  rw [hread l, hread l'] at hfilter
  have hone := length_filter_key_le_one hdistinct k
  cases hl : l.filter (fun a => a.1 = k) with
  | nil => rw [hl] at hfilter; exact hfilter.nil_eq
  | cons a rest =>
    rw [hl, List.length_cons] at hone
    obtain rfl : rest = [] := List.length_eq_zero_iff.1 (by omega)
    rw [hl] at hfilter
    exact hfilter.singleton_eq

omit [DecidableEq κ] in
theorem foldl_filter_of_unread {σ : Type} {step : σ → κ × υ → σ}
    (hunread : ∀ s a, p a.1 = false → step s a = s) : ∀ (l : List (κ × υ)) (s : σ),
    (l.filter (fun a => p a.1)).foldl step s = l.foldl step s
  | [], _ => rfl
  | a :: l, s => by
    rw [List.foldl_cons]
    cases ha : p a.1 with
    | false => rw [List.filter_cons_of_neg (by simp [ha]), hunread s a ha, foldl_filter_of_unread hunread l s]
    | true => rw [List.filter_cons_of_pos (by simp [ha]), List.foldl_cons, foldl_filter_of_unread hunread l]

/-- **The order of distinct keys does not matter to a fold** whose steps on distinct keys commute. -/
theorem foldl_eq_of_perm {σ : Type} {step : σ → κ × υ → σ} (hunread : ∀ s a, p a.1 = false → step s a = s)
    (hcomm : ∀ s a b, a.1 ≠ b.1 → step (step s a) b = step (step s b) a) (hdistinct : (l.map Prod.fst).Nodup)
    (hperm : (l.filter (fun a => p a.1)).Perm (l'.filter (fun a => p a.1))) (s : σ) :
    l.foldl step s = l'.foldl step s := by
  rw [← foldl_filter_of_unread hunread l, ← foldl_filter_of_unread hunread l']
  refine hperm.foldl_eq' (fun a ha b hb s => ?_) s
  by_cases hkeys : a.1 = b.1
  · have hab : a = b := List.inj_on_of_nodup_map hdistinct (List.mem_of_mem_filter ha) (List.mem_of_mem_filter hb) hkeys
    rw [hab]
  · exact hcomm s a b hkeys

end Keyed
