import Mathlib.Data.List.Forall2
import Networkrs.Lib.Framing
/-!
# Collect — a receiver reading records off a stream

What a receiver is for: it takes a stream item by item, keeps the records of some items, and ends at the first item
that finishes the collection or makes it fail; a stream that ends before such an item leaves it waiting.  A receiver
is given by its verdict on each item, and `run` is the collection.  How a run ends is decided by the first item that
closes it (`run_of_split`), or, where items end a run without adding to it, by the first ending (`run_of_ending`).
-/
namespace Collect

open Machine Framing

variable {ι ε τ υ : Type}

/-- How a run ends: with a value, an error, a panic, or still waiting for input. -/
inductive Outcome (ε τ : Type) where
  | ok (value : τ)
  | err (error : ε)
  | panicked (p : Panic)
  | waiting
  deriving DecidableEq, Repr

/-- What a receiver makes of an item. -/
inductive Verdict (ε τ : Type) where
  | keep (records : List τ)
  | finish (records : List τ)
  | reject (error : ε)
  | panic (p : Panic)
  deriving DecidableEq, Repr

def Outcome.map (f : τ → υ) : Outcome ε τ → Outcome ε υ
  | .ok value => .ok (f value)
  | .err error => .err error
  | .panicked p => .panicked p
  | .waiting => .waiting

@[simp] theorem Outcome.map_ok (f : τ → υ) (value : τ) : (Outcome.ok value : Outcome ε τ).map f = .ok (f value) := rfl
@[simp] theorem Outcome.map_err (f : τ → υ) (e : ε) : (Outcome.err e : Outcome ε τ).map f = .err e := rfl
@[simp] theorem Outcome.map_panicked (f : τ → υ) (p : Panic) :
    (Outcome.panicked p : Outcome ε τ).map f = .panicked p := rfl
@[simp] theorem Outcome.map_waiting (f : τ → υ) : (Outcome.waiting : Outcome ε τ).map f = .waiting := rfl

theorem Outcome.map_map {φ : Type} (f : τ → υ) (g : υ → φ) (o : Outcome ε τ) : (o.map f).map g = o.map (g ∘ f) := by
  cases o <;> rfl

theorem Outcome.map_nil_append (o : Outcome ε (List τ)) : o.map ([] ++ ·) = o := by
  cases o <;> rfl

def Outcome.IsOk (o : Outcome ε τ) : Prop := ∃ value, o = .ok value

def Outcome.IsErr (o : Outcome ε τ) : Prop := ∃ error, o = .err error

/-- A run whose stream is all there is: what it waited for does not come. -/
def Outcome.orFinish (o : Outcome ε τ) (value : τ) : Outcome ε τ :=
  match o with
  | .waiting => .ok value
  | o => o

theorem Outcome.map_orFinish (f : τ → υ) (o : Outcome ε τ) (value : τ) :
    (o.orFinish value).map f = (o.map f).orFinish (f value) := by
  cases o <;> rfl

def Outcome.mapErr {δ : Type} (f : ε → δ) : Outcome ε τ → Outcome δ τ
  | .ok value => .ok value
  | .err error => .err (f error)
  | .panicked p => .panicked p
  | .waiting => .waiting

def Verdict.mapErr {δ : Type} (f : ε → δ) : Verdict ε τ → Verdict δ τ
  | .keep records => .keep records
  | .finish records => .finish records
  | .reject error => .reject (f error)
  | .panic p => .panic p

theorem Outcome.mapErr_eq_ok_iff {δ : Type} (f : ε → δ) (o : Outcome ε τ) (value : τ) :
    o.mapErr f = .ok value ↔ o = .ok value := by
  cases o <;> simp [Outcome.mapErr]

theorem Outcome.mapErr_map {δ : Type} (f : ε → δ) (g : τ → υ) (o : Outcome ε τ) :
    (o.map g).mapErr f = (o.mapErr f).map g := by
  cases o <;> rfl

theorem Outcome.map_eq_ok_iff (f : τ → υ) (o : Outcome ε τ) (value : υ) :
    o.map f = .ok value ↔ ∃ v, o = .ok v ∧ f v = value := by
  cases o <;> simp [Outcome.map]

theorem Outcome.map_eq_err_iff (f : τ → υ) (o : Outcome ε τ) (error : ε) : o.map f = .err error ↔ o = .err error := by
  cases o <;> simp [Outcome.map]

/-! ## Outcomes in sequence -/

def Outcome.bind (o : Outcome ε τ) (f : τ → Outcome ε υ) : Outcome ε υ :=
  match o with
  | .ok value => f value
  | .err error => .err error
  | .panicked p => .panicked p
  | .waiting => .waiting

instance : Monad (Outcome ε) where
  pure := .ok
  bind := Outcome.bind

/-- The outcome of a computation that does no input. -/
def Outcome.ofChecked : Checked τ → Outcome ε τ
  | .ok value => .ok value
  | .error p => .panicked p

instance : LawfulMonad (Outcome ε) :=
  LawfulMonad.mk' _
    (by intro α x; cases x <;> rfl) (by intro α β x f; rfl) (by intro α β γ x f g; cases x <;> rfl)

@[simp] theorem Outcome.pure_eq_ok (value : τ) : (pure value : Outcome ε τ) = .ok value := rfl

/-- **A sequence ends well exactly when each of its parts does.** -/
theorem Outcome.bind_eq_ok_iff (o : Outcome ε τ) (f : τ → Outcome ε υ) (value : υ) :
    o >>= f = .ok value ↔ ∃ v, o = .ok v ∧ f v = .ok value := by
  cases o <;> simp [Bind.bind, Outcome.bind]

theorem Outcome.ofChecked_eq_ok_iff (c : Checked τ) (value : τ) :
    (Outcome.ofChecked c : Outcome ε τ) = .ok value ↔ c = .ok value := by
  cases c <;> simp [Outcome.ofChecked]

/-- Whether a run goes on after an item. -/
def Verdict.keeps : Verdict ε τ → Bool
  | .keep _ => true
  | _ => false

/-- The records an item adds. -/
def Verdict.records : Verdict ε τ → List τ
  | .keep records => records
  | .finish records => records
  | .reject _ => []
  | .panic _ => []

/-- How an item closes a run that holds records. -/
def Verdict.close (kept : List τ) : Verdict ε τ → Outcome ε (List τ)
  | .keep _ => .waiting
  | .finish records => .ok (kept ++ records)
  | .reject error => .err error
  | .panic p => .panicked p

def run (judge : ι → Verdict ε τ) : List ι → Outcome ε (List τ)
  | [] => .waiting
  | i :: is =>
    match judge i with
    | .keep records => (run judge is).map (records ++ ·)
    | .finish records => .ok records
    | .reject error => .err error
    | .panic p => .panicked p

def kept (judge : ι → Verdict ε τ) (is : List ι) : List τ := is.flatMap (fun i => (judge i).records)

@[simp] theorem kept_nil (judge : ι → Verdict ε τ) : kept judge [] = [] := rfl

@[simp] theorem kept_cons (judge : ι → Verdict ε τ) (i : ι) (is : List ι) :
    kept judge (i :: is) = (judge i).records ++ kept judge is := rfl

/-! ## The item that closes a run -/

theorem run_append_of_keeps (judge : ι → Verdict ε τ) (post : List ι) : ∀ (pre : List ι),
    (∀ i ∈ pre, (judge i).keeps = true) → run judge (pre ++ post) = (run judge post).map (kept judge pre ++ ·)
  | [], _ => (Outcome.map_nil_append _).symm
  | i :: pre, h => by
    have hi := h i List.mem_cons_self
    have ih := run_append_of_keeps judge post pre (fun x hx => h x (List.mem_cons_of_mem i hx))
    rw [List.cons_append, run, kept_cons]
    cases hj : judge i with
    | keep records =>
      simp only [ih, Outcome.map_map, Verdict.records, Function.comp_def, List.append_assoc]
    | finish records => rw [hj] at hi; cases hi
    | reject error => rw [hj] at hi; cases hi
    | panic p => rw [hj] at hi; cases hi

theorem run_of_keeps (judge : ι → Verdict ε τ) (is : List ι) (h : ∀ i ∈ is, (judge i).keeps = true) :
    run judge is = .waiting := by
  have := run_append_of_keeps judge [] is h
  simpa [run] using this

/-- **The first item that does not go on closes the run.** -/
theorem run_of_split (judge : ι → Verdict ε τ) (pre : List ι) (i : ι) (post : List ι)
    (hpre : ∀ x ∈ pre, (judge x).keeps = true) (hi : (judge i).keeps = false) :
    run judge (pre ++ i :: post) = (judge i).close (kept judge pre) := by
  rw [run_append_of_keeps judge _ pre hpre, run]
  cases hj : judge i with
  | keep records => rw [hj] at hi; cases hi
  | finish records => rfl
  | reject error => rfl
  | panic p => rfl

/-- The first item that does not go on fails a run with its error. -/
theorem run_of_reject {judge : ι → Verdict ε τ} {pre : List ι} {i : ι} {error : ε} (post : List ι)
    (hpre : ∀ x ∈ pre, (judge x).keeps = true) (hi : judge i = .reject error) :
    run judge (pre ++ i :: post) = .err error := by
  rw [run_of_split judge pre i post hpre (by rw [hi]; rfl), hi]
  rfl

/-- Either every item goes on, or there is a first one that does not. -/
theorem exists_split (judge : ι → Verdict ε τ) : ∀ (is : List ι),
    (∀ i ∈ is, (judge i).keeps = true) ∨
      ∃ pre i post, is = pre ++ i :: post ∧ (∀ x ∈ pre, (judge x).keeps = true) ∧ (judge i).keeps = false
  | [] => Or.inl (fun _ h => by cases h)
  | i :: is => by
    cases hi : (judge i).keeps with
    | false => exact Or.inr ⟨[], i, is, rfl, (fun _ h => by cases h), hi⟩
    | true =>
      rcases exists_split judge is with hall | ⟨pre, x, post, rfl, hpre, hx⟩
      · refine Or.inl (fun y hy => ?_)
        rcases List.mem_cons.1 hy with rfl | hy
        · exact hi
        · exact hall y hy
      · refine Or.inr ⟨i :: pre, x, post, rfl, fun y hy => ?_, hx⟩
        rcases List.mem_cons.1 hy with rfl | hy
        · exact hi
        · exact hpre y hy

/-- Errors renamed in every verdict are renamed in the outcome. -/
theorem run_mapErr {δ : Type} (f : ε → δ) (judge : ι → Verdict ε τ) : ∀ (is : List ι),
    (run judge is).mapErr f = run (fun i => (judge i).mapErr f) is
  | [] => rfl
  | i :: is => by
    rw [run, run, ← run_mapErr f judge is]
    cases judge i with
    | keep records => exact Outcome.mapErr_map f _ _
    | finish records => rfl
    | reject error => rfl
    | panic p => rfl

theorem run_map {κ : Type} (g : κ → ι) (judge : ι → Verdict ε τ) : ∀ (is : List κ),
    run judge (is.map g) = run (judge ∘ g) is
  | [] => rfl
  | i :: is => by
    rw [List.map_cons, run, run, run_map g judge is]
    rfl

theorem run_congr {judge judge' : ι → Verdict ε τ} : ∀ {is : List ι}, (∀ i ∈ is, judge i = judge' i) →
    run judge is = run judge' is
  | [], _ => rfl
  | i :: is, h => by
    rw [run, run, h i List.mem_cons_self, run_congr (fun x hx => h x (List.mem_cons_of_mem i hx))]

/-! ## Endings -/

/-- How an item ends a run: well, or with an error or a panic. -/
inductive Ending (ε : Type) where
  | complete
  | failed (error : ε)
  | panicked (p : Panic)
  deriving DecidableEq, Repr

/-- The verdict of a receiver whose complete ends add nothing. -/
def verdictOf (ending : ι → Option (Ending ε)) (values : ι → List τ) (i : ι) : Verdict ε τ :=
  match ending i with
  | none => .keep (values i)
  | some .complete => .finish []
  | some (.failed error) => .reject error
  | some (.panicked p) => .panic p

/-- The outcome an ending leaves. -/
def Ending.outcome (values : List τ) : Ending ε → Outcome ε (List τ)
  | .complete => .ok values
  | .failed error => .err error
  | .panicked p => .panicked p

section
variable (ending : ι → Option (Ending ε)) (values : ι → List τ)

theorem verdictOf_keeps (i : ι) : (verdictOf ending values i).keeps = true ↔ ending i = none := by
  unfold verdictOf
  cases ending i with
  | none => simp [Verdict.keeps]
  | some e => cases e <;> simp [Verdict.keeps]

theorem verdictOf_eq_reject_iff (i : ι) (error : ε) :
    verdictOf ending values i = .reject error ↔ ending i = some (.failed error) := by
  unfold verdictOf
  cases ending i with
  | none => simp
  | some e => cases e <;> simp

theorem kept_verdictOf : ∀ (is : List ι), (∀ i ∈ is, ending i = none) →
    kept (verdictOf ending values) is = is.flatMap values
  | [], _ => rfl
  | i :: is, h => by
    have hi := h i List.mem_cons_self
    rw [kept_cons, kept_verdictOf is (fun x hx => h x (List.mem_cons_of_mem i hx)), verdictOf, hi]
    rfl

/-- **The first item with an ending ends the run**, with the values before it. -/
theorem run_of_ending {pre : List ι} {i : ι} {e : Ending ε} (post : List ι) (hpre : ∀ x ∈ pre, ending x = none)
    (hi : ending i = some e) : run (verdictOf ending values) (pre ++ i :: post) = e.outcome (pre.flatMap values) := by
  have hclose : (verdictOf ending values i).keeps = false := by
    have := verdictOf_keeps ending values i
    rw [hi] at this
    simpa using this
  rw [run_of_split _ pre i post (fun x hx => (verdictOf_keeps ending values x).2 (hpre x hx)) hclose,
    kept_verdictOf ending values pre hpre, verdictOf, hi]
  cases e with
  | complete => simp [Verdict.close, Ending.outcome]
  | failed error => rfl
  | panicked p => rfl

theorem run_of_no_ending {is : List ι} (h : ∀ i ∈ is, ending i = none) :
    run (verdictOf ending values) is = .waiting :=
  run_of_keeps _ is (fun i hi => (verdictOf_keeps ending values i).2 (h i hi))

theorem exists_ending (is : List ι) :
    (∀ i ∈ is, ending i = none) ∨
      ∃ pre i e post, is = pre ++ i :: post ∧ (∀ x ∈ pre, ending x = none) ∧ ending i = some e := by
  have hnil : ι → List Unit := fun _ => []
  rcases exists_split (verdictOf ending hnil) is with hall | ⟨pre, i, post, rfl, hpre, hi⟩
  · exact Or.inl (fun i hi => (verdictOf_keeps ending _ i).1 (hall i hi))
  · have hnone : ending i ≠ none := fun h => by
      rw [(verdictOf_keeps ending _ i).2 h] at hi
      cases hi
    obtain ⟨e, he⟩ := Option.ne_none_iff_exists'.1 hnone
    exact Or.inr ⟨pre, i, e, post, rfl, fun x hx => (verdictOf_keeps ending _ x).1 (hpre x hx), he⟩

/-- The first item with an ending is unique. -/
theorem split_unique : ∀ {pre pre' : List ι} {i i' : ι} {post post' : List ι} {e e' : Ending ε},
    pre ++ i :: post = pre' ++ i' :: post' → (∀ x ∈ pre, ending x = none) → ending i = some e →
    (∀ x ∈ pre', ending x = none) → ending i' = some e' → pre = pre' ∧ i = i' ∧ post = post'
  | [], [], _, _, _, _, _, _, h, _, _, _, _ => by
    simp only [List.nil_append, List.cons.injEq] at h
    exact ⟨rfl, h.1, h.2⟩
  | [], x :: pre', _, _, _, _, _, _, h, _, hi, hpre', _ => by
    simp only [List.nil_append, List.cons_append, List.cons.injEq] at h
    have := hpre' x List.mem_cons_self
    rw [← h.1, hi] at this
    cases this
  | x :: pre, [], _, _, _, _, _, _, h, hpre, _, _, hi' => by
    simp only [List.nil_append, List.cons_append, List.cons.injEq] at h
    have := hpre x List.mem_cons_self
    rw [h.1, hi'] at this
    cases this
  | x :: pre, x' :: pre', _, _, _, _, _, _, h, hpre, hi, hpre', hi' => by
    simp only [List.cons_append, List.cons.injEq] at h
    obtain ⟨rfl, h⟩ := h
    obtain ⟨rfl, hi, hpost⟩ := split_unique h (fun y hy => hpre y (List.mem_cons_of_mem _ hy)) hi
      (fun y hy => hpre' y (List.mem_cons_of_mem _ hy)) hi'
    exact ⟨rfl, hi, hpost⟩

theorem run_verdictOf_eq_ok_iff (is : List ι) (vs : List τ) :
    run (verdictOf ending values) is = .ok vs ↔
      ∃ pre done post, is = pre ++ done :: post ∧ (∀ x ∈ pre, ending x = none) ∧ ending done = some .complete ∧
        vs = pre.flatMap values := by
  constructor
  · intro h
    rcases exists_ending ending is with hall | ⟨pre, i, e, post, rfl, hpre, hi⟩
    · rw [run_of_no_ending ending values hall] at h
      cases h
    · rw [run_of_ending ending values post hpre hi] at h
      cases e with
      | complete => exact ⟨pre, i, post, rfl, hpre, hi, (Outcome.ok.inj h).symm⟩
      | failed error => cases h
      | panicked p => cases h
  · rintro ⟨pre, done, post, rfl, hpre, hdone, rfl⟩
    rw [run_of_ending ending values post hpre hdone]
    rfl

theorem run_verdictOf_eq_err_iff (is : List ι) (error : ε) :
    run (verdictOf ending values) is = .err error ↔
      ∃ pre i post, is = pre ++ i :: post ∧ (∀ x ∈ pre, ending x = none) ∧ ending i = some (.failed error) := by
  constructor
  · intro h
    rcases exists_ending ending is with hall | ⟨pre, i, e, post, rfl, hpre, hi⟩
    · rw [run_of_no_ending ending values hall] at h
      cases h
    · rw [run_of_ending ending values post hpre hi] at h
      cases e with
      | complete => cases h
      | failed e =>
        obtain rfl := Outcome.err.inj h
        exact ⟨pre, i, post, rfl, hpre, hi⟩
      | panicked p => cases h
  · rintro ⟨pre, i, post, rfl, hpre, hi⟩
    rw [run_of_ending ending values post hpre hi]
    rfl

/-- The first ending of a list is a failure. -/
def FailsFirst (is : List ι) : Prop :=
  ∃ pre i post error, is = pre ++ i :: post ∧ (∀ x ∈ pre, ending x = none) ∧ ending i = some (.failed error)

theorem run_isErr_iff (is : List ι) : (run (verdictOf ending values) is).IsErr ↔ FailsFirst ending is := by
  constructor
  · rintro ⟨error, h⟩
    obtain ⟨pre, i, post, his, hpre, hi⟩ := (run_verdictOf_eq_err_iff ending values is error).1 h
    exact ⟨pre, i, post, error, his, hpre, hi⟩
  · rintro ⟨pre, i, post, error, his, hpre, hi⟩
    exact ⟨error, (run_verdictOf_eq_err_iff ending values is error).2 ⟨pre, i, post, his, hpre, hi⟩⟩

/-- **Before a complete end, a run fails exactly when something fails it first.** -/
theorem run_isErr_iff_of_complete {is : List ι} {done : ι} (post : List ι) (hdone : ending done = some .complete) :
    (run (verdictOf ending values) (is ++ done :: post)).IsErr ↔ FailsFirst ending is := by
  rw [run_isErr_iff]
  constructor
  · rintro ⟨pre, i, rest, error, hsplit, hpre, hi⟩
    rcases exists_ending ending is with hall | ⟨pre', i', e, rest', rfl, hpre', hi'⟩
    · obtain ⟨-, rfl, -⟩ := split_unique ending hsplit hall hdone hpre hi
      rw [hdone] at hi
      cases hi
    · rw [List.append_assoc, List.cons_append] at hsplit
      obtain ⟨rfl, rfl, -⟩ := split_unique ending hsplit hpre' hi' hpre hi
      exact ⟨pre', i', rest', error, rfl, hpre', hi⟩
  · rintro ⟨pre, i, rest, error, rfl, hpre, hi⟩
    exact ⟨pre, i, rest ++ done :: post, error, by rw [List.append_assoc, List.cons_append], hpre, hi⟩

end

theorem Outcome.orFinish_isErr_iff (o : Outcome ε τ) (value : τ) : (o.orFinish value).IsErr ↔ o.IsErr := by
  cases o <;> simp [Outcome.orFinish, Outcome.IsErr]

/-! ## Collecting in an accumulator -/

/-- A verdict as a loop step that appends to what is held. -/
def judgeStep (judge : ι → Verdict ε τ) (held : List τ) (i : ι) : Checked (Flow (List τ) (Except ε (List τ))) :=
  match judge i with
  | .keep records => .ok (.next (held ++ records))
  | .finish records => .ok (.stop (.ok (held ++ records)))
  | .reject error => .ok (.stop (.error error))
  | .panic p => .error p

/-- What a loop holds after items without an ending. -/
theorem scan_of_no_ending (ending : ι → Option (Ending ε)) (values : ι → List τ) (post : List ι) :
    ∀ (pre : List ι) (held : List τ), (∀ i ∈ pre, ending i = none) →
      scan (judgeStep (verdictOf ending values)) (pre ++ post) held =
        scan (judgeStep (verdictOf ending values)) post (held ++ pre.flatMap values)
  | [], held, _ => by rw [List.nil_append, List.flatMap_nil, List.append_nil]
  | i :: pre, held, h => by
    have hi := h i List.mem_cons_self
    have ih := scan_of_no_ending ending values post pre (held ++ values i) (fun x hx => h x (List.mem_cons_of_mem i hx))
    rw [List.cons_append, scan, judgeStep, verdictOf, hi]
    dsimp only
    rw [ih, List.flatMap_cons, List.append_assoc]

/-- A loop that has read a part of the stream, and the run over the rest of it. -/
def resume (rest : Outcome ε (List τ)) : Checked (Flow (List τ) (Except ε (List τ))) → Outcome ε (List τ)
  | .ok (.next held) => rest.map (held ++ ·)
  | .ok (.stop (.ok values)) => .ok values
  | .ok (.stop (.error error)) => .err error
  | .error p => .panicked p

/-- **A run is the loop over a first part of the stream**, resumed on the rest. -/
theorem resume_scan (judge : ι → Verdict ε τ) (post : List ι) : ∀ (pre : List ι) (held : List τ),
    resume (run judge post) (scan (judgeStep judge) pre held) = (run judge (pre ++ post)).map (held ++ ·)
  | [], held => rfl
  | i :: pre, held => by
    rw [scan, judgeStep, List.cons_append, run]
    cases judge i with
    | keep records =>
      simp only [resume_scan judge post pre, Outcome.map_map, Function.comp_def, List.append_assoc]
    | finish records => rfl
    | reject error => rfl
    | panic p => rfl

/-- An item that fails a run fails the loop over it. -/
theorem scan_of_reject {judge : ι → Verdict ε τ} {pre : List ι} {i : ι} {error : ε} (post : List ι) (held : List τ)
    (hpre : ∀ x ∈ pre, (judge x).keeps = true) (hi : judge i = .reject error) :
    scan (judgeStep judge) (pre ++ i :: post) held = .ok (.stop (.error error)) := by
  have hresume := resume_scan judge [] (pre ++ i :: post) held
  rw [List.append_nil, run_of_reject post hpre hi] at hresume
  cases hscan : scan (judgeStep judge) (pre ++ i :: post) held with
  | error p => rw [hscan] at hresume; cases hresume
  | ok flow =>
    rw [hscan] at hresume
    cases flow with
    | next held' => cases hresume
    | stop result =>
      cases result with
      | ok values => cases hresume
      | error e => rw [Outcome.err.inj hresume]

/-! ## Records of a table -/

/-- What is collected of the descriptions of entries is collected of the entries. -/
theorem filterMap_forall₂ {D M β : Type} {f : M → Option β} {g : D → Option β} {describes : D → M → Prop}
    {table : List D} {descriptions : List M} (h : List.Forall₂ describes table descriptions)
    (hf : ∀ d description, describes d description → f description = g d) :
    descriptions.filterMap f = table.filterMap g := by
  induction h with
  | nil => rfl
  | cons hdescribes _ ih => rw [List.filterMap_cons, List.filterMap_cons, ih, hf _ _ hdescribes]

end Collect
