import Networkrs.Lib.Checked
/-!
# Framing — sequences of length-prefixed records

A record starts with a header of fixed size that declares the record's whole length, and the next record starts an
aligned length later.  `walk` is the loop a parser runs over such bytes: it keeps an offset, takes the record at it,
hands it to a step that continues or stops, and faults on a length the bytes cannot hold.  Its slices, its difference
and its sums of offsets are checked.  `items` is what the bytes are: the records in order, and a last fault where the
framing breaks.  `walk_eq_scan` connects the two: the loop never leaves its bytes, its offsets never overflow, and it
is the step folded over the items.
-/
namespace Framing

open Machine

variable {α η σ ρ : Type}

/-- What a loop does after a step: go on in a state, or stop with a result. -/
inductive Flow (σ ρ : Type) where
  | next (s : σ)
  | stop (r : ρ)
  deriving DecidableEq, Repr

/-- How the framing of a record breaks: its header is cut short, or declares a length it cannot have. -/
inductive Fault where
  | truncatedHeader
  | invalidLength
  deriving DecidableEq, Repr

/-- A record format: a header of `size` elements that declares the record's length, and the distance to the next
record, which adds at most `padding`.  The header is read from the first `size` elements alone. -/
structure Format (α η : Type) where
  size : Nat
  read : List α → Option η
  length : η → Nat
  align : Nat → Nat
  padding : Nat
  size_pos : 0 < size
  read_isSome : ∀ l, (read l).isSome = true ↔ size ≤ l.length
  read_take : ∀ l n, size ≤ n → read (l.take n) = read l
  le_align : ∀ n, n ≤ align n
  align_le : ∀ n, align n ≤ n + padding
  padding_le : padding ≤ size

/-- One item of framed bytes: a record with its header, or the fault the framing breaks with. -/
inductive Item (α η : Type) where
  | record (header : η) (body : List α)
  | fault (f : Fault)
  deriving DecidableEq, Repr

/-! ## The loop -/

/-- The loop over framed bytes, from an offset and a state. -/
def walk (fmt : Format α η) (step : σ → η → List α → Checked (Flow σ ρ)) (fault : σ → Fault → ρ) (l : List α)
    (offset : Nat) (s : σ) : Checked (Flow σ ρ) :=
  if _ : fmt.size ≤ l.length - offset then do
    let rest ← sliceFrom l offset
    match fmt.read rest with
    | none => return .stop (fault s .truncatedHeader)
    | some header =>
      let room ← usizeSub l.length offset
      if _ : fmt.length header < fmt.size ∨ room < fmt.length header then
        return .stop (fault s .invalidLength)
      else
        let _ ← usizeAdd l offset (fmt.length header)
        let body ← slice l offset (offset + fmt.length header)
        match ← step s header body with
        | .stop r => return .stop r
        | .next s' =>
          -- The aligned length is a sum too: `(length + padding) & !padding`.
          let _ ← usizeAdd l (fmt.length header) fmt.padding
          let _ ← usizeAdd l offset (fmt.align (fmt.length header))
          walk fmt step fault l (offset + fmt.align (fmt.length header)) s'
  else
    return .next s
termination_by l.length - offset
decreasing_by
  have := fmt.le_align (fmt.length header)
  have := fmt.size_pos
  omega

/-! ## What the bytes are -/

/-- The items of framed bytes. -/
def items (fmt : Format α η) (l : List α) : List (Item α η) :=
  if _ : fmt.size ≤ l.length then
    match fmt.read l with
    | none => [.fault .truncatedHeader]
    | some header =>
      if _ : fmt.length header < fmt.size ∨ l.length < fmt.length header then
        [.fault .invalidLength]
      else
        .record header (l.take (fmt.length header)) :: items fmt (l.drop (fmt.align (fmt.length header)))
  else
    []
termination_by l.length
decreasing_by
  have := fmt.le_align (fmt.length header)
  have := fmt.size_pos
  simp only [List.length_drop]
  omega

/-- A step folded over a list, up to the first stop. -/
def scan {ι : Type} (step : σ → ι → Checked (Flow σ ρ)) : List ι → σ → Checked (Flow σ ρ)
  | [], s => .ok (.next s)
  | i :: is, s =>
    match step s i with
    | .error p => .error p
    | .ok (.stop r) => .ok (.stop r)
    | .ok (.next s') => scan step is s'

/-- A step on records, as a step on items: a fault stops. -/
def itemStep (step : σ → η → List α → Checked (Flow σ ρ)) (fault : σ → Fault → ρ) (s : σ) :
    Item α η → Checked (Flow σ ρ)
  | .record header body => step s header body
  | .fault f => .ok (.stop (fault s f))

theorem items_of_short (fmt : Format α η) {l : List α} (h : l.length < fmt.size) : items fmt l = [] := by
  rw [items, dif_neg (by omega)]

theorem Format.read_eq_some (fmt : Format α η) {l : List α} (h : fmt.size ≤ l.length) :
    ∃ header, fmt.read l = some header :=
  Option.isSome_iff_exists.1 ((fmt.read_isSome l).2 h)

theorem items_of_invalid (fmt : Format α η) {l : List α} {header : η} (hsize : fmt.size ≤ l.length)
    (hread : fmt.read l = some header) (hlength : fmt.length header < fmt.size ∨ l.length < fmt.length header) :
    items fmt l = [.fault .invalidLength] := by
  rw [items, dif_pos hsize]
  simp only [hread]
  rw [dif_pos hlength]

theorem items_of_record (fmt : Format α η) {l : List α} {header : η} (hread : fmt.read l = some header)
    (hsize : fmt.size ≤ fmt.length header) (hlength : fmt.length header ≤ l.length) :
    items fmt l =
      .record header (l.take (fmt.length header)) :: items fmt (l.drop (fmt.align (fmt.length header))) := by
  conv => lhs; rw [items]
  rw [dif_pos (by omega)]
  simp only [hread]
  rw [dif_neg (by omega)]

/-- **The loop never leaves its bytes, its offsets never overflow, and it is the step folded over the items.** -/
theorem walk_eq_scan (fmt : Format α η) (step : σ → η → List α → Checked (Flow σ ρ)) (fault : σ → Fault → ρ)
    (l : List α) (offset : Nat) (s : σ) :
    walk fmt step fault l offset s = scan (itemStep step fault) (items fmt (l.drop offset)) s := by
  by_cases hsize : fmt.size ≤ l.length - offset
  · have hpos := fmt.size_pos
    have hdrop : fmt.size ≤ (l.drop offset).length := by simpa using hsize
    obtain ⟨header, hread⟩ := fmt.read_eq_some hdrop
    rw [walk, dif_pos hsize, sliceFrom_eq l (by omega), usizeSub_eq (by omega)]
    simp only [bind, Except.bind, hread]
    by_cases hlength : fmt.length header < fmt.size ∨ l.length - offset < fmt.length header
    · rw [dif_pos hlength, items_of_invalid fmt hdrop hread (by simpa using hlength)]
      rfl
    · have hrecord := items_of_record fmt hread (by omega) (by simp only [List.length_drop]; omega)
      have hle := fmt.le_align (fmt.length header)
      have halign := fmt.align_le (fmt.length header)
      have hpadding := fmt.padding_le
      rw [dif_neg hlength, usizeAdd_eq l (by omega), slice_eq l (by omega) (by omega), hrecord,
        Nat.add_sub_cancel_left, usizeAdd_eq l (by omega), usizeAdd_eq l (by omega)]
      simp only [scan, itemStep]
      cases step s header ((l.drop offset).take (fmt.length header)) with
      | error p => rfl
      | ok flow =>
        cases flow with
        | stop r => rfl
        | next s' =>
          simp only [List.drop_drop]
          exact walk_eq_scan fmt step fault l (offset + fmt.align (fmt.length header)) s'
  · rw [walk, dif_neg hsize, items_of_short fmt (by simp only [List.length_drop]; omega)]
    rfl
termination_by l.length - offset

/-! ## Records of framed bytes -/

/-- A record lies in its bytes: its header is read off its body, which has the length the header declares. -/
theorem mem_items_record (fmt : Format α η) (l : List α) {header : η} {body : List α}
    (h : .record header body ∈ items fmt l) :
    fmt.read body = some header ∧ body.length = fmt.length header ∧ fmt.size ≤ body.length := by
  by_cases hsize : fmt.size ≤ l.length
  · obtain ⟨first, hread⟩ := fmt.read_eq_some hsize
    have hpos := fmt.size_pos
    by_cases hlength : fmt.length first < fmt.size ∨ l.length < fmt.length first
    · rw [items_of_invalid fmt hsize hread hlength] at h
      simp at h
    · have hle := fmt.le_align (fmt.length first)
      rw [items_of_record fmt hread (by omega) (by omega)] at h
      rcases List.mem_cons.1 h with heq | htail
      · obtain ⟨rfl, rfl⟩ := Item.record.inj heq
        refine ⟨?_, ?_, ?_⟩
        · rw [fmt.read_take l _ (by omega), hread]
        · simp only [List.length_take]; omega
        · simp only [List.length_take]; omega
      · exact mem_items_record fmt (l.drop (fmt.align (fmt.length first))) htail
  · rw [items_of_short fmt (by omega)] at h
    cases h
termination_by l.length
decreasing_by
  simp only [List.length_drop]
  omega

/-- **A record in front of other bytes** is their first item: its header declares its length, and padding fills it up
to the next record. -/
theorem items_append (fmt : Format α η) (body padding rest : List α) {header : η}
    (hread : fmt.read body = some header) (hlength : fmt.length header = body.length)
    (hpad : body.length + padding.length = fmt.align body.length) :
    items fmt (body ++ (padding ++ rest)) = .record header body :: items fmt rest := by
  have hsize : fmt.size ≤ body.length := (fmt.read_isSome body).1 (by rw [hread]; rfl)
  have hread' : fmt.read (body ++ (padding ++ rest)) = some header := by
    rw [← fmt.read_take _ body.length hsize, List.take_left, hread]
  rw [items_of_record fmt hread' (by omega) (by simp only [List.length_append]; omega), hlength, List.take_left,
    ← hpad, ← List.drop_drop, List.drop_left, List.drop_left]

/-- **A record at the end of its bytes**: the padding behind it may be cut short. -/
theorem items_last (fmt : Format α η) (body padding : List α) {header : η} (hread : fmt.read body = some header)
    (hlength : fmt.length header = body.length) (hpad : body.length + padding.length ≤ fmt.align body.length) :
    items fmt (body ++ padding) = [.record header body] := by
  have hsize : fmt.size ≤ body.length := (fmt.read_isSome body).1 (by rw [hread]; rfl)
  have hread' : fmt.read (body ++ padding) = some header := by
    rw [← fmt.read_take _ body.length hsize, List.take_left, hread]
  have hend : (body ++ padding).drop (fmt.align body.length) = [] := by
    apply List.drop_eq_nil_of_le
    simpa using hpad
  rw [items_of_record fmt hread' (by omega) (by simp only [List.length_append]; omega), hlength, List.take_left, hend,
    items_of_short fmt (l := []) fmt.size_pos]

/-- **Records one after another** are the items of their bytes. -/
theorem items_flatMap (fmt : Format α η) {β : Type} (header : β → η) (body padding : β → List α) : ∀ (l : List β),
    (∀ b ∈ l, fmt.read (body b) = some (header b) ∧ fmt.length (header b) = (body b).length ∧
      (body b).length + (padding b).length = fmt.align (body b).length) →
    items fmt (l.flatMap (fun b => body b ++ padding b)) = l.map (fun b => .record (header b) (body b))
  | [], _ => items_of_short fmt fmt.size_pos
  | b :: l, h => by
    have ih := items_flatMap fmt header body padding l (fun x hx => h x (List.mem_cons_of_mem b hx))
    obtain ⟨hread, hlength, hpad⟩ := h b List.mem_cons_self
    rw [List.flatMap_cons, List.append_assoc, items_append fmt _ _ _ hread hlength hpad, ih, List.map_cons]

/-- Bytes that are whole records one after another, each padded up to the next. -/
inductive Framed (fmt : Format α η) : List (η × List α) → List α → Prop where
  | nil : Framed fmt [] []
  | cons {header : η} {body rest : List α} {records : List (η × List α)} (padding : List α)
      (read : fmt.read body = some header) (length : fmt.length header = body.length)
      (pad : body.length + padding.length = fmt.align body.length) (tail : Framed fmt records rest) :
      Framed fmt ((header, body) :: records) (body ++ (padding ++ rest))

/-- **Whole records in front of other bytes** are their first items. -/
theorem items_append_of_framed (fmt : Format α η) (rest : List α) {records : List (η × List α)} {l : List α}
    (h : Framed fmt records l) :
    items fmt (l ++ rest) = records.map (fun r => .record r.1 r.2) ++ items fmt rest := by
  induction h with
  | nil => rfl
  | cons padding read length pad tail ih =>
    rw [List.append_assoc, List.append_assoc, items_append fmt _ _ _ read length pad, ih]
    rfl

theorem items_of_framed (fmt : Format α η) {records : List (η × List α)} {l : List α} (h : Framed fmt records l) :
    items fmt l = records.map (fun r => .record r.1 r.2) := by
  have happend := items_append_of_framed fmt [] h
  rwa [List.append_nil, items_of_short fmt (l := []) fmt.size_pos, List.append_nil] at happend

/-! ## Loops that collect every record -/

/-- Every record with its header, or nothing when the framing breaks. -/
def allRecords : List (Item α η) → Option (List (η × List α))
  | [] => some []
  | .record header body :: is => (allRecords is).map ((header, body) :: ·)
  | .fault _ :: _ => none

theorem allRecords_map_record {β : Type} (header : β → η) (body : β → List α) : ∀ (l : List β),
    allRecords (l.map (fun b => Item.record (header b) (body b))) = some (l.map (fun b => (header b, body b)))
  | [] => rfl
  | b :: l => by
    rw [List.map_cons, allRecords, allRecords_map_record header body l]
    rfl

theorem scan_congr {ι : Type} {step step' : σ → ι → Checked (Flow σ ρ)} : ∀ {is : List ι},
    (∀ s, ∀ i ∈ is, step s i = step' s i) → ∀ s, scan step is s = scan step' is s
  | [], _, _ => rfl
  | i :: is, h, s => by
    rw [scan, scan, h s i List.mem_cons_self]
    simp only [scan_congr (fun s x hx => h s x (List.mem_cons_of_mem i hx))]

/-- A loop whose steps go on reads all its items. -/
theorem scan_of_next {ι : Type} {step : σ → ι → Checked (Flow σ ρ)} : ∀ {is : List ι},
    (∀ s, ∀ i ∈ is, ∃ flow, step s i = .ok flow) → ∀ s, ∃ flow, scan step is s = .ok flow
  | [], _, s => ⟨.next s, rfl⟩
  | i :: is, h, s => by
    obtain ⟨flow, hflow⟩ := h s i List.mem_cons_self
    rw [scan, hflow]
    cases flow with
    | stop r => exact ⟨.stop r, rfl⟩
    | next s' => exact scan_of_next (fun s x hx => h s x (List.mem_cons_of_mem i hx)) s'

/-- **A loop panics only as one of its steps does.** -/
theorem exists_of_scan_eq_error {ι : Type} {step : σ → ι → Checked (Flow σ ρ)} {p : Panic} : ∀ (is : List ι) (s : σ),
    scan step is s = .error p → ∃ s', ∃ i ∈ is, step s' i = .error p
  | [], _, h => by cases h
  | i :: is, s, h => by
    rw [scan] at h
    cases hstep : step s i with
    | error q =>
      rw [hstep] at h
      cases h
      exact ⟨s, i, List.mem_cons_self, hstep⟩
    | ok flow =>
      rw [hstep] at h
      cases flow with
      | stop r => cases h
      | next s' =>
        obtain ⟨s'', j, hj, hpanic⟩ := exists_of_scan_eq_error is s' h
        exact ⟨s'', j, List.mem_cons_of_mem i hj, hpanic⟩

/-- **A loop whose steps all go on** folds them over all records, or stops at a fault. -/
theorem scan_fold (f : σ → η → List α → σ) : ∀ (is : List (Item α η)) (s : σ),
    scan (itemStep (fun s header body => .ok (.next (f s header body))) (fun _ _ => ())) is s =
      match allRecords is with
      | some records => .ok (.next (records.foldl (fun s r => f s r.1 r.2) s))
      | none => .ok (.stop ())
  | [], s => rfl
  | .fault fault :: is, s => rfl
  | .record header body :: is, s => by
    simp only [scan, itemStep, allRecords, scan_fold f is]
    cases allRecords is with
    | none => rfl
    | some records => rfl

theorem foldl_append_map {β τ : Type} (value : β → τ) : ∀ (l : List β) (held : List τ),
    l.foldl (fun held b => held ++ [value b]) held = held ++ l.map value
  | [], held => by simp
  | b :: l, held => by
    rw [List.foldl_cons, foldl_append_map value l, List.map_cons, List.append_assoc, List.singleton_append]

/-- **A loop that appends a value for each record** collects the values of all records, or stops at a fault. -/
theorem scan_append {τ : Type} (value : η → List α → τ) (is : List (Item α η)) (held : List τ) :
    scan (itemStep (fun held header body => .ok (.next (held ++ [value header body]))) (fun _ _ => ())) is held =
      match allRecords is with
      | some records => .ok (.next (held ++ records.map (fun r => value r.1 r.2)))
      | none => .ok (.stop ()) := by
  rw [scan_fold (fun held header body => held ++ [value header body])]
  cases allRecords is with
  | none => rfl
  | some records => simp only [foldl_append_map (fun r : η × List α => value r.1 r.2)]

/-- Every record of framed bytes lies in them. -/
theorem mem_of_allRecords : ∀ {is : List (Item α η)} {records : List (η × List α)}, allRecords is = some records →
    ∀ r ∈ records, Item.record r.1 r.2 ∈ is
  | [], records, h, r, hr => by
    obtain rfl := Option.some.inj h
    cases hr
  | .fault f :: is, records, h, r, hr => by cases h
  | .record header body :: is, records, h, r, hr => by
    simp only [allRecords, Option.map_eq_some_iff] at h
    obtain ⟨tail, htail, rfl⟩ := h
    rcases List.mem_cons.1 hr with rfl | hr
    · exact List.mem_cons_self
    · exact List.mem_cons_of_mem _ (mem_of_allRecords htail r hr)

end Framing
