import Networkrs.Ethtool
/-!
# Statistics — the hardware counters of `ethtool.rs`

`parse_statistics` reads the groups of a `STATS_GET` reply: counters in nests, and the buckets of two histograms, each
nest skipped where it is malformed.  Whatever the mixture, the records it returns are those of the counters and the
complete buckets, each once, in the order of their names (`parseStatistics_spec`); and what is malformed might as well
not be there (`parseStatistics_of_badGroups`, `parseStatistics_of_badItems`).
-/
namespace Networkrs

open Machine Framing

def statsGroup : UInt16 := 4
def statsGroupId : UInt16 := 2
def statsGroupStat : UInt16 := 4
def statsGroupHistRx : UInt16 := 5
def statsGroupHistTx : UInt16 := 6
def statsHistLow : UInt16 := 7
def statsHistHigh : UInt16 := 8
def statsHistValue : UInt16 := 9

structure Statistic where
  group : Text
  name : Text
  value : UInt64
  deriving DecidableEq, Repr

def statisticGroupName (group : UInt32) : Text :=
  let names : List (UInt32 × Text) :=
    [(0, "ethernet-phy"), (1, "ethernet-mac"), (2, "ethernet-control"), (3, "rmon"), (4, "phy")]
  (names.lookup group).getD "unknown"

/-- The arms of `statistic_name`, by group. -/
def statisticNames (group : UInt32) : List (UInt16 × Text) :=
  if group = 0 then [(0, "symbol-errors")]
  else if group = 1 then
    [(0, "transmitted-packets"), (1, "single-collision-frames"), (2, "multiple-collision-frames"),
      (3, "received-packets"), (4, "frame-check-sequence-errors"), (5, "alignment-errors"), (6, "transmitted-bytes"),
      (7, "deferred-transmissions"), (8, "late-collisions"), (9, "excessive-collisions"),
      (10, "internal-transmit-errors"), (11, "carrier-sense-errors"), (12, "received-bytes"),
      (13, "internal-receive-errors"), (14, "transmitted-multicast-frames"), (15, "transmitted-broadcast-frames"),
      (16, "excessive-deferrals"), (17, "received-multicast-frames"), (18, "received-broadcast-frames"),
      (19, "in-range-length-errors"), (20, "out-of-range-length-errors"), (21, "frame-too-long-errors")]
  else if group = 2 then
    [(0, "transmitted-control-frames"), (1, "received-control-frames"), (2, "unsupported-opcodes-received")]
  else if group = 3 then [(0, "undersize-packets"), (1, "oversize-packets"), (2, "fragments"), (3, "jabbers")]
  else if group = 4 then
    [(0, "received-packets"), (1, "received-bytes"), (2, "receive-errors"), (3, "transmitted-packets"),
      (4, "transmitted-bytes"), (5, "transmit-errors")]
  else []

def statisticName (group : UInt32) (statistic : UInt16) : Text :=
  ((statisticNames group).lookup statistic).getD ("statistic-" ++ decimal statistic.toNat)

def histogramName (direction : Text) (low high : UInt32) : Text :=
  direction ++ "-packets-" ++ decimal low.toNat ++ "-" ++ decimal high.toNat ++ "-bytes"

/-- `(left.group, left.name).cmp(&(right.group, right.name))` is not greater. -/
def statisticLe (left right : Statistic) : Bool :=
  if left.group = right.group then textLe left.name right.name else textLe left.group right.group

variable (host : Host)

/-! ## `parse_statistics` -/

/-- The loop over the values of a nest. -/
def pushCounters (groupId : UInt32) (statistics : List Statistic) (values : List Attribute) : List Statistic :=
  values.foldl (fun statistics value =>
    match nativeU64 host value.value with
    | some count => statistics ++ [⟨statisticGroupName groupId, statisticName groupId value.kind, count⟩]
    | none => statistics) statistics

def pushStat (groupId : UInt32) (statistics : List Statistic) (statistic : Attribute) : Checked (List Statistic) := do
  match ← nestedAttributes host statistic.value with
  | none => return statistics
  | some values => return pushCounters host groupId statistics values

def pushHistogram (groupId : UInt32) (direction : Text) (statistics : List Statistic) (histogram : Attribute) :
    Checked (List Statistic) := do
  match ← nestedAttributes host histogram.value with
  | none => return statistics
  | some bucket =>
    match (nestedBytes bucket statsHistLow).bind (nativeU32 host) with
    | none => return statistics
    | some low =>
      match (nestedBytes bucket statsHistHigh).bind (nativeU32 host) with
      | none => return statistics
      | some high =>
        match (nestedBytes bucket statsHistValue).bind (nativeU64 host) with
        | none => return statistics
        | some value =>
          return statistics ++ [⟨statisticGroupName groupId, histogramName direction low high, value⟩]

def pushGroup (statistics : List Statistic) (attr : Attribute) : Checked (List Statistic) := do
  match ← nestedAttributes host attr.value with
  | none => return statistics
  | some groupAttributes =>
    match (nestedBytes groupAttributes statsGroupId).bind (nativeU32 host) with
    | none => return statistics
    | some groupId =>
      let statistics ← (groupAttributes.filter (fun attr => attr.kind = statsGroupStat)).foldlM (pushStat host groupId)
        statistics
      let directions : List (UInt16 × Text) := [(statsGroupHistRx, "receive"), (statsGroupHistTx, "transmit")]
      directions.foldlM (fun statistics (kind, direction) =>
        (groupAttributes.filter (fun attr => attr.kind = kind)).foldlM (pushHistogram host groupId direction)
          statistics) statistics

def parseStatistics (message : Message) : Checked (List Statistic) := do
  let statistics ← (message.attributes.filter (fun attr => attr.kind = statsGroup)).foldlM (pushGroup host) []
  return statistics.mergeSort statisticLe

/-! ## What a reply holds -/

/-- The attributes a nest holds, or nothing where its framing breaks. -/
def heldAttributes (value : Bytes) : Option (List Attribute) :=
  (allRecords (items (attributeFormat host) value)).map (fun records => records.map
    (fun r => { kind := r.1.kind &&& nlaTypeMask, value := r.2.drop AttributeHeader.size }))

theorem nestedAttributes_eq (value : Bytes) : nestedAttributes host value = .ok (heldAttributes host value) :=
  parseAttributes_eq host value 0

/-- The record of a counter: an attribute of at least eight bytes. -/
def counterRecord (group : UInt32) (counter : Attribute) : Option Statistic :=
  (nativeU64 host counter.value).map (fun count => ⟨statisticGroupName group, statisticName group counter.kind, count⟩)

/-- A complete bucket: both bounds and the count. -/
def bucketOf (value : Bytes) : Option (UInt32 × UInt32 × UInt64) := do
  let fields ← heldAttributes host value
  let low ← (nestedBytes fields statsHistLow).bind (nativeU32 host)
  let high ← (nestedBytes fields statsHistHigh).bind (nativeU32 host)
  let count ← (nestedBytes fields statsHistValue).bind (nativeU64 host)
  return (low, high, count)

def bucketRecord (group : UInt32) (direction : Text) (value : Bytes) : Option Statistic :=
  (bucketOf host value).map (fun bucket =>
    ⟨statisticGroupName group, histogramName direction bucket.1 bucket.2.1, bucket.2.2⟩)

def statRecords (group : UInt32) (value : Bytes) : List Statistic :=
  ((heldAttributes host value).getD []).filterMap (counterRecord host group)

/-- The records of one attribute of a group. -/
def itemRecords (group : UInt32) (attr : Attribute) : List Statistic :=
  if attr.kind = statsGroupStat then statRecords host group attr.value
  else if attr.kind = statsGroupHistRx then (bucketRecord host group "receive" attr.value).toList
  else if attr.kind = statsGroupHistTx then (bucketRecord host group "transmit" attr.value).toList
  else []

/-- The id of a group, read off its first attribute of that kind. -/
def groupIdOf (attributes : List Attribute) : Option UInt32 :=
  (nestedBytes attributes statsGroupId).bind (nativeU32 host)

/-- **The records of one attribute of a reply**: those of the attributes of a well-formed group with a readable id. -/
def groupRecords (attr : Attribute) : List Statistic :=
  if attr.kind = statsGroup then
    match heldAttributes host attr.value with
    | none => []
    | some attributes =>
      match groupIdOf host attributes with
      | none => []
      | some group => attributes.flatMap (itemRecords host group)
  else []

/-! ## What is pushed -/

theorem pushCounters_eq (group : UInt32) : ∀ (values : List Attribute) (held : List Statistic),
    pushCounters host group held values = held ++ values.filterMap (counterRecord host group)
  | [], held => (List.append_nil held).symm
  | value :: values, held => by
    have ih := fun held => pushCounters_eq group values held
    unfold pushCounters at ih ⊢
    rw [List.foldl_cons, ih, List.filterMap_cons, counterRecord]
    cases nativeU64 host value.value with
    | none => rfl
    | some count => exact List.append_assoc held _ _

theorem pushStat_eq (group : UInt32) (held : List Statistic) (attr : Attribute) :
    pushStat host group held attr = .ok (held ++ statRecords host group attr.value) := by
  unfold pushStat statRecords
  rw [nestedAttributes_eq, ok_bind]
  cases heldAttributes host attr.value with
  | none =>
    rw [Option.getD_none, List.filterMap_nil, List.append_nil]
    rfl
  | some values => exact congrArg Except.ok (pushCounters_eq host group values held)

theorem pushHistogram_eq (group : UInt32) (direction : Text) (held : List Statistic) (attr : Attribute) :
    pushHistogram host group direction held attr =
      .ok (held ++ (bucketRecord host group direction attr.value).toList) := by
  have hnone : (.ok held : Checked (List Statistic)) = .ok (held ++ []) := by rw [List.append_nil]
  unfold pushHistogram bucketRecord bucketOf
  rw [nestedAttributes_eq, ok_bind]
  dsimp only [Option.bind_eq_bind]
  cases heldAttributes host attr.value with
  | none => exact hnone
  | some bucket =>
    dsimp only [Option.bind_some]
    cases (nestedBytes bucket statsHistLow).bind (nativeU32 host) with
    | none => exact hnone
    | some low =>
      dsimp only [Option.bind_some]
      cases (nestedBytes bucket statsHistHigh).bind (nativeU32 host) with
      | none => exact hnone
      | some high =>
        dsimp only [Option.bind_some]
        cases (nestedBytes bucket statsHistValue).bind (nativeU64 host) with
        | none => exact hnone
        | some value => rfl

/-- The records of a group in the order they are pushed: the nests, then one histogram, then the other. -/
def pushedRecords (group : UInt32) (attributes : List Attribute) : List Statistic :=
  (attributes.filter (fun attr => attr.kind = statsGroupStat)).flatMap
      (fun attr => statRecords host group attr.value) ++
    (attributes.filter (fun attr => attr.kind = statsGroupHistRx)).flatMap
      (fun attr => (bucketRecord host group "receive" attr.value).toList) ++
    (attributes.filter (fun attr => attr.kind = statsGroupHistTx)).flatMap
      (fun attr => (bucketRecord host group "transmit" attr.value).toList)

/-- **A group pushes its records**, whatever their order in the group. -/
theorem pushedRecords_perm (group : UInt32) : ∀ (attributes : List Attribute),
    (pushedRecords host group attributes).Perm (attributes.flatMap (itemRecords host group))
  | [] => .nil
  | attr :: attributes => by
    have ih := pushedRecords_perm group attributes
    have hrx : statsGroupHistRx ≠ statsGroupStat := by decide
    have htx : statsGroupHistTx ≠ statsGroupStat := by decide
    have htx' : statsGroupHistTx ≠ statsGroupHistRx := by decide
    unfold pushedRecords at ih ⊢
    rw [List.flatMap_cons, itemRecords]
    by_cases hstat : attr.kind = statsGroupStat
    · simp only [List.filter_cons, hstat, hrx.symm, htx.symm, decide_true, decide_false, if_true, if_false,
        Bool.false_eq_true, List.flatMap_cons, List.append_assoc] at ih ⊢
      exact ih.append_left _
    · by_cases hreceive : attr.kind = statsGroupHistRx
      · simp only [List.filter_cons, hreceive, hrx, htx'.symm, decide_true, decide_false, if_true, if_false,
          Bool.false_eq_true, List.flatMap_cons, List.append_assoc] at ih ⊢
        exact List.perm_append_comm_assoc _ _ _ |>.trans (ih.append_left _)
      · by_cases htransmit : attr.kind = statsGroupHistTx
        · simp only [List.filter_cons, htransmit, htx, htx', decide_true, decide_false, if_true, if_false,
            Bool.false_eq_true, List.flatMap_cons] at ih ⊢
          exact List.perm_append_comm_assoc _ _ _ |>.trans (ih.append_left _)
        · simp only [List.filter_cons, hstat, hreceive, htransmit, decide_false, if_false, Bool.false_eq_true,
            List.nil_append] at ih ⊢
          exact ih

/-- The records of one attribute of a reply, in the order they are pushed. -/
def pushedGroup (attr : Attribute) : List Statistic :=
  match heldAttributes host attr.value with
  | none => []
  | some attributes =>
    match groupIdOf host attributes with
    | none => []
    | some group => pushedRecords host group attributes

theorem pushGroup_eq (held : List Statistic) (attr : Attribute) :
    pushGroup host held attr = .ok (held ++ pushedGroup host attr) := by
  have hnone : (.ok held : Checked (List Statistic)) = .ok (held ++ []) := by rw [List.append_nil]
  unfold pushGroup pushedGroup groupIdOf
  rw [nestedAttributes_eq, ok_bind]
  cases heldAttributes host attr.value with
  | none => exact hnone
  | some attributes =>
    dsimp only
    cases (nestedBytes attributes statsGroupId).bind (nativeU32 host) with
    | none => exact hnone
    | some group =>
      dsimp only
      rw [foldlM_of_push _ held (fun held attr _ => pushStat_eq host group held attr), ok_bind, List.foldlM_cons,
        foldlM_of_push _ _ (fun held attr _ => pushHistogram_eq host group "receive" held attr), ok_bind,
        List.foldlM_cons, foldlM_of_push _ _ (fun held attr _ => pushHistogram_eq host group "transmit" held attr),
        ok_bind, List.foldlM_nil]
      unfold pushedRecords
      simp only [List.append_assoc]
      rfl

/-- The records of a reply, in the order they are pushed. -/
def pushedMessage (message : Message) : List Statistic :=
  (message.attributes.filter (fun attr => attr.kind = statsGroup)).flatMap (pushedGroup host)

/-- **The records that are pushed are sorted**, and nothing panics. -/
theorem parseStatistics_eq (message : Message) :
    parseStatistics host message = .ok ((pushedMessage host message).mergeSort statisticLe) := by
  unfold parseStatistics pushedMessage
  rw [foldlM_of_push _ _ (fun held attr _ => pushGroup_eq host held attr), ok_bind, List.nil_append]
  rfl

theorem pushedMessage_perm (message : Message) :
    (pushedMessage host message).Perm (message.attributes.flatMap (groupRecords host)) := by
  have hall : ∀ (attributes : List Attribute),
      ((attributes.filter (fun attr => attr.kind = statsGroup)).flatMap (pushedGroup host)).Perm
        (attributes.flatMap (groupRecords host)) := by
    intro attributes
    induction attributes with
    | nil => exact .nil
    | cons attr attributes ih =>
      rw [List.flatMap_cons, groupRecords]
      by_cases hkind : attr.kind = statsGroup
      · rw [List.filter_cons_of_pos (by simpa using hkind), List.flatMap_cons, if_pos hkind]
        refine List.Perm.append ?_ ih
        unfold pushedGroup
        cases heldAttributes host attr.value with
        | none => exact .nil
        | some attributes =>
          dsimp only
          cases groupIdOf host attributes with
          | none => exact .nil
          | some group => exact pushedRecords_perm host group attributes
      · rw [List.filter_cons_of_neg (by simpa using hkind), if_neg hkind, List.nil_append]
        exact ih
  exact hall message.attributes

/-! ## The order of the records -/

theorem statisticLe_iff (a b : Statistic) :
    statisticLe a b = true ↔ (a.group ≠ b.group ∧ textLe a.group b.group = true) ∨
      (a.group = b.group ∧ textLe a.name b.name = true) := by
  unfold statisticLe
  by_cases h : a.group = b.group
  · simp [h]
  · simp [h]

theorem statisticLe_trans (a b c : Statistic) (hab : statisticLe a b) (hbc : statisticLe b c) : statisticLe a c := by
  rw [statisticLe_iff] at hab hbc ⊢
  rcases hab with ⟨hne, hab⟩ | ⟨heq, hab⟩
  · rcases hbc with ⟨hne', hbc⟩ | ⟨heq', -⟩
    · refine .inl ⟨fun heq => ?_, textLe_trans _ _ _ hab hbc⟩
      rw [← heq] at hbc
      exact hne (textLe_antisymm _ _ hab hbc)
    · exact .inl ⟨heq' ▸ hne, heq' ▸ hab⟩
  · rcases hbc with ⟨hne', hbc⟩ | ⟨heq', hbc⟩
    · exact .inl ⟨heq ▸ hne', heq ▸ hbc⟩
    · exact .inr ⟨heq.trans heq', textLe_trans _ _ _ hab hbc⟩

theorem statisticLe_total (a b : Statistic) : statisticLe a b || statisticLe b a := by
  rw [Bool.or_eq_true, statisticLe_iff, statisticLe_iff]
  by_cases h : a.group = b.group
  · exact (Bool.or_eq_true _ _ ▸ textLe_total a.name b.name).imp (fun hle => .inr ⟨h, hle⟩)
      (fun hle => .inr ⟨h.symm, hle⟩)
  · exact (Bool.or_eq_true _ _ ▸ textLe_total a.group b.group).imp (fun hle => .inl ⟨h, hle⟩)
      (fun hle => .inl ⟨Ne.symm h, hle⟩)

/-- **The records of a reply**: those of its counters and its complete buckets, each once, sorted. -/
theorem parseStatistics_spec (message : Message) :
    ∃ statistics, parseStatistics host message = .ok statistics ∧
      statistics.Perm (message.attributes.flatMap (groupRecords host)) ∧
      statistics.Pairwise (fun a b => statisticLe a b = true) := by
  refine ⟨_, parseStatistics_eq host message, ?_, ?_⟩
  · exact (List.mergeSort_perm _ _).trans (pushedMessage_perm host message)
  · exact List.pairwise_mergeSort statisticLe_trans statisticLe_total _

/-! ## Malformed parts -/

/-- A group that breaks off, or has no id that can be read. -/
def BadGroup (attr : Attribute) : Prop :=
  attr.kind = statsGroup ∧ ((heldAttributes host attr.value).bind (groupIdOf host)) = none

/-- A nest that breaks off, or a bucket that breaks off or lacks a field. -/
def BadItem (attr : Attribute) : Prop :=
  (attr.kind = statsGroupStat ∧ heldAttributes host attr.value = none) ∨
    ((attr.kind = statsGroupHistRx ∨ attr.kind = statsGroupHistTx) ∧ bucketOf host attr.value = none)

/-- Entries that yield nothing might as well not be there. -/
theorem flatMap_of_silent {α β : Type} {q : α → Bool} {f : α → List β} {before bad after : List α}
    (h : ∀ x ∈ bad, q x = true → f x = []) :
    ((before ++ bad ++ after).filter q).flatMap f = ((before ++ after).filter q).flatMap f := by
  have hbad : (bad.filter q).flatMap f = [] := by
    rw [List.flatMap_eq_nil_iff]
    intro x hx
    obtain ⟨hmem, hq⟩ := List.mem_filter.1 hx
    exact h x hmem hq
  rw [List.filter_append, List.filter_append, List.filter_append, List.flatMap_append, List.flatMap_append, hbad,
    List.append_nil, List.flatMap_append]

theorem pushedGroup_of_badGroup {attr : Attribute} (h : BadGroup host attr) : pushedGroup host attr = [] := by
  have hnone := h.2
  unfold pushedGroup
  cases hheld : heldAttributes host attr.value with
  | none => rfl
  | some attributes =>
    rw [hheld, Option.bind_some] at hnone
    dsimp only
    rw [hnone]

/-- **Malformed groups change nothing.** -/
theorem parseStatistics_of_badGroups (command : UInt8) {before bad after : List Attribute}
    (h : ∀ attr ∈ bad, BadGroup host attr) :
    parseStatistics host ⟨command, before ++ bad ++ after⟩ = parseStatistics host ⟨command, before ++ after⟩ := by
  have hpushed : pushedMessage host ⟨command, before ++ bad ++ after⟩ = pushedMessage host ⟨command, before ++ after⟩ :=
    flatMap_of_silent (fun attr hattr _ => pushedGroup_of_badGroup host (h attr hattr))
  rw [parseStatistics_eq, parseStatistics_eq, hpushed]

theorem pushedRecords_of_badItems (group : UInt32) {before bad after : List Attribute}
    (h : ∀ attr ∈ bad, BadItem host attr) :
    pushedRecords host group (before ++ bad ++ after) = pushedRecords host group (before ++ after) := by
  have hbucket : ∀ direction, ∀ attr ∈ bad, attr.kind ≠ statsGroupStat →
      (bucketRecord host group direction attr.value).toList = [] := by
    intro direction attr hattr hkind
    rcases h attr hattr with ⟨hstat, -⟩ | ⟨-, hnone⟩
    · exact absurd hstat hkind
    · rw [bucketRecord, hnone]
      rfl
  have hstats : ∀ attr ∈ bad, decide (attr.kind = statsGroupStat) = true → statRecords host group attr.value = [] := by
    intro attr hattr hkind
    rcases h attr hattr with ⟨-, hnone⟩ | ⟨hhist, -⟩
    · rw [statRecords, hnone]
      rfl
    · rw [of_decide_eq_true hkind] at hhist
      exact absurd hhist (by decide)
  unfold pushedRecords
  rw [flatMap_of_silent hstats, flatMap_of_silent (fun attr hattr hkind => hbucket _ attr hattr ?_),
    flatMap_of_silent (fun attr hattr hkind => hbucket _ attr hattr ?_)]
  · rw [of_decide_eq_true hkind]
    decide
  · rw [of_decide_eq_true hkind]
    decide

theorem nestedBytes_append_of_ne {kind : UInt16} {before bad after : List Attribute}
    (h : ∀ attr ∈ bad, attr.kind ≠ kind) :
    nestedBytes (before ++ bad ++ after) kind = nestedBytes (before ++ after) kind := by
  have hbad : nestedBytes bad kind = none := by
    unfold nestedBytes
    rw [List.findSome?_eq_none_iff]
    intro attr hattr
    exact if_neg (h attr hattr)
  unfold nestedBytes at hbad ⊢
  rw [List.findSome?_append, List.findSome?_append, List.findSome?_append, hbad, Option.or_none]

/-- **Malformed nests and buckets change nothing**: a group that holds them and one that does not are read alike. -/
theorem parseStatistics_of_badItems (command : UInt8) {pre post before bad after : List Attribute}
    {group clean : Attribute} (hgroup : heldAttributes host group.value = some (before ++ bad ++ after))
    (hclean : heldAttributes host clean.value = some (before ++ after)) (hkind : group.kind = clean.kind)
    (h : ∀ attr ∈ bad, BadItem host attr) :
    parseStatistics host ⟨command, pre ++ group :: post⟩ = parseStatistics host ⟨command, pre ++ clean :: post⟩ := by
  have hid : groupIdOf host (before ++ bad ++ after) = groupIdOf host (before ++ after) := by
    unfold groupIdOf
    rw [nestedBytes_append_of_ne]
    intro attr hattr heq
    rcases h attr hattr with ⟨hstat, -⟩ | ⟨hhist, -⟩
    · rw [heq] at hstat
      exact absurd hstat (by decide)
    · rw [heq] at hhist
      exact absurd hhist (by decide)
  have hsame : pushedGroup host group = pushedGroup host clean := by
    unfold pushedGroup
    rw [hgroup, hclean]
    dsimp only
    rw [hid]
    cases groupIdOf host (before ++ after) with
    | none => rfl
    | some id => exact pushedRecords_of_badItems host id h
  have hpushed : pushedMessage host ⟨command, pre ++ group :: post⟩ =
      pushedMessage host ⟨command, pre ++ clean :: post⟩ := by
    unfold pushedMessage
    simp only [List.filter_append, List.filter_cons, List.flatMap_append, hkind]
    split
    · simp only [List.flatMap_cons, hsame]
    · rfl
  rw [parseStatistics_eq, parseStatistics_eq, hpushed]

/-! ## What is written -/

/-- **A nest holds the attributes written into it.** -/
theorem heldAttributes_nested (kind : UInt16) {attributes : List Attribute}
    (h : ∀ attr ∈ attributes, attr.value.length ≤ maxValue) :
    heldAttributes host (Attribute.nested host kind attributes).value = some (attributes.map Attribute.masked) := by
  have hread := nestedAttributes_nested host kind h
  rw [nestedAttributes_eq] at hread
  exact Except.ok.inj hread

/-- **Statistics decode completely, and apart from each other**: every counter and every complete bucket of a reply is
one record with its value, in order; malformed groups, nests and buckets change nothing else; and what a nest holds is
what was written into it. -/
theorem statistics_decode_completely :
    (∀ message : Message, ∃ statistics, parseStatistics host message = .ok statistics ∧
      statistics.Perm (message.attributes.flatMap (groupRecords host)) ∧
      statistics.Pairwise (fun a b => statisticLe a b = true)) ∧
    (∀ (command : UInt8) (before bad after : List Attribute), (∀ attr ∈ bad, BadGroup host attr) →
      parseStatistics host ⟨command, before ++ bad ++ after⟩ = parseStatistics host ⟨command, before ++ after⟩) ∧
    (∀ (command : UInt8) (pre post before bad after : List Attribute) (group clean : Attribute),
      heldAttributes host group.value = some (before ++ bad ++ after) →
      heldAttributes host clean.value = some (before ++ after) → group.kind = clean.kind →
      (∀ attr ∈ bad, BadItem host attr) →
      parseStatistics host ⟨command, pre ++ group :: post⟩ = parseStatistics host ⟨command, pre ++ clean :: post⟩) ∧
    (∀ (kind : UInt16) (attributes : List Attribute), (∀ attr ∈ attributes, attr.value.length ≤ maxValue) →
      heldAttributes host (Attribute.nested host kind attributes).value = some (attributes.map Attribute.masked)) ∧
    ∀ (count : UInt64) (rest : Bytes), nativeU64 host (host.byteOrder.write 8 count.toNat ++ rest) = some count := by
  refine ⟨parseStatistics_spec host, ?_, ?_, ?_, nativeU64_write host⟩
  · intro command before bad after h
    exact parseStatistics_of_badGroups host command h
  · intro command pre post before bad after group clean hgroup hclean hkind h
    exact parseStatistics_of_badItems host command hgroup hclean hkind h
  · intro kind attributes h
    exact heldAttributes_nested host kind h

/-- A nest of one counter, and one that breaks off. -/
def receivedNest : Attribute := Attribute.nested hostX86 statsGroupStat [⟨3, [42, 0, 0, 0, 0, 0, 0, 0]⟩]

def brokenNest : Attribute := ⟨statsGroupStat, [1, 0, 0, 0]⟩

def macGroup (nests : List Attribute) : Attribute :=
  ⟨statsGroup, (Attribute.nested hostX86 statsGroup (Attribute.u32 hostX86 statsGroupId 1 :: nests)).value⟩

theorem heldAttributes_broken : heldAttributes hostX86 [1, 0, 0, 0] = none := by
  have hread : (attributeFormat hostX86).read [1, 0, 0, 0] = some ⟨1, 0⟩ := by decide
  unfold heldAttributes
  rw [items_of_invalid (attributeFormat hostX86) (by decide) hread (by decide)]
  rfl

/-- A reply with a broken group, and a group with a broken nest: the counter beside them is returned. -/
theorem statistics_decode_beside_broken :
    parseStatistics hostX86 ⟨32, [] ++ [⟨statsGroup, [1, 0, 0, 0]⟩] ++ [macGroup [brokenNest, receivedNest]]⟩ =
        parseStatistics hostX86 ⟨32, [macGroup [receivedNest]]⟩ ∧
      ∃ statistics, parseStatistics hostX86 ⟨32, [macGroup [receivedNest]]⟩ = .ok statistics ∧
        statistics.Perm [⟨"ethernet-mac", "received-packets", 42⟩] := by
  obtain ⟨hspec, hgroups, hitems, hnested, -⟩ := statistics_decode_completely hostX86
  have hbroken := hnested statsGroup [Attribute.u32 hostX86 statsGroupId 1, brokenNest, receivedNest] (by decide)
  have hclean := hnested statsGroup [Attribute.u32 hostX86 statsGroupId 1, receivedNest] (by decide)
  have hcounter := hnested statsGroupStat [⟨3, [42, 0, 0, 0, 0, 0, 0, 0]⟩] (by decide)
  refine ⟨?_, ?_⟩
  · have hbad : BadGroup hostX86 ⟨statsGroup, [1, 0, 0, 0]⟩ := by
      refine ⟨rfl, ?_⟩
      rw [heldAttributes_broken]
      rfl
    have hbadItem : BadItem hostX86 brokenNest.masked := .inl ⟨by decide, heldAttributes_broken⟩
    rw [hgroups 32 [] _ _ (fun attr hattr => List.mem_singleton.1 hattr ▸ hbad)]
    refine hitems 32 [] [] [(Attribute.u32 hostX86 statsGroupId 1).masked] [brokenNest.masked] [receivedNest.masked] _ _
      hbroken hclean rfl (fun attr hattr => List.mem_singleton.1 hattr ▸ hbadItem)
  · obtain ⟨statistics, hparsed, hperm, -⟩ := hspec ⟨32, [macGroup [receivedNest]]⟩
    refine ⟨statistics, hparsed, hperm.trans (List.Perm.of_eq ?_)⟩
    have hrecords : groupRecords hostX86 (macGroup [receivedNest]) =
        [⟨"ethernet-mac", "received-packets", 42⟩] := by
      unfold groupRecords
      rw [if_pos (show (macGroup [receivedNest]).kind = statsGroup from rfl),
        show heldAttributes hostX86 (macGroup [receivedNest]).value = _ from hclean]
      show List.flatMap (itemRecords hostX86 1) _ = _
      have hnest : itemRecords hostX86 1 receivedNest.masked = [⟨"ethernet-mac", "received-packets", 42⟩] := by
        show statRecords hostX86 1 receivedNest.masked.value = _
        unfold statRecords
        rw [show heldAttributes hostX86 receivedNest.masked.value = _ from hcounter]
        decide
      rw [List.map_cons, List.map_singleton, List.flatMap_cons, List.flatMap_singleton, hnest]
      decide
    show List.flatMap (groupRecords hostX86) [macGroup [receivedNest]] = _
    rw [List.flatMap_singleton, hrecords]

end Networkrs
