import Networkrs.Records
import Networkrs.Lib.Keyed
/-!
# AttributeOrder — attribute sections as lists, and parsers that do not look at their order

An attribute section is the encoding of a list of attributes (`Encodes`): any flag bits in the kinds, any values, any
padding bytes.  Every record parser reads a section through what it holds for the kinds it knows, so two messages whose
sections hold the same attributes of these kinds parse alike, in whatever order the attributes stand and whatever other
kinds stand between them (`parsers_ignore_attribute_order`).
-/
namespace Networkrs

open Machine Framing

/-! ## Sections -/

/-- **A well-formed attribute section** of a list of attributes, each with its kind without the flag bits: a header
declares the length of its attribute, and every attribute is padded to four bytes, the last one perhaps not in full. -/
inductive Encodes (host : Host) : List (UInt16 × Bytes) → Bytes → Prop where
  | nil : Encodes host [] []
  | last (header : AttributeHeader) (value padding : Bytes) :
      header.length.toNat = AttributeHeader.size + value.length →
      AttributeHeader.size + value.length + padding.length ≤ alignTo4 (AttributeHeader.size + value.length) →
      Encodes host [(header.kind &&& nlaTypeMask, value)] (header.bytes host ++ value ++ padding)
  | cons (header : AttributeHeader) (value padding : Bytes) {l : List (UInt16 × Bytes)} {rest : Bytes} :
      header.length.toNat = AttributeHeader.size + value.length →
      AttributeHeader.size + value.length + padding.length = alignTo4 (AttributeHeader.size + value.length) →
      Encodes host l rest →
      Encodes host ((header.kind &&& nlaTypeMask, value) :: l) (header.bytes host ++ value ++ (padding ++ rest))

variable {host : Host}

theorem attributesIn_of_items {bytes rest : Bytes} {header : AttributeHeader} {value : Bytes}
    {l : List (UInt16 × Bytes)} (hitems : items (attributeFormat host) bytes =
      .record header (header.bytes host ++ value) :: items (attributeFormat host) rest)
    (hrest : attributesIn host rest = some l) :
    attributesIn host bytes = some ((header.kind &&& nlaTypeMask, value) :: l) := by
  have hvalue : (header.bytes host ++ value).drop AttributeHeader.size = value :=
    List.drop_left' (header.length_bytes host)
  unfold attributesIn at hrest ⊢
  rw [Option.map_eq_some_iff] at hrest
  obtain ⟨records, hrecords, rfl⟩ := hrest
  rw [hitems, allRecords, hrecords, Option.map_some, Option.map_some, List.map_cons, hvalue]

/-- **Reading a section gives the list it encodes.** -/
theorem attributesIn_of_encodes {l : List (UInt16 × Bytes)} {bytes : Bytes} (h : Encodes host l bytes) :
    attributesIn host bytes = some l := by
  have hnil : attributesIn host [] = some [] := by
    rw [attributesIn, items_of_short (attributeFormat host) (l := []) (attributeFormat host).size_pos]
    rfl
  induction h with
  | nil => exact hnil
  | last header value padding hlength hpad =>
    have hsize : (header.bytes host ++ value).length = AttributeHeader.size + value.length := by
      simp [AttributeHeader.size]
    have hitems := items_last (attributeFormat host) (header.bytes host ++ value) padding
      (header.read_bytes host value) (hlength.trans hsize.symm) (by rw [hsize]; exact hpad)
    refine attributesIn_of_items ?_ hnil
    rw [hitems, items_of_short (attributeFormat host) (l := []) (attributeFormat host).size_pos]
  | cons header value padding hlength hpad _ ih =>
    have hsize : (header.bytes host ++ value).length = AttributeHeader.size + value.length := by
      simp [AttributeHeader.size]
    exact attributesIn_of_items (items_append (attributeFormat host) (header.bytes host ++ value) padding _
      (header.read_bytes host value) (hlength.trans hsize.symm) (by rw [hsize]; exact hpad)) ih

/-! ## Messages that differ in the order of their attributes -/

/-- **The same attributes of some kinds**, in any order and among any other kinds, each kind at most once. -/
structure SameAttributes (kinds : List UInt16) (l l' : List (UInt16 × Bytes)) : Prop where
  distinct : (l.map Prod.fst).Nodup
  distinct' : (l'.map Prod.fst).Nodup
  perm : (l.filter (fun a => a.1 ∈ kinds)).Perm (l'.filter (fun a => a.1 ∈ kinds))

/-- **Two messages with one fixed struct and rearranged attributes**: the kinds read stand in both with the same
values, once each. -/
def Rearranged (host : Host) (kinds : List UInt16) (fixedSize : Nat) (message message' : Bytes) : Prop :=
  ∃ (header header' fixed bytes bytes' : Bytes) (l l' : List (UInt16 × Bytes)),
    header.length = MessageHeader.size ∧ header'.length = MessageHeader.size ∧ fixed.length = fixedSize ∧
    Encodes host l bytes ∧ Encodes host l' bytes' ∧ SameAttributes kinds l l' ∧
    message = header ++ (fixed ++ bytes) ∧ message' = header' ++ (fixed ++ bytes')

variable {kinds : List UInt16} {l l' : List (UInt16 × Bytes)}

theorem SameAttributes.filter_eq (h : SameAttributes kinds l l') {kind : UInt16} (hkind : kind ∈ kinds) :
    l.filter (fun a => a.1 = kind) = l'.filter (fun a => a.1 = kind) :=
  Keyed.filter_key_eq_of_perm (p := fun kind => decide (kind ∈ kinds)) h.distinct h.perm (by simpa using hkind)

theorem findValue_eq_findSome? {β : Type} (kind : UInt16) (f : Bytes → Option β) : ∀ (l : List (UInt16 × Bytes)),
    findValue l kind f = (l.filter (fun a => a.1 = kind)).findSome? (fun a => f a.2)
  | [] => rfl
  | a :: l => by
    have ih := findValue_eq_findSome? kind f l
    unfold findValue at ih ⊢
    by_cases h : a.1 = kind
    · rw [List.findSome?_cons, if_pos h, List.filter_cons_of_pos (by simpa using h), List.findSome?_cons, ih]
    · rw [List.findSome?_cons, if_neg h, List.filter_cons_of_neg (by simpa using h), ih]

theorem filterMap_kind_eq {β : Type} (kind : UInt16) (f : Bytes → Option β) : ∀ (l : List (UInt16 × Bytes)),
    l.filterMap (fun a => if a.1 = kind then f a.2 else none) =
      (l.filter (fun a => a.1 = kind)).filterMap (fun a => f a.2)
  | [] => rfl
  | a :: l => by
    have ih := filterMap_kind_eq kind f l
    by_cases h : a.1 = kind
    · rw [List.filterMap_cons, if_pos h, List.filter_cons_of_pos (by simpa using h), List.filterMap_cons, ih]
    · rw [List.filterMap_cons, if_neg h, List.filter_cons_of_neg (by simpa using h), ih]

/-- **A lookup of a kind that is read** finds the same in both lists. -/
theorem SameAttributes.findValue_eq {β : Type} (h : SameAttributes kinds l l') {kind : UInt16} (f : Bytes → Option β)
    (hkind : kind ∈ kinds) : findValue l kind f = findValue l' kind f := by
  rw [findValue_eq_findSome?, findValue_eq_findSome?, h.filter_eq hkind]

theorem SameAttributes.filterMap_eq {β : Type} (h : SameAttributes kinds l l') {kind : UInt16} (f : Bytes → Option β)
    (hkind : kind ∈ kinds) :
    l.filterMap (fun a => if a.1 = kind then f a.2 else none) =
      l'.filterMap (fun a => if a.1 = kind then f a.2 else none) := by
  rw [filterMap_kind_eq, filterMap_kind_eq, h.filter_eq hkind]

theorem attributesIn_behind {header fixed bytes : Bytes} {fixedSize : Nat}
    (hheader : header.length = MessageHeader.size) (hfixed : fixed.length = fixedSize) (hsize : fixedSize % 4 = 0)
    (h : Encodes host l bytes) :
    attributesIn host ((header ++ (fixed ++ bytes)).drop (alignTo4 (MessageHeader.size + fixedSize))) = some l := by
  have hoffset : alignTo4 (MessageHeader.size + fixedSize) = header.length + fixed.length := by
    rw [alignTo4_of_mod (by simp only [MessageHeader.size]; omega), hheader, hfixed]
  rw [hoffset, ← List.drop_drop, List.drop_left, List.drop_left]
  exact attributesIn_of_encodes h

theorem getFrom_behind {header rest : Bytes} (hheader : header.length = MessageHeader.size) :
    getFrom (header ++ rest) MessageHeader.size = some rest := by
  rw [getFrom, if_pos (by simp only [List.length_append]; omega), ← hheader, List.drop_left]

/-- **A message of the common shape is parsed as what is built of it**: its struct, and what its section encodes. -/
theorem ParsesStruct.eq_build {S T : Type} {read : Bytes → Option S} {family : S → UInt8} {fixedSize : Nat}
    {build : S → List (UInt16 × Bytes) → Checked (Option T)} {parse : Bytes → Checked (Option T)}
    (hparse : ParsesStruct host read family fixedSize build parse) {header fixed bytes : Bytes}
    (hheader : header.length = MessageHeader.size) (hfixed : fixed.length = fixedSize) (hsize : fixedSize % 4 = 0)
    {record : S} (hread : read (fixed ++ bytes) = some record)
    (hfamily : ¬ (family record ≠ afInet ∧ family record ≠ afInet6)) (hbytes : Encodes host l bytes) :
    parse (header ++ (fixed ++ bytes)) = build record l := by
  rw [hparse, getFrom_behind hheader, Option.bind_some, hread]
  dsimp only
  rw [if_neg hfamily, attributesIn_behind hheader hfixed hsize hbytes]

/-- **What a parser sees of rearranged messages**: one struct, and lists that hold the same of the kinds read. -/
theorem Rearranged.seen {S : Type} {fixedSize : Nat} {message message' : Bytes}
    (h : Rearranged host kinds fixedSize message message') {read : Bytes → Option S}
    (hread : ∀ fixed rest : Bytes, fixed.length = fixedSize → read (fixed ++ rest) = read fixed)
    (hsize : fixedSize % 4 = 0) :
    ∃ (record : Option S) (l l' : List (UInt16 × Bytes)), SameAttributes kinds l l' ∧
      (getFrom message MessageHeader.size).bind read = record ∧
      (getFrom message' MessageHeader.size).bind read = record ∧
      attributesIn host (message.drop (alignTo4 (MessageHeader.size + fixedSize))) = some l ∧
      attributesIn host (message'.drop (alignTo4 (MessageHeader.size + fixedSize))) = some l' := by
  obtain ⟨header, header', fixed, bytes, bytes', l, l', hheader, hheader', hfixed, hl, hl', hsame, rfl, rfl⟩ := h
  refine ⟨read fixed, l, l', hsame, ?_, ?_, ?_, ?_⟩
  · rw [getFrom_behind hheader, Option.bind_some, hread fixed bytes hfixed]
  · rw [getFrom_behind hheader', Option.bind_some, hread fixed bytes' hfixed]
  · exact attributesIn_behind hheader hfixed hsize hl
  · exact attributesIn_behind hheader' hfixed hsize hl'

/-! ## The parsers that look their attributes up -/

/-- The kinds `parse_link` reads. -/
def linkKinds : List UInt16 :=
  [iflaIfname, iflaLinkinfo, iflaAltIfname, iflaPropList, iflaOperstate, iflaCarrier, iflaMtu, iflaMinMtu, iflaMaxMtu,
    iflaLink, iflaMaster, iflaQdisc, iflaTxqlen, iflaIfalias, iflaGroup, iflaPromiscuity, iflaNumTxQueues,
    iflaNumRxQueues, iflaCarrierChanges, iflaCarrierUpCount, iflaCarrierDownCount, iflaPhysPortName,
    iflaParentDevName, iflaParentDevBusName]

def addressKinds : List UInt16 := [ifaAddress, ifaLocal, ifaLabel, ifaBroadcast, ifaCacheinfo, ifaFlags]

def routeKinds : List UInt16 :=
  [rtaDst, rtaSrc, rtaOif, rtaGateway, rtaPriority, rtaPrefsrc, rtaMultipath, rtaTable]

def ruleKinds : List UInt16 :=
  [fraDst, fraSrc, fraIifname, fraGoto, fraPriority, fraFwmark, fraTable, fraFwmask, fraOifname]

def neighborKinds : List UInt16 := [ndaDst, ndaLladdr, ndaCacheinfo, ndaProbes, ndaMaster, ndaProtocol, ndaFlagsExt]

theorem guarded_append {α : Type} {size : Nat} {fixed rest : Bytes} {x y : α} (h : fixed.length = size) (hxy : x = y) :
    (if (fixed ++ rest).length < size then none else some x) = if fixed.length < size then none else some y := by
  have hlong : ¬ (fixed ++ rest).length < size := by rw [List.length_append, h]; omega
  rw [if_neg hlong, if_neg (by rw [h]; omega), hxy]

theorem LinkMessage.read_append {fixed : Bytes} (rest : Bytes) (h : fixed.length = LinkMessage.size) :
    LinkMessage.read host (fixed ++ rest) = LinkMessage.read host fixed := by
  have hfixed : fixed.length = 16 := h
  refine guarded_append h ?_
  simp (disch := omega) only [ByteOrder.u16At_append_left, ByteOrder.u32At_append_left, ByteOrder.i32At]

theorem parseLink_eq_of_rearranged {message message' : Bytes}
    (h : Rearranged host linkKinds LinkMessage.size message message') :
    parseLink host message = parseLink host message' := by
  obtain ⟨record, l, l', hsame, hget, hget', hl, hl'⟩ :=
    h.seen (fun fixed rest hfixed => LinkMessage.read_append rest hfixed) (by decide)
  unfold parseLink
  rw [hget, hget', attributes_eq, attributes_eq, hl, hl']
  cases record with
  | none => rfl
  | some link =>
    simp (disch := decide) only [ok_bind, linkOf, altNames, findString, findU8, findNativeU32, firstValue,
      hsame.findValue_eq, hsame.filterMap_eq]

theorem AddressMessage.read_append {fixed : Bytes} (rest : Bytes) (h : fixed.length = AddressMessage.size) :
    AddressMessage.read host (fixed ++ rest) = AddressMessage.read host fixed := by
  have hfixed : fixed.length = 8 := h
  refine guarded_append h ?_
  simp (disch := omega) only [u8At_append_left, ByteOrder.u32At_append_left]

theorem parseAddress_eq_of_rearranged {message message' : Bytes}
    (h : Rearranged host addressKinds AddressMessage.size message message') :
    parseAddress host message = parseAddress host message' := by
  obtain ⟨record, l, l', hsame, hget, hget', hl, hl'⟩ :=
    h.seen (fun fixed rest hfixed => AddressMessage.read_append rest hfixed) (by decide)
  unfold parseAddress
  rw [hget, hget', attributes_eq, attributes_eq, hl, hl']
  cases record with
  | none => rfl
  | some address =>
    simp (disch := decide) only [ok_bind, findString, findNativeU32, hsame.findValue_eq]

theorem RouteMessage.read_append {fixed : Bytes} (rest : Bytes) (h : fixed.length = RouteMessage.size) :
    RouteMessage.read (fixed ++ rest) = RouteMessage.read fixed := by
  have hfixed : fixed.length = 12 := h
  refine guarded_append h ?_
  simp (disch := omega) only [u8At_append_left]

theorem parseRoute_eq_of_rearranged {message message' : Bytes}
    (h : Rearranged host routeKinds RouteMessage.size message message') :
    parseRoute host message = parseRoute host message' := by
  obtain ⟨record, l, l', hsame, hget, hget', hl, hl'⟩ :=
    h.seen (fun fixed rest hfixed => RouteMessage.read_append rest hfixed) (by decide)
  unfold parseRoute
  rw [hget, hget', attributes_eq, attributes_eq, hl, hl']
  cases record with
  | none => rfl
  | some route =>
    simp (disch := decide) only [ok_bind, routeOf, findNativeU32, firstValue, hsame.findValue_eq]

theorem RuleMessage.read_append {fixed : Bytes} (rest : Bytes) (h : fixed.length = RuleMessage.size) :
    RuleMessage.read host (fixed ++ rest) = RuleMessage.read host fixed := by
  have hfixed : fixed.length = 12 := h
  refine guarded_append h ?_
  simp (disch := omega) only [u8At_append_left, ByteOrder.u32At_append_left]

theorem parseRule_eq_of_rearranged {message message' : Bytes}
    (h : Rearranged host ruleKinds RuleMessage.size message message') :
    parseRule host message = parseRule host message' := by
  obtain ⟨record, l, l', hsame, hget, hget', hl, hl'⟩ :=
    h.seen (fun fixed rest hfixed => RuleMessage.read_append rest hfixed) (by decide)
  unfold parseRule
  rw [hget, hget', attributes_eq, attributes_eq, hl, hl']
  cases record with
  | none => rfl
  | some rule =>
    simp (disch := decide) only [ok_bind, ruleOf, findString, findNativeU32, hsame.findValue_eq]

/-! ## The parser that folds over its attributes -/

theorem NeighborMessage.read_append {fixed : Bytes} (rest : Bytes) (h : fixed.length = NeighborMessage.size) :
    NeighborMessage.read host (fixed ++ rest) = NeighborMessage.read host fixed := by
  have hfixed : fixed.length = 12 := h
  refine guarded_append h ?_
  simp (disch := omega) only [u8At_append_left, ByteOrder.u16At_append_left, ByteOrder.u32At_append_left,
    ByteOrder.i32At]

/-- **Each local is set by the attributes of its own kind.** -/
theorem NeighborAttributes.set_eq (family : UInt8) (read : NeighborAttributes) (kind : UInt16) (value : Bytes) :
    read.set host family kind value =
      { address := if kind = ndaDst then ipFromBytes family value else read.address
        linkAddress :=
          if kind = ndaLladdr ∧ value ≠ [] then some (formatLinkAddress value) else read.linkAddress
        cache := if kind = ndaCacheinfo then NeighborCacheInfo.read host value else read.cache
        probes := if kind = ndaProbes then nativeU32 host value else read.probes
        masterIndex := if kind = ndaMaster then (nativeU32 host value).map UInt32.toInt32 else read.masterIndex
        protocol := if kind = ndaProtocol then value.head?.map routeProtocol else read.protocol
        extendedFlags := if kind = ndaFlagsExt then (nativeU32 host value).getD 0 else read.extendedFlags } := by
  unfold NeighborAttributes.set
  split
  · next h => subst h; rfl
  split
  · next h => obtain ⟨rfl, -⟩ := h; rfl
  split
  · next h => subst h; rfl
  split
  · next h => subst h; rfl
  split
  · next h => subst h; rfl
  split
  · next h => subst h; rfl
  split
  · next h => subst h; rfl
  rfl

/-- An attribute of a kind that is not read leaves the locals as they are. -/
theorem NeighborAttributes.set_of_unread (family : UInt8) (read : NeighborAttributes) {kind : UInt16} (value : Bytes)
    (h : kind ∉ neighborKinds) : read.set host family kind value = read := by
  simp only [neighborKinds, List.mem_cons, List.not_mem_nil, or_false, not_or] at h
  obtain ⟨hdst, hlladdr, hcacheinfo, hprobes, hmaster, hprotocol, hflags⟩ := h
  rw [NeighborAttributes.set, if_neg hdst, if_neg (fun h => hlladdr h.1), if_neg hcacheinfo, if_neg hprobes,
    if_neg hmaster, if_neg hprotocol, if_neg hflags]

/-- **Attributes of different kinds set different locals.** -/
theorem NeighborAttributes.set_comm (family : UInt8) (read : NeighborAttributes) {kind kind' : UInt16}
    (value value' : Bytes) (h : kind ≠ kind') :
    (read.set host family kind value).set host family kind' value' =
      (read.set host family kind' value').set host family kind value := by
  have hswap : ∀ {β : Type} (c : UInt16) (a b r : β), (if kind' = c then a else if kind = c then b else r) =
      if kind = c then b else if kind' = c then a else r :=
    fun c a b r => ite_ite_comm _ _ _ _ (fun h' h'' => h (h''.trans h'.symm))
  simp only [NeighborAttributes.set_eq, NeighborAttributes.mk.injEq]
  refine ⟨hswap _ _ _ _, ?_, hswap _ _ _ _, hswap _ _ _ _, hswap _ _ _ _, hswap _ _ _ _, hswap _ _ _ _⟩
  exact ite_ite_comm _ _ _ _ (fun h' h'' => h (h''.1.trans h'.1.symm))

/-- **The attribute loop of `parse_neighbor`** folds its arms over the attributes its bytes hold. -/
theorem walk_setNeighborAttribute (family : UInt8) (message : Bytes) (offset : Nat) (read : NeighborAttributes) :
    walk (attributeFormat host) (setNeighborAttribute host family) (fun _ _ => ()) message offset read =
      match attributesIn host (message.drop offset) with
      | some l => .ok (.next (l.foldl (fun read a => read.set host family a.1 a.2) read))
      | none => .ok (.stop ()) := by
  have hstep : ∀ (read : NeighborAttributes), ∀ i ∈ items (attributeFormat host) (message.drop offset),
      itemStep (setNeighborAttribute host family) (fun _ _ => ()) read i =
        itemStep (fun read (header : AttributeHeader) body => .ok (.next (read.set host family
          (header.kind &&& nlaTypeMask) (body.drop AttributeHeader.size)))) (fun _ _ => ()) read i := by
    intro read i hi
    cases i with
    | fault f => rfl
    | record header body =>
      obtain ⟨-, -, hsize⟩ := mem_items_record (attributeFormat host) _ hi
      simp only [itemStep, setNeighborAttribute, sliceFrom_eq body (i := AttributeHeader.size) hsize]
      rfl
  unfold attributesIn
  rw [walk_eq_scan, scan_congr hstep, scan_fold]
  cases allRecords (items (attributeFormat host) (message.drop offset)) with
  | none => rfl
  | some records => simp only [Option.map_some, List.foldl_map]

theorem parseNeighbor_eq_of_rearranged (removed : Bool) {message message' : Bytes}
    (h : Rearranged host neighborKinds NeighborMessage.size message message') :
    parseNeighbor host removed message = parseNeighbor host removed message' := by
  obtain ⟨record, l, l', hsame, hget, hget', hl, hl'⟩ :=
    h.seen (fun fixed rest hfixed => NeighborMessage.read_append rest hfixed) (by decide)
  unfold parseNeighbor
  rw [hget, hget']
  cases record with
  | none => rfl
  | some neighbor =>
    have hfold : l.foldl (fun read a => read.set host neighbor.family a.1 a.2) NeighborAttributes.none =
        l'.foldl (fun read a => read.set host neighbor.family a.1 a.2) NeighborAttributes.none := by
      refine Keyed.foldl_eq_of_perm (p := fun kind => decide (kind ∈ neighborKinds)) (fun read a ha => ?_)
        (fun read a b hab => ?_) hsame.distinct hsame.perm _
      · exact read.set_of_unread neighbor.family a.2 (by simpa using ha)
      · exact read.set_comm neighbor.family a.2 b.2 hab
    simp only [walk_setNeighborAttribute, hl, hl', hfold]

/-- **The order of attributes and attributes nobody reads do not matter**: messages with one fixed struct whose
sections hold, each once, the same attributes of the kinds a parser reads are parsed alike. -/
theorem parsers_ignore_attribute_order (host : Host) (message message' : Bytes) :
    (Rearranged host linkKinds LinkMessage.size message message' →
      parseLink host message = parseLink host message') ∧
    (Rearranged host addressKinds AddressMessage.size message message' →
      parseAddress host message = parseAddress host message') ∧
    (Rearranged host routeKinds RouteMessage.size message message' →
      parseRoute host message = parseRoute host message') ∧
    (Rearranged host ruleKinds RuleMessage.size message message' →
      parseRule host message = parseRule host message') ∧
    (∀ removed, Rearranged host neighborKinds NeighborMessage.size message message' →
      parseNeighbor host removed message = parseNeighbor host removed message') :=
  ⟨parseLink_eq_of_rearranged, parseAddress_eq_of_rearranged, parseRoute_eq_of_rearranged,
    parseRule_eq_of_rearranged, fun removed => parseNeighbor_eq_of_rearranged removed⟩

/-! ### One rule, in two orders -/

def ruleStruct : Bytes := [2, 0, 8, 0, 254, 0, 0, 1, 0, 0, 0, 0]

def rulePriority : Bytes := [8, 0, 6, 0, 100, 0, 0, 0]

def ruleSource : Bytes := [8, 0, 2, 0, 10, 0, 0, 0]

/-- A rule whose priority comes first, and one whose source does, behind an attribute of an unknown kind. -/
def ruleMessages : Bytes × Bytes :=
  let header : Bytes := List.replicate 16 0
  (header ++ (ruleStruct ++ (rulePriority ++ ruleSource)),
    header ++ (ruleStruct ++ ([5, 0, 99, 128, 7] ++ ([0, 0, 0] ++ (ruleSource ++ rulePriority)))))

theorem encodes_rule : Encodes hostX86 [(fraPriority, [100, 0, 0, 0]), (fraSrc, [10, 0, 0, 0])]
    (rulePriority ++ ruleSource) :=
  .cons ⟨8, 6⟩ [100, 0, 0, 0] [] (by decide) (by decide) (.last ⟨8, 2⟩ [10, 0, 0, 0] [] (by decide) (by decide))

theorem encodes_rule_reversed :
    Encodes hostX86 [(99, [7]), (fraSrc, [10, 0, 0, 0]), (fraPriority, [100, 0, 0, 0])]
      ([5, 0, 99, 128, 7] ++ ([0, 0, 0] ++ (ruleSource ++ rulePriority))) :=
  .cons ⟨5, 0x8063⟩ [7] [0, 0, 0] (by decide) (by decide)
    (.cons ⟨8, 2⟩ [10, 0, 0, 0] [] (by decide) (by decide)
      (.last ⟨8, 6⟩ [100, 0, 0, 0] [] (by decide) (by decide)))

theorem rearranged_rule : Rearranged hostX86 ruleKinds RuleMessage.size ruleMessages.1 ruleMessages.2 := by
  refine ⟨_, _, ruleStruct, _, _, _, _, rfl, rfl, rfl, encodes_rule, encodes_rule_reversed, ?_, rfl, rfl⟩
  exact ⟨by decide, by decide, by decide⟩

theorem parsers_ignore_attribute_order_rule :
    parseRule hostX86 ruleMessages.1 = parseRule hostX86 ruleMessages.2 :=
  (parsers_ignore_attribute_order hostX86 ruleMessages.1 ruleMessages.2).2.2.2.1 rearranged_rule

end Networkrs
