import Networkrs.GenlMessage
/-!
# GenlRoundTrip — what the generic-netlink encoders write is read back

Both encoders write a list of attributes as consecutive framed records (`items_encodeAttributes`), so the one decoder
reads either back with the flag bits of the kinds masked: a flat message (`parseMessages_buildMessage`), one level of
nesting (`nestedAttributes_nested`), and attribute trees of any depth (`readAs_encode`).
-/
namespace Networkrs

open Machine Framing Collect

variable (host : Host)

def Attribute.masked (a : Attribute) : Attribute := { a with kind := a.kind &&& nlaTypeMask }

/-- The longest value whose record a 16-bit length holds. -/
def maxValue : Nat := 65531

/-! ## The bytes of an attribute list -/

def attributeHeader (a : Attribute) : AttributeHeader :=
  { length := UInt16.ofNat (AttributeHeader.size + a.value.length), kind := a.kind }

def attributeRecord (a : Attribute) : Bytes := (attributeHeader a).bytes host ++ a.value

/-- The zeros that fill a record up to the next one. -/
def attributePadding (a : Attribute) : Bytes :=
  List.replicate (alignTo4 (AttributeHeader.size + a.value.length) - (AttributeHeader.size + a.value.length)) 0

def encodeAttributes (attributes : List Attribute) : Bytes :=
  attributes.flatMap (fun a => attributeRecord host a ++ attributePadding a)

@[simp] theorem length_attributeRecord (a : Attribute) :
    (attributeRecord host a).length = AttributeHeader.size + a.value.length := by
  simp [attributeRecord, AttributeHeader.size]

theorem length_attributePadding (a : Attribute) :
    AttributeHeader.size + a.value.length + (attributePadding a).length =
      alignTo4 (AttributeHeader.size + a.value.length) := by
  have hle := le_alignTo4 (AttributeHeader.size + a.value.length)
  unfold attributePadding
  rw [List.length_replicate]
  omega

theorem length_encodeAttributes_mod : ∀ (attributes : List Attribute),
    (encodeAttributes host attributes).length % 4 = 0
  | [] => rfl
  | a :: as => by
    have ih := length_encodeAttributes_mod as
    have hpad := length_attributePadding a
    have hmod := alignTo4_mod (AttributeHeader.size + a.value.length)
    unfold encodeAttributes at ih ⊢
    rw [List.flatMap_cons, List.length_append, List.length_append, length_attributeRecord]
    omega

/-- One turn of an encoding loop over an aligned target. -/
theorem appendAttribute_eq {target : Bytes} (h : target.length % 4 = 0) (a : Attribute) :
    appendAttribute host target a = target ++ (attributeRecord host a ++ attributePadding a) := by
  have hlength : (target ++ (attributeHeader a).bytes host ++ a.value).length =
      target.length + (AttributeHeader.size + a.value.length) := by
    simp only [List.length_append, AttributeHeader.length_bytes, AttributeHeader.size]
    omega
  have hpad : alignTo4 (target.length + (AttributeHeader.size + a.value.length)) -
      (target.length + (AttributeHeader.size + a.value.length)) =
      alignTo4 (AttributeHeader.size + a.value.length) - (AttributeHeader.size + a.value.length) := by
    unfold alignTo4
    omega
  show padTo4 (target ++ (attributeHeader a).bytes host ++ a.value) = _
  rw [padTo4, hlength, hpad, attributeRecord, attributePadding]
  simp only [List.append_assoc]

/-- **The encoding loops write the records one after another.** -/
theorem foldl_appendAttribute : ∀ (attributes : List Attribute) {target : Bytes}, target.length % 4 = 0 →
    attributes.foldl (appendAttribute host) target = target ++ encodeAttributes host attributes
  | [], target, _ => (List.append_nil target).symm
  | a :: as, target, h => by
    have hpad := length_attributePadding a
    have hmod := alignTo4_mod (AttributeHeader.size + a.value.length)
    have hnext : (target ++ (attributeRecord host a ++ attributePadding a)).length % 4 = 0 := by
      rw [List.length_append, List.length_append, length_attributeRecord]
      omega
    rw [List.foldl_cons, appendAttribute_eq host h, foldl_appendAttribute as hnext, encodeAttributes, encodeAttributes,
      List.flatMap_cons]
    simp only [List.append_assoc]

/-- **The records are read off their bytes.** -/
theorem items_encodeAttributes (attributes : List Attribute) (h : ∀ a ∈ attributes, a.value.length ≤ maxValue) :
    items (attributeFormat host) (encodeAttributes host attributes) =
      attributes.map (fun a => .record (attributeHeader a) (attributeRecord host a)) := by
  refine items_flatMap (attributeFormat host) attributeHeader (attributeRecord host) attributePadding attributes ?_
  intro a ha
  have hvalue : a.value.length ≤ 65531 := h a ha
  refine ⟨AttributeHeader.read_bytes host (attributeHeader a) a.value, ?_, ?_⟩
  · show (UInt16.ofNat (AttributeHeader.size + a.value.length)).toNat = _
    rw [length_attributeRecord, UInt16.toNat_ofNat', Nat.mod_eq_of_lt]
    simp only [AttributeHeader.size]
    omega
  · rw [length_attributeRecord]
    exact length_attributePadding a

/-- **Encoded attributes are decoded with masked kinds**, wherever they stand at the end of a message. -/
theorem parseAttributes_encodeAttributes (before : Bytes) {attributes : List Attribute}
    (h : ∀ a ∈ attributes, a.value.length ≤ maxValue) :
    parseAttributes host (before ++ encodeAttributes host attributes) before.length =
      .ok (some (attributes.map Attribute.masked)) := by
  have hvalue : ∀ a : Attribute, (attributeRecord host a).drop AttributeHeader.size = a.value := fun a => by
    exact List.drop_left' (AttributeHeader.length_bytes host (attributeHeader a))
  rw [parseAttributes_eq, List.drop_left, items_encodeAttributes host attributes h, allRecords_map_record,
    Option.map_some, List.map_map]
  simp only [Function.comp_def, hvalue]
  rfl

theorem nestedAttributes_nested (kind : UInt16) {attributes : List Attribute}
    (h : ∀ a ∈ attributes, a.value.length ≤ maxValue) :
    nestedAttributes host (Attribute.nested host kind attributes).value =
      .ok (some (attributes.map Attribute.masked)) := by
  have hfold := @foldl_appendAttribute host attributes [] rfl
  unfold nestedAttributes Attribute.nested
  rw [hfold]
  exact parseAttributes_encodeAttributes host [] h

/-! ## Messages -/

/-- The header `build_message` writes over the first bytes of a message of `length` bytes. -/
def builtHeader (length : Nat) (messageType : UInt16) (sequence : UInt32) (flags : UInt16) : MessageHeader where
  length := UInt32.ofNat length
  messageType := messageType
  flags := flags
  sequence := sequence
  portId := 0

def builtGeneric (command version : UInt8) : GenericHeader where
  command := command
  version := version
  reserved := 0

@[simp] theorem length_builtGeneric (command version : UInt8) :
    ((builtGeneric command version).bytes host).length = 4 := by
  simp [GenericHeader.bytes]

theorem builtGeneric_read (command version : UInt8) (rest : Bytes) :
    ∃ generic, GenericHeader.read host ((builtGeneric command version).bytes host ++ rest) = some generic ∧
      generic.command = command := by
  refine ⟨_, if_neg ?_, rfl⟩
  rw [List.length_append, length_builtGeneric]
  simp [GenericHeader.size]

theorem buildMessage_eq (messageType : UInt16) (sequence : UInt32) (command version : UInt8) (flags : UInt16)
    (attributes : List Attribute) :
    buildMessage host messageType sequence command version flags attributes =
      (builtHeader (20 + (encodeAttributes host attributes).length) messageType sequence flags).bytes host ++
        ((builtGeneric command version).bytes host ++ encodeAttributes host attributes) := by
  have htarget : (List.replicate MessageHeader.size (0 : UInt8) ++
      (builtGeneric command version).bytes host).length % 4 = 0 := by
    rw [List.length_append, List.length_replicate, length_builtGeneric]
    rfl
  have hfold := foldl_appendAttribute host attributes htarget
  have hlength : (List.replicate MessageHeader.size (0 : UInt8) ++ (builtGeneric command version).bytes host ++
      encodeAttributes host attributes).length = 20 + (encodeAttributes host attributes).length := by
    rw [List.length_append, List.length_append, List.length_replicate, length_builtGeneric]
    rfl
  show (builtHeader (attributes.foldl (appendAttribute host) (List.replicate MessageHeader.size 0 ++
      (builtGeneric command version).bytes host)).length messageType sequence flags).bytes host ++
    (attributes.foldl (appendAttribute host) (List.replicate MessageHeader.size 0 ++
      (builtGeneric command version).bytes host)).drop MessageHeader.size = _
  rw [hfold, hlength, List.append_assoc, List.drop_left' List.length_replicate]

theorem length_buildMessage (messageType : UInt16) (sequence : UInt32) (command version : UInt8) (flags : UInt16)
    (attributes : List Attribute) :
    (buildMessage host messageType sequence command version flags attributes).length =
      20 + (encodeAttributes host attributes).length := by
  rw [buildMessage_eq, List.length_append, List.length_append, MessageHeader.length_bytes, length_builtGeneric]
  omega

theorem items_buildMessage (messageType : UInt16) (sequence : UInt32) (command version : UInt8) (flags : UInt16)
    (attributes : List Attribute)
    (hsize : (buildMessage host messageType sequence command version flags attributes).length < 2 ^ 32) :
    items (messageFormat host) (buildMessage host messageType sequence command version flags attributes) =
      [.record (builtHeader (20 + (encodeAttributes host attributes).length) messageType sequence flags)
        (buildMessage host messageType sequence command version flags attributes)] := by
  have hlength := length_buildMessage host messageType sequence command version flags attributes
  have hmod := length_encodeAttributes_mod host attributes
  have hread : (messageFormat host).read (buildMessage host messageType sequence command version flags attributes) =
      some (builtHeader (20 + (encodeAttributes host attributes).length) messageType sequence flags) := by
    rw [buildMessage_eq]
    exact MessageHeader.read_bytes host _ _
  have hdeclared : (messageFormat host).length
      (builtHeader (20 + (encodeAttributes host attributes).length) messageType sequence flags) =
      (buildMessage host messageType sequence command version flags attributes).length := by
    show (UInt32.ofNat (20 + (encodeAttributes host attributes).length)).toNat = _
    rw [UInt32.toNat_ofNat', hlength, Nat.mod_eq_of_lt (by omega)]
  have hpad : (buildMessage host messageType sequence command version flags attributes).length + ([] : Bytes).length =
      (messageFormat host).align (buildMessage host messageType sequence command version flags attributes).length := by
    rw [List.length_nil]
    exact (alignTo4_of_mod (by omega)).symm
  have hend : items (messageFormat host) [] = [] := items_of_short _ (messageFormat host).size_pos
  have h := items_append (messageFormat host) _ [] [] hread hdeclared hpad
  rwa [hend, List.append_nil, List.append_nil] at h

theorem parseGenericPayload_buildMessage (messageType : UInt16) (sequence : UInt32) (command version : UInt8)
    (flags : UInt16) {attributes : List Attribute} (hvalues : ∀ a ∈ attributes, a.value.length ≤ maxValue) :
    parseGenericPayload host (buildMessage host messageType sequence command version flags attributes) =
      .ok (.ok { command := command, attributes := attributes.map Attribute.masked }) := by
  have hlength := length_buildMessage host messageType sequence command version flags attributes
  have hbuild := buildMessage_eq host messageType sequence command version flags attributes
  generalize hheader : builtHeader (20 + (encodeAttributes host attributes).length) messageType sequence flags = header
    at hbuild
  generalize buildMessage host messageType sequence command version flags attributes = message at *
  have hdrop : message.drop MessageHeader.size =
      (builtGeneric command version).bytes host ++ encodeAttributes host attributes := by
    rw [hbuild]
    exact List.drop_left' (MessageHeader.length_bytes host header)
  have hfrom : getFrom message MessageHeader.size =
      some ((builtGeneric command version).bytes host ++ encodeAttributes host attributes) := by
    rw [getFrom, hdrop, if_pos (by rw [hlength]; simp only [MessageHeader.size]; omega)]
  obtain ⟨generic, hread, hcommand⟩ := builtGeneric_read host command version (encodeAttributes host attributes)
  have hattributes := parseAttributes_encodeAttributes host
    (header.bytes host ++ (builtGeneric command version).bytes host) hvalues
  have hoffset : (header.bytes host ++ (builtGeneric command version).bytes host).length =
      alignTo4 (MessageHeader.size + GenericHeader.size) := by
    rw [List.length_append, MessageHeader.length_bytes, length_builtGeneric]
    rfl
  rw [List.append_assoc, ← hbuild, hoffset] at hattributes
  unfold parseGenericPayload
  simp only [hfrom, hread, hattributes]
  rw [← hcommand]
  rfl

/-- **A built message is parsed back**, its attributes with masked kinds. -/
theorem parseMessages_buildMessage {messageType : UInt16} (sequence : UInt32) (command version : UInt8)
    (flags : UInt16) {attributes : List Attribute} (hError : messageType ≠ nlmsgError)
    (hOverrun : messageType ≠ nlmsgOverrun) (hvalues : ∀ a ∈ attributes, a.value.length ≤ maxValue)
    (hsize : (buildMessage host messageType sequence command version flags attributes).length < 2 ^ 32) :
    parseMessages host (buildMessage host messageType sequence command version flags attributes) messageType sequence =
      .ok (.ok [{ command := command, attributes := attributes.map Attribute.masked }]) := by
  have hpayload := parseGenericPayload_buildMessage host messageType sequence command version flags hvalues
  unfold parseMessages
  rw [walk_eq_scan, List.drop_zero, items_buildMessage host _ _ _ _ _ _ hsize]
  simp only [scan, itemStep, genericStep, builtHeader, hError, hOverrun, if_true, if_false, hpayload]
  rfl

/-! ## Attribute trees -/

inductive AttributeTree where
  | leaf (kind : UInt16) (value : Bytes)
  | node (kind : UInt16) (children : List AttributeTree)

mutual

/-- A tree as an attribute, written by `Attribute::nested` at every node. -/
def AttributeTree.encode : AttributeTree → Attribute
  | .leaf kind value => { kind := kind, value := value }
  | .node kind children => Attribute.nested host kind (AttributeTree.encodeAll children)

def AttributeTree.encodeAll : List AttributeTree → List Attribute
  | [] => []
  | t :: ts => t.encode :: AttributeTree.encodeAll ts

end

mutual

/-- Every encoded value in a tree fits a record. -/
def AttributeTree.Fits : AttributeTree → Prop
  | .leaf _ value => value.length ≤ maxValue
  | .node kind children =>
    (AttributeTree.encode host (.node kind children)).value.length ≤ maxValue ∧ AttributeTree.AllFit children

def AttributeTree.AllFit : List AttributeTree → Prop
  | [] => True
  | t :: ts => t.Fits ∧ AttributeTree.AllFit ts

end

mutual

def AttributeTree.masked : AttributeTree → AttributeTree
  | .leaf kind value => .leaf (kind &&& nlaTypeMask) value
  | .node kind children => .node (kind &&& nlaTypeMask) (AttributeTree.maskedAll children)

def AttributeTree.maskedAll : List AttributeTree → List AttributeTree
  | [] => []
  | t :: ts => t.masked :: AttributeTree.maskedAll ts

end

mutual

/-- Decodes an attribute along a tree that says where attributes nest. -/
def AttributeTree.readAs : AttributeTree → Attribute → Option AttributeTree
  | .leaf _ _, a => some (.leaf a.kind a.value)
  | .node _ children, a =>
    match nestedAttributes host a.value with
    | .ok (some attributes) => (AttributeTree.readAllAs children attributes).map (.node a.kind)
    | _ => none

def AttributeTree.readAllAs : List AttributeTree → List Attribute → Option (List AttributeTree)
  | [], [] => some []
  | t :: ts, a :: as => do
    let tree ← t.readAs a
    let trees ← AttributeTree.readAllAs ts as
    return tree :: trees
  | _, _ => none

end

theorem nested_kind_masked (kind : UInt16) : (kind ||| nlaFNested) &&& nlaTypeMask = kind &&& nlaTypeMask := by
  apply UInt16.toBitVec_inj.1
  simp only [UInt16.toBitVec_and, UInt16.toBitVec_or]
  rw [BitVec.and_comm, BitVec.and_or_distrib_left]
  have hflag : nlaTypeMask.toBitVec &&& nlaFNested.toBitVec = 0 := by decide
  rw [hflag, BitVec.and_comm]
  simp

theorem value_length_of_fits {t : AttributeTree} (h : t.Fits host) : (t.encode host).value.length ≤ maxValue := by
  cases t with
  | leaf kind value => exact h
  | node kind children =>
    rw [AttributeTree.Fits] at h
    exact h.1

theorem values_length_of_allFit : ∀ {ts : List AttributeTree}, AttributeTree.AllFit host ts →
    ∀ a ∈ AttributeTree.encodeAll host ts, a.value.length ≤ maxValue
  | [], _, a, ha => by cases ha
  | t :: ts, h, a, ha => by
    rw [AttributeTree.AllFit] at h
    rw [AttributeTree.encodeAll] at ha
    rcases List.mem_cons.1 ha with rfl | ha
    · exact value_length_of_fits host h.1
    · exact values_length_of_allFit h.2 a ha

mutual

/-- **An encoded tree is decoded with masked kinds at every node.** -/
theorem readAs_encode : ∀ (t : AttributeTree), t.Fits host → t.readAs host (t.encode host).masked = some t.masked
  | .leaf kind value, _ => rfl
  | .node kind children, h => by
    rw [AttributeTree.Fits] at h
    have hnested := nestedAttributes_nested host kind (values_length_of_allFit host h.2)
    have ih := readAllAs_encodeAll children h.2
    rw [AttributeTree.encode, AttributeTree.readAs, Attribute.masked, hnested]
    simp only [ih, Option.map_some, AttributeTree.masked, Attribute.nested, nested_kind_masked]

theorem readAllAs_encodeAll : ∀ (ts : List AttributeTree), AttributeTree.AllFit host ts →
    AttributeTree.readAllAs host ts ((AttributeTree.encodeAll host ts).map Attribute.masked) =
      some (AttributeTree.maskedAll ts)
  | [], _ => rfl
  | t :: ts, h => by
    rw [AttributeTree.AllFit] at h
    rw [AttributeTree.encodeAll, List.map_cons, AttributeTree.readAllAs, readAs_encode t h.1,
      readAllAs_encodeAll ts h.2]
    rfl

end

/-! ## Decoding and encoding again -/

/-- What was decoded fits its records, and is masked already. -/
theorem of_nestedAttributes {b : Bytes} {attributes : List Attribute}
    (h : nestedAttributes host b = .ok (some attributes)) :
    ∀ a ∈ attributes, a.value.length ≤ maxValue ∧ a.masked = a := by
  intro a ha
  rw [nestedAttributes, parseAttributes_eq] at h
  obtain ⟨records, hrecords, rfl⟩ := Option.map_eq_some_iff.1 (Except.ok.inj h)
  obtain ⟨⟨header, body⟩, hr, rfl⟩ := List.mem_map.1 ha
  obtain ⟨-, hbody, hsize⟩ := mem_items_record (attributeFormat host) _ (mem_of_allRecords hrecords _ hr)
  have hlt : header.length.toNat < 65536 := header.length.toNat_lt
  constructor
  · show (body.drop AttributeHeader.size).length ≤ 65531
    have hbody' : body.length = header.length.toNat := hbody
    rw [List.length_drop]
    simp only [AttributeHeader.size]
    omega
  · show Attribute.mk ((header.kind &&& nlaTypeMask) &&& nlaTypeMask) _ = _
    have hmask : (header.kind &&& nlaTypeMask) &&& nlaTypeMask = header.kind &&& nlaTypeMask := by
      apply UInt16.toBitVec_inj.1
      simp only [UInt16.toBitVec_and, BitVec.and_assoc, BitVec.and_self]
    rw [hmask]

theorem nestedAttributes_stable {b : Bytes} {attributes : List Attribute}
    (h : nestedAttributes host b = .ok (some attributes)) (kind : UInt16) :
    nestedAttributes host (Attribute.nested host kind attributes).value = .ok (some attributes) := by
  have hof := of_nestedAttributes host h
  rw [nestedAttributes_nested host kind (fun a ha => (hof a ha).1)]
  have hmap : attributes.map Attribute.masked = attributes := by
    conv => rhs; rw [← List.map_id attributes]
    exact List.map_congr_left (fun a ha => (hof a ha).2)
  rw [hmap]

/-- **Generic-netlink messages, nested attributes and attribute trees are read back**, and decoding is stable under
encoding again. -/
theorem generic_netlink_round_trip :
    (∀ (messageType : UInt16) (sequence : UInt32) (command version : UInt8) (flags : UInt16)
      (attributes : List Attribute), messageType ≠ nlmsgError → messageType ≠ nlmsgOverrun →
      (∀ a ∈ attributes, a.value.length ≤ maxValue) →
      (buildMessage host messageType sequence command version flags attributes).length < 2 ^ 32 →
      parseMessages host (buildMessage host messageType sequence command version flags attributes) messageType
          sequence =
        .ok (.ok [{ command := command, attributes := attributes.map Attribute.masked }])) ∧
    (∀ (kind : UInt16) (attributes : List Attribute), (∀ a ∈ attributes, a.value.length ≤ maxValue) →
      nestedAttributes host (Attribute.nested host kind attributes).value =
        .ok (some (attributes.map Attribute.masked))) ∧
    (∀ t : AttributeTree, t.Fits host → t.readAs host (t.encode host).masked = some t.masked) ∧
    (∀ (b : Bytes) (attributes : List Attribute), nestedAttributes host b = .ok (some attributes) →
      ∀ kind : UInt16,
        nestedAttributes host (Attribute.nested host kind attributes).value = .ok (some attributes)) := by
  refine ⟨?_, ?_, ?_, ?_⟩
  · intro messageType sequence command version flags attributes hError hOverrun hvalues hsize
    exact parseMessages_buildMessage host sequence command version flags hError hOverrun hvalues hsize
  · intro kind attributes hvalues
    exact nestedAttributes_nested host kind hvalues
  · intro t ht
    exact readAs_encode host t ht
  · intro b attributes hb kind
    exact nestedAttributes_stable host hb kind

/-- A request with a nested attribute of odd length and an empty one. -/
theorem generic_netlink_round_trip_request :
    parseMessages hostX86
        (buildMessage hostX86 0x1c 7 1 0 nlmFRequest [{ kind := 1, value := [97, 98, 0] }, { kind := 2, value := [] }])
        0x1c 7 =
      .ok (.ok [{ command := 1, attributes := [{ kind := 1, value := [97, 98, 0] }, { kind := 2, value := [] }] }]) ∧
    nestedAttributes hostX86 (Attribute.nested hostX86 4 [{ kind := 0x8001, value := [5] }]).value =
      .ok (some [{ kind := 1, value := [5] }]) ∧
    (AttributeTree.node 4 [.leaf 0x8001 [5], .node 2 []]).readAs hostX86
        ((AttributeTree.node 4 [.leaf 0x8001 [5], .node 2 []]).encode hostX86).masked =
      some (AttributeTree.node 4 [.leaf 0x8001 [5], .node 2 []]).masked ∧
    nestedAttributes hostX86 (Attribute.nested hostX86 9 [{ kind := 1, value := [5] }]).value =
      .ok (some [{ kind := 1, value := [5] }]) := by
  obtain ⟨hmessage, hnested, htree, hstable⟩ := generic_netlink_round_trip hostX86
  refine ⟨?_, ?_, ?_, ?_⟩
  · exact hmessage 0x1c 7 1 0 nlmFRequest _ (by decide) (by decide) (by decide) (by decide +kernel)
  · exact hnested 4 [{ kind := 0x8001, value := [5] }] (by decide)
  · refine htree _ ?_
    simp only [AttributeTree.Fits, AttributeTree.AllFit, AttributeTree.encode, AttributeTree.encodeAll]
    decide
  · exact hstable [5, 0, 1, 0, 5, 0, 0, 0] [{ kind := 1, value := [5] }] (by decide +kernel) 9

end Networkrs
