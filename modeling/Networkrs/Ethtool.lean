import Networkrs.GenlRoundTrip
import Networkrs.Lib.Sorted
/-!
# Ethtool — the bitsets of `ethtool.rs`

`bitset_names_with_reference` reads a set of named bits off an ethtool attribute through three fallbacks: the names the
selected bits carry, the names of the flagged bits in a reference table, and the names of the bits of a bitmap.  The
kernel writes a set as a list, as a mask with values, or as a bitmap, and the bits of the first two need not carry
their names.  A list of bits without names is read as the empty set (`unnamed_list_reads_empty`), and a set whose bits
are named in part is read in part; otherwise the encoding does not matter (`bitset_names_exact_iff`).
-/
namespace Networkrs

open Machine Framing

def bitsetNomask : UInt16 := 1
def bitsetBits : UInt16 := 3
def bitsetValue : UInt16 := 4
def bitsetBitsBit : UInt16 := 1
def bitsetBitIndex : UInt16 := 1
def bitsetBitName : UInt16 := 2
def bitsetBitValue : UInt16 := 3

variable (host : Host)

def nestedBytes (attributes : List Attribute) (kind : UInt16) : Option Bytes :=
  attributes.findSome? (fun attr => if attr.kind = kind then some attr.value else none)

def bytesAttribute (message : Message) (kind : UInt16) : Option Bytes :=
  message.attributes.findSome? (fun attr => if attr.kind = kind then some attr.value else none)

/-- `and_then(generic_netlink::nested_attributes)`. -/
def andThenNested (value : Option Bytes) : Checked (Option (List Attribute)) :=
  match value with
  | none => return none
  | some value => nestedAttributes host value

def bitEntry (list : Bool) (attr : Attribute) : Checked (Option (UInt32 × Text × Bool)) := do
  match ← nestedAttributes host attr.value with
  | none => return none
  | some bit =>
    return (nestedBytes bit bitsetBitIndex).bind (nativeU32 host) |>.bind fun index =>
      (nestedBytes bit bitsetBitName).bind nulTerminatedString |>.bind fun name =>
        some (index, name, list || bit.any (fun attr => attr.kind = bitsetBitValue))

def bitsetEntries (message : Message) (kind : UInt16) : Checked (List (UInt32 × Text × Bool)) := do
  match ← andThenNested host (bytesAttribute message kind) with
  | none => return []
  | some bitset =>
    match ← andThenNested host (nestedBytes bitset bitsetBits) with
    | none => return []
    | some bits =>
      -- In list form the presence of a bit selects it; in mask/value form its VALUE flag does.
      let list := bitset.any (fun attr => attr.kind = bitsetNomask)
      let entries ← (bits.filter (fun attr => attr.kind = bitsetBitsBit)).mapM (bitEntry host list)
      return (entries.filterMap id).mergeSort (fun a b => a.1 ≤ b.1)

def sortNames (names : List Text) : List Text := names.mergeSort textLe

def selectedEntryNames (entries : List (UInt32 × Text × Bool)) : List Text :=
  sortNames ((entries.filter (fun entry => entry.2.2)).map (fun entry => entry.2.1))

/-- The index of a bit with a VALUE flag. -/
def flaggedIndex (attr : Attribute) : Checked (Option UInt32) := do
  match ← nestedAttributes host attr.value with
  | none => return none
  | some bit =>
    if bit.any (fun attr => attr.kind = bitsetBitValue) then
      return (nestedBytes bit bitsetBitIndex).bind (nativeU32 host)
    else return none

/-- `value.get(index / 8).is_some_and(|byte| byte & (1 << (index % 8)) != 0)`. -/
def bitmapHas (value : Bytes) (index : UInt32) : Bool :=
  match value[index.toNat / 8]? with
  | none => false
  | some byte => byte &&& (1 <<< UInt8.ofNat (index.toNat % 8)) != 0

def referenceNames (reference : List (UInt32 × Text × Bool)) (selects : UInt32 → Bool) : List Text :=
  sortNames ((reference.filter (fun entry => selects entry.1)).map (fun entry => entry.2.1))

def bitsetNamesWithReference (message : Message) (kind : UInt16) (reference : List (UInt32 × Text × Bool)) :
    Checked (List Text) := do
  let entries ← bitsetEntries host message kind
  let selected := selectedEntryNames entries
  if !selected.isEmpty then return selected
  else
    match ← andThenNested host (bytesAttribute message kind) with
    | none => return []
    | some bitset =>
      let selectedIndices : List UInt32 ←
        match ← andThenNested host (nestedBytes bitset bitsetBits) with
        | none => pure []
        | some bits => do
          let indices ← (bits.filter (fun attr => attr.kind = bitsetBitsBit)).mapM (flaggedIndex host)
          pure (indices.filterMap id)
      if !selectedIndices.isEmpty then
        return referenceNames reference (fun index => selectedIndices.contains index)
      else
        match nestedBytes bitset bitsetValue with
        | none => return []
        | some value => return referenceNames reference (bitmapHas value)

/-! ## The order of names -/

theorem sortNames_eq_of_perm {l l' : List Text} (h : l.Perm l') : sortNames l = sortNames l' :=
  mergeSort_eq_of_perm textLe_trans textLe_total (fun a _ b _ => textLe_antisymm a b) h

theorem length_sortNames (l : List Text) : (sortNames l).length = l.length := (List.mergeSort_perm l textLe).length_eq

theorem isEmpty_sortNames (l : List Text) : (sortNames l).isEmpty = l.isEmpty := by
  have h := length_sortNames l
  rw [Bool.eq_iff_iff, List.isEmpty_iff_length_eq_zero, List.isEmpty_iff_length_eq_zero, h]

theorem referenceNames_none {reference : List (UInt32 × Text × Bool)} {selects : UInt32 → Bool}
    (h : ∀ index, selects index = false) : referenceNames reference selects = [] := by
  unfold referenceNames
  rw [List.filter_eq_nil_iff.2 (fun entry _ => by simp [h])]
  exact List.mergeSort_nil

/-! ## What the kernel writes -/

/-- One bit of a list or of a mask: its index, its name when the reply carries names, and its VALUE flag. -/
structure Bit where
  index : UInt32
  name : Option Text
  value : Bool
  deriving DecidableEq, Repr

/-- The value of the first attribute of a kind, whatever flag bits the kind is written with. -/
def written (attributes : List Attribute) (kind : UInt16) : Option Bytes :=
  nestedBytes (attributes.map Attribute.masked) kind

def isWritten (attributes : List Attribute) (kind : UInt16) : Bool :=
  (attributes.map Attribute.masked).any (fun attr => attr.kind = kind)

theorem written_cons (attr : Attribute) (attributes : List Attribute) (kind : UInt16) :
    written (attr :: attributes) kind =
      if attr.kind &&& nlaTypeMask = kind then some attr.value else written attributes kind := by
  unfold written nestedBytes
  rw [List.map_cons, List.findSome?_cons]
  by_cases h : attr.kind &&& nlaTypeMask = kind
  · have hmasked : attr.masked.kind = kind := h
    rw [if_pos h, if_pos hmasked]
    rfl
  · have hmasked : ¬ attr.masked.kind = kind := h
    rw [if_neg h, if_neg hmasked]

theorem isWritten_cons (attr : Attribute) (attributes : List Attribute) (kind : UInt16) :
    isWritten (attr :: attributes) kind =
      (decide (attr.kind &&& nlaTypeMask = kind) || isWritten attributes kind) := rfl

/-- The attributes a nest holds, each within what a 16-bit length counts. -/
structure IsNest (value : Bytes) (attributes : List Attribute) : Prop where
  bytes : value = encodeAttributes host attributes
  fits : ∀ attr ∈ attributes, attr.value.length ≤ maxValue

/-- An attribute of a bit: the index in the byte order of the host, and the name up to a zero byte. -/
structure IsBit (bit : Bit) (attr : Attribute) (fields : List Attribute) : Prop where
  kind : attr.kind &&& nlaTypeMask = bitsetBitsBit
  nest : IsNest host attr.value fields
  index : written fields bitsetBitIndex = some (host.byteOrder.u32Bytes bit.index)
  name : written fields bitsetBitName = bit.name.map (fun name => utf8Bytes name ++ [0])
  noNul : ∀ name ∈ bit.name, '\x00' ∉ name
  value : isWritten fields bitsetBitValue = bit.value

/-- The ways a set of bits is written: the bits of the set, a mask whose bits tell by their flag whether they are in
the set, and the words of a bitmap. -/
inductive Encoding where
  | list (bits : List Bit)
  | maskValue (bits : List Bit)
  | bitmap (words : List UInt32)

/-- No bit twice, and no name but that of the reference table. -/
structure BitsOf (reference : List (UInt32 × Text × Bool)) (bits : List Bit) : Prop where
  distinct : (bits.map Bit.index).Nodup
  named : ∀ bit ∈ bits, ∀ name ∈ bit.name, (bit.index, name) ∈ reference.map (fun entry => (entry.1, entry.2.1))

def wordsHave (words : List UInt32) (index : UInt32) : Bool :=
  match words[index.toNat / 32]? with
  | none => false
  | some word => word.toNat.testBit (index.toNat % 32)

def Encoding.Selects (reference : List (UInt32 × Text × Bool)) (set : UInt32 → Bool) : Encoding → Prop
  | .list bits => BitsOf reference bits ∧ (∀ index, index ∈ bits.map Bit.index ↔ set index = true) ∧
      ∀ bit ∈ bits, bit.value = false
  | .maskValue bits => BitsOf reference bits ∧ (∀ index, set index = true → index ∈ bits.map Bit.index) ∧
      ∀ bit ∈ bits, bit.value = set bit.index
  | .bitmap words => ∀ index, wordsHave words index = set index

def HoldsBits (bits : List Bit) (bitset : List Attribute) : Prop :=
  ∃ value attributes, written bitset bitsetBits = some value ∧ IsNest host value attributes ∧
    List.Forall₂ (fun bit attr => ∃ fields, IsBit host bit attr fields) bits attributes

def Encoding.IsIn (bitset : List Attribute) : Encoding → Prop
  | .list bits => isWritten bitset bitsetNomask = true ∧ HoldsBits host bits bitset ∧ written bitset bitsetValue = none
  | .maskValue bits =>
    isWritten bitset bitsetNomask = false ∧ HoldsBits host bits bitset ∧ written bitset bitsetValue = none
  | .bitmap words => host.byteOrder = .little ∧ written bitset bitsetBits = none ∧
      written bitset bitsetValue = some (words.flatMap host.byteOrder.u32Bytes)

/-- A message whose attribute of a kind holds a set of bits of the reference table. -/
structure HoldsSet (reference : List (UInt32 × Text × Bool)) (set : UInt32 → Bool) (encoding : Encoding)
    (message : Message) (kind : UInt16) : Prop where
  selects : encoding.Selects reference set
  carried : ∃ value bitset, bytesAttribute message kind = some value ∧ IsNest host value bitset ∧
    encoding.IsIn host bitset

/-! ## What a bit is read as -/

theorem nestedAttributes_of_isNest {value : Bytes} {attributes : List Attribute} (h : IsNest host value attributes) :
    nestedAttributes host value = .ok (some (attributes.map Attribute.masked)) := by
  rw [h.bytes]
  exact parseAttributes_encodeAttributes host [] h.fits

/-- A character other than NUL has no zero byte. -/
theorem ne_zero_of_mem_utf8EncodeChar {c : Char} (hc : c ≠ '\x00') : ∀ b ∈ String.utf8EncodeChar c, b ≠ 0 := by
  have hval : c.val.toNat ≠ 0 := fun h => hc (Char.ext (UInt32.toNat_inj.1 h))
  intro b hb h
  subst h
  have hzero : ∀ n : Nat, (0 : UInt8) = UInt8.ofNat n → n % 256 = 0 := fun n h => by
    have := congrArg UInt8.toNat h
    rwa [UInt8.toNat_ofNat', eq_comm] at this
  unfold String.utf8EncodeChar at hb
  dsimp only at hb
  split at hb
  · have := hzero _ (List.mem_singleton.1 hb)
    omega
  · split at hb
    · simp only [List.mem_cons, List.not_mem_nil, or_false] at hb
      rcases hb with hb | hb <;> have := hzero _ hb <;> omega
    · split at hb
      · simp only [List.mem_cons, List.not_mem_nil, or_false] at hb
        rcases hb with hb | hb | hb <;> have := hzero _ hb <;> omega
      · simp only [List.mem_cons, List.not_mem_nil, or_false] at hb
        rcases hb with hb | hb | hb | hb <;> have := hzero _ hb <;> omega

theorem nulTerminatedString_utf8Bytes {name : Text} (h : '\x00' ∉ name) :
    nulTerminatedString (utf8Bytes name ++ [0]) = some name := by
  have hall : ∀ b ∈ utf8Bytes name, (b != 0) = true := fun b hb => by
    obtain ⟨c, hc, hbc⟩ := List.mem_flatMap.1 hb
    rw [bne_iff_ne]
    exact ne_zero_of_mem_utf8EncodeChar (fun heq => h (heq ▸ hc)) b hbc
  unfold nulTerminatedString
  rw [List.takeWhile_append_of_pos hall, List.takeWhile_cons_of_neg (by decide), List.append_nil, fromUtf8_utf8Bytes]

/-- **A named bit is an entry**, and a bit without a name is none. -/
theorem bitEntry_of_isBit (list : Bool) {bit : Bit} {attr : Attribute} {fields : List Attribute}
    (h : IsBit host bit attr fields) :
    bitEntry host list attr.masked = .ok (bit.name.map (fun name => (bit.index, name, list || bit.value))) := by
  have hindex := h.index
  have hname := h.name
  have hvalue := h.value
  unfold written at hindex hname
  unfold isWritten at hvalue
  unfold bitEntry
  rw [show attr.masked.value = attr.value from rfl, nestedAttributes_of_isNest host h.nest, ok_bind]
  dsimp only
  rw [hindex, hname, hvalue, Option.bind_some, nativeU32_u32Bytes, Option.bind_some]
  cases hbit : bit.name with
  | none => rfl
  | some name =>
    rw [Option.map_some, Option.bind_some, nulTerminatedString_utf8Bytes (h.noNul name hbit)]
    rfl

theorem flaggedIndex_of_isBit {bit : Bit} {attr : Attribute} {fields : List Attribute}
    (h : IsBit host bit attr fields) :
    flaggedIndex host attr.masked = .ok (if bit.value then some bit.index else none) := by
  have hindex := h.index
  have hvalue := h.value
  unfold written at hindex
  unfold isWritten at hvalue
  unfold flaggedIndex
  rw [show attr.masked.value = attr.value from rfl, nestedAttributes_of_isNest host h.nest, ok_bind]
  dsimp only
  rw [hindex, hvalue, Option.bind_some, nativeU32_u32Bytes]
  cases bit.value <;> rfl

/-- A pass over the bits of a nest reads each of them. -/
theorem mapM_bits {β : Type} {f : Attribute → Checked β} {g : Bit → β}
    (hf : ∀ bit attr fields, IsBit host bit attr fields → f attr.masked = .ok (g bit)) {bits : List Bit}
    {attributes : List Attribute}
    (h : List.Forall₂ (fun bit attr => ∃ fields, IsBit host bit attr fields) bits attributes) :
    ((attributes.map Attribute.masked).filter (fun attr => attr.kind = bitsetBitsBit)).mapM f = .ok (bits.map g) := by
  induction h with
  | nil => rfl
  | @cons bit attr bits attributes hbit _ ih =>
    obtain ⟨fields, hbit⟩ := hbit
    have hkind : (decide (attr.masked.kind = bitsetBitsBit)) = true := decide_eq_true hbit.kind
    rw [List.map_cons,
      List.filter_cons_of_pos (p := fun attr : Attribute => decide (attr.kind = bitsetBitsBit)) hkind,
      List.mapM_cons, hf bit attr fields hbit, ih]
    rfl

def entryOf (list : Bool) (bit : Bit) : Option (UInt32 × Text × Bool) :=
  bit.name.map (fun name => (bit.index, name, list || bit.value))

theorem selectedEntryNames_entries (list : Bool) (bits : List Bit) :
    selectedEntryNames ((bits.filterMap (entryOf list)).mergeSort (fun a b => a.1 ≤ b.1)) =
      sortNames ((bits.filter (fun bit => list || bit.value)).filterMap Bit.name) := by
  have hnames : ∀ bits : List Bit, ((bits.filterMap (entryOf list)).filter (fun entry => entry.2.2)).map
      (fun entry => entry.2.1) = (bits.filter (fun bit => list || bit.value)).filterMap Bit.name := by
    intro bits
    induction bits with
    | nil => rfl
    | cons bit bits ih =>
      unfold entryOf at ih ⊢
      cases hname : bit.name with
      | none =>
        rw [List.filterMap_cons_none (by rw [hname]; rfl), ih]
        cases hsel : list || bit.value with
        | true => rw [List.filter_cons_of_pos (by simpa using hsel), List.filterMap_cons_none hname]
        | false => rw [List.filter_cons_of_neg (by simp [hsel])]
      | some name =>
        rw [List.filterMap_cons_some (by rw [hname]; rfl)]
        cases hsel : list || bit.value with
        | true =>
          rw [List.filter_cons_of_pos rfl, List.map_cons, ih, List.filter_cons_of_pos (by simpa using hsel),
            List.filterMap_cons_some hname]
        | false => rw [List.filter_cons_of_neg (by simp), ih, List.filter_cons_of_neg (by simp [hsel])]
  unfold selectedEntryNames
  rw [← hnames bits]
  exact sortNames_eq_of_perm (((List.mergeSort_perm _ _).filter _).map _)

/-- The names read off the bits of a list or of a mask: those that the selected bits carry when there are any, and
otherwise those of the flagged bits in the reference table. -/
def namesOfBits (reference : List (UInt32 × Text × Bool)) (list : Bool) (bits : List Bit) : List Text :=
  let named := (bits.filter (fun bit => list || bit.value)).filterMap Bit.name
  if named ≠ [] then sortNames named
  else referenceNames reference (fun index => ((bits.filter Bit.value).map Bit.index).contains index)

theorem bitsetNames_of_holdsBits {reference : List (UInt32 × Text × Bool)} {message : Message} {kind : UInt16}
    {value : Bytes} {bitset : List Attribute} {bits : List Bit} (hbytes : bytesAttribute message kind = some value)
    (hnest : IsNest host value bitset) (hbits : HoldsBits host bits bitset)
    (hvalue : written bitset bitsetValue = none) :
    bitsetNamesWithReference host message kind reference =
      .ok (namesOfBits reference (isWritten bitset bitsetNomask) bits) := by
  obtain ⟨inner, attributes, hinner, hinnerNest, hforall⟩ := hbits
  have hdecoded : andThenNested host (bytesAttribute message kind) = .ok (some (bitset.map Attribute.masked)) := by
    rw [hbytes]
    exact nestedAttributes_of_isNest host hnest
  have hinnerDecoded : andThenNested host (nestedBytes (bitset.map Attribute.masked) bitsetBits) =
      .ok (some (attributes.map Attribute.masked)) := by
    unfold written at hinner
    rw [hinner]
    exact nestedAttributes_of_isNest host hinnerNest
  have hentries : bitsetEntries host message kind =
      .ok ((bits.filterMap (entryOf (isWritten bitset bitsetNomask))).mergeSort (fun a b => a.1 ≤ b.1)) := by
    unfold bitsetEntries
    rw [hdecoded, ok_bind]
    dsimp only
    rw [hinnerDecoded, ok_bind]
    dsimp only
    rw [mapM_bits host (fun bit attr fields => bitEntry_of_isBit host _) hforall, ok_bind, List.filterMap_map]
    rfl
  have hflagged : (bits.map (fun bit => if bit.value then some bit.index else none)).filterMap id =
      (bits.filter Bit.value).map Bit.index := by
    rw [List.filterMap_map, ← List.filterMap_eq_map, List.filterMap_filter]
    rfl
  unfold bitsetNamesWithReference namesOfBits
  rw [hentries, ok_bind]
  dsimp only
  rw [selectedEntryNames_entries, isEmpty_sortNames]
  split
  · rename_i hsome
    rw [if_pos (by simpa using hsome)]
    rfl
  · rename_i hnone
    rw [if_neg (by simpa using hnone), hdecoded, ok_bind]
    dsimp only
    rw [hinnerDecoded, ok_bind]
    dsimp only
    rw [mapM_bits host (fun bit attr fields => flaggedIndex_of_isBit host) hforall, ok_bind, hflagged]
    rw [pure_bind]
    -- a list without flagged bits falls through to the bitmap, which is absent
    split
    · rfl
    · rename_i hempty
      have hnil : (bits.filter Bit.value).map Bit.index = [] := by simpa using hempty
      unfold written at hvalue
      rw [hvalue, hnil]
      dsimp only
      rw [referenceNames_none (fun _ => List.contains_nil)]
      rfl

/-! ## Sets of bits -/

/-- The name of an index in the reference table. -/
def referenceName (reference : List (UInt32 × Text × Bool)) (index : UInt32) : Option Text :=
  (reference.find? (fun entry => entry.1 = index)).map (fun entry => entry.2.1)

theorem referenceName_of_mem {reference : List (UInt32 × Text × Bool)} (hdistinct : (reference.map Prod.fst).Nodup)
    {entry : UInt32 × Text × Bool} (hentry : entry ∈ reference) :
    referenceName reference entry.1 = some entry.2.1 := by
  unfold referenceName
  rw [Keyed.find?_key_of_mem hdistinct hentry, Option.map_some]

/-- **The names that the bits of a set carry are its names in the reference table** exactly when every bit of the set
carries one. -/
theorem carried_names_exact_iff {reference : List (UInt32 × Text × Bool)} {set : UInt32 → Bool} {bits : List Bit}
    (hdistinct : (reference.map Prod.fst).Nodup) (hsubset : ∀ index, set index = true → index ∈ reference.map Prod.fst)
    (hbits : BitsOf reference bits) (hset : ∀ index, index ∈ bits.map Bit.index ↔ set index = true) :
    sortNames (bits.filterMap Bit.name) = referenceNames reference set ↔ ∀ bit ∈ bits, bit.name.isSome := by
  have hindices : (bits.map Bit.index).Perm ((reference.filter (fun entry => set entry.1)).map Prod.fst) := by
    rw [List.perm_ext_iff_of_nodup hbits.distinct ((List.filter_sublist.map Prod.fst).nodup hdistinct)]
    intro index
    rw [hset, List.mem_map]
    constructor
    · intro h
      obtain ⟨entry, hentry, rfl⟩ := List.mem_map.1 (hsubset index h)
      exact ⟨entry, List.mem_filter.2 ⟨hentry, h⟩, rfl⟩
    · rintro ⟨entry, hentry, rfl⟩
      exact (List.mem_filter.1 hentry).2
  have hlength := hindices.length_eq
  rw [List.length_map, List.length_map] at hlength
  constructor
  · intro h
    have hcount := congrArg List.length h
    unfold referenceNames at hcount
    rw [length_sortNames, length_sortNames, List.length_map, ← hlength] at hcount
    exact List.filterMap_length_eq_length.1 hcount
  · intro hnamed
    -- by all-named bits and by the table alike, a name is what the table holds for its index
    have hfromBits : bits.filterMap Bit.name = (bits.map Bit.index).filterMap (referenceName reference) := by
      rw [List.filterMap_map]
      apply List.filterMap_congr
      intro bit hbit
      obtain ⟨name, hname⟩ := Option.isSome_iff_exists.1 (hnamed bit hbit)
      obtain ⟨entry, hentry, heq⟩ := List.mem_map.1 (hbits.named bit hbit name hname)
      obtain ⟨hindex, rfl⟩ := Prod.mk.inj heq
      rw [hname, Function.comp_apply, ← hindex, referenceName_of_mem hdistinct hentry]
    have hfromReference : (reference.filter (fun entry => set entry.1)).map (fun entry => entry.2.1) =
        ((reference.filter (fun entry => set entry.1)).map Prod.fst).filterMap (referenceName reference) := by
      rw [List.filterMap_map, ← List.filterMap_eq_map]
      apply List.filterMap_congr
      intro entry hentry
      rw [Function.comp_apply, Function.comp_apply, referenceName_of_mem hdistinct (List.mem_filter.1 hentry).1]
    unfold referenceNames
    rw [hfromBits, hfromReference]
    exact sortNames_eq_of_perm (hindices.filterMap _)

/-- **The bitmap holds the bits of its words.** -/
theorem bitmapHas_words (words : List UInt32) (index : UInt32) :
    bitmapHas (words.flatMap ByteOrder.little.u32Bytes) index = wordsHave words index := by
  have hlength : ∀ word, (ByteOrder.little.u32Bytes word).length = 4 := ByteOrder.little.length_u32Bytes
  have hbyte : index.toNat / 8 = 4 * (index.toNat / 32) + index.toNat / 8 % 4 := by omega
  have hr : index.toNat / 8 % 4 < 4 := by omega
  have hj : index.toNat % 8 < 8 := by omega
  have hbit : 8 * (index.toNat / 8 % 4) + index.toNat % 8 = index.toNat % 32 := by omega
  unfold bitmapHas wordsHave
  rw [hbyte, getElem?_flatMap_chunks hlength hr]
  cases words[index.toNat / 32]? with
  | none => rfl
  | some word =>
    rw [Option.bind_some]
    show (match (leBytes 4 word.toNat)[index.toNat / 8 % 4]? with
      | none => false
      | some byte => byte &&& (1 <<< UInt8.ofNat (index.toNat % 8)) != 0) = _
    rw [getElem?_leBytes 4 _ _ hr]
    dsimp only
    rw [mask_ne_zero _ hj, testBit_leByte _ _ _ hj, hbit]

theorem bitsetNames_of_bitmap {reference : List (UInt32 × Text × Bool)} {message : Message} {kind : UInt16}
    {value bitmap : Bytes} {bitset : List Attribute} (hbytes : bytesAttribute message kind = some value)
    (hnest : IsNest host value bitset) (hbits : written bitset bitsetBits = none)
    (hbitmap : written bitset bitsetValue = some bitmap) :
    bitsetNamesWithReference host message kind reference = .ok (referenceNames reference (bitmapHas bitmap)) := by
  have hdecoded : andThenNested host (bytesAttribute message kind) = .ok (some (bitset.map Attribute.masked)) := by
    rw [hbytes]
    exact nestedAttributes_of_isNest host hnest
  have hentries : bitsetEntries host message kind = .ok [] := by
    unfold written at hbits
    unfold bitsetEntries
    rw [hdecoded, ok_bind]
    dsimp only
    rw [hbits]
    rfl
  have hselected : selectedEntryNames [] = [] := List.mergeSort_nil
  unfold written at hbits hbitmap
  unfold bitsetNamesWithReference
  rw [hentries, ok_bind, hselected, hdecoded]
  dsimp only
  rw [if_neg (by decide), ok_bind]
  dsimp only
  rw [hbits, hbitmap]
  rfl

/-! ## Every encoding -/

/-- The bits of a list, and the flagged bits of a mask, have names: all of them, or, in a mask, none of them. -/
def Encoding.NamesSuffice : Encoding → Prop
  | .list bits => ∀ bit ∈ bits, bit.name.isSome
  | .maskValue bits =>
    (∀ bit ∈ bits, bit.value = true → bit.name.isSome) ∨ ∀ bit ∈ bits, bit.value = true → bit.name = none
  | .bitmap _ => True

theorem namesOfBits_list_iff {reference : List (UInt32 × Text × Bool)} {set : UInt32 → Bool} {bits : List Bit}
    (hdistinct : (reference.map Prod.fst).Nodup) (hsubset : ∀ index, set index = true → index ∈ reference.map Prod.fst)
    (h : (Encoding.list bits).Selects reference set) :
    namesOfBits reference true bits = referenceNames reference set ↔ (Encoding.list bits).NamesSuffice := by
  obtain ⟨hbits, hset, hflags⟩ := h
  have hall : bits.filter (fun bit => true || bit.value) = bits :=
    List.filter_eq_self.2 (fun bit _ => Bool.true_or bit.value)
  have hnone : bits.filter Bit.value = [] := List.filter_eq_nil_iff.2 (fun bit hbit => by simp [hflags bit hbit])
  show _ ↔ ∀ bit ∈ bits, bit.name.isSome
  unfold namesOfBits
  rw [hall, hnone, List.map_nil, ← carried_names_exact_iff hdistinct hsubset hbits hset]
  dsimp only
  by_cases hnamed : bits.filterMap Bit.name = []
  · rw [if_neg (not_not_intro hnamed), hnamed, referenceNames_none (fun _ => List.contains_nil), sortNames,
      List.mergeSort_nil]
  · rw [if_pos hnamed]

theorem namesOfBits_mask_iff {reference : List (UInt32 × Text × Bool)} {set : UInt32 → Bool} {bits : List Bit}
    (hdistinct : (reference.map Prod.fst).Nodup) (hsubset : ∀ index, set index = true → index ∈ reference.map Prod.fst)
    (h : (Encoding.maskValue bits).Selects reference set) :
    namesOfBits reference false bits = referenceNames reference set ↔ (Encoding.maskValue bits).NamesSuffice := by
  obtain ⟨hbits, hset, hflags⟩ := h
  have hfilter : bits.filter (fun bit => false || bit.value) = bits.filter Bit.value :=
    List.filter_congr (fun bit _ => Bool.false_or bit.value)
  have hchosen : BitsOf reference (bits.filter Bit.value) :=
    ⟨(List.filter_sublist.map Bit.index).nodup hbits.distinct,
      fun bit hbit => hbits.named bit (List.mem_filter.1 hbit).1⟩
  have hmem : ∀ index, index ∈ (bits.filter Bit.value).map Bit.index ↔ set index = true := by
    intro index
    rw [List.mem_map]
    constructor
    · rintro ⟨bit, hbit, rfl⟩
      obtain ⟨hbit, hflag⟩ := List.mem_filter.1 hbit
      rw [← hflags bit hbit, hflag]
    · intro hindex
      obtain ⟨bit, hbit, rfl⟩ := List.mem_map.1 (hset index hindex)
      exact ⟨bit, List.mem_filter.2 ⟨hbit, by rw [hflags bit hbit, hindex]⟩, rfl⟩
  unfold namesOfBits
  rw [hfilter]
  dsimp only
  by_cases hnamed : (bits.filter Bit.value).filterMap Bit.name = []
  · -- no flagged bit carries a name, so the table is consulted
    have hnone : ∀ bit ∈ bits, bit.value = true → bit.name = none := fun bit hbit hflag =>
      List.filterMap_eq_nil_iff.1 hnamed bit (List.mem_filter.2 ⟨hbit, hflag⟩)
    have hsame : (fun index => ((bits.filter Bit.value).map Bit.index).contains index) = set := by
      funext index
      rw [Bool.eq_iff_iff, List.contains_iff_mem, hmem]
    rw [if_neg (not_not_intro hnamed), hsame]
    exact iff_of_true rfl (.inr hnone)
  · rw [if_pos hnamed, carried_names_exact_iff hdistinct hsubset hchosen hmem]
    constructor
    · intro h
      exact .inl (fun bit hbit hflag => h bit (List.mem_filter.2 ⟨hbit, hflag⟩))
    · rintro (h | h)
      · intro bit hbit
        obtain ⟨hbit, hflag⟩ := List.mem_filter.1 hbit
        exact h bit hbit hflag
      · refine absurd (List.filterMap_eq_nil_iff.2 ?_) hnamed
        intro bit hbit
        obtain ⟨hbit, hflag⟩ := List.mem_filter.1 hbit
        exact h bit hbit hflag

/-- **Every encoding of a set is read as the names of the set**, except when the bits of a list, or some but not all of
the flagged bits of a mask, are without their names. -/
theorem bitset_names_exact_iff {reference : List (UInt32 × Text × Bool)} {set : UInt32 → Bool} {encoding : Encoding}
    {message : Message} {kind : UInt16} (hdistinct : (reference.map Prod.fst).Nodup)
    (hsubset : ∀ index, set index = true → index ∈ reference.map Prod.fst)
    (h : HoldsSet host reference set encoding message kind) :
    bitsetNamesWithReference host message kind reference = .ok (referenceNames reference set) ↔
      encoding.NamesSuffice := by
  obtain ⟨hselects, value, bitset, hbytes, hnest, hin⟩ := h
  cases encoding with
  | list bits =>
    obtain ⟨hnomask, hholds, hvalue⟩ := hin
    rw [bitsetNames_of_holdsBits host hbytes hnest hholds hvalue, hnomask, Except.ok.injEq]
    exact namesOfBits_list_iff hdistinct hsubset hselects
  | maskValue bits =>
    obtain ⟨hnomask, hholds, hvalue⟩ := hin
    rw [bitsetNames_of_holdsBits host hbytes hnest hholds hvalue, hnomask, Except.ok.injEq]
    exact namesOfBits_mask_iff hdistinct hsubset hselects
  | bitmap words =>
    obtain ⟨hlittle, hbits, hvalue⟩ := hin
    have hsame : bitmapHas (words.flatMap host.byteOrder.u32Bytes) = set := by
      funext index
      rw [hlittle, bitmapHas_words, hselects]
    rw [bitsetNames_of_bitmap host hbytes hnest hbits hvalue, hsame]
    exact iff_of_true rfl trivial

/-! ## Replies as the kernel writes them -/

def bitFields (bit : Bit) : List Attribute :=
  Attribute.u32 host bitsetBitIndex bit.index ::
    ((bit.name.map (fun name => (⟨bitsetBitName, utf8Bytes name ++ [0]⟩ : Attribute))).toList ++
      if bit.value then [⟨bitsetBitValue, []⟩] else [])

def bitAttribute (bit : Bit) : Attribute := Attribute.nested host bitsetBitsBit (bitFields host bit)

/-- A reply whose attribute of a kind is a list of bits, or a mask with values. -/
def verboseReply (kind : UInt16) (list : Bool) (bits : List Bit) : Message where
  command := 0
  attributes := [⟨kind, encodeAttributes host
    ((if list then [⟨bitsetNomask, []⟩] else []) ++ [Attribute.nested host bitsetBits (bits.map (bitAttribute host))])⟩]

theorem kind_u32 (kind : UInt16) (value : UInt32) : (Attribute.u32 host kind value).kind = kind := rfl

theorem kind_nested (kind : UInt16) (attributes : List Attribute) :
    (Attribute.nested host kind attributes).kind = kind ||| nlaFNested := rfl

theorem value_nested (kind : UInt16) (attributes : List Attribute) :
    (Attribute.nested host kind attributes).value = encodeAttributes host attributes :=
  foldl_appendAttribute host attributes rfl

theorem isBit_bitAttribute {bit : Bit} (hnul : ∀ name ∈ bit.name, '\x00' ∉ name)
    (hfits : ∀ name ∈ bit.name, (utf8Bytes name).length < maxValue) :
    IsBit host bit (bitAttribute host bit) (bitFields host bit) where
  kind := by
    unfold bitAttribute
    rw [kind_nested]
    decide
  nest := by
    refine ⟨value_nested host _ _, ?_⟩
    intro attr hattr
    rcases List.mem_cons.1 hattr with rfl | hattr
    · show (host.byteOrder.u32Bytes bit.index).length ≤ maxValue
      rw [host.byteOrder.length_u32Bytes]
      decide
    · rcases List.mem_append.1 hattr with hattr | hattr
      · obtain ⟨name, hname, rfl⟩ := Option.map_eq_some_iff.1 (Option.mem_toList.1 hattr)
        have := hfits name hname
        rw [List.length_append, List.length_singleton]
        omega
      · cases hvalue : bit.value with
        | true =>
          rw [hvalue, if_pos rfl, List.mem_singleton] at hattr
          rw [hattr]
          exact Nat.zero_le maxValue
        | false =>
          rw [hvalue, if_neg (by decide)] at hattr
          cases hattr
  index := by
    unfold bitFields
    rw [written_cons, kind_u32, if_pos (by decide)]
    rfl
  name := by
    unfold bitFields
    rw [written_cons, kind_u32, if_neg (by decide)]
    cases bit.name with
    | none => cases bit.value <;> rfl
    | some name =>
      have hkind : bitsetBitName &&& nlaTypeMask = bitsetBitName := by decide
      rw [Option.map_some, Option.toList_some, List.singleton_append, written_cons, if_pos hkind, Option.map_some]
  noNul := hnul
  value := by
    have hvalue : isWritten (if bit.value then [(⟨bitsetBitValue, []⟩ : Attribute)] else []) bitsetBitValue =
        bit.value := by
      cases bit.value <;> rfl
    unfold bitFields
    rw [isWritten_cons, kind_u32, decide_eq_false (by decide), Bool.false_or]
    cases bit.name with
    | none => exact hvalue
    | some name =>
      have hkind : ¬ bitsetBitName &&& nlaTypeMask = bitsetBitValue := by decide
      rw [Option.map_some, Option.toList_some, List.singleton_append, isWritten_cons, decide_eq_false hkind,
        Bool.false_or, hvalue]

/-- **The replies the kernel writes hold their bits**, as a list or as a mask. -/
theorem holdsSet_verboseReply {reference : List (UInt32 × Text × Bool)} {set : UInt32 → Bool} {bits : List Bit}
    (kind : UInt16) (list : Bool)
    (hselects : (if list then Encoding.list bits else .maskValue bits).Selects reference set)
    (hnul : ∀ bit ∈ bits, ∀ name ∈ bit.name, '\x00' ∉ name)
    (hfits : ∀ bit ∈ bits, ∀ name ∈ bit.name, (utf8Bytes name).length < maxValue)
    (hbits : ∀ bit ∈ bits, (bitAttribute host bit).value.length ≤ maxValue)
    (hbitset : (encodeAttributes host (bits.map (bitAttribute host))).length ≤ maxValue) :
    HoldsSet host reference set (if list then .list bits else .maskValue bits) (verboseReply host kind list bits)
      kind := by
  have hnest : IsNest host (Attribute.nested host bitsetBits (bits.map (bitAttribute host))).value
      (bits.map (bitAttribute host)) := by
    refine ⟨value_nested host _ _, ?_⟩
    intro attr hattr
    obtain ⟨bit, hbit, rfl⟩ := List.mem_map.1 hattr
    exact hbits bit hbit
  have hholds : List.Forall₂ (fun bit attr => ∃ fields, IsBit host bit attr fields) bits
      (bits.map (bitAttribute host)) := by
    rw [List.forall₂_map_right_iff, List.forall₂_same]
    intro bit hbit
    exact ⟨bitFields host bit, isBit_bitAttribute host (hnul bit hbit) (hfits bit hbit)⟩
  refine ⟨hselects, _, _, by rw [bytesAttribute, verboseReply, List.findSome?_cons, if_pos rfl], ⟨rfl, ?_⟩, ?_⟩
  · intro attr hattr
    rcases List.mem_append.1 hattr with hattr | hattr
    · cases list with
      | true =>
        rw [if_pos rfl, List.mem_singleton] at hattr
        rw [hattr]
        exact Nat.zero_le maxValue
      | false => cases hattr
    · rw [List.mem_singleton.1 hattr, value_nested]
      exact hbitset
  · have hread : written [Attribute.nested host bitsetBits (bits.map (bitAttribute host))] bitsetBits =
        some (Attribute.nested host bitsetBits (bits.map (bitAttribute host))).value := by
      rw [written_cons, kind_nested, if_pos (by decide)]
    have hvalue : written [Attribute.nested host bitsetBits (bits.map (bitAttribute host))] bitsetValue = none := by
      rw [written_cons, kind_nested, if_neg (by decide)]
      rfl
    cases list with
    | true =>
      refine ⟨rfl, ⟨_, _, ?_, hnest, hholds⟩, ?_⟩
      · rw [if_pos rfl, List.singleton_append, written_cons, if_neg (by decide), hread]
      · rw [if_pos rfl, List.singleton_append, written_cons, if_neg (by decide), hvalue]
    | false =>
      refine ⟨?_, ⟨_, _, hread, hnest, hholds⟩, hvalue⟩
      show isWritten [Attribute.nested host bitsetBits (bits.map (bitAttribute host))] bitsetNomask = false
      rw [isWritten_cons, kind_nested, decide_eq_false (by decide)]
      rfl

/-! ## Features of an interface -/

def features : List (UInt32 × Text × Bool) :=
  [(0, "tx-scatter-gather", true), (2, "tx-checksum", true), (14, "rx-vlan", false)]

def activeFeatures : UInt32 → Bool := fun index => index = 0 || index = 14

def unnamedMask : List Bit := [⟨0, none, true⟩, ⟨2, none, false⟩, ⟨14, none, true⟩]

def unnamedList : List Bit := [⟨0, none, false⟩, ⟨14, none, false⟩]

theorem holdsSet_unnamedMask :
    HoldsSet hostX86 features activeFeatures (.maskValue unnamedMask) (verboseReply hostX86 3 false unnamedMask) 3 := by
  have hselects : (Encoding.maskValue unnamedMask).Selects features activeFeatures := by
    refine ⟨⟨by decide, by decide⟩, ?_, by decide⟩
    intro index h
    simp only [activeFeatures, Bool.or_eq_true, decide_eq_true_eq] at h
    rcases h with rfl | rfl <;> decide
  exact holdsSet_verboseReply hostX86 3 false hselects (by decide) (by decide) (by decide) (by decide)

/-- **A mask without names** is read as the names of its set. -/
theorem unnamed_mask_reads_exact :
    bitsetNamesWithReference hostX86 (verboseReply hostX86 3 false unnamedMask) 3 features =
      .ok (referenceNames features activeFeatures) :=
  (bitset_names_exact_iff hostX86 (by decide)
    (fun index h => by
      simp only [activeFeatures, Bool.or_eq_true, decide_eq_true_eq] at h
      rcases h with rfl | rfl <;> decide)
    holdsSet_unnamedMask).2 (.inr (by decide))

/-- **A list without names** is read as the empty set. -/
theorem unnamed_list_reads_empty :
    HoldsSet hostX86 features activeFeatures (.list unnamedList) (verboseReply hostX86 3 true unnamedList) 3 ∧
      bitsetNamesWithReference hostX86 (verboseReply hostX86 3 true unnamedList) 3 features = .ok [] ∧
      referenceNames features activeFeatures ≠ [] := by
  have hselects : (Encoding.list unnamedList).Selects features activeFeatures := by
    refine ⟨⟨by decide, by decide⟩, ?_, by decide⟩
    intro index
    simp [unnamedList, activeFeatures]
  have h := holdsSet_verboseReply hostX86 3 true hselects (by decide) (by decide) (by decide) (by decide)
  refine ⟨h, ?_, ?_⟩
  · obtain ⟨-, value, bitset, hbytes, hnest, hnomask, hholds, hvalue⟩ := h
    rw [bitsetNames_of_holdsBits hostX86 hbytes hnest hholds hvalue, hnomask, namesOfBits, if_neg (by decide)]
    exact congrArg Except.ok (referenceNames_none (fun index => rfl))
  · intro hempty
    have hlength := congrArg List.length hempty
    rw [referenceNames, length_sortNames] at hlength
    revert hlength
    decide

end Networkrs
