import Networkrs.Wifi
/-!
# Ssid — the network name among information elements

`parse_ssid` walks the elements of a beacon, each an id, the length of a body and the body, to the first one with the
id 0.  Elements one after another are the items of their bytes (`items_encode`), and bytes that begin with no complete
element have no record (`items_of_incomplete`), so a walk ends at the first name or finds none
(`parse_ssid_walks_elements`).
-/
namespace Networkrs

open Machine Framing

namespace Wifi

/-- An information element. -/
structure Element where
  id : UInt8
  body : Bytes
  length_le : body.length ≤ 255

def Element.encode (element : Element) : Bytes := element.id :: UInt8.ofNat element.body.length :: element.body

/-- Elements one after another. -/
def encodeElements (elements : List Element) : Bytes := elements.flatMap Element.encode

theorem encodeElements_cons_append (element : Element) (elements : List Element) (rest : Bytes) :
    encodeElements (element :: elements) ++ rest = element.encode ++ (encodeElements elements ++ rest) := by
  rw [encodeElements, encodeElements, List.flatMap_cons, List.append_assoc]

/-- Bytes that begin with a complete element. -/
def BeginsWithElement (bytes : Bytes) : Prop := ∃ (element : Element) (rest : Bytes), bytes = element.encode ++ rest

/-! ## Elements as items -/

theorem Element.toNat_length (element : Element) :
    (UInt8.ofNat element.body.length).toNat = element.body.length :=
  UInt8.toNat_ofNat_of_lt' (Nat.lt_succ_of_le element.length_le)

def Element.item (element : Element) : Item UInt8 (UInt8 × UInt8) :=
  .record (element.id, UInt8.ofNat element.body.length) element.encode

theorem items_encode (elements : List Element) (rest : Bytes) :
    items elementFormat (encodeElements elements ++ rest) =
      elements.map Element.item ++ items elementFormat rest := by
  induction elements with
  | nil => rfl
  | cons element elements ih =>
    have hlength : elementFormat.length (element.id, UInt8.ofNat element.body.length) = element.encode.length := by
      show 2 + (UInt8.ofNat element.body.length).toNat = element.body.length + 1 + 1
      rw [element.toNat_length]
      omega
    have hfirst := items_append elementFormat element.encode [] (encodeElements elements ++ rest) rfl hlength rfl
    rw [List.nil_append, ih] at hfirst
    rw [encodeElements_cons_append]
    exact hfirst

/-- **A truncated element stops the walk**: neither its header nor its body is read as an element. -/
theorem items_of_incomplete {rest : Bytes} (h : ¬ BeginsWithElement rest) :
    ∀ i ∈ items elementFormat rest, ∃ fault, i = .fault fault := by
  match rest with
  | [] =>
    rw [items_of_short elementFormat (l := []) (by decide)]
    exact fun i hi => absurd hi List.not_mem_nil
  | [id] =>
    rw [items_of_short elementFormat (l := [id]) (show 1 < 2 by decide)]
    exact fun i hi => absurd hi List.not_mem_nil
  | id :: length :: tail =>
    have hshort : tail.length < length.toNat := by
      by_contra hfits
      have hle : length.toNat ≤ tail.length := Nat.le_of_not_lt hfits
      have htake : (tail.take length.toNat).length = length.toNat := List.length_take_of_le hle
      have hbyte := length.toNat_lt
      refine h ⟨⟨id, tail.take length.toNat, by omega⟩, tail.drop length.toNat, ?_⟩
      simp only [Element.encode, htake, UInt8.ofNat_toNat, List.cons_append, List.take_append_drop]
    have hinvalid : elementFormat.length (id, length) < elementFormat.size ∨
        (id :: length :: tail).length < elementFormat.length (id, length) := by
      right
      show tail.length + 1 + 1 < 2 + length.toNat
      omega
    have hsize : elementFormat.size ≤ (id :: length :: tail).length := by
      show 2 ≤ tail.length + 1 + 1
      omega
    rw [items_of_invalid elementFormat hsize rfl hinvalid]
    exact fun i hi => ⟨_, List.mem_singleton.1 hi⟩

/-- **Every byte string** is elements one after another, and then bytes that begin with no complete one. -/
theorem exists_elements (bytes : Bytes) :
    ∃ elements rest, bytes = encodeElements elements ++ rest ∧ ¬ BeginsWithElement rest := by
  by_cases hbegins : BeginsWithElement bytes
  · obtain ⟨element, tail, hbytes⟩ := hbegins
    have hshorter : tail.length < bytes.length := by
      rw [hbytes, Element.encode]
      simp
      omega
    obtain ⟨elements, rest, rfl, hrest⟩ := exists_elements tail
    exact ⟨element :: elements, rest, by rw [hbytes, encodeElements_cons_append], hrest⟩
  · exact ⟨[], bytes, rfl, hbegins⟩
termination_by bytes.length

/-! ## The walk -/

abbrev ssidItem : Unit → Item UInt8 (UInt8 × UInt8) → Checked (Flow Unit (Option Text)) :=
  itemStep ssidStep (fun _ _ => none)

/-- The name a walk ends with. -/
def flowName : Flow Unit (Option Text) → Option Text
  | .stop ssid => ssid
  | .next _ => none

theorem parseSsid_eq_scan (bytes : Bytes) :
    parseSsid bytes = (scan ssidItem (items elementFormat bytes) ()).map flowName := by
  rw [parseSsid, walk_eq_scan, List.drop_zero]
  show scan ssidItem (items elementFormat bytes) () >>= _ = _
  cases scan ssidItem (items elementFormat bytes) () with
  | error p => rfl
  | ok flow => cases flow <;> rfl

theorem ssidItem_of_name {element : Element} (h : element.id = 0) :
    ssidItem () element.item = .ok (.stop (fromUtf8 element.body)) := by
  rw [Element.item, ssidItem, itemStep, ssidStep, if_pos h]
  rfl

theorem ssidItem_of_other {element : Element} (h : element.id ≠ 0) : ssidItem () element.item = .ok (.next ()) := by
  rw [Element.item, ssidItem, itemStep, ssidStep, if_neg h]
  rfl

/-- **A walk over elements** stops at the first name, or goes on behind them. -/
theorem scan_elements (is : List (Item UInt8 (UInt8 × UInt8))) : ∀ (elements : List Element),
    scan ssidItem (elements.map Element.item ++ is) () =
      match elements.find? (fun element => element.id = 0) with
      | some element => .ok (.stop (fromUtf8 element.body))
      | none => scan ssidItem is ()
  | [] => rfl
  | element :: elements => by
    rw [List.map_cons, List.cons_append, scan]
    by_cases h : element.id = 0
    · rw [ssidItem_of_name h, List.find?_cons_of_pos (by simpa using h)]
    · rw [ssidItem_of_other h, List.find?_cons_of_neg (by simpa using h)]
      exact scan_elements is elements

theorem parseSsid_eq (elements : List Element) (rest : Bytes) :
    parseSsid (encodeElements elements ++ rest) =
      match elements.find? (fun element => element.id = 0) with
      | some element => .ok (fromUtf8 element.body)
      | none => parseSsid rest := by
  rw [parseSsid_eq_scan, parseSsid_eq_scan, items_encode, scan_elements]
  cases elements.find? (fun element => element.id = 0) with
  | none => rfl
  | some element => rfl

theorem parseSsid_of_incomplete {rest : Bytes} (h : ¬ BeginsWithElement rest) : parseSsid rest = .ok none := by
  have hfaults := items_of_incomplete h
  rw [parseSsid_eq_scan]
  cases hitems : items elementFormat rest with
  | nil => rfl
  | cons i is =>
    rw [hitems] at hfaults
    obtain ⟨fault, rfl⟩ := hfaults i List.mem_cons_self
    rfl

/-- **What any bytes are read as**: the name in the elements they begin with. -/
theorem parseSsid_spec (bytes : Bytes) :
    ∃ elements rest, bytes = encodeElements elements ++ rest ∧ ¬ BeginsWithElement rest ∧
      parseSsid bytes =
        .ok ((elements.find? (fun element => element.id = 0)).bind (fun element => fromUtf8 element.body)) := by
  obtain ⟨elements, rest, rfl, hrest⟩ := exists_elements bytes
  refine ⟨elements, rest, rfl, hrest, ?_⟩
  rw [parseSsid_eq]
  cases elements.find? (fun element => element.id = 0) with
  | none => exact parseSsid_of_incomplete hrest
  | some element => rfl

/-- **SSID extraction walks information elements**: it stays within every byte string; over elements one after another
it reads the body of the first one with the id 0, whatever follows, and without one it finds no name. -/
theorem parse_ssid_walks_elements :
    (∀ bytes, ∃ ssid, parseSsid bytes = .ok ssid) ∧
      ∀ elements rest,
        (∀ element, elements.find? (fun element => element.id = 0) = some element →
          ∃ ssid, parseSsid (encodeElements elements ++ rest) = .ok ssid ∧
            ∀ text, ssid = some text ↔ utf8Bytes text = element.body) ∧
        ((∀ element ∈ elements, element.id ≠ 0) → ¬ BeginsWithElement rest →
          parseSsid (encodeElements elements ++ rest) = .ok none) := by
  refine ⟨parseSsid_isOk, fun elements rest => ⟨fun element hfirst => ?_, fun hnone hrest => ?_⟩⟩
  · refine ⟨fromUtf8 element.body, ?_, fromUtf8_eq_some_iff element.body⟩
    rw [parseSsid_eq, hfirst]
  · have hfind : elements.find? (fun element => element.id = 0) = none :=
      List.find?_eq_none.2 (fun element helement => by simpa using hnone element helement)
    rw [parseSsid_eq, hfind]
    exact parseSsid_of_incomplete hrest

theorem parse_ssid_walks_elements_test :
    ∃ ssid, parseSsid ([1, 1, 0x82] ++ ([0, 4] ++ utf8Bytes "test") ++ [0, 5]) = .ok ssid ∧
      ∀ text, ssid = some text ↔ utf8Bytes text = utf8Bytes "test" :=
  (parse_ssid_walks_elements.2 [⟨1, [0x82], by decide⟩, ⟨0, utf8Bytes "test", by decide⟩] [0, 5]).1
    ⟨0, utf8Bytes "test", by decide⟩ rfl

end Wifi

end Networkrs
