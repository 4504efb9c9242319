import Networkrs.System
/-!
# Oui — hardware vendors by the prefix of an address

`oui.rs`: the vendor database of the system and the lookup of a link-layer address in it.  A line of the database that
assigns a prefix has the form of `Assigns`, and only such a line has an effect (`ouiParseLine_eq_some_iff`).  The octets
of an address are printed, read back and packed into the key of a line's without a loss (`vendor_formatLinkAddress`,
`vendorKey_inj`), so the lookup finds the last line that assigns the address its prefix (`vendor_agrees`).
-/
namespace Networkrs

open Machine

def ouiDatabasePaths : List Text :=
  ["/usr/share/ieee-data/oui.txt", "/usr/share/hwdata/oui.txt", "/usr/share/misc/oui.txt"]

def vendorKey (first second third : Nat) : UInt32 := UInt32.ofNat (first <<< 16 ||| second <<< 8 ||| third)

/-- `oui::vendor`. -/
def vendor (address : Text) (vendors : Keyed.Map UInt32 Text) : Option Text :=
  match splitAll ':' address with
  | first :: second :: third :: _ => do
    let first ← parseUnsigned 16 255 first
    let second ← parseUnsigned 16 255 second
    let third ← parseUnsigned 16 255 third
    if first &&& 0x01 ≠ 0 then none
    else if first &&& 0x02 ≠ 0 then some "private/randomized"
    else vendors (vendorKey first second third)
  | _ => none

/-- `oui::parse_line`. -/
def ouiParseLine (line : Text) : Option (UInt32 × Text) := do
  let (octets, vendor) ← splitOnceText "(hex)" line
  match splitAll '-' (trim octets) with
  | first :: second :: third :: rest =>
    let first ← parseUnsigned 16 255 first
    let second ← parseUnsigned 16 255 second
    let third ← parseUnsigned 16 255 third
    if rest ≠ [] then none
    else
      let vendor := trim vendor
      if vendor = [] then none else return (vendorKey first second third, vendor)
  | _ => none

/-- The map of a database. -/
def ouiVendors (contents : Text) : Keyed.Map UInt32 Text := Keyed.collect ((lines contents).filterMap ouiParseLine)

/-- `oui::load`: the map of the first database that can be read. -/
def ouiLoad (system : System) : Keyed.Map UInt32 Text :=
  match ouiDatabasePaths.findSome? (fun path => (system.readToString path).toOption) with
  | none => Keyed.Map.empty
  | some contents => ouiVendors contents

/-! ## Lines -/

/-- A line `XX-YY-ZZ (hex) vendor`, with any whitespace around its prefix and its vendor. -/
def Assigns (first second third : UInt8) (vendor line : Text) : Prop :=
  ∃ left x y z right after : Text, line = left ++ (x ++ '-' :: y ++ '-' :: z) ++ right ++ "(hex)" ++ after ∧
    (∀ c ∈ left, isWhitespace c = true) ∧ (∀ c ∈ right, isWhitespace c = true) ∧
    parseUnsigned 16 255 x = some first.toNat ∧ parseUnsigned 16 255 y = some second.toNat ∧
    parseUnsigned 16 255 z = some third.toNat ∧ vendor = trim after ∧ vendor ≠ []

theorem exists_octet {text : Text} {n : Nat} (h : parseUnsigned 16 255 text = some n) :
    ∃ octet : UInt8, n = octet.toNat := by
  have hle := parseUnsigned_le 16 255 text n h
  exact ⟨UInt8.ofNat n, (UInt8.toNat_ofNat_of_lt' (Nat.lt_succ_of_le hle)).symm⟩

theorem join_dashes (x y z : Text) : join ['-'] [x, y, z] = x ++ '-' :: y ++ '-' :: z := by
  simp [join, List.intercalate]

/-- **The prefix of a line is read as it is written**, whatever the padding around it. -/
theorem ouiParseLine_padded {left x y z right after : Text} {first second third : Nat}
    (hleft : ∀ c ∈ left, isWhitespace c = true) (hright : ∀ c ∈ right, isWhitespace c = true)
    (hx : parseUnsigned 16 255 x = some first) (hy : parseUnsigned 16 255 y = some second)
    (hz : parseUnsigned 16 255 z = some third) :
    ouiParseLine (left ++ (x ++ '-' :: y ++ '-' :: z) ++ right ++ "(hex)" ++ after) =
      if trim after = [] then none else some (vendorKey first second third, trim after) := by
  have htokens : ∀ c ∈ x ++ '-' :: y ++ '-' :: z, isWhitespace c = false ∧ c ≠ '(' := by
    intro c hc
    have hdash : isWhitespace '-' = false ∧ '-' ≠ '(' := by decide
    have hnumber : ∀ {text : Text} {n : Nat}, parseUnsigned 16 255 text = some n → c ∈ text →
        isWhitespace c = false ∧ c ≠ '(' := fun h hmem => ⟨(of_mem_number h c hmem).1, (of_mem_number h c hmem).2.2.1⟩
    simp only [List.mem_append, List.mem_cons] at hc
    rcases hc with (hc | rfl | hc) | rfl | hc
    · exact hnumber hx hc
    · exact hdash
    · exact hnumber hy hc
    · exact hdash
    · exact hnumber hz hc
  have hspace : ∀ c : Char, isWhitespace c = true → c ≠ '(' := by
    rintro c hc rfl
    cases hc
  have hoctets : '(' ∉ left ++ (x ++ '-' :: y ++ '-' :: z) ++ right := by
    intro hmem
    rcases List.mem_append.1 hmem with hmem | hmem
    · rcases List.mem_append.1 hmem with hmem | hmem
      · exact hspace _ (hleft _ hmem) rfl
      · exact (htokens _ hmem).2 rfl
    · exact hspace _ (hright _ hmem) rfl
  have hsplit : splitOnceText "(hex)" (left ++ (x ++ '-' :: y ++ '-' :: z) ++ right ++ "(hex)" ++ after) =
      some (left ++ (x ++ '-' :: y ++ '-' :: z) ++ right, after) := splitOnceText_append after hoctets
  have htrim := trim_padded hleft hright (fun c hc => (htokens c hc).1)
  have hparts : splitAll '-' (x ++ '-' :: y ++ '-' :: z) = [x, y, z] := by
    rw [← join_dashes]
    refine splitAll_join (List.cons_ne_nil x _) (fun part hpart hmem => ?_)
    have hnumber : ∃ n, parseUnsigned 16 255 part = some n := by
      simp only [List.mem_cons, List.not_mem_nil, or_false] at hpart
      rcases hpart with rfl | rfl | rfl
      · exact ⟨_, hx⟩
      · exact ⟨_, hy⟩
      · exact ⟨_, hz⟩
    obtain ⟨n, hn⟩ := hnumber
    exact (of_mem_number hn _ hmem).2.1 rfl
  unfold ouiParseLine
  simp only [hsplit, Option.bind_eq_bind, Option.bind_some, htrim, hparts, hx, hy, hz]
  simp

/-- **What the parser makes of a line**: a pair exactly where the line assigns one. -/
theorem ouiParseLine_eq_some_iff (line : Text) (key : UInt32) (name : Text) :
    ouiParseLine line = some (key, name) ↔ ∃ first second third : UInt8,
      key = vendorKey first.toNat second.toNat third.toNat ∧ Assigns first second third name line := by
  constructor
  · intro h
    unfold ouiParseLine at h
    obtain ⟨⟨octets, after⟩, hsplit, h⟩ := Option.bind_eq_some_iff.1 h
    dsimp only at h
    split at h
    · next x y z rest hoctets =>
      obtain ⟨first', hx, h⟩ := Option.bind_eq_some_iff.1 h
      obtain ⟨second', hy, h⟩ := Option.bind_eq_some_iff.1 h
      obtain ⟨third', hz, h⟩ := Option.bind_eq_some_iff.1 h
      obtain ⟨first, rfl⟩ := exists_octet hx
      obtain ⟨second, rfl⟩ := exists_octet hy
      obtain ⟨third, rfl⟩ := exists_octet hz
      split at h
      · cases h
      · next hrest =>
        split at h
        · cases h
        · next hname =>
          cases h
          obtain ⟨left, right, hleft, hright, hpadded⟩ := exists_padding octets
          have hjoin := join_splitAll '-' (trim octets)
          rw [hoctets, not_not.1 hrest, join_dashes] at hjoin
          refine ⟨first, second, third, rfl, left, x, y, z, right, after, ?_, hleft, hright, hx, hy, hz, rfl, hname⟩
          rw [hjoin, ← hpadded]
          exact eq_append_of_splitOnceText hsplit
    · cases h
  · rintro ⟨first, second, third, rfl, left, x, y, z, right, after, rfl, hleft, hright, hx, hy, hz, rfl, hname⟩
    rw [ouiParseLine_padded hleft hright hx hy hz, if_neg hname]

/-! ## The key -/

/-- The key holds the three octets side by side. -/
theorem toNat_vendorKey {first second third : Nat} (hfirst : first < 256) (hsecond : second < 256)
    (hthird : third < 256) :
    (vendorKey first second third).toNat = (first * 256 + second) * 256 + third := by
  have hlow : second <<< 8 ||| third = second * 256 + third := by
    rw [← Nat.shiftLeft_add_eq_or_of_lt hthird, Nat.shiftLeft_eq]
  have hall : first <<< 16 ||| (second * 256 + third) = first * 65536 + (second * 256 + third) := by
    rw [← Nat.shiftLeft_add_eq_or_of_lt (by omega), Nat.shiftLeft_eq]
  have hkey : first <<< 16 ||| second <<< 8 ||| third = (first * 256 + second) * 256 + third := by
    rw [Nat.or_assoc, hlow, hall]
    omega
  unfold vendorKey
  rw [hkey]
  exact UInt32.toNat_ofNat_of_lt' (by rw [UInt32.size]; omega)

/-- **The key tells the octets apart.** -/
theorem vendorKey_inj {first second third first' second' third' : UInt8} :
    vendorKey first.toNat second.toNat third.toNat = vendorKey first'.toNat second'.toNat third'.toNat ↔
      first = first' ∧ second = second' ∧ third = third' := by
  have hbyte : ∀ byte : UInt8, byte.toNat < 256 := fun byte => byte.toNat_lt
  rw [← UInt32.toNat_inj, toNat_vendorKey (hbyte _) (hbyte _) (hbyte _), toNat_vendorKey (hbyte _) (hbyte _) (hbyte _),
    ← UInt8.toNat_inj, ← UInt8.toNat_inj, ← UInt8.toNat_inj]
  have := hbyte second
  have := hbyte second'
  have := hbyte third
  have := hbyte third'
  omega

/-! ## The lookup -/

/-- **A printed address is read back**: its first byte decides, or the entry of its first three. -/
theorem vendor_formatLinkAddress (first second third : UInt8) (rest : Bytes) (vendors : Keyed.Map UInt32 Text) :
    vendor (formatLinkAddress (first :: second :: third :: rest)) vendors =
      if first &&& 0x01 ≠ 0 then none
      else if first &&& 0x02 ≠ 0 then some ("private/randomized" : Text)
      else vendors (vendorKey first.toNat second.toNat third.toNat) := by
  have hbit : ∀ mask : UInt8, first.toNat &&& mask.toNat = 0 ↔ first &&& mask = 0 := fun mask => by
    rw [← UInt8.toNat_and, ← UInt8.toNat_inj]
    rfl
  have hgroup : first.toNat &&& 0x01 = 0 ↔ first &&& 0x01 = 0 := hbit 0x01
  have hlocal : first.toNat &&& 0x02 = 0 ↔ first &&& 0x02 = 0 := hbit 0x02
  have hcolon : ∀ part ∈ (first :: second :: third :: rest).map hex02, ':' ∉ part := by
    intro part hpart hmem
    obtain ⟨byte, -, rfl⟩ := List.mem_map.1 hpart
    exact (of_mem_number (parseUnsigned_hex02 byte) _ hmem).2.2.2 rfl
  have hsplit : splitAll ':' (formatLinkAddress (first :: second :: third :: rest)) =
      (first :: second :: third :: rest).map hex02 := splitAll_join (List.cons_ne_nil _ _) hcolon
  unfold vendor
  simp only [hsplit, List.map_cons, parseUnsigned_hex02, Option.bind_eq_bind, Option.bind_some, ne_eq, hgroup, hlocal]

/-- A line that assigns some prefix. -/
def IsAssignment (line : Text) : Prop := ∃ first second third name, Assigns first second third name line

theorem isAssignment_iff (line : Text) : (ouiParseLine line).isSome ↔ IsAssignment line := by
  rw [Option.isSome_iff_exists]
  constructor
  · rintro ⟨⟨key, name⟩, h⟩
    obtain ⟨first, second, third, -, hassigns⟩ := (ouiParseLine_eq_some_iff line key name).1 h
    exact ⟨first, second, third, name, hassigns⟩
  · rintro ⟨first, second, third, name, hassigns⟩
    exact ⟨_, (ouiParseLine_eq_some_iff line _ name).2 ⟨first, second, third, rfl, hassigns⟩⟩

instance : DecidablePred IsAssignment := fun line => decidable_of_iff _ (isAssignment_iff line)

/-- **Lines of another form have no effect.** -/
theorem ouiVendors_eq_of_assignments {contents contents' : Text}
    (h : (lines contents).filter IsAssignment = (lines contents').filter IsAssignment) :
    ouiVendors contents = ouiVendors contents' := by
  have hread : ∀ l : List Text, l.filterMap ouiParseLine = (l.filter IsAssignment).filterMap ouiParseLine := by
    intro l
    rw [List.filterMap_filter]
    refine List.filterMap_congr (fun line _ => ?_)
    by_cases hline : IsAssignment line
    · rw [if_pos (decide_eq_true hline)]
    · rw [if_neg (by simpa using hline), ← Option.not_isSome_iff_eq_none, isAssignment_iff]
      exact hline
  unfold ouiVendors
  rw [hread (lines contents), hread (lines contents'), h]

section
variable (first second third : UInt8)

/-- The last of some lines that assigns the prefix, and the vendor it assigns. -/
def LastAssigns (name : Text) (texts : List Text) : Prop :=
  ∃ before line after, texts = before ++ line :: after ∧ Assigns first second third name line ∧
    ∀ later ∈ after, ∀ other, ¬ Assigns first second third other later

/-- A line has the key of the prefix exactly when it assigns it. -/
theorem ouiParseLine_key (name line : Text) :
    ouiParseLine line = some (vendorKey first.toNat second.toNat third.toNat, name) ↔
      Assigns first second third name line := by
  rw [ouiParseLine_eq_some_iff]
  constructor
  · rintro ⟨first', second', third', hkey, hassigns⟩
    obtain ⟨rfl, rfl, rfl⟩ := vendorKey_inj.1 hkey
    exact hassigns
  · intro hassigns
    exact ⟨first, second, third, rfl, hassigns⟩

/-- **The entry of a prefix** is the vendor of the last line that assigns it. -/
theorem ouiVendors_eq_some_iff (name contents : Text) :
    ouiVendors contents (vendorKey first.toNat second.toNat third.toNat) = some name ↔
      LastAssigns first second third name (lines contents) := by
  unfold ouiVendors LastAssigns
  rw [Keyed.collect_filterMap_eq_some_iff]
  simp only [ne_eq, ouiParseLine_key]

theorem ouiVendors_eq_none_iff (contents : Text) :
    ouiVendors contents (vendorKey first.toNat second.toNat third.toNat) = none ↔
      ∀ line ∈ lines contents, ∀ name, ¬ Assigns first second third name line := by
  unfold ouiVendors
  rw [Keyed.collect_filterMap_eq_none_iff]
  simp only [ne_eq, ouiParseLine_key]

/-- **The vendor of a printed address**: none for a group address, no vendor's for a locally administered one, and
otherwise that of the last line that assigns its prefix.  Lines of another form have no effect. -/
theorem vendor_agrees (rest : Bytes) (contents : Text) :
    (first &&& 0x01 ≠ 0 →
      vendor (formatLinkAddress (first :: second :: third :: rest)) (ouiVendors contents) = none) ∧
    (first &&& 0x01 = 0 → first &&& 0x02 ≠ 0 →
      vendor (formatLinkAddress (first :: second :: third :: rest)) (ouiVendors contents) =
        some ("private/randomized" : Text)) ∧
    (first &&& 0x01 = 0 → first &&& 0x02 = 0 →
      (∀ name, vendor (formatLinkAddress (first :: second :: third :: rest)) (ouiVendors contents) = some name ↔
        LastAssigns first second third name (lines contents)) ∧
      (vendor (formatLinkAddress (first :: second :: third :: rest)) (ouiVendors contents) = none ↔
        ∀ line ∈ lines contents, ∀ name, ¬ Assigns first second third name line)) ∧
    ∀ contents', (lines contents').filter IsAssignment = (lines contents).filter IsAssignment →
      ouiVendors contents' = ouiVendors contents := by
  rw [vendor_formatLinkAddress]
  refine ⟨fun hgroup => ?_, fun hgroup hlocal => ?_, fun hgroup hlocal => ?_, fun contents' h => ?_⟩
  · exact if_pos hgroup
  · rw [if_neg (not_not.2 hgroup), if_pos hlocal]
  · rw [if_neg (not_not.2 hgroup), if_neg (not_not.2 hlocal)]
    exact ⟨fun name => ouiVendors_eq_some_iff first second third name contents,
      ouiVendors_eq_none_iff first second third contents⟩
  · exact ouiVendors_eq_of_assignments h

end

end Networkrs
