import Networkrs.AddressText
import Networkrs.SocketTable
import Networkrs.System
/-!
# Inet6Table — the IPv6 addresses of procfs

`/proc/net/if_inet6` has a line for each IPv6 address of the kernel: its 32 hexadecimal digits, the index of its
interface, its prefix, scope and flags in two digits or more, and the name of the interface.  `ipv6_addresses` of
`main.rs` reads every line back (`ipv6Addresses_of_prints`).
-/
namespace Networkrs

open Machine

def procNetIfInet6 : Text := "/proc/net/if_inet6"

/-- `Ipv6Addr::from` of an integer. -/
def Ipv6Addr.ofNat (n : Nat) : Ipv6Addr := ⟨ByteOrder.big.write 16 n, ByteOrder.length_write _ _ _⟩

def parseIpv6Hex (value : Text) : Option Ipv6Addr :=
  if (utf8Bytes value).length ≠ 32 then none
  else (parseUnsigned 16 (2 ^ 128 - 1) value).map Ipv6Addr.ofNat

structure Ipv6Address where
  interface : Text
  address : Ipv6Addr
  prefixLength : UInt8
  scope : UInt8
  deriving DecidableEq, Repr

/-- The closure of `ipv6_addresses` over a line. -/
def parseInet6Line (line : Text) : Option Ipv6Address := do
  let fields := splitWhitespace line
  let address ← parseIpv6Hex (← fields[0]?)
  let prefixLength ← parseUnsigned 16 (2 ^ 8 - 1) (← fields[2]?)
  let scope ← parseUnsigned 16 (2 ^ 8 - 1) (← fields[3]?)
  let interface ← fields[5]?
  return ⟨interface, address, UInt8.ofNat prefixLength, UInt8.ofNat scope⟩

def ipv6Addresses (system : System) : List Ipv6Address :=
  match system.readToString procNetIfInet6 with
  | .error _ => []
  | .ok contents => (lines contents).filterMap parseInet6Line

def ipv6Scope (scope : UInt8) : Text :=
  if scope = 0x00 then "global"
  else if scope = 0x10 then "host"
  else if scope = 0x20 then "link"
  else if scope = 0x40 then "site"
  else "unknown scope"

/-! ## Bytes in hexadecimal -/

theorem hex02_eq (byte : UInt8) :
    hex02 byte = [Nat.digitChar (byte.toNat / 16), Nat.digitChar (byte.toNat % 16)] := by
  have hlt := byte.toNat_lt
  unfold hex02 hex
  split
  · next hsmall =>
    have hn : byte.toNat < 16 := UInt8.lt_iff_toNat_lt.1 hsmall
    rw [Nat.toDigits_of_lt_base hn, Nat.div_eq_of_lt hn, Nat.mod_eq_of_lt hn]
    rfl
  · next hlarge =>
    have hn : 16 ≤ byte.toNat := Nat.le_of_not_lt (fun h => hlarge (UInt8.lt_iff_toNat_lt.2 h))
    rw [Nat.toDigits_eq_if (by decide), if_neg (by omega), Nat.toDigits_of_lt_base (by omega)]
    rfl

theorem parseDigits_hex02 {max value : Nat} (byte : UInt8) (rest : Text) (h : value * 256 + byte.toNat ≤ max) :
    parseDigits 16 max (hex02 byte ++ rest) value = parseDigits 16 max rest (value * 256 + byte.toNat) := by
  have hlt := byte.toNat_lt
  have hhigh := toDigit_digitChar 16 (by decide) (byte.toNat / 16) (by omega)
  have hlow := toDigit_digitChar 16 (by decide) (byte.toNat % 16) (by omega)
  have hsum : (value * 16 + byte.toNat / 16) * 16 + byte.toNat % 16 = value * 256 + byte.toNat := by omega
  rw [hex02_eq, List.cons_append, List.cons_append, List.nil_append, parseDigits, hhigh]
  dsimp only
  rw [if_pos (by omega), parseDigits, hlow]
  dsimp only
  rw [hsum, if_pos h]

/-- **Digits of bytes are parsed as the number of the bytes**, the first one greatest. -/
theorem parseDigits_flatMap_hex02 {max : Nat} (rest : Text) : ∀ (bytes : List UInt8) (value : Nat),
    value * 256 ^ bytes.length + ByteOrder.big.read bytes ≤ max →
    parseDigits 16 max (bytes.flatMap hex02 ++ rest) value =
      parseDigits 16 max rest (value * 256 ^ bytes.length + ByteOrder.big.read bytes)
  | [], value, _ => by
    rw [List.flatMap_nil, List.nil_append, List.length_nil, Nat.pow_zero, Nat.mul_one]
    rfl
  | byte :: bytes, value, h => by
    have hvalue : value * 256 ^ (byte :: bytes).length + ByteOrder.big.read (byte :: bytes) =
        (value * 256 + byte.toNat) * 256 ^ bytes.length + ByteOrder.big.read bytes := by
      rw [ByteOrder.read_big_cons, List.length_cons, Nat.pow_succ', ← Nat.mul_assoc, ← Nat.add_assoc, ← Nat.add_mul]
    rw [hvalue] at h ⊢
    have hfirst : value * 256 + byte.toNat ≤ max :=
      le_trans (Nat.le_mul_of_pos_right _ (Nat.pow_pos (by decide))) (le_trans (Nat.le_add_right _ _) h)
    rw [List.flatMap_cons, List.append_assoc, parseDigits_hex02 byte _ hfirst]
    exact parseDigits_flatMap_hex02 rest bytes _ h

theorem of_mem_flatMap_hex02 {bytes : List UInt8} {p : Char → Prop} (hp : ∀ digit < 16, p (Nat.digitChar digit))
    {c : Char} (hc : c ∈ bytes.flatMap hex02) : p c := by
  obtain ⟨byte, -, hc⟩ := List.mem_flatMap.1 hc
  have hlt := byte.toNat_lt
  rw [hex02_eq] at hc
  simp only [List.mem_cons, List.not_mem_nil, or_false] at hc
  rcases hc with rfl | rfl
  · exact hp _ (by omega)
  · exact hp _ (by omega)

theorem length_flatMap_hex02 (bytes : List UInt8) : (bytes.flatMap hex02).length = 2 * bytes.length := by
  rw [List.length_flatMap]
  simp [hex02_eq, Nat.mul_comm]

theorem isField_flatMap_hex02 {bytes : List UInt8} (hne : bytes ≠ []) : IsField (bytes.flatMap hex02) := by
  refine ⟨fun hnil => hne (List.length_eq_zero_iff.1 ?_), fun c hc => ?_⟩
  · have hlength := length_flatMap_hex02 bytes
    rw [hnil, List.length_nil] at hlength
    omega
  · exact @of_mem_flatMap_hex02 bytes (fun c => isWhitespace c = false) (by decide) c hc

theorem isField_hex02 (byte : UInt8) : IsField (hex02 byte) := by
  have hfield := isField_flatMap_hex02 (List.cons_ne_nil byte [])
  rwa [List.flatMap_singleton] at hfield

/-- **An address is parsed back** from its digits. -/
theorem parseIpv6Hex_octets (address : Ipv6Addr) : parseIpv6Hex (address.octets.flatMap hex02) = some address := by
  have hlength : (utf8Bytes (address.octets.flatMap hex02)).length = 32 := by
    rw [length_utf8Bytes, length_flatMap_hex02, address.length_octets]
    exact fun c hc => @of_mem_flatMap_hex02 _ (fun c => c.utf8Size = 1) (by decide) c hc
  have hlt := ByteOrder.big.read_lt address.length_octets
  have hparse : parseUnsigned 16 (2 ^ 128 - 1) (address.octets.flatMap hex02) =
      some (ByteOrder.big.read address.octets) := by
    have hdigits := @parseDigits_flatMap_hex02 (2 ^ 128 - 1) [] address.octets 0 (by omega)
    rw [List.append_nil, Nat.zero_mul, Nat.zero_add] at hdigits
    obtain ⟨c, cs, htext⟩ := List.exists_cons_of_ne_nil
      (isField_flatMap_hex02 (List.ne_nil_of_length_pos (by rw [address.length_octets]; decide))).1
    have hsign : c ≠ '+' ∧ c ≠ '-' := @of_mem_flatMap_hex02 address.octets (fun c => c ≠ '+' ∧ c ≠ '-') (by decide) c
      (by rw [htext]; exact List.mem_cons_self)
    rw [htext] at hdigits ⊢
    unfold parseUnsigned
    dsimp only
    rw [if_neg (fun h => h.1.elim hsign.1 hsign.2), if_neg hsign.1]
    exact hdigits
  have haddress : Ipv6Addr.ofNat (ByteOrder.big.read address.octets) = address := by
    cases address with
    | mk octets hoctets =>
      rw [Ipv6Addr.ofNat, Ipv6Addr.mk.injEq]
      exact ByteOrder.big.write_read hoctets
  rw [parseIpv6Hex, if_neg (not_not.2 hlength), hparse, Option.map_some, haddress]

/-! ## The table -/

/-- An address of the kernel, with the name of its interface in one field. -/
structure KernelInet6 where
  address : Ipv6Addr
  interfaceIndex : UInt32
  prefixLength : UInt8
  scope : UInt8
  flags : UInt8
  interface : Text
  isField_interface : IsField interface

/-- `%02x`. -/
def hexPadded (n : Nat) : Text := if n < 16 then '0' :: hex n else hex n

def KernelInet6.fields (address : KernelInet6) : List Text :=
  [address.address.octets.flatMap hex02, hexPadded address.interfaceIndex.toNat, hex02 address.prefixLength,
    hex02 address.scope, hex02 address.flags, address.interface]

def KernelInet6.record (address : KernelInet6) : Ipv6Address :=
  ⟨address.interface, address.address, address.prefixLength, address.scope⟩

/-- **A line that the kernel prints for an address**: its fields in columns. -/
def IsInet6Row (address : KernelInet6) (line : Text) : Prop :=
  ∃ columns trailing, line = layOut columns trailing ∧ columns.map Prod.snd = address.fields ∧
    (∀ column ∈ columns, IsPadding column.1) ∧ (∀ column ∈ columns.tail, column.1 ≠ []) ∧ IsPadding trailing

theorem isField_hexPadded (n : Nat) : IsField (hexPadded n) := by
  have hdigits : ∀ c ∈ hex n, isWhitespace c = false := fun c hc =>
    @of_mem_toDigits 16 (by decide) (by decide) (fun c => isWhitespace c = false) (by decide) n c hc
  unfold hexPadded
  split
  · exact ⟨List.cons_ne_nil _ _, List.forall_mem_cons.2 ⟨by decide, hdigits⟩⟩
  · exact ⟨Nat.toDigits_ne_nil, hdigits⟩

theorem KernelInet6.isField (address : KernelInet6) : ∀ field ∈ address.fields, IsField field := by
  have hne : address.address.octets ≠ [] :=
    List.ne_nil_of_length_pos (by rw [address.address.length_octets]; decide)
  intro field hfield
  unfold KernelInet6.fields at hfield
  simp only [List.mem_cons, List.not_mem_nil, or_false] at hfield
  rcases hfield with rfl | rfl | rfl | rfl | rfl | rfl
  · exact isField_flatMap_hex02 hne
  · exact isField_hexPadded _
  · exact isField_hex02 _
  · exact isField_hex02 _
  · exact isField_hex02 _
  · exact address.isField_interface

/-- **A line is parsed as its address.** -/
theorem parseInet6Line_of_isRow {address : KernelInet6} {line : Text} (h : IsInet6Row address line) :
    parseInet6Line (withoutReturn line) = some address.record := by
  obtain ⟨columns, trailing, rfl, hfields, hpadding, hseparated, htrailing⟩ := h
  have hfield : ∀ column ∈ columns, IsField column.2 := by
    intro column hcolumn
    refine address.isField column.2 ?_
    rw [← hfields]
    exact List.mem_map_of_mem hcolumn
  have hprefix : parseUnsigned 16 (2 ^ 8 - 1) (hex02 address.prefixLength) = some address.prefixLength.toNat :=
    parseUnsigned_hex02 address.prefixLength
  have hscope : parseUnsigned 16 (2 ^ 8 - 1) (hex02 address.scope) = some address.scope.toNat :=
    parseUnsigned_hex02 address.scope
  unfold parseInet6Line
  rw [splitWhitespace_withoutReturn, splitWhitespace_layOut hpadding hseparated hfield htrailing, hfields]
  simp only [KernelInet6.fields, List.getElem?_cons_zero, List.getElem?_cons_succ, Option.bind_eq_bind,
    Option.bind_some, parseIpv6Hex_octets, hprefix, hscope, UInt8.ofNat_toNat, pure]
  rfl

/-- **What the kernel prints of its addresses**, with any lines between them that are not parsed; a kernel without IPv6
has no table. -/
def PrintsInet6 (file : Except IoError Text) (addresses : List KernelInet6) : Prop :=
  (addresses = [] ∧ ∃ e, file = .error e) ∨
    ∃ mixed, (∀ line ∈ mixed, '\n' ∉ line) ∧ file = .ok (unlines mixed) ∧
      List.Forall₂ IsInet6Row addresses (mixed.filter (fun line => (parseInet6Line (withoutReturn line)).isSome))

/-- **The addresses of the kernel are read back**, in their order. -/
theorem ipv6Addresses_of_prints {system : System} {addresses : List KernelInet6}
    (h : PrintsInet6 (system.readToString procNetIfInet6) addresses) :
    ipv6Addresses system = addresses.map KernelInet6.record := by
  unfold ipv6Addresses
  rcases h with ⟨rfl, e, hfile⟩ | ⟨mixed, hmixed, hfile, hrows⟩
  · rw [hfile]
    rfl
  · have hparsed : (mixed.filter (fun line => (parseInet6Line (withoutReturn line)).isSome)).filterMap
        (fun line => parseInet6Line (withoutReturn line)) = addresses.filterMap (fun a => some a.record) :=
      Collect.filterMap_forall₂ hrows (fun _ _ hrow => parseInet6Line_of_isRow hrow)
    rw [List.filterMap_eq_map', List.filterMap_filter] at hparsed
    rw [hfile]
    dsimp only
    rw [lines_unlines hmixed, List.filterMap_map, ← hparsed]
    apply List.filterMap_congr
    intro line _
    show parseInet6Line (withoutReturn line) = _
    cases parseInet6Line (withoutReturn line) <;> rfl

end Networkrs
