import Networkrs.Text
/-!
# Address — IP addresses and socket addresses

`std::net` addresses: an IPv4 address is its 32 bits in host order, an IPv6 address its sixteen octets.
-/
namespace Networkrs

open Machine

structure Ipv4Addr where
  bits : UInt32
  deriving DecidableEq, Repr

/-- `Ipv4Addr::new`: the first octet is the most significant. -/
def Ipv4Addr.new (a b c d : UInt8) : Ipv4Addr :=
  ⟨UInt32.ofNat (((a.toNat * 256 + b.toNat) * 256 + c.toNat) * 256 + d.toNat)⟩

def Ipv4Addr.octets (address : Ipv4Addr) : List UInt8 :=
  let n := address.bits.toNat
  [UInt8.ofNat (n / 2 ^ 24), UInt8.ofNat (n / 2 ^ 16), UInt8.ofNat (n / 2 ^ 8), UInt8.ofNat n]

structure Ipv6Addr where
  octets : List UInt8
  length_octets : octets.length = 16
  deriving DecidableEq, Repr

inductive IpAddr where
  | v4 (address : Ipv4Addr)
  | v6 (address : Ipv6Addr)
  deriving DecidableEq, Repr

inductive SocketAddr where
  | v4 (ip : Ipv4Addr) (port : UInt16)
  | v6 (ip : Ipv6Addr) (port : UInt16) (flowinfo scopeId : UInt32)
  deriving DecidableEq, Repr

def Ipv4Addr.unspecified : Ipv4Addr := ⟨0⟩

def Ipv6Addr.unspecified : Ipv6Addr := ⟨List.replicate 16 0, rfl⟩

def IpAddr.isUnspecified : IpAddr → Bool
  | .v4 address => address = Ipv4Addr.unspecified
  | .v6 address => address = Ipv6Addr.unspecified

def SocketAddr.ip : SocketAddr → IpAddr
  | .v4 ip _ => .v4 ip
  | .v6 ip _ _ _ => .v6 ip

def SocketAddr.port : SocketAddr → UInt16
  | .v4 _ port => port
  | .v6 _ port _ _ => port

def SocketAddr.new : IpAddr → UInt16 → SocketAddr
  | .v4 ip, port => .v4 ip port
  | .v6 ip, port => .v6 ip port 0 0

def IpAddr.octets : IpAddr → List UInt8
  | .v4 address => address.octets
  | .v6 address => address.octets

/-! ## `Display` -/

def Ipv4Addr.display (address : Ipv4Addr) : Text :=
  join "." (address.octets.map (fun octet => decimal octet.toNat))

def segments : List UInt8 → List Nat
  | high :: low :: rest => (high.toNat * 256 + low.toNat) :: segments rest
  | _ => []

/-- The first longest run of zero segments, as its start and length. -/
def longestZeros : List Nat → Nat → Nat × Nat → Nat × Nat → Nat × Nat
  | [], _, _, longest => longest
  | s :: rest, i, current, longest =>
    if s = 0 then
      let current := if current.2 = 0 then (i, 1) else (current.1, current.2 + 1)
      longestZeros rest (i + 1) current (if longest.2 < current.2 then current else longest)
    else longestZeros rest (i + 1) (0, 0) longest

def Ipv6Addr.display (address : Ipv6Addr) : Text :=
  if address.octets.take 12 = List.replicate 10 0 ++ [0xff, 0xff] then
    "::ffff:" ++ join "." ((address.octets.drop 12).map (fun octet => decimal octet.toNat))
  else
    let all := segments address.octets
    let zeros := longestZeros all 0 (0, 0) (0, 0)
    if 1 < zeros.2 then
      join ":" ((all.take zeros.1).map hex) ++ "::" ++ join ":" ((all.drop (zeros.1 + zeros.2)).map hex)
    else join ":" (all.map hex)

def IpAddr.display : IpAddr → Text
  | .v4 address => address.display
  | .v6 address => address.display

def SocketAddr.display : SocketAddr → Text
  | .v4 ip port => ip.display ++ ":" ++ decimal port.toNat
  | .v6 ip port _ scopeId =>
    if scopeId = 0 then "[" ++ ip.display ++ "]:" ++ decimal port.toNat
    else "[" ++ ip.display ++ "%" ++ decimal scopeId.toNat ++ "]:" ++ decimal port.toNat

/-! ## `Ipv4Addr::from_str` -/

/-- One octet: one to three digits, no leading zero, at most 255. -/
def parseOctet (text : Text) : Option UInt8 :=
  if text.length = 0 ∨ 3 < text.length then none
  else if text.head? = some '0' ∧ 1 < text.length then none
  else (parseDigits 10 255 text 0).map UInt8.ofNat

def Ipv4Addr.parse (text : Text) : Option Ipv4Addr :=
  match splitAll '.' text with
  | [a, b, c, d] => do
    let a ← parseOctet a
    let b ← parseOctet b
    let c ← parseOctet c
    let d ← parseOctet d
    return Ipv4Addr.new a b c d
  | _ => none

/-! ## `IpAddr::from_str`

The parsers of `std::net` read an address off the front of a text and return what is left. -/

/-- The digits at the front of a text, at most `maxDigits` of them and no more than `max` in value. -/
def readNumber (radix maxDigits max : Nat) (allowZeroPrefix : Bool) (text : Text) : Option (Nat × Text) :=
  let digits := text.takeWhile (fun c => (toDigit radix c).isSome)
  if digits.isEmpty ∨ maxDigits < digits.length then none
  else if !allowZeroPrefix ∧ digits.head? = some '0' ∧ 1 < digits.length then none
  else (parseDigits radix max digits 0).map (fun n => (n, text.drop digits.length))

def readGivenChar (expected : Char) : Text → Option Text
  | [] => none
  | c :: rest => if c = expected then some rest else none

/-- A value, behind a separator unless it is the first. -/
def readSeparator {α : Type} (separator : Char) (index : Nat) (read : Text → Option (α × Text)) (text : Text) :
    Option (α × Text) :=
  if index = 0 then read text else (readGivenChar separator text).bind read

def readOctet : Text → Option (Nat × Text) := readNumber 10 3 255 false

def readIpv4 (text : Text) : Option (Ipv4Addr × Text) := do
  let (a, rest) ← readSeparator '.' 0 readOctet text
  let (b, rest) ← readSeparator '.' 1 readOctet rest
  let (c, rest) ← readSeparator '.' 2 readOctet rest
  let (d, rest) ← readSeparator '.' 3 readOctet rest
  return (Ipv4Addr.new (UInt8.ofNat a) (UInt8.ofNat b) (UInt8.ofNat c) (UInt8.ofNat d), rest)

/-- `read_groups`: up to `limit` groups from the one at `index` on, an IPv4 address counting as the last two; whether
there was one; and what is left. -/
def readGroups (limit index : Nat) (text : Text) : List Nat × Bool × Text :=
  if _h : limit ≤ index then ([], false, text)
  else
    match if index < limit - 1 then readSeparator ':' index readIpv4 text else none with
    | some (ipv4, rest) => (segments ipv4.octets, true, rest)
    | none =>
      match readSeparator ':' index (readNumber 16 4 (2 ^ 16 - 1) true) text with
      | none => ([], false, text)
      | some (group, rest) =>
        let (groups, ipv4, rest) := readGroups limit (index + 1) rest
        (group :: groups, ipv4, rest)
termination_by limit - index

/-- Eight groups as an address. -/
def Ipv6Addr.ofGroups (groups : List Nat) : Ipv6Addr :=
  let padded := (groups ++ List.replicate 8 0).take 8
  ⟨padded.flatMap (fun group => [UInt8.ofNat (group / 256), UInt8.ofNat group]), by
    have h : padded.length = 8 := by simp [padded]
    simp [List.length_flatMap, List.map_const', h]⟩

def readIpv6 (text : Text) : Option (Ipv6Addr × Text) :=
  let (head, headIpv4, rest) := readGroups 8 0 text
  if head.length = 8 then some (Ipv6Addr.ofGroups head, rest)
  else if headIpv4 then none
  else do
    -- `::` stands for at least one group of zeroes
    let rest ← readGivenChar ':' rest
    let rest ← readGivenChar ':' rest
    let (tail, _, rest) := readGroups (8 - (head.length + 1)) 0 rest
    return (Ipv6Addr.ofGroups (head ++ List.replicate (8 - tail.length - head.length) 0 ++ tail), rest)

def IpAddr.parse (text : Text) : Option IpAddr :=
  match readIpv4 text with
  | some (address, rest) => if rest = [] then some (.v4 address) else none
  | none =>
    match readIpv6 text with
    | some (address, rest) => if rest = [] then some (.v6 address) else none
    | none => none

@[simp] theorem Ipv4Addr.length_octets (address : Ipv4Addr) : address.octets.length = 4 := rfl

/-- The octets of an IPv4 address are its bits in network order. -/
theorem Ipv4Addr.read_octets (address : Ipv4Addr) : ByteOrder.big.read address.octets = address.bits.toNat := by
  have hlt := address.bits.toNat_lt
  simp only [ByteOrder.read, Ipv4Addr.octets, List.reverse_cons, List.reverse_nil, List.nil_append,
    List.cons_append, leValue_cons, UInt8.toNat_ofNat']
  simp only [leValue, List.map_nil, Nat.ofDigits_nil]
  omega

example : Ipv4Addr.parse "192.168.1.5" = some (Ipv4Addr.new 192 168 1 5) := by decide
example : (Ipv6Addr.mk [0xfe, 0x80, 0, 0, 0, 0, 0, 0, 0, 0, 0, 0, 0, 0, 0x12, 0x34] rfl).display = "fe80::1234" := by
  decide +kernel

example : IpAddr.parse "10.0.0.1" = some (.v4 (Ipv4Addr.new 10 0 0 1)) := by decide +kernel
example : (IpAddr.parse "fe80::1:192.168.0.1").map IpAddr.display = some "fe80::1:c0a8:1" := by decide +kernel
example : IpAddr.parse "1::2::3" = none ∧ IpAddr.parse "01.0.0.1" = none := by decide +kernel

end Networkrs
