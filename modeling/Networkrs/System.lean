import Networkrs.Lib.Keyed
import Networkrs.Records
/-!
# System — what the command line reads from the machine

The files of sysfs and procfs that `main.rs` reads, the addresses it asks the kernel for, and what it makes of them: the
kind and state of an interface, the names of all, and the default route of `/proc/net/route`.
`line_of_parseDefaultIpv4Route` says which route that is when several compete.
-/
namespace Networkrs

open Machine

def sysClassNet : Text := "/sys/class/net"

def procNetRoute : Text := "/proc/net/route"

def resolvConf : Text := "/etc/resolv.conf"

inductive AddressRequest where
  | siocgifaddr
  | siocgifnetmask
  deriving DecidableEq, Repr

/-- What the calls on a machine return: reading a file, whether one exists, the file names of a directory that are
UTF-8, binding a UDP socket, and the two requests for an interface address. -/
structure System where
  readToString : Text → Except IoError Text
  exists_ : Text → Bool
  readDir : Text → Except IoError (List Text)
  bind : Except IoError Unit
  ioctl : Text → AddressRequest → Option Ipv4Addr

/-- `Path::join`: an absolute path replaces the one before it. -/
def pathJoin (path name : Text) : Text :=
  if name.head? = some '/' then name
  else if path.getLast? = some '/' then path ++ name
  else path ++ '/' :: name

variable (system : System)

def readTrimmed (path : Text) : Option Text :=
  ((system.readToString path).toOption.map trim).filter (fun value => !value.isEmpty)

/-! ## Interfaces -/

def interfaceKind (path : Text) : Option Text :=
  if system.exists_ (pathJoin path "wireless") then some "wireless"
  else
    match readTrimmed system (pathJoin path "type") with
    | none => none
    | some value =>
      if value = "1" then some "ethernet"
      else if value = "772" then some "loopback"
      else some ("ARPHRD " ++ value)

/-- `strip_prefix`, or the text itself. -/
def withoutPrefix (start text : Text) : Text := if start.isPrefixOf text then text.drop start.length else text

def administrativeState (flags : Text) : Option Text :=
  (parseUnsigned 16 (2 ^ 32 - 1) (withoutPrefix "0x" flags)).map
    (fun flags => if UInt32.ofNat flags &&& 0x1 = 0 then "down" else "up")

def interfaceState (path : Text) (kind : Option Text) : Text :=
  let administrative :=
    if kind = some ("loopback" : Text) then (readTrimmed system (pathJoin path "flags")).bind administrativeState
    else none
  match administrative with
  | some state => state
  | none => (readTrimmed system (pathJoin path "operstate")).getD "unknown"

/-- `interface_names`, in the order the directory is read. -/
def interfaceNames : Keyed.Map Int32 Text :=
  match system.readDir sysClassNet with
  | .error _ => Keyed.Map.empty
  | .ok names =>
    Keyed.collect (names.filterMap (fun name => do
      let index ← readTrimmed system (pathJoin (pathJoin sysClassNet name) "ifindex")
      let index ← parseI32 index
      return (index, name)))

/-! ## Interface addresses -/

def countOnes (bits : UInt32) : Nat := (List.range 32).countP (fun i => bits.toNat.testBit i)

theorem countOnes_le (bits : UInt32) : countOnes bits ≤ 32 := by
  have h : countOnes bits ≤ (List.range 32).length := List.countP_le_length
  rwa [List.length_range] at h

/-- A name of sixteen bytes or more does not fit the request. -/
def ioctlIpv4 (interface : Text) (request : AddressRequest) : Option Ipv4Addr :=
  if 16 ≤ (utf8Bytes interface).length then none else system.ioctl interface request

def ipv4Address (interface : Text) : Option (Ipv4Addr × UInt32) := do
  let () ← system.bind.toOption
  let address ← ioctlIpv4 system interface .siocgifaddr
  let mask ← ioctlIpv4 system interface .siocgifnetmask
  return (address, UInt32.ofNat (countOnes mask.bits))

/-! ## The default route -/

structure DefaultIpv4Route where
  interface : Text
  gateway : Ipv4Addr
  metric : UInt32
  deriving DecidableEq, Repr

/-- `Ipv4Addr::from(value.to_le_bytes())`. -/
def parseIpv4Hex (value : Text) : Option Ipv4Addr := do
  let word ← parseUnsigned 16 (2 ^ 32 - 1) value
  return ⟨UInt32.ofNat (ByteOrder.big.read (ByteOrder.little.write 4 word))⟩

/-- A line of the table as a usable default route: no destination, no mask, up, and not a reject route. -/
def parseRouteLine (line : Text) : Option DefaultIpv4Route :=
  match splitWhitespace line with
  | interface :: destination :: gateway :: flags :: _ :: _ :: metric :: mask :: _ =>
    if destination ≠ "00000000" ∨ mask ≠ "00000000" then none
    else do
      let flags ← parseUnsigned 16 (2 ^ 32 - 1) flags
      if UInt32.ofNat flags &&& 0x0001 = 0 ∨ UInt32.ofNat flags &&& 0x0200 ≠ 0 then none
      else
        let gateway ← parseIpv4Hex gateway
        let metric ← parseUnsigned 10 (2 ^ 32 - 1) metric
        return ⟨interface, gateway, UInt32.ofNat metric⟩
  | _ => none

/-- A usable default route is one line of the table, for every destination, up, and not a reject route. -/
def UsableRouteLine (line : Text) (route : DefaultIpv4Route) : Prop :=
  ∃ gateway flags references uses metric rest, ∃ bits : Nat,
    splitWhitespace line = route.interface :: "00000000" :: gateway :: flags :: references :: uses :: metric ::
      "00000000" :: rest ∧
    parseUnsigned 16 (2 ^ 32 - 1) flags = some bits ∧ UInt32.ofNat bits &&& 0x0001 ≠ 0 ∧
    UInt32.ofNat bits &&& 0x0200 = 0 ∧ parseIpv4Hex gateway = some route.gateway ∧
    parseUnsigned 10 (2 ^ 32 - 1) metric = some route.metric.toNat

theorem usable_of_parseRouteLine {line : Text} {route : DefaultIpv4Route} (h : parseRouteLine line = some route) :
    UsableRouteLine line route := by
  unfold parseRouteLine at h
  split at h
  · next interface destination gateway flags references uses metric mask rest hfields =>
    split at h
    · cases h
    · next hdefault =>
      obtain ⟨hdestination, hmask⟩ := not_or.1 hdefault
      obtain ⟨bits, hbits, h⟩ := Option.bind_eq_some_iff.1 h
      split at h
      · cases h
      · next hflags =>
        obtain ⟨hup, hreject⟩ := not_or.1 hflags
        obtain ⟨address, haddress, h⟩ := Option.bind_eq_some_iff.1 h
        obtain ⟨value, hvalue, h⟩ := Option.bind_eq_some_iff.1 h
        cases h
        have hword : (UInt32.ofNat value).toNat = value := by
          have hle := parseUnsigned_le 10 (2 ^ 32 - 1) metric value hvalue
          exact UInt32.toNat_ofNat_of_lt' (show value < 2 ^ 32 by omega)
        refine ⟨gateway, flags, references, uses, metric, rest, bits, ?_, hbits, hup, not_not.1 hreject, haddress, ?_⟩
        · rw [hfields, not_not.1 hdestination, not_not.1 hmask]
        · rw [hvalue, hword]
  · cases h

/-- `min_by_key`: of several with the least key, the first. -/
def minByKey {α : Type} (key : α → Nat) : List α → Option α
  | [] => none
  | x :: xs =>
    match minByKey key xs with
    | none => some x
    | some y => if key x ≤ key y then some x else some y

def parseDefaultIpv4Route (contents : Text) : Option DefaultIpv4Route :=
  minByKey (fun route => route.metric.toNat) (((lines contents).drop 1).filterMap parseRouteLine)

def defaultIpv4Interface : Option Text := do
  let contents ← (system.readToString procNetRoute).toOption
  let route ← parseDefaultIpv4Route contents
  return route.interface

theorem minByKey_eq_none_iff {α : Type} (key : α → Nat) : ∀ (l : List α), minByKey key l = none ↔ l = []
  | [] => iff_of_true rfl rfl
  | x :: xs => by
    rw [minByKey]
    cases minByKey key xs with
    | none => simp
    | some y => dsimp only; split <;> simp

/-- **The first entry with the least key**: those before it have greater keys, those after it none that is less. -/
theorem split_of_minByKey {α : Type} (key : α → Nat) : ∀ (l : List α) (x : α), minByKey key l = some x →
    ∃ pre post, l = pre ++ x :: post ∧ (∀ y ∈ pre, key x < key y) ∧ ∀ y ∈ post, key x ≤ key y
  | [], x, h => by cases h
  | a :: l, x, h => by
    rw [minByKey] at h
    cases hmin : minByKey key l with
    | none =>
      rw [hmin] at h
      obtain rfl := Option.some.inj h
      rw [(minByKey_eq_none_iff key l).1 hmin]
      refine ⟨[], [], rfl, ?_, ?_⟩ <;> exact fun y hy => by cases hy
    | some m =>
      rw [hmin] at h
      obtain ⟨pre, post, rfl, hpre, hpost⟩ := split_of_minByKey key l m hmin
      dsimp only at h
      split at h
      · next hle =>
        obtain rfl := Option.some.inj h
        refine ⟨[], pre ++ m :: post, rfl, ?_, fun y hy => ?_⟩
        · exact fun y hy => by cases hy
        · rcases List.mem_append.1 hy with hy | hy
          · exact Nat.le_trans hle (Nat.le_of_lt (hpre y hy))
          · rcases List.mem_cons.1 hy with rfl | hy
            · exact hle
            · exact Nat.le_trans hle (hpost y hy)
      · next hlt =>
        obtain rfl := Option.some.inj h
        refine ⟨a :: pre, post, rfl, fun y hy => ?_, hpost⟩
        rcases List.mem_cons.1 hy with rfl | hy
        · exact Nat.not_le.1 hlt
        · exact hpre y hy

/-- **The default route is a line of the table**: a usable one with the least metric, and the first of these. -/
theorem line_of_parseDefaultIpv4Route {contents : Text} {route : DefaultIpv4Route}
    (h : parseDefaultIpv4Route contents = some route) :
    (∃ line ∈ (lines contents).drop 1, parseRouteLine line = some route) ∧
      ∀ line ∈ (lines contents).drop 1, ∀ other, parseRouteLine line = some other →
        route.metric.toNat ≤ other.metric.toNat := by
  obtain ⟨pre, post, hroutes, hpre, hpost⟩ := split_of_minByKey _ _ _ h
  have hmem : ∀ line ∈ (lines contents).drop 1, ∀ other, parseRouteLine line = some other →
      other ∈ pre ++ route :: post := fun line hline other hother => by
    rw [← hroutes]
    exact List.mem_filterMap.2 ⟨line, hline, hother⟩
  refine ⟨?_, fun line hline other hother => ?_⟩
  · refine List.mem_filterMap.1 ?_
    rw [hroutes]
    exact List.mem_append_right pre List.mem_cons_self
  · rcases List.mem_append.1 (hmem line hline other hother) with hother | hother
    · exact Nat.le_of_lt (hpre other hother)
    · rcases List.mem_cons.1 hother with rfl | hother
      · exact Nat.le_refl _
      · exact hpost other hother

/-- A table with two default routes, the one with the lower metric second. -/
def routeTable : Text :=
  join "\n"
    ["Iface\tDestination\tGateway \tFlags\tRefCnt\tUse\tMetric\tMask\t\tMTU\tWindow\tIRTT",
      "wlan0\t00000000\t0101A8C0\t0003\t0\t0\t600\t00000000\t0\t0\t0",
      "eth0\t00000000\t0100000A\t0003\t0\t0\t100\t00000000\t0\t0\t0",
      "eth0\t0000000A\t00000000\t0001\t0\t0\t100\t00FFFFFF\t0\t0\t0"]

theorem parseDefaultIpv4Route_routeTable :
    parseDefaultIpv4Route routeTable = some ⟨"eth0", Ipv4Addr.new 10 0 0 1, 100⟩ := by
  decide +kernel

end Networkrs
