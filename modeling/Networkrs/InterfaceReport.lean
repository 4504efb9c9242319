import Networkrs.Inet6Table
import Networkrs.JsonReports
import Networkrs.Traffic
/-!
# InterfaceReport — the interfaces of a kernel, as text

`print_interfaces` of `main.rs` goes through `/sys/class/net` in the order of its names, and prints of every interface
what its files, its IPv4 address and the table of IPv6 addresses say.  The kernel writes the files, so what is printed
are the interfaces of the kernel, each with its own addresses; an entry that is no interface is printed as one of
unknown state (`interface_report_exact`).
-/
namespace Networkrs

open Machine

section
variable (system : System) (humanBytes : UInt64 → Text)

/-! ## `print_interfaces` -/

def printIndentedValue (label : Text) (value : Option Text) : List Text :=
  (value.map (fun value => "    " ++ label ++ ": " ++ value)).toList

def printCounterPair (label : Text) (received transmitted : Option UInt64) : List Text :=
  match received, transmitted with
  | some received, some transmitted =>
    ["    " ++ label ++ ": RX " ++ decimal received.toNat ++ "  TX " ++ decimal transmitted.toNat]
  | _, _ => []

/-- The line of the bytes that were received and transmitted. -/
def printTrafficPair (received transmitted : Option UInt64) : List Text :=
  match received, transmitted with
  | some received, some transmitted => ["    Traffic: RX " ++ humanBytes received ++ "  TX " ++ humanBytes transmitted]
  | _, _ => []

def inet6Line (address : Ipv6Addr) (prefixLength scope : UInt8) : Text :=
  "    IPv6: " ++ networkText (.v6 address, prefixLength) ++ " (" ++ ipv6Scope scope ++ ")"

/-- What is printed of one path. -/
def interfaceLines (ipv6 : List Ipv6Address) (path name : Text) : List Text :=
  let kind := interfaceKind system path
  let state := interfaceState system path kind
  let carrier := (readTrimmed system (pathJoin path "carrier")).map
    (fun value => if value = ("1" : Text) then ("yes" : Text) else if value = ("0" : Text) then "no" else value)
  let speed := ((readTrimmed system (pathJoin path "speed")).filter (fun value => value ≠ ("-1" : Text))).map
    (fun value => value ++ (" Mb/s" : Text))
  ["  " ++ name ++ " (" ++ state ++ ")"] ++ printIndentedValue "Kind" kind ++
    printIndentedValue "Index" (readTrimmed system (pathJoin path "ifindex")) ++
    printIndentedValue "MAC" (readTrimmed system (pathJoin path "address")) ++
    printIndentedValue "MTU" (readTrimmed system (pathJoin path "mtu")) ++
    ((ipv4Address system name).map
      (fun assigned => "    IPv4: " ++ assigned.1.display ++ "/" ++ decimal assigned.2.toNat)).toList ++
    (ipv6.filter (fun entry => entry.interface = name)).map
      (fun entry => inet6Line entry.address entry.prefixLength entry.scope) ++
    printIndentedValue "Carrier" carrier ++ printIndentedValue "Speed" speed ++
    printIndentedValue "Duplex" (readTrimmed system (pathJoin path "duplex")) ++
    printTrafficPair humanBytes (system.readNumber (pathJoin path "statistics/rx_bytes"))
      (system.readNumber (pathJoin path "statistics/tx_bytes")) ++
    printCounterPair "Packets" (system.readNumber (pathJoin path "statistics/rx_packets"))
      (system.readNumber (pathJoin path "statistics/tx_packets")) ++
    printCounterPair "Errors" (system.readNumber (pathJoin path "statistics/rx_errors"))
      (system.readNumber (pathJoin path "statistics/tx_errors")) ++
    printCounterPair "Dropped" (system.readNumber (pathJoin path "statistics/rx_dropped"))
      (system.readNumber (pathJoin path "statistics/tx_dropped")) ++
    printIndentedValue "Collisions" (readTrimmed system (pathJoin path "statistics/collisions")) ++
    printIndentedValue "Carrier changes" (readTrimmed system (pathJoin path "carrier_changes"))

/-- The lines of the report; the last one is blank. -/
def printInterfaces : Except IoError (List Text) := do
  let names ← system.readDir sysClassNet
  let paths := (names.map (fun name => pathJoin sysClassNet name)).mergeSort pathLe
  let ipv6 := ipv6Addresses system
  return ("Interfaces" : Text) :: (if paths.isEmpty then ["  None"] else []) ++
    paths.flatMap (fun path => ((fileName path).map (interfaceLines system humanBytes ipv6 path)).getD []) ++ [[]]

end

/-! ## The interfaces of a kernel -/

/-- An interface of the kernel, as its directory of sysfs and its address requests show it. -/
structure SysfsInterface where
  name : Text
  isFileName_name : IsFileName name
  name_fits : (utf8Bytes name).length < 16
  wireless : Bool
  type : UInt16
  flags : UInt32
  operstate : Text
  isField_operstate : IsField operstate
  ifindex : UInt32
  address : Bytes
  mtu : UInt32
  ipv4 : Option (Ipv4Addr × Fin 33)
  carrier : Option Bool
  speed : Option Int
  duplex : Option Text
  isField_duplex : ∀ value ∈ duplex, IsField value
  counters : Text → UInt64
  carrierChanges : UInt32

namespace SysfsInterface

def counterNames : List Text :=
  ["statistics/rx_bytes", "statistics/tx_bytes", "statistics/rx_packets", "statistics/tx_packets",
    "statistics/rx_errors", "statistics/tx_errors", "statistics/rx_dropped", "statistics/tx_dropped",
    "statistics/collisions"]

/-- The files of an interface that are read, with their values. -/
def files (interface : SysfsInterface) : List (Text × Option Text) :=
  [(("type" : Text), some (decimal interface.type.toNat)), ("flags", some ("0x" ++ hex interface.flags.toNat)),
    ("operstate", some interface.operstate), ("ifindex", some (decimal interface.ifindex.toNat)),
    ("address", if interface.address = [] then none else some (formatLinkAddress interface.address)),
    ("mtu", some (decimal interface.mtu.toNat)),
    ("carrier", interface.carrier.map (fun up => if up then ("1" : Text) else "0")),
    ("speed", interface.speed.map decimalInt), ("duplex", interface.duplex),
    ("carrier_changes", some (decimal interface.carrierChanges.toNat))] ++
  counterNames.map (fun counter => (counter, some (decimal (interface.counters counter).toNat)))

/-- The netmask of a prefix. -/
def netmask (prefixLength : Fin 33) : Ipv4Addr := ⟨UInt32.ofNat (2 ^ 32 - 2 ^ (32 - prefixLength.val))⟩

def answer (interface : SysfsInterface) : AddressRequest → Option Ipv4Addr
  | .siocgifaddr => interface.ipv4.map Prod.fst
  | .siocgifnetmask => interface.ipv4.map (fun assigned => netmask assigned.2)

def kind (interface : SysfsInterface) : Text :=
  if interface.wireless then "wireless"
  else if interface.type = 1 then "ethernet"
  else if interface.type = 772 then "loopback"
  else "ARPHRD " ++ decimal interface.type.toNat

/-- A loopback is up or down as an administrator set it; the state of others is that of their operation. -/
def state (interface : SysfsInterface) : Text :=
  if interface.wireless = false ∧ interface.type = 772 then if interface.flags &&& 0x1 = 0 then "down" else "up"
  else interface.operstate

end SysfsInterface

/-- A file with a value and a newline; without one, it is empty but for the newline, or cannot be read. -/
def HoldsValue (file : Except IoError Text) : Option Text → Prop
  | none => file = .ok ['\n'] ∨ ∃ e, file = .error e
  | some value => file = .ok (value ++ ['\n'])

/-- An entry of `/sys/class/net`: an interface, or a file such as `bonding_masters`. -/
inductive SysfsEntry where
  | device (interface : SysfsInterface)
  | other (name : Text) (isFileName_name : IsFileName name)

def SysfsEntry.name : SysfsEntry → Text
  | .device interface => interface.name
  | .other name _ => name

theorem SysfsEntry.isFileName : ∀ entry : SysfsEntry, IsFileName entry.name
  | .device interface => interface.isFileName_name
  | .other _ h => h

/-- The kernel fills the directory of an interface, and answers its requests. -/
structure SysfsInterface.Fills (interface : SysfsInterface) (system : System) : Prop where
  wireless : system.exists_ (pathJoin (pathJoin sysClassNet interface.name) "wireless") = interface.wireless
  files : ∀ file ∈ interface.files,
    HoldsValue (system.readToString (pathJoin (pathJoin sysClassNet interface.name) file.1)) file.2
  answers : ∀ request, system.ioctl interface.name request = interface.answer request

/-- There is nothing below a name, and no interface has it. -/
structure NoInterface (name : Text) (system : System) (addresses : List KernelInet6) : Prop where
  exists_ : ∀ below, system.exists_ (pathJoin sysClassNet name ++ '/' :: below) = false
  files : ∀ below, ∃ e, system.readToString (pathJoin sysClassNet name ++ '/' :: below) = .error e
  answers : ∀ request, system.ioctl name request = none
  addresses : ∀ address ∈ addresses, address.interface ≠ name

def SysfsEntry.Fills (system : System) (addresses : List KernelInet6) : SysfsEntry → Prop
  | .device interface => interface.Fills system
  | .other name _ => NoInterface name system addresses

/-- **A machine shows the interfaces and addresses of its kernel**, in a directory of any order. -/
structure ShowsInterfaces (system : System) (entries : List SysfsEntry) (addresses : List KernelInet6) : Prop where
  bind : system.bind = .ok ()
  names : ∃ names, system.readDir sysClassNet = .ok names ∧ names.Perm (entries.map SysfsEntry.name)
  table : PrintsInet6 (system.readToString procNetIfInet6) addresses
  fills : ∀ entry ∈ entries, entry.Fills system addresses

def KernelInet6.line (address : KernelInet6) : Text := inet6Line address.address address.prefixLength address.scope

/-- What is to be printed of an interface. -/
def SysfsInterface.lines (humanBytes : UInt64 → Text) (addresses : List KernelInet6) (interface : SysfsInterface) :
    List Text :=
  [("  " : Text) ++ interface.name ++ " (" ++ interface.state ++ ")", "    Kind: " ++ interface.kind,
      "    Index: " ++ decimal interface.ifindex.toNat] ++
    (if interface.address = [] then [] else ["    MAC: " ++ formatLinkAddress interface.address]) ++
    ["    MTU: " ++ decimal interface.mtu.toNat] ++
    (interface.ipv4.map
      (fun assigned => "    IPv4: " ++ assigned.1.display ++ "/" ++ decimal assigned.2.val)).toList ++
    (addresses.filter (fun address => address.interface = interface.name)).map KernelInet6.line ++
    (interface.carrier.map (fun up => ("    Carrier: " : Text) ++ if up then "yes" else "no")).toList ++
    ((interface.speed.filter (fun speed => speed ≠ -1)).map
      (fun speed => ("    Speed: " : Text) ++ decimalInt speed ++ " Mb/s")).toList ++
    (interface.duplex.map (fun duplex => ("    Duplex: " : Text) ++ duplex)).toList ++
    ["    Traffic: RX " ++ humanBytes (interface.counters "statistics/rx_bytes") ++ "  TX " ++
        humanBytes (interface.counters "statistics/tx_bytes"),
      "    Packets: RX " ++ decimal (interface.counters "statistics/rx_packets").toNat ++ "  TX " ++
        decimal (interface.counters "statistics/tx_packets").toNat,
      "    Errors: RX " ++ decimal (interface.counters "statistics/rx_errors").toNat ++ "  TX " ++
        decimal (interface.counters "statistics/tx_errors").toNat,
      "    Dropped: RX " ++ decimal (interface.counters "statistics/rx_dropped").toNat ++ "  TX " ++
        decimal (interface.counters "statistics/tx_dropped").toNat,
      "    Collisions: " ++ decimal (interface.counters "statistics/collisions").toNat,
      "    Carrier changes: " ++ decimal interface.carrierChanges.toNat]

def SysfsEntry.lines (humanBytes : UInt64 → Text) (addresses : List KernelInet6) : SysfsEntry → List Text
  | .device interface => interface.lines humanBytes addresses
  | .other name _ => ["  " ++ name ++ " (unknown)"]

/-! ## Files -/

theorem readTrimmed_of_holds {system : System} {path : Text} {value : Option Text} (hfield : ∀ v ∈ value, IsField v)
    (h : HoldsValue (system.readToString path) value) : readTrimmed system path = value := by
  unfold readTrimmed
  cases value with
  | none =>
    rcases h with h | ⟨e, h⟩
    · rw [h]
      decide
    · rw [h]
      rfl
  | some value =>
    obtain ⟨hne, hplain⟩ := hfield value rfl
    have htrim : trim (value ++ ['\n']) = value :=
      @trim_padded [] value ['\n'] (fun _ h => absurd h List.not_mem_nil) (List.forall_mem_singleton.2 (by decide))
        hplain
    rw [h]
    simp [Except.toOption, htrim, hne]

theorem isField_formatLinkAddress : ∀ {bytes : Bytes}, bytes ≠ [] → IsField (formatLinkAddress bytes)
  | [], hne => absurd rfl hne
  | [byte], _ => by
    have hone : formatLinkAddress [byte] = hex02 byte := by simp [formatLinkAddress, join]
    rw [hone]
    exact isField_hex02 byte
  | byte :: next :: bytes, _ => by
    have ih := @isField_formatLinkAddress (next :: bytes) (List.cons_ne_nil _ _)
    have hcons : formatLinkAddress (byte :: next :: bytes) =
        hex02 byte ++ ':' :: formatLinkAddress (next :: bytes) := by
      simp [formatLinkAddress, join, List.intercalate_cons_cons]
    rw [hcons]
    refine ⟨by simp, fun c hc => ?_⟩
    rcases List.mem_append.1 hc with hc | hc
    · exact (isField_hex02 byte).2 c hc
    · rcases List.mem_cons.1 hc with rfl | hc
      · decide
      · exact ih.2 c hc

theorem isField_decimalInt (n : Int) : IsField (decimalInt n) := by
  have hdigits := isField_decimal n.natAbs
  unfold decimalInt
  split
  · exact ⟨List.cons_ne_nil _ _, List.forall_mem_cons.2 ⟨by decide, hdigits.2⟩⟩
  · exact hdigits

namespace SysfsInterface

variable (interface : SysfsInterface)

theorem isField_files : ∀ file ∈ interface.files, ∀ value ∈ file.2, IsField value := by
  have hhex : IsField (("0x" : Text) ++ hex interface.flags.toNat) := by
    refine ⟨List.cons_ne_nil _ _, List.forall_mem_cons.2 ⟨by decide, List.forall_mem_cons.2 ⟨by decide, ?_⟩⟩⟩
    intro c hc
    exact @of_mem_toDigits 16 (by decide) (by decide) (fun c => isWhitespace c = false) (by decide) _ c hc
  intro file hfile value hvalue
  unfold files at hfile
  rw [List.mem_append, List.mem_map] at hfile
  rcases hfile with hfile | ⟨counter, -, rfl⟩
  · simp only [List.mem_cons, List.not_mem_nil, or_false] at hfile
    rcases hfile with rfl | rfl | rfl | rfl | rfl | rfl | rfl | rfl | rfl | rfl
    · exact Option.some.inj hvalue ▸ isField_decimal _
    · exact Option.some.inj hvalue ▸ hhex
    · exact Option.some.inj hvalue ▸ interface.isField_operstate
    · exact Option.some.inj hvalue ▸ isField_decimal _
    · by_cases hne : interface.address = []
      · simp [hne] at hvalue
      · simp only [if_neg hne] at hvalue
        exact Option.some.inj hvalue ▸ isField_formatLinkAddress hne
    · exact Option.some.inj hvalue ▸ isField_decimal _
    · obtain ⟨up, -, rfl⟩ := Option.map_eq_some_iff.1 hvalue
      cases up <;> decide
    · obtain ⟨speed, -, rfl⟩ := Option.map_eq_some_iff.1 hvalue
      exact isField_decimalInt speed
    · exact interface.isField_duplex value hvalue
    · exact Option.some.inj hvalue ▸ isField_decimal _
  · exact Option.some.inj hvalue ▸ isField_decimal _

variable {interface} {system : System}

/-- **A file of an interface reads as its value.** -/
theorem Fills.readTrimmed (h : interface.Fills system) {file : Text × Option Text} (hfile : file ∈ interface.files) :
    Networkrs.readTrimmed system (pathJoin (pathJoin sysClassNet interface.name) file.1) = file.2 :=
  readTrimmed_of_holds (interface.isField_files file hfile) (h.files file hfile)

theorem Fills.reads (h : interface.Fills system) (i : Nat) {file : Text × Option Text}
    (hi : interface.files[i]? = some file) :
    Networkrs.readTrimmed system (pathJoin (pathJoin sysClassNet interface.name) file.1) = file.2 :=
  h.readTrimmed (List.mem_of_getElem? hi)

theorem Fills.readNumber (h : interface.Fills system) {counter : Text} (hcounter : counter ∈ counterNames) :
    system.readNumber (pathJoin (pathJoin sysClassNet interface.name) counter) = some (interface.counters counter) := by
  have hfile : (counter, some (decimal (interface.counters counter).toNat)) ∈ interface.files :=
    List.mem_append_right _ (List.mem_map_of_mem hcounter)
  have hparse : parseUnsigned 10 (2 ^ 64 - 1) (decimal (interface.counters counter).toNat) =
      some (interface.counters counter).toNat :=
    parseUnsigned_toDigits (by decide) (by decide) (Nat.le_sub_one_of_lt (interface.counters counter).toNat_lt)
  rw [System.readNumber, h.readTrimmed hfile, Option.bind_some, hparse, Option.map_some, UInt64.ofNat_toNat]

theorem countOnes_netmask : ∀ prefixLength : Fin 33, UInt32.ofNat (countOnes (netmask prefixLength).bits) =
    UInt32.ofNat prefixLength.val := by
  decide +kernel

theorem Fills.ipv4Address (h : interface.Fills system) (hbind : system.bind = .ok ()) :
    Networkrs.ipv4Address system interface.name =
      interface.ipv4.map (fun assigned => (assigned.1, UInt32.ofNat assigned.2.val)) := by
  have hfits : ¬ 16 ≤ (utf8Bytes interface.name).length := Nat.not_le_of_lt interface.name_fits
  unfold Networkrs.ipv4Address ioctlIpv4
  rw [hbind, if_neg hfits, if_neg hfits, h.answers, h.answers]
  cases hipv4 : interface.ipv4 with
  | none => simp [answer, hipv4, Except.toOption]
  | some assigned => simp [answer, hipv4, Except.toOption, countOnes_netmask]

theorem kind_eq_loopback_iff :
    interface.kind = ("loopback" : Text) ↔ interface.wireless = false ∧ interface.type = 772 := by
  unfold kind
  split
  · next h => simp [h]
  · next h =>
    rw [Bool.not_eq_true] at h
    split
    · next h1 => simp [h1]
    · split
      · next h772 => simp [h, h772]
      · next h772 => simp [h772]

theorem Fills.interfaceKind (h : interface.Fills system) :
    Networkrs.interfaceKind system (pathJoin sysClassNet interface.name) = some interface.kind := by
  have htype := h.readTrimmed (List.mem_append_left _ List.mem_cons_self)
  unfold Networkrs.interfaceKind kind
  rw [h.wireless, htype]
  cases interface.wireless with
  | true => rfl
  | false =>
    have hnumber : ∀ n : UInt16, decimal interface.type.toNat = decimal n.toNat ↔ interface.type = n := by
      intro n
      rw [Json.decimal_injective.eq_iff, UInt16.toNat_inj]
    have h1 : decimal interface.type.toNat = ("1" : Text) ↔ interface.type = 1 := hnumber 1
    have h772 : decimal interface.type.toNat = ("772" : Text) ↔ interface.type = 772 := hnumber 772
    simp only [Bool.false_eq_true, if_false, h1, h772]
    split
    · rfl
    · split <;> rfl

theorem administrativeState_hex (flags : UInt32) :
    administrativeState ("0x" ++ hex flags.toNat) = some (if flags &&& 0x1 = 0 then ("down" : Text) else "up") := by
  have hdrop : withoutPrefix "0x" ("0x" ++ hex flags.toNat) = hex flags.toNat := rfl
  have hparse : parseUnsigned 16 (2 ^ 32 - 1) (hex flags.toNat) = some flags.toNat :=
    parseUnsigned_toDigits (by decide) (by decide) (Nat.le_sub_one_of_lt flags.toNat_lt)
  rw [administrativeState, hdrop, hparse, Option.map_some, UInt32.ofNat_toNat]

theorem Fills.interfaceState (h : interface.Fills system) :
    Networkrs.interfaceState system (pathJoin sysClassNet interface.name) (some interface.kind) = interface.state := by
  have hflags := h.readTrimmed (List.mem_append_left _ (List.mem_cons_of_mem _ List.mem_cons_self))
  have hoperstate := h.readTrimmed
    (List.mem_append_left _ (List.mem_cons_of_mem _ (List.mem_cons_of_mem _ List.mem_cons_self)))
  unfold Networkrs.interfaceState state
  rw [hflags, hoperstate]
  by_cases hloopback : interface.wireless = false ∧ interface.type = 772
  · rw [if_pos (congrArg some (kind_eq_loopback_iff.2 hloopback)), if_pos hloopback, Option.bind_some,
      administrativeState_hex]
  · rw [if_neg (fun hkind => hloopback (kind_eq_loopback_iff.1 (Option.some.inj hkind))), if_neg hloopback]
    rfl

theorem printIndentedValue_carrier (carrier : Option Bool) :
    printIndentedValue "Carrier" ((carrier.map (fun up => if up then ("1" : Text) else "0")).map
      (fun value => if value = ("1" : Text) then ("yes" : Text) else if value = ("0" : Text) then "no" else value)) =
      (carrier.map (fun up => ("    Carrier: " : Text) ++ if up then "yes" else "no")).toList := by
  rcases carrier with _ | _ | _ <;> rfl

/-- A speed that is not known is left out. -/
theorem printIndentedValue_speed (speed : Option Int) :
    printIndentedValue "Speed" (((speed.map decimalInt).filter (fun value => value ≠ ("-1" : Text))).map
      (fun value => value ++ (" Mb/s" : Text))) =
      ((speed.filter (fun speed => speed ≠ -1)).map
        (fun speed => ("    Speed: " : Text) ++ decimalInt speed ++ " Mb/s")).toList := by
  cases speed with
  | none => rfl
  | some speed =>
    have hunknown : decimalInt speed = ("-1" : Text) ↔ speed = -1 := Json.decimalInt_injective.eq_iff (b := -1)
    by_cases hspeed : speed = -1
    · have htext := decide_eq_false (not_not.2 (hunknown.2 hspeed))
      rw [Option.map_some, Option.filter_some, Option.filter_some, htext, decide_eq_false (not_not.2 hspeed)]
      rfl
    · have htext := decide_eq_true (mt hunknown.1 hspeed)
      rw [Option.map_some, Option.filter_some, Option.filter_some, htext, decide_eq_true hspeed]
      rfl

theorem ipv4_lines (assigned : Option (Ipv4Addr × Fin 33)) :
    ((assigned.map (fun assigned => (assigned.1, UInt32.ofNat assigned.2.val))).map
      (fun assigned => ("    IPv4: " : Text) ++ assigned.1.display ++ "/" ++ decimal assigned.2.toNat)).toList =
      (assigned.map (fun assigned =>
        ("    IPv4: " : Text) ++ assigned.1.display ++ "/" ++ decimal assigned.2.val)).toList := by
  cases assigned with
  | none => rfl
  | some assigned =>
    have hlength : (UInt32.ofNat assigned.2.val).toNat = assigned.2.val :=
      UInt32.toNat_ofNat_of_lt' (lt_trans assigned.2.isLt (by decide))
    simp [hlength]

theorem ipv6_lines (addresses : List KernelInet6) (name : Text) :
    ((addresses.map KernelInet6.record).filter (fun entry => entry.interface = name)).map
      (fun entry => inet6Line entry.address entry.prefixLength entry.scope) =
      (addresses.filter (fun address => address.interface = name)).map KernelInet6.line := by
  rw [List.filter_map, List.map_map]
  rfl

/-- **What is printed of an interface** are its lines. -/
theorem Fills.interfaceLines (h : interface.Fills system) (hbind : system.bind = .ok ()) (humanBytes : UInt64 → Text)
    (addresses : List KernelInet6) :
    Networkrs.interfaceLines system humanBytes (addresses.map KernelInet6.record)
      (pathJoin sysClassNet interface.name) interface.name = interface.lines humanBytes addresses := by
  have hindex := h.reads 3 rfl
  have hmac := h.reads 4 rfl
  have hmtu := h.reads 5 rfl
  have hcarrier := h.reads 6 rfl
  have hspeed := h.reads 7 rfl
  have hduplex := h.reads 8 rfl
  have hchanges := h.reads 9 rfl
  have hcollisions := h.reads 18 rfl
  dsimp only at hindex hmac hmtu hcarrier hspeed hduplex hchanges hcollisions
  have hcounter : ∀ i counter, counterNames[i]? = some counter →
      system.readNumber (pathJoin (pathJoin sysClassNet interface.name) counter) = some (interface.counters counter) :=
    fun i counter hi => h.readNumber (List.mem_of_getElem? hi)
  unfold Networkrs.interfaceLines lines
  dsimp only
  rw [h.interfaceKind, h.interfaceState, hindex, hmac, hmtu, hcarrier, hspeed, hduplex, hchanges, hcollisions,
    h.ipv4Address hbind, hcounter 0 _ rfl, hcounter 1 _ rfl, hcounter 2 _ rfl, hcounter 3 _ rfl, hcounter 4 _ rfl,
    hcounter 5 _ rfl, hcounter 6 _ rfl, hcounter 7 _ rfl, printIndentedValue_carrier, printIndentedValue_speed,
    ipv4_lines, ipv6_lines]
  simp only [printIndentedValue, printTrafficPair, printCounterPair]
  by_cases hne : interface.address = []
  · simp [hne]
  · simp [hne]

end SysfsInterface

/-! ## The report -/

theorem pathJoin_of_relative {path name : Text} (hpath : path.getLast? ≠ some '/') (hname : name.head? ≠ some '/') :
    pathJoin path name = path ++ '/' :: name := by
  rw [pathJoin, if_neg hname, if_neg hpath]

/-- What is below a name of a directory. -/
theorem pathJoin_below {name file : Text} (hname : IsFileName name) (hfile : file.head? ≠ some '/') :
    pathJoin (pathJoin sysClassNet name) file = pathJoin sysClassNet name ++ '/' :: file := by
  obtain ⟨hne, hslash, -, -⟩ := hname
  have hhead : name.head? ≠ some '/' := fun h => hslash (List.mem_of_head? h)
  have hlast : (pathJoin sysClassNet name).getLast? ≠ some '/' := by
    rw [pathJoin_of_relative (by decide) hhead, List.getLast?_append_cons, List.getLast?_cons_of_ne_nil hne]
    exact fun h => hslash (List.mem_of_getLast? h)
  exact pathJoin_of_relative hlast hfile

/-- An entry without an interface has only its name. -/
theorem NoInterface.interfaceLines {name : Text} {system : System} {addresses : List KernelInet6}
    (h : NoInterface name system addresses) (hname : IsFileName name) (humanBytes : UInt64 → Text) :
    Networkrs.interfaceLines system humanBytes (addresses.map KernelInet6.record) (pathJoin sysClassNet name) name =
      ["  " ++ name ++ " (unknown)"] := by
  have hread : ∀ file, file.head? ≠ some '/' →
      readTrimmed system (pathJoin (pathJoin sysClassNet name) file) = none := by
    intro file hfile
    rw [pathJoin_below hname hfile]
    exact readTrimmed_of_holds (by simp) (.inr (h.files file))
  have hnumber : ∀ file, file.head? ≠ some '/' →
      system.readNumber (pathJoin (pathJoin sysClassNet name) file) = none := by
    intro file hfile
    rw [System.readNumber, hread file hfile]
    rfl
  have hkind : interfaceKind system (pathJoin sysClassNet name) = none := by
    rw [interfaceKind, pathJoin_below hname (by decide), h.exists_, hread "type" (by decide)]
    rfl
  have hstate : interfaceState system (pathJoin sysClassNet name) none = "unknown" := by
    simp only [interfaceState, hread "operstate" (by decide)]
    rfl
  have hipv4 : ipv4Address system name = none := by
    have hask : ∀ request, ioctlIpv4 system name request = none := by
      intro request
      rw [ioctlIpv4, h.answers, ite_self]
    unfold ipv4Address
    rw [hask]
    cases system.bind.toOption <;> rfl
  have hipv6 : (addresses.map KernelInet6.record).filter (fun entry => entry.interface = name) = [] := by
    rw [List.filter_map, List.filter_eq_nil_iff.2, List.map_nil]
    intro address haddress
    have hne : address.record.interface ≠ name := h.addresses address haddress
    simp [hne]
  unfold Networkrs.interfaceLines
  dsimp only
  rw [hkind, hstate, hipv4, hipv6]
  simp (disch := decide) only [hread, hnumber]
  simp [printIndentedValue, printTrafficPair, printCounterPair]

/-- What stands before the last parenthesis of a line. -/
theorem eq_of_append_parenthesis {s s' t t' : Text} (ht : '(' ∉ t) (ht' : '(' ∉ t')
    (h : s ++ " (" ++ t ++ ")" = s' ++ " (" ++ t' ++ ")") : s = s' := by
  have hreverse : ∀ {s t : Text}, '(' ∉ t →
      splitOnce '(' (s ++ " (" ++ t ++ ")").reverse = some (')' :: t.reverse, ' ' :: s.reverse) := by
    intro s t ht
    have htext : (s ++ " (" ++ t ++ ")").reverse = ')' :: t.reverse ++ '(' :: ' ' :: s.reverse := by simp
    rw [htext]
    apply splitOnce_append
    rw [List.mem_cons, List.mem_reverse]
    exact not_or.2 ⟨by decide, ht⟩
  have hparts := hreverse ht (s := s)
  rw [h, hreverse ht'] at hparts
  simp only [Option.some.injEq, Prod.mk.injEq, List.cons.injEq, true_and, List.reverse_inj] at hparts
  exact hparts.2.symm

/-- **The line of an address is that of no other address or prefix.** -/
theorem inet6Line_injective {a b : KernelInet6} (h : a.line = b.line) :
    a.address = b.address ∧ a.prefixLength = b.prefixLength := by
  have hparenthesis : ∀ scope, '(' ∉ ipv6Scope scope := by
    intro scope
    unfold ipv6Scope
    split_ifs <;> decide
  have hstart := eq_of_append_parenthesis (hparenthesis _) (hparenthesis _) h
  have hnetwork := networkText_injective (List.append_cancel_left hstart)
  rw [Prod.mk.injEq, IpAddr.v6.injEq] at hnetwork
  exact hnetwork

theorem printInterfaces_eq {system : System} {names : List Text} (hnames : system.readDir sysClassNet = .ok names)
    (hvalid : ∀ name ∈ names, IsFileName name) (humanBytes : UInt64 → Text) :
    printInterfaces system humanBytes = .ok (("Interfaces" : Text) :: (if names = [] then ["  None"] else []) ++
      (names.mergeSort textLe).flatMap (fun name =>
        interfaceLines system humanBytes (ipv6Addresses system) (pathJoin sysClassNet name) name) ++ [[]]) := by
  have hpaths : (names.map (fun name => pathJoin sysClassNet name)).mergeSort pathLe =
      (names.mergeSort textLe).map (fun name => pathJoin sysClassNet name) :=
    (List.map_mergeSort (fun a ha b hb => (pathLe_pathJoin sysClassNet (hvalid a ha) (hvalid b hb)).symm)).symm
  have hempty : ((names.mergeSort textLe).map (fun name => pathJoin sysClassNet name)).isEmpty = true ↔ names = [] := by
    rw [List.isEmpty_iff, List.map_eq_nil_iff, ← List.length_eq_zero_iff, List.length_mergeSort,
      List.length_eq_zero_iff]
  have hlines : ((names.mergeSort textLe).map (fun name => pathJoin sysClassNet name)).flatMap (fun path =>
      ((fileName path).map (interfaceLines system humanBytes (ipv6Addresses system) path)).getD []) =
      (names.mergeSort textLe).flatMap (fun name =>
        interfaceLines system humanBytes (ipv6Addresses system) (pathJoin sysClassNet name) name) := by
    rw [List.flatMap_map]
    apply List.flatMap_congr
    intro name hname
    rw [fileName_pathJoin sysClassNet (hvalid name (List.mem_mergeSort.1 hname)), Option.map_some, Option.getD_some]
  unfold printInterfaces
  rw [hnames, ok_bind, hpaths]
  dsimp only
  rw [hlines, if_congr hempty rfl rfl]
  rfl

/-- **The report of the interfaces**: those of the kernel, in the order of their names, each with what the kernel says
of it, its own IPv6 addresses among it; different addresses are on different lines. -/
theorem interface_report_exact (system : System) (humanBytes : UInt64 → Text) (entries : List SysfsEntry)
    (addresses : List KernelInet6) (h : ShowsInterfaces system entries addresses) :
    (∃ shown : List SysfsEntry, shown.Perm entries ∧ shown.Pairwise (fun a b => textLe a.name b.name) ∧
      printInterfaces system humanBytes = .ok (("Interfaces" : Text) :: (if entries = [] then ["  None"] else []) ++
        shown.flatMap (SysfsEntry.lines humanBytes addresses) ++ [[]])) ∧
    ∀ a ∈ addresses, ∀ b ∈ addresses, a.line = b.line → a.address = b.address ∧ a.prefixLength = b.prefixLength := by
  obtain ⟨names, hnames, hperm⟩ := h.names
  have hvalid : ∀ name ∈ names, IsFileName name := by
    intro name hname
    obtain ⟨entry, -, rfl⟩ := List.mem_map.1 (hperm.subset hname)
    exact entry.isFileName
  refine ⟨⟨entries.mergeSort (fun a b => textLe a.name b.name), List.mergeSort_perm _ _, ?_, ?_⟩,
    fun a _ b _ hline => inet6Line_injective hline⟩
  · exact List.pairwise_mergeSort (fun a b c => textLe_trans a.name b.name c.name)
      (fun a b => textLe_total a.name b.name) entries
  · have hsorted : names.mergeSort textLe =
        (entries.mergeSort (fun a b => textLe a.name b.name)).map SysfsEntry.name := by
      have hmap : (entries.mergeSort (fun a b => textLe a.name b.name)).map SysfsEntry.name =
          (entries.map SysfsEntry.name).mergeSort textLe := List.map_mergeSort (fun _ _ _ _ => rfl)
      rw [hmap]
      exact mergeSort_eq_of_perm textLe_trans textLe_total (fun a _ b _ => textLe_antisymm a b) hperm
    have hnil : names = [] ↔ entries = [] := by
      rw [← List.length_eq_zero_iff, hperm.length_eq, List.length_map, List.length_eq_zero_iff]
    rw [printInterfaces_eq hnames hvalid, if_congr hnil rfl rfl, hsorted, ipv6Addresses_of_prints h.table,
      List.flatMap_map]
    congr 3
    apply List.flatMap_congr
    intro entry hentry
    have hfills := h.fills entry (List.mem_mergeSort.1 hentry)
    cases entry with
    | device interface => exact hfills.interfaceLines h.bind humanBytes addresses
    | other name hname => exact NoInterface.interfaceLines hfills hname humanBytes

theorem isFileName_lo : IsFileName "lo" := by
  unfold IsFileName
  decide

theorem isFileName_wlan0 : IsFileName "wlan0" := by
  unfold IsFileName
  decide

theorem isFileName_bondingMasters : IsFileName "bonding_masters" := by
  unfold IsFileName
  decide

theorem fits_lo : (utf8Bytes "lo").length < 16 := by decide

theorem fits_wlan0 : (utf8Bytes "wlan0").length < 16 := by decide

theorem isField_unknown : IsField "unknown" := by decide

theorem isField_dormant : IsField "dormant" := by decide

theorem isField_lo : IsField "lo" := by decide

theorem isField_wlan0 : IsField "wlan0" := by decide

/-- The loopback of a machine. -/
def lo : SysfsInterface where
  name := "lo"
  isFileName_name := isFileName_lo
  name_fits := fits_lo
  wireless := false
  type := 772
  flags := 0x9
  operstate := "unknown"
  isField_operstate := isField_unknown
  ifindex := 1
  address := List.replicate 6 0
  mtu := 65536
  ipv4 := some (Ipv4Addr.new 127 0 0 1, 8)
  carrier := some true
  speed := none
  duplex := none
  isField_duplex := fun _ h => absurd h (Option.not_mem_none _)
  counters _ := 1024
  carrierChanges := 0

/-- Its wireless interface, without an IPv4 address. -/
def wlan0 : SysfsInterface where
  name := "wlan0"
  isFileName_name := isFileName_wlan0
  name_fits := fits_wlan0
  wireless := true
  type := 1
  flags := 0x1003
  operstate := "dormant"
  isField_operstate := isField_dormant
  ifindex := 3
  address := [2, 0, 0, 0, 0, 1]
  mtu := 1500
  ipv4 := none
  carrier := some false
  speed := some (-1)
  duplex := none
  isField_duplex := fun _ h => absurd h (Option.not_mem_none _)
  counters _ := 0
  carrierChanges := 4

def loAddress : KernelInet6 := ⟨Ipv6Addr.ofNat 1, 1, 128, 0x10, 0x80, "lo", isField_lo⟩

def wlan0Address : KernelInet6 :=
  ⟨Ipv6Addr.ofNat 0xfe800000000000000000000000000001, 3, 64, 0x20, 0x80, "wlan0", isField_wlan0⟩

def addressPadding : List Text := ["", " ", " ", " ", " ", "       "]

def addressRow (address : KernelInet6) : Text := layOut (addressPadding.zip address.fields) []

/-- The file of an interface at a path below its directory. -/
def sampleFile (interface : SysfsInterface) (path : Text) : Option (Option Text) :=
  if (pathJoin sysClassNet interface.name ++ ['/']).isPrefixOf path then
    (interface.files.find? (fun file => file.1 = path.drop (16 + interface.name.length))).map Prod.snd
  else none

/-- The machine; its directory lists the bonds first. -/
def sampleSystem : System where
  readToString path :=
    if path = procNetIfInet6 then .ok (unlines [addressRow wlan0Address, addressRow loAddress])
    else (([lo, wlan0].findSome? (fun interface => sampleFile interface path)).bind (fun value => value)).elim
      (.error (.os 2)) (fun value => .ok (value ++ ['\n']))
  exists_ path := path = ("/sys/class/net/wlan0/wireless" : Text)
  readDir _ := .ok ["bonding_masters", "wlan0", "lo"]
  bind := .ok ()
  ioctl name request :=
    if name = lo.name then lo.answer request else if name = wlan0.name then wlan0.answer request else none

theorem fills_sample : ∀ interface ∈ [lo, wlan0], interface.Fills sampleSystem := by
  have hread : ∀ interface ∈ [lo, wlan0], ∀ file ∈ interface.files,
      sampleSystem.readToString (pathJoin (pathJoin sysClassNet interface.name) file.1) =
        file.2.elim (.error (.os 2)) (fun value => .ok (value ++ ['\n'])) := by
    decide +kernel
  have hwireless : ∀ interface ∈ [lo, wlan0],
      sampleSystem.exists_ (pathJoin (pathJoin sysClassNet interface.name) "wireless") = interface.wireless := by
    decide +kernel
  intro interface hinterface
  refine ⟨hwireless interface hinterface, fun file hfile => ?_, fun request => ?_⟩
  · rw [hread interface hinterface file hfile]
    cases file.2 with
    | none => exact .inr ⟨_, rfl⟩
    | some value => rfl
  · rcases List.mem_pair.1 hinterface with rfl | rfl <;> rfl

/-- No path of the machine is below the file. -/
theorem noInterface_bondingMasters : NoInterface "bonding_masters" sampleSystem [wlan0Address, loAddress] := by
  have hne : ∀ path below : Text, path.take 16 ≠ ("/sys/class/net/b" : Text) →
      pathJoin sysClassNet "bonding_masters" ++ '/' :: below ≠ path := by
    rintro _ below hpath rfl
    rw [List.take_append_of_le_length (by decide +kernel)] at hpath
    exact hpath (by decide +kernel)
  refine ⟨fun below => ?_, fun below => ⟨.os 2, ?_⟩, fun _ => rfl, by decide +kernel⟩
  · exact decide_eq_false (hne "/sys/class/net/wlan0/wireless" below (by decide +kernel))
  · unfold sampleSystem
    dsimp only
    rw [if_neg (hne procNetIfInet6 below (by decide +kernel))]
    rfl

theorem prints_sample_addresses :
    PrintsInet6 (sampleSystem.readToString procNetIfInet6) [wlan0Address, loAddress] := by
  have hcolumns : ∀ address ∈ [wlan0Address, loAddress],
      (addressPadding.zip address.fields).map Prod.snd = address.fields := by
    decide +kernel
  refine .inr ⟨[addressRow wlan0Address, addressRow loAddress], by decide +kernel, rfl, ?_⟩
  rw [List.filter_cons_of_pos (by decide +kernel), List.filter_cons_of_pos (by decide +kernel)]
  refine .cons ⟨addressPadding.zip wlan0Address.fields, [], rfl, ?_, ?_, ?_, by decide⟩
    (.cons ⟨addressPadding.zip loAddress.fields, [], rfl, ?_, ?_, ?_, by decide⟩ .nil)
  all_goals decide +kernel

/-- Two interfaces and a file beside them, in the order of their names. -/
theorem interface_report_exact_wlan0 : ∃ shown : List SysfsEntry,
    shown.Perm [.device lo, .device wlan0, .other "bonding_masters" isFileName_bondingMasters] ∧
    shown.Pairwise (fun a b => textLe a.name b.name) ∧
    printInterfaces sampleSystem (fun _ => "1.0 KiB") = .ok (("Interfaces" : Text) ::
      shown.flatMap (SysfsEntry.lines (fun _ => "1.0 KiB") [wlan0Address, loAddress]) ++ [[]]) := by
  obtain ⟨⟨shown, hperm, hsorted, hlines⟩, -⟩ := interface_report_exact sampleSystem (fun _ => "1.0 KiB")
    [.device lo, .device wlan0, .other "bonding_masters" isFileName_bondingMasters] [wlan0Address, loAddress]
    ⟨rfl, ⟨["bonding_masters", "wlan0", "lo"], rfl, by decide +kernel⟩, prints_sample_addresses,
      List.forall_mem_cons.2 ⟨fills_sample lo (by simp), List.forall_mem_cons.2 ⟨fills_sample wlan0 (by simp),
        List.forall_mem_singleton.2 noInterface_bondingMasters⟩⟩⟩
  exact ⟨shown, hperm, hsorted, hlines⟩

end Networkrs
