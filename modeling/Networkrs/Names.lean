import Networkrs.Lib.Keyed
import Networkrs.Wire
/-!
# Names — the textual forms of kernel codes and flag words

The name tables of `netlink.rs`.  A code outside its table is printed as a prefix and its number; a flag word is the
names of its known bits and one hexadecimal token for the rest.
-/
namespace Networkrs

def nameOr (table : List (UInt8 × Text)) (unnamed : Text) (value : UInt8) : Text :=
  match table.lookup value with
  | some name => name
  | none => unnamed ++ decimal value.toNat

def routeProtocol : UInt8 → Text :=
  nameOr
    [(0, "unspecified"), (1, "redirect"), (2, "kernel"), (3, "boot"), (4, "static"), (8, "gated"),
      (9, "router-advertisement"), (11, "zebra"), (12, "bird"), (16, "dhcp"), (17, "mrouted"), (18, "keepalived"),
      (186, "bgp"), (187, "isis"), (188, "ospf"), (189, "rip")]
    "protocol-"

def routeScope : UInt8 → Text :=
  nameOr [(0, "global"), (200, "site"), (253, "link"), (254, "host"), (255, "nowhere")] "scope-"

def routeKind : UInt8 → Text :=
  nameOr
    [(0, "unspecified"), (1, "unicast"), (2, "local"), (3, "broadcast"), (4, "anycast"), (5, "multicast"),
      (6, "blackhole"), (7, "unreachable"), (8, "prohibit"), (9, "throw"), (10, "nat"), (11, "xresolve")]
    "type-"

def operationalState : UInt8 → Text :=
  nameOr
    [(0, "unknown"), (1, "not-present"), (2, "down"), (3, "lower-layer-down"), (4, "testing"), (5, "dormant"),
      (6, "up")]
    "state-"

def ruleAction : UInt8 → Text :=
  nameOr
    [(0, "unspecified"), (1, "lookup"), (2, "goto"), (3, "nop"), (6, "blackhole"), (7, "unreachable"), (8, "prohibit")]
    "action-"

def addressScope (scope : UInt8) : Text :=
  let scopes : List (UInt8 × Text) := [(0, "global"), (200, "site"), (253, "link"), (254, "host"), (255, "nowhere")]
  match scopes.lookup scope with
  | some name => name
  | none => "custom"

/-! ## Flag words -/

def formatFlags (flags : UInt32) (known : List (UInt32 × Text)) : Text :=
  let names := (known.filter (fun (flag, _) => flags &&& flag != 0)).map Prod.snd
  let knownBits := known.foldl (fun bits (flag, _) => bits ||| flag) 0
  let unknown := flags &&& ~~~knownBits
  let names := if unknown != 0 then names ++ [("0x" : Text) ++ hex unknown.toNat] else names
  if names.isEmpty then "none" else join "|" names

def linkFlags (flags : UInt32) : Text :=
  formatFlags flags
    [(0x00000001, "up"), (0x00000002, "broadcast"), (0x00000004, "debug"), (0x00000008, "loopback"),
      (0x00000010, "point-to-point"), (0x00000020, "no-trailers"), (0x00000040, "running"), (0x00000080, "noarp"),
      (0x00000100, "promiscuous"), (0x00000200, "all-multicast"), (0x00000400, "master"), (0x00000800, "slave"),
      (0x00001000, "multicast"), (0x00002000, "port-selection"), (0x00004000, "automedia"), (0x00008000, "dynamic"),
      (0x00010000, "lower-up"), (0x00020000, "dormant"), (0x00040000, "echo")]

def nextHopFlags (flags : UInt8) : Text :=
  formatFlags flags.toUInt32
    [(0x01, "dead"), (0x02, "pervasive"), (0x04, "onlink"), (0x08, "offload"), (0x10, "linkdown"), (0x20, "unresolved"),
      (0x40, "trap")]

def ruleFlags (flags : UInt32) : Text :=
  formatFlags flags
    [(0x00000001, "permanent"), (0x00000002, "invert"), (0x00000004, "unresolved"), (0x00000008, "input-detached"),
      (0x00000010, "output-detached"), (0x00010000, "find-source")]

/-- `address_flags`, which has the body of `format_flags` over its own table. -/
def addressFlags (flags : UInt32) : Text :=
  let known : List (UInt32 × Text) :=
    [(0x01, "secondary"), (0x02, "nodad"), (0x04, "optimistic"), (0x08, "dadfailed"), (0x10, "home"),
      (0x20, "deprecated"), (0x40, "tentative"), (0x80, "permanent"), (0x100, "manage-temp"),
      (0x200, "no-prefix-route"), (0x400, "multicast-autojoin"), (0x800, "stable-privacy")]
  let names := (known.filter (fun (flag, _) => flags &&& flag != 0)).map Prod.snd
  let knownBits := known.foldl (fun bits (flag, _) => bits ||| flag) 0
  let unknown := flags &&& ~~~knownBits
  let names := if unknown != 0 then names ++ [("0x" : Text) ++ hex unknown.toNat] else names
  if names.isEmpty then "none" else join "|" names

def neighborFlags (flags : UInt8) (extendedFlags : UInt32) : Text :=
  let base := formatFlags flags.toUInt32
    [(0x01, "use"), (0x02, "self"), (0x04, "master"), (0x08, "proxy"), (0x10, "externally-learned"),
      (0x20, "offloaded"), (0x40, "sticky"), (0x80, "router")]
  let extended := formatFlags extendedFlags [(0x01, "managed"), (0x02, "locked"), (0x04, "externally-validated")]
  let none_ : Text := "none"
  if base = none_ ∧ extended = none_ then "none"
  else if base = none_ then extended
  else if extended = none_ then base
  else base ++ "|" ++ extended

/-! ## Neighbors -/

def nudIncomplete : UInt16 := 0x01
def nudReachable : UInt16 := 0x02
def nudStale : UInt16 := 0x04
def nudDelay : UInt16 := 0x08
def nudProbe : UInt16 := 0x10
def nudFailed : UInt16 := 0x20
def nudNoarp : UInt16 := 0x40
def nudPermanent : UInt16 := 0x80

def neighborState (state : UInt16) : Text :=
  let states : List (UInt16 × Text) :=
    [(nudIncomplete, "incomplete"), (nudReachable, "reachable"), (nudStale, "stale"), (nudDelay, "delay"),
      (nudProbe, "probe"), (nudFailed, "failed"), (nudNoarp, "noarp"), (nudPermanent, "permanent")]
  let names := (states.filter (fun (flag, _) => state &&& flag != 0)).map Prod.snd
  if names.isEmpty then "none" else join "|" names

def isReportableNeighbor (family : UInt8) (state : UInt16) (removed hasLink : Bool) : Bool :=
  (family = afInet ∨ family = afInet6) ∧ state &&& nudNoarp = 0 ∧
    (state &&& (nudIncomplete ||| nudFailed) = 0 ∨ (removed ∧ hasLink))

def formatLinkAddress (bytes : Bytes) : Text := join ":" (bytes.map hex02)

/-- Milliseconds of a tick count; a host without a positive tick rate counts as 100. -/
def clockTicksToMs (host : Host) (ticks : UInt32) : UInt64 :=
  let ticksPerSecond := if 0 < host.clockTicks.toInt then host.clockTicks.toInt.toNat else 100
  UInt64.ofNat (min (ticks.toNat * 1000) (2 ^ 64 - 1) / ticksPerSecond)

def interfaceLabel (interfaceNames : Keyed.Map Int32 Text) (index : Int32) : Text :=
  (interfaceNames index).getD ("ifindex " ++ decimalInt index.toInt)

example : linkFlags 0x10001 = "up|lower-up" := by decide
example : neighborState (nudStale ||| nudProbe) = "stale|probe" := by decide
example : formatLinkAddress [0x00, 0x1a, 0x2b, 0x03, 0xfe, 0xff] = "00:1a:2b:03:fe:ff" := by decide

end Networkrs
