import Networkrs.Check
/-!
# Dns — the resolver configuration as JSON

`json_dns` reads `/etc/resolv.conf` directive by directive and keeps every value of a line; `resolver::nameservers`,
which the health check reads, keeps the first value of a nameserver line.  The two agree exactly on the files that have
no second value on such a line (`json_dns_agrees_iff`).
-/
namespace Networkrs

open Machine

/-- The directive of a line and its values, unless the line is empty or a comment. -/
def resolverDirective (line : Text) : Option (Text × List Text) :=
  let line := trim line
  if line = [] ∨ line.head? = some '#' ∨ line.head? = some ';' then none
  else
    match splitWhitespace line with
    | [] => none
    | directive :: values => some (directive, values)

/-- The locals of `json_dns`. -/
structure DnsEntries where
  nameservers : List Text
  search : List Text
  domain : Option Text
  options : List Text
  deriving DecidableEq, Repr

def DnsEntries.none : DnsEntries := ⟨[], [], .none, []⟩

/-- One turn of the loop over the lines. -/
def DnsEntries.readLine (entries : DnsEntries) (line : Text) : DnsEntries :=
  match resolverDirective line with
  | .none => entries
  | some (directive, values) =>
    if directive = "nameserver" then { entries with nameservers := entries.nameservers ++ values }
    else if directive = "search" then { entries with search := entries.search ++ values }
    else if directive = "domain" then { entries with domain := values.head? }
    else if directive = "options" then { entries with options := entries.options ++ values }
    else entries

def dnsEntries (system : System) : DnsEntries :=
  match system.readToString resolvConf with
  | .error _ => .none
  | .ok contents => (lines contents).foldl DnsEntries.readLine .none

/-- `json_dns`, for the path the configuration file resolves to. -/
def Dns.jsonDns (system : System) (canonical : Except IoError Text) : Json.Value :=
  let configuration := canonical.toOption.getD resolvConf
  let entries := dnsEntries system
  .object
    [("configuration", .string configuration), ("nameservers", Json.strings entries.nameservers),
      ("searchDomains", Json.strings entries.search), ("domain", Json.optionalString entries.domain),
      ("options", Json.strings entries.options)]

/-! ## Two readers of a nameserver line -/

/-- The values of a nameserver line. -/
def nameserverValues (line : Text) : List Text :=
  match resolverDirective line with
  | some (directive, values) => if directive = "nameserver" then values else []
  | .none => []

/-- `json_dns` keeps all values of a line. -/
theorem readLine_nameservers (entries : DnsEntries) (line : Text) :
    (entries.readLine line).nameservers = entries.nameservers ++ nameserverValues line := by
  unfold DnsEntries.readLine nameserverValues
  cases resolverDirective line with
  | none => exact (List.append_nil _).symm
  | some directive =>
    obtain ⟨directive, values⟩ := directive
    dsimp only
    by_cases hname : directive = "nameserver"
    · rw [if_pos hname, if_pos hname]
    · rw [if_neg hname, if_neg hname, List.append_nil]
      repeat' split
      all_goals rfl

theorem foldl_readLine_nameservers : ∀ (l : List Text) (entries : DnsEntries),
    (l.foldl DnsEntries.readLine entries).nameservers = entries.nameservers ++ l.flatMap nameserverValues
  | [], entries => (List.append_nil _).symm
  | line :: l, entries => by
    rw [List.foldl_cons, foldl_readLine_nameservers l, readLine_nameservers, List.flatMap_cons, List.append_assoc]

/-- The resolver keeps the first value of a line. -/
theorem parseNameserver_eq (line : Text) : parseNameserver line = (nameserverValues line).head? := by
  unfold parseNameserver nameserverValues resolverDirective
  dsimp only
  by_cases hempty : trim line = []
  · rw [if_pos (Or.inl hempty), hempty]
    decide
  · by_cases hcomment : (trim line).head? = some '#' ∨ (trim line).head? = some ';'
    · rw [if_pos hcomment, if_pos (Or.inr hcomment)]
      rfl
    · rw [if_neg hcomment, if_neg (fun h => h.elim hempty hcomment)]
      cases splitWhitespace (trim line) with
      | nil => rfl
      | cons first fields =>
        dsimp only
        split <;> rfl

theorem parseNameservers_eq (contents : Text) :
    parseNameservers contents = (lines contents).flatMap (fun line => (nameserverValues line).take 1) := by
  have hline : ∀ line, (parseNameserver line).toList = (nameserverValues line).take 1 := fun line => by
    rw [parseNameserver_eq]
    cases nameserverValues line <;> rfl
  unfold parseNameservers
  induction lines contents with
  | nil => rfl
  | cons line l ih =>
    rw [List.flatMap_cons, ← ih, ← hline]
    cases hparse : parseNameserver line with
    | none => rw [List.filterMap_cons_none hparse]; rfl
    | some value => rw [List.filterMap_cons_some hparse]; rfl

theorem length_flatMap_take_le {α β : Type} (f : α → List β) (n : Nat) : ∀ (l : List α),
    (l.flatMap (fun x => (f x).take n)).length ≤ (l.flatMap f).length
  | [] => Nat.le_refl 0
  | x :: l => by
    have ih := length_flatMap_take_le f n l
    rw [List.flatMap_cons, List.flatMap_cons, List.length_append, List.length_append, List.length_take]
    omega

/-- Taking one element of each part changes nothing exactly when no part has two. -/
theorem flatMap_eq_flatMap_take_iff {α β : Type} (f : α → List β) : ∀ (l : List α),
    l.flatMap f = l.flatMap (fun x => (f x).take 1) ↔ ∀ x ∈ l, (f x).length ≤ 1
  | [] => by simp
  | x :: l => by
    have ih := flatMap_eq_flatMap_take_iff f l
    have hshorter := length_flatMap_take_le f 1 l
    rw [List.flatMap_cons, List.flatMap_cons, List.forall_mem_cons, ← ih]
    constructor
    · intro h
      have hlength := congrArg List.length h
      rw [List.length_append, List.length_append, List.length_take] at hlength
      have hx : (f x).length ≤ 1 := by omega
      rw [List.take_of_length_le hx] at h
      exact ⟨hx, List.append_cancel_left h⟩
    · rintro ⟨hx, h⟩
      rw [List.take_of_length_le hx, h]

/-! ## Agreement -/

/-- The lines of the resolver configuration; a file that cannot be read has none. -/
def resolverLines (system : System) : List Text :=
  match system.readToString resolvConf with
  | .error _ => []
  | .ok contents => lines contents

theorem nameservers_eq (system : System) :
    nameservers system = (resolverLines system).flatMap (fun line => (nameserverValues line).take 1) := by
  unfold nameservers resolverLines
  cases system.readToString resolvConf with
  | error e => rfl
  | ok contents => exact parseNameservers_eq contents

theorem dnsEntries_nameservers (system : System) :
    (dnsEntries system).nameservers = (resolverLines system).flatMap nameserverValues := by
  unfold dnsEntries resolverLines
  cases system.readToString resolvConf with
  | error e => rfl
  | ok contents => exact foldl_readLine_nameservers (lines contents) .none

theorem field_nameservers (system : System) (canonical : Except IoError Text) :
    (Dns.jsonDns system canonical).field "nameservers" = some (Json.strings (dnsEntries system).nameservers) := rfl

/-- **The two readers of the resolver configuration agree** exactly on files whose nameserver lines have one value at
most; what the resolver reads is what a health check validates. -/
theorem json_dns_agrees_iff (calls : CheckCalls) (canonical : Except IoError Text) :
    ((Dns.jsonDns calls.system canonical).field "nameservers" = some (Json.strings (nameservers calls.system)) ↔
      ∀ line ∈ resolverLines calls.system, (nameserverValues line).length ≤ 1) ∧
    ∀ active inputs, checkInputs calls active = .ok inputs → inputs.nameservers = nameservers calls.system := by
  constructor
  · rw [field_nameservers, Option.some.injEq, Json.strings_inj, dnsEntries_nameservers, nameservers_eq]
    exact flatMap_eq_flatMap_take_iff nameserverValues (resolverLines calls.system)
  · intro active inputs h
    obtain ⟨contents, route, neighbors, -, -, -, -, rfl⟩ := checkInputs_eq_ok_iff.1 h
    rfl

/-- A machine with a resolver configuration and nothing else. -/
def resolverMachine (contents : Text) : System where
  readToString := fun path => if path = resolvConf then .ok contents else .error (.os 2)
  exists_ := fun _ => false
  readDir := fun _ => .error (.os 2)
  bind := .error (.os 1)
  ioctl := fun _ _ => none

/-- A second address on a nameserver line is in the JSON, and no health check sees it. -/
theorem second_nameserver_is_unchecked :
    (dnsEntries (resolverMachine "nameserver 1.1.1.1 8.8.8.8\n")).nameservers = [("1.1.1.1" : Text), "8.8.8.8"] ∧
    nameservers (resolverMachine "nameserver 1.1.1.1 8.8.8.8\n") = [("1.1.1.1" : Text)] ∧
    ¬ ∀ (system : System) (canonical : Except IoError Text),
      (Dns.jsonDns system canonical).field "nameservers" = some (Json.strings (nameservers system)) := by
  have hjson : (dnsEntries (resolverMachine "nameserver 1.1.1.1 8.8.8.8\n")).nameservers =
      [("1.1.1.1" : Text), "8.8.8.8"] := by decide +kernel
  have hresolver : nameservers (resolverMachine "nameserver 1.1.1.1 8.8.8.8\n") = [("1.1.1.1" : Text)] := by
    decide +kernel
  refine ⟨hjson, hresolver, fun h => ?_⟩
  have hagree := h (resolverMachine "nameserver 1.1.1.1 8.8.8.8\n") (.ok resolvConf)
  rw [field_nameservers, Option.some.injEq, Json.strings_inj, hjson, hresolver] at hagree
  cases hagree

end Networkrs
