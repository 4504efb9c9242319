import Mathlib.Data.Prod.Lex
import Networkrs.GenlClient
import Networkrs.Lib.Sorted
import Networkrs.NextHops
/-!
# DualStack — tables of both address families

`ip_neighbors`, `ip_addresses`, `ip_routes` and `ip_rules` of `netlink.rs`: a dump of each family, of which only the
records of the family are retained, and both parts in the order of their key.  The kernel may answer a dump of one
family with the records of all, so what is retained matters.  It is decided by the address of a record, and every parser
gives a record an address of its message's family (`parseNeighbor_family` and its like); so each message counts for the
dump of its own family and for no other.  Routes and rules are all listed; neighbors and addresses exactly when the
loops over `parse_response` hear those of the family (`dual_stack_exact_iff`).
-/
namespace Networkrs

open Machine Framing Collect

def rtmGetaddr : UInt16 := 22
def rtmGetroute : UInt16 := 26
def rtmGetneigh : UInt16 := 30
def rtmGetrule : UInt16 := 34

def addressSequence : UInt32 := 3
def ruleDumpSequence : UInt32 := 5

/-- `ip_family_matches_family`. -/
def ipFamilyMatchesFamily : IpFamily → UInt8 → Bool
  | .ipv4, family => family = afInet
  | .ipv6, family => family = afInet6

/-- `EPROTONOSUPPORT` or `EAFNOSUPPORT`. -/
def ipv6Unavailable : IoError → Bool
  | .os code => code = 93 || code = 97
  | .custom .. => false

/-! ## Keys -/

/-- The place of an address in the order of `IpAddr`: the IPv4 addresses first, those of a family by their value. -/
def IpAddr.rank : IpAddr → Nat
  | .v4 address => address.bits.toNat
  | .v6 address => 2 ^ 32 + ByteOrder.big.read address.octets

/-- The place of a metric in the order of `Option<u32>`. -/
def metricRank (metric : Option UInt32) : Nat := metric.elim 0 (fun metric => metric.toNat + 1)

def neighborKey (neighbor : Neighbor) : ℤ ×ₗ ℕ := toLex (neighbor.interfaceIndex.toInt, neighbor.address.rank)

def addressKey (address : Address) : ℤ ×ₗ ℕ := toLex (address.interfaceIndex.toInt, address.local.rank)

def addressPrefixKey (address : Address) : ℤ ×ₗ ℕ ×ₗ ℕ :=
  toLex (address.interfaceIndex.toInt, toLex (address.local.rank, address.prefixLength.toNat))

def routeKey (route : Route) : ℕ ×ₗ ℕ ×ₗ ℕ ×ₗ ℕ :=
  toLex (route.table.toNat, toLex (route.destination.rank, toLex (route.prefixLength.toNat, metricRank route.metric)))

def ruleKey (rule : Rule) : ℕ := rule.priority.toNat

/-! ## A dump of one family -/

/-- What the calls of one dump return: opening the socket, sending the request, and the replies to it. -/
structure DumpCalls where
  socket : Except Int32 Unit
  bind : Except Int32 Unit
  sent : Sent
  replies : Socket

def openRouteSocket (calls : DumpCalls) : IoResult Unit :=
  match calls.socket with
  | .error errno => .err (.os errno)
  | .ok () =>
    match calls.bind with
    | .error errno => .err (.os errno)
    | .ok () => .ok ()

def sendRequest (sent : Sent) (request : Bytes) : IoResult Unit :=
  match sent with
  | .failed errno => .err (.os errno)
  | .bytes n => if n ≠ request.length then .err (.custom .writeZero "incomplete netlink request") else .ok ()

variable (host : Host)

/-- A request for all records of a family: its message is zero but for the family. -/
def dumpRequest (messageType : UInt16) (sequence : UInt32) (family : UInt8) (size : Nat) : Bytes :=
  let header : MessageHeader :=
    { length := UInt32.ofNat (MessageHeader.size + size)
      messageType := messageType
      flags := nlmFRequest ||| nlmFDump
      sequence := sequence
      portId := 0 }
  header.bytes host ++ family :: List.replicate (size - 1) 0

section
variable {T κ : Type} [LinearOrder κ]

/-- The socket, the request and the receive loop of a dump. -/
def familyDump (calls : DumpCalls) (request : Bytes) (loop : Socket → IoResult (List T) × Socket) :
    IoResult (List T) := do
  openRouteSocket calls
  sendRequest calls.sent request
  (loop calls.replies).1

/-- `records.retain(..)` and `records.sort_by_key(..)`. -/
def retainSorted (key : T → κ) (keeps : T → Bool) (dump : IoResult (List T)) : IoResult (List T) := do
  let records ← dump
  return sortByKey key (records.filter keeps)

/-- `ip_neighbors` and its like, of the parts of both families. -/
def dualStack (key : T → κ) (ipv4 ipv6 : IoResult (List T)) : IoResult (List T) := do
  let entries ← ipv4
  match ipv6 with
  | .ok ipv6 => return sortByKey key (entries ++ ipv6)
  | .err e => if ipv6Unavailable e then return sortByKey key entries else .err e
  | .panicked p => .panicked p
  | .waiting => .waiting

end

section
variable (calls : DumpCalls) (family : UInt8)

def neighborDump : IoResult (List Neighbor) :=
  familyDump calls (dumpRequest host rtmGetneigh requestSequence family NeighborMessage.size)
    (neighborsLoop host requestSequence)

def neighbors : IoResult (List Neighbor) :=
  retainSorted neighborKey (fun neighbor => ipAddressMatchesFamily neighbor.address family)
    (neighborDump host calls family)

def addressDump : IoResult (List Address) :=
  familyDump calls (dumpRequest host rtmGetaddr addressSequence family AddressMessage.size)
    (addressesLoop host addressSequence)

def addressesForFamily : IoResult (List Address) :=
  retainSorted addressKey (fun address => ipAddressMatchesFamily address.local family) (addressDump host calls family)

def routeTableDump : IoResult (List Route) :=
  familyDump calls (dumpRequest host rtmGetroute routeDumpSequence family RouteMessage.size)
    (receiveDump host routeDumpSequence rtmNewroute "route" (parseRoute host))

def routesForFamily : IoResult (List Route) :=
  retainSorted routeKey (fun route => ipAddressMatchesFamily route.destination family)
    (routeTableDump host calls family)

def ruleDump : IoResult (List Rule) :=
  familyDump calls (dumpRequest host rtmGetrule ruleDumpSequence family RuleMessage.size)
    (receiveDump host ruleDumpSequence rtmNewrule "rule" (parseRule host))

def rulesForFamily : IoResult (List Rule) :=
  retainSorted ruleKey (fun rule => ipFamilyMatchesFamily rule.family family) (ruleDump host calls family)

end

section
variable (calls4 calls6 : DumpCalls)

def ipNeighbors : IoResult (List Neighbor) :=
  dualStack neighborKey (neighbors host calls4 afInet) (neighbors host calls6 afInet6)

def ipAddresses : IoResult (List Address) :=
  dualStack addressPrefixKey (addressesForFamily host calls4 afInet) (addressesForFamily host calls6 afInet6)

def ipRoutes : IoResult (List Route) :=
  dualStack routeKey (routesForFamily host calls4 afInet) (routesForFamily host calls6 afInet6)

def ipRules : IoResult (List Rule) :=
  dualStack ruleKey (rulesForFamily host calls4 afInet) (rulesForFamily host calls6 afInet6)

end

/-! ## The family of a record -/

/-- The family byte of a message, the first byte of its struct. -/
def messageFamily (message : Bytes) : UInt8 := u8At (message.drop MessageHeader.size) 0

/-- The parser of the messages of one family alone. -/
def ofFamily {T : Type} (family : UInt8) (parse : Bytes → Checked (Option T)) (message : Bytes) : Checked (Option T) :=
  if messageFamily message = family then parse message else .ok none

/-- A parser whose records show the family of their messages, IPv4 or IPv6. -/
def ShowsFamily {T : Type} (parse : Bytes → Checked (Option T)) (shows_ : T → UInt8 → Bool) : Prop :=
  ∀ message record, parse message = .ok (some record) →
    ∀ family, shows_ record family = true ↔ messageFamily message = family

theorem ipAddressMatchesFamily_iff {address : IpAddr} {family : UInt8}
    (h : ipAddressMatchesFamily address family = true) (family' : UInt8) :
    ipAddressMatchesFamily address family' = true ↔ family = family' := by
  cases address with
  | v4 address =>
    obtain rfl := of_decide_eq_true h
    exact decide_eq_true_iff.trans eq_comm
  | v6 address =>
    obtain rfl := of_decide_eq_true h
    exact decide_eq_true_iff.trans eq_comm

/-- **The address read from an attribute is of the family it is read for.** -/
theorem matches_ipFromBytes {family : UInt8} {value : Bytes} {address : IpAddr}
    (h : ipFromBytes family value = some address) : ipAddressMatchesFamily address family = true := by
  unfold ipFromBytes at h
  split at h
  · next hfamily =>
    obtain ⟨ip, -, rfl⟩ := Option.map_eq_some_iff.1 h
    exact decide_eq_true hfamily
  · split at h
    · next hfamily =>
      obtain ⟨ip, -, rfl⟩ := Option.map_eq_some_iff.1 h
      exact decide_eq_true hfamily
    · cases h

theorem matches_findValue {family : UInt8} {attributes : List (UInt16 × Bytes)} {kind : UInt16} {address : IpAddr}
    (h : findValue attributes kind (ipFromBytes family) = some address) :
    ipAddressMatchesFamily address family = true := by
  obtain ⟨a, -, ha⟩ := List.exists_of_findSome?_eq_some h
  split at ha
  · exact matches_ipFromBytes ha
  · cases ha

theorem matches_unspecifiedAddress {family : UInt8} (h : ¬ (family ≠ afInet ∧ family ≠ afInet6)) :
    ipAddressMatchesFamily (unspecifiedAddress family) family = true := by
  unfold unspecifiedAddress
  by_cases hfamily : family = afInet6
  · rw [if_pos hfamily]
    exact decide_eq_true hfamily
  · rw [if_neg hfamily]
    have hinet : family = afInet := by
      by_contra hne
      exact h ⟨hne, hfamily⟩
    exact decide_eq_true hinet

theorem ipFamilyMatchesFamily_iff {recordFamily : IpFamily} {family : UInt8}
    (h : ipFamilyMatchesFamily recordFamily family = true) (family' : UInt8) :
    ipFamilyMatchesFamily recordFamily family' = true ↔ family = family' := by
  cases recordFamily with
  | ipv4 =>
    obtain rfl := of_decide_eq_true h
    exact decide_eq_true_iff.trans eq_comm
  | ipv6 =>
    obtain rfl := of_decide_eq_true h
    exact decide_eq_true_iff.trans eq_comm

/-- **A parser shows the family** when its records do for the family of the struct, with which a message begins. -/
theorem showsFamily_of_struct {S T : Type} {read : Bytes → Option S} {family : S → UInt8}
    {parse : Bytes → Checked (Option T)} {shows_ : T → UInt8 → Bool}
    (hread : ∀ bytes s, read bytes = some s → family s = u8At bytes 0)
    (hshows : ∀ record f, shows_ record f = true → ∀ f', shows_ record f' = true ↔ f = f')
    (hparse : ∀ message record, parse message = .ok (some record) →
      ∃ s, (getFrom message MessageHeader.size).bind read = some s ∧ shows_ record (family s) = true) :
    ShowsFamily parse shows_ := by
  intro message record h f
  obtain ⟨s, hs, hrecord⟩ := hparse message record h
  obtain ⟨bytes, hbytes, hstruct⟩ := Option.bind_eq_some_iff.1 hs
  have hfamily : messageFamily message = family s := by
    unfold getFrom at hbytes
    split at hbytes
    · cases hbytes
      exact (hread _ _ hstruct).symm
    · cases hbytes
  rw [hfamily]
  exact hshows record (family s) hrecord f

theorem parseAddress_family :
    ShowsFamily (parseAddress host) (fun address => ipAddressMatchesFamily address.local) := by
  refine @showsFamily_of_struct _ _ (AddressMessage.read host) AddressMessage.family _ _ ?_
    (fun record f => ipAddressMatchesFamily_iff) ?_
  · intro bytes s h
    unfold AddressMessage.read at h
    split at h
    · cases h
    · cases h
      rfl
  · intro message record h
    unfold parseAddress at h
    split at h
    · cases h
    · next s hs =>
      refine ⟨s, hs, ?_⟩
      split at h
      · cases h
      · rw [attributes_eq, ok_bind] at h
        split at h
        · cases h
        · next attributes _ =>
          dsimp only at h
          split at h
          · cases h
          · next localAddress hlocal =>
            cases h
            rcases Option.or_eq_some_iff.1 hlocal with hfound | ⟨-, hfound⟩
            · exact matches_findValue hfound
            · exact matches_findValue hfound

theorem parseRoute_family :
    ShowsFamily (parseRoute host) (fun route => ipAddressMatchesFamily route.destination) := by
  refine @showsFamily_of_struct _ _ RouteMessage.read RouteMessage.family _ _ ?_
    (fun record f => ipAddressMatchesFamily_iff) ?_
  · intro bytes s h
    unfold RouteMessage.read at h
    split at h
    · cases h
    · cases h
      rfl
  · intro message record h
    obtain ⟨s, attributes, hs, hfamily, hbuild⟩ := (parseRoute_parses host).exists_build host h
    obtain ⟨nextHops, hroute⟩ := exists_buildRoute host s attributes
    rw [hroute] at hbuild
    cases hbuild
    refine ⟨s, hs, ?_⟩
    -- a route without a destination has the unspecified one of its family
    unfold routeOf
    dsimp only
    cases hfound : findValue attributes rtaDst (ipFromBytes s.family) with
    | none => exact matches_unspecifiedAddress hfamily
    | some address => exact matches_findValue hfound

theorem parseRule_family : ShowsFamily (parseRule host) (fun rule => ipFamilyMatchesFamily rule.family) := by
  refine @showsFamily_of_struct _ _ (RuleMessage.read host) RuleMessage.family _ _ ?_
    (fun record f => ipFamilyMatchesFamily_iff) ?_
  · intro bytes s h
    unfold RuleMessage.read at h
    split at h
    · cases h
    · cases h
      rfl
  · intro message record h
    obtain ⟨s, attributes, hs, hfamily, hbuild⟩ := (parseRule_parses host).exists_build host h
    cases hbuild
    refine ⟨s, hs, ?_⟩
    unfold ruleOf
    dsimp only
    by_cases hinet : s.family = afInet
    · rw [if_pos hinet]
      exact decide_eq_true hinet
    · rw [if_neg hinet]
      have hinet6 : s.family = afInet6 := by
        by_contra hne
        exact hfamily ⟨hinet, hne⟩
      exact decide_eq_true hinet6

/-- The address held in the loop of `parse_neighbor` is of the message's family. -/
theorem matches_foldl_set {family : UInt8} : ∀ (l : List (UInt16 × Bytes)) (read : NeighborAttributes),
    (∀ address, read.address = some address → ipAddressMatchesFamily address family = true) →
    ∀ address, (l.foldl (fun read a => read.set host family a.1 a.2) read).address = some address →
      ipAddressMatchesFamily address family = true
  | [], read, h => h
  | a :: l, read, h => by
    refine matches_foldl_set l (read.set host family a.1 a.2) (fun address haddress => ?_)
    rw [NeighborAttributes.set_eq] at haddress
    dsimp only at haddress
    split at haddress
    · exact matches_ipFromBytes haddress
    · exact h address haddress

theorem parseNeighbor_family :
    ShowsFamily (parseNeighbor host false) (fun neighbor => ipAddressMatchesFamily neighbor.address) := by
  refine @showsFamily_of_struct _ _ (NeighborMessage.read host) NeighborMessage.family _ _ ?_
    (fun record f => ipAddressMatchesFamily_iff) ?_
  · intro bytes s h
    unfold NeighborMessage.read at h
    split at h
    · cases h
    · cases h
      rfl
  · intro message record h
    unfold parseNeighbor at h
    split at h
    · cases h
    · next s hs =>
      refine ⟨s, hs, ?_⟩
      split at h
      · cases h
      · dsimp only at h
        rw [walk_setNeighborAttribute] at h
        cases hattributes : attributesIn host (message.drop (alignTo4 (MessageHeader.size + NeighborMessage.size))) with
        | none =>
          rw [hattributes] at h
          cases h
        | some l =>
          rw [hattributes] at h
          dsimp only at h
          rw [ok_bind] at h
          dsimp only at h
          split at h
          · cases h
          · split at h
            · cases h
            · next address haddress =>
              cases h
              refine matches_foldl_set host l .none (fun address h => ?_) address haddress
              cases h

/-! ## The records of a family -/

section
variable {T : Type} (expectedSequence : UInt32) (expectedType : UInt16) (parse : Bytes → Checked (Option T))

/-- **The records of a family in a completed stream**: those parsed from its messages, before the `NLMSG_DONE` that
completes the dump. -/
def DumpedOfFamily (family : UInt8) (stream : List (Except IoError MessageItem)) (records : List T) : Prop :=
  ∃ (pre : List MessageItem) (done : MessageItem) (post : List (Except IoError MessageItem)),
    stream = pre.map .ok ++ .ok done :: post ∧
    (∀ i ∈ pre, dumpEnding host expectedSequence expectedType parse i = none) ∧
    dumpEnding host expectedSequence expectedType parse done = some .complete ∧
    records = pre.flatMap (dumpValues expectedSequence expectedType (ofFamily family parse))

variable {expectedSequence expectedType parse} {shows_ : T → UInt8 → Bool}

/-- A stream has one list of records of a family. -/
theorem DumpedOfFamily.unique {family : UInt8} {stream : List (Except IoError MessageItem)} {records records' : List T}
    (h : DumpedOfFamily host expectedSequence expectedType parse family stream records)
    (h' : DumpedOfFamily host expectedSequence expectedType parse family stream records') : records = records' := by
  have hrun := (run_judgeStream_eq_ok_iff _ _ _ _).2 h
  have hrun' := (run_judgeStream_eq_ok_iff _ _ _ _).2 h'
  exact Outcome.ok.inj (hrun.symm.trans hrun')

theorem parsedValues_ofFamily (hshows : ShowsFamily parse shows_) (family : UInt8) (message : Bytes) :
    (parsedValues parse message).filter (fun record => shows_ record family) =
      parsedValues (ofFamily family parse) message := by
  unfold parsedValues ofFamily
  cases hparse : parse message with
  | error p => split_ifs <;> rfl
  | ok value =>
    cases value with
    | none => split_ifs <;> rfl
    | some record =>
      have hrecord := hshows message record hparse family
      by_cases hfamily : messageFamily message = family
      · have hkept := hrecord.2 hfamily
        simp [hfamily, hkept]
      · have hdropped := Bool.eq_false_iff.2 (fun h => hfamily (hrecord.1 h))
        simp [hfamily, hdropped]

theorem dumpValues_ofFamily (hshows : ShowsFamily parse shows_) (family : UInt8) (i : MessageItem) :
    (dumpValues expectedSequence expectedType parse i).filter (fun record => shows_ record family) =
      dumpValues expectedSequence expectedType (ofFamily family parse) i := by
  cases i with
  | fault f => rfl
  | record header message =>
    unfold dumpValues
    dsimp only
    split_ifs
    · exact parsedValues_ofFamily hshows family message
    · rfl

/-- **What is retained of a dump** is what its messages of the family hold. -/
theorem dumpedOfFamily_of_textless (hshows : ShowsFamily parse shows_) (family : UInt8) {dump : IoResult (List T)}
    {stream : List (Except IoError MessageItem)}
    (h : dump.mapErr IoError.textless =
      run (judgeStream (verdictOf (dumpEnding host expectedSequence expectedType parse)
        (dumpValues expectedSequence expectedType parse))) stream)
    {records : List T} (hrecords : dump = .ok records) :
    DumpedOfFamily host expectedSequence expectedType parse family stream
      (records.filter (fun record => shows_ record family)) := by
  rw [hrecords] at h
  obtain ⟨pre, done, post, hstream, hpre, hdone, rfl⟩ := (run_judgeStream_eq_ok_iff _ _ _ _).1 h.symm
  refine ⟨pre, done, post, hstream, hpre, hdone, ?_⟩
  rw [List.filter_flatMap]
  exact List.flatMap_congr (fun i _ => dumpValues_ofFamily hshows family i)

theorem loop_of_familyDump {calls : DumpCalls} {request : Bytes} {loop : Socket → IoResult (List T) × Socket}
    {records : List T} (h : familyDump calls request loop = .ok records) : (loop calls.replies).1 = .ok records := by
  unfold familyDump at h
  obtain ⟨-, -, h⟩ := (Outcome.bind_eq_ok_iff _ _ _).1 h
  obtain ⟨-, -, h⟩ := (Outcome.bind_eq_ok_iff _ _ _).1 h
  exact h

end

/-! ## Both families -/

section
variable {T κ κ' : Type} [LinearOrder κ] [LinearOrder κ']

/-- **What a dump of both families returns**, of the dumps of each and of the records each has of its family. -/
structure MergesFamilies (key : T → κ) (dump4 dump6 : IoResult (List T)) (part4 part6 : List T → Prop)
    (whole : IoResult (List T)) : Prop where
  both : dump4.IsOk → dump6.IsOk → ∃ ipv4 ipv6 entries, part4 ipv4 ∧ part6 ipv6 ∧ whole = .ok entries ∧
    entries.Perm (ipv4 ++ ipv6) ∧ entries.Pairwise (fun a b => key a ≤ key b)
  unavailable : dump4.IsOk → ∀ e, dump6 = .err e → ipv6Unavailable e = true → ∃ ipv4 entries, part4 ipv4 ∧
    whole = .ok entries ∧ entries.Perm ipv4 ∧ entries.Pairwise (fun a b => key a ≤ key b)
  failed4 : ∀ e, dump4 = .err e → whole = .err e
  failed6 : dump4.IsOk → ∀ e, dump6 = .err e → ipv6Unavailable e = false → whole = .err e
  only : whole.IsOk → dump4.IsOk ∧ (dump6.IsOk ∨ ∃ e, dump6 = .err e ∧ ipv6Unavailable e = true)

/-- A dump that is unavailable: it ends with one of the two errors of a machine without IPv6. -/
def IsUnavailable (dump : IoResult (List T)) : Prop := ∃ e, dump = .err e ∧ ipv6Unavailable e = true

/-- What is retained of a dump is, up to its order, a list of records with a property. -/
def Retains (dump : IoResult (List T)) (keeps : T → Bool) (part : List T → Prop) : Prop :=
  ∀ records, dump = .ok records → ∃ entries, part entries ∧ (records.filter keeps).Perm entries

variable {key : T → κ} {key' : T → κ'} {keeps4 keeps6 : T → Bool} {dump4 dump6 : IoResult (List T)}
  {part4 part6 : List T → Prop}

theorem dualStack_merges (h4 : dump6.IsOk ∨ IsUnavailable dump6 → Retains dump4 keeps4 part4)
    (h6 : dump4.IsOk → Retains dump6 keeps6 part6) :
    MergesFamilies key dump4 dump6 part4 part6
      (dualStack key (retainSorted key' keeps4 dump4) (retainSorted key' keeps6 dump6)) where
  both := by
    rintro ⟨records4, rfl⟩ ⟨records6, rfl⟩
    obtain ⟨ipv4, hipv4, hperm4⟩ := h4 (.inl ⟨_, rfl⟩) records4 rfl
    obtain ⟨ipv6, hipv6, hperm6⟩ := h6 ⟨_, rfl⟩ records6 rfl
    refine ⟨ipv4, ipv6, _, hipv4, hipv6, rfl, ?_, pairwise_sortByKey key _⟩
    have hparts := ((sortByKey_perm key' _).trans hperm4).append ((sortByKey_perm key' _).trans hperm6)
    exact (sortByKey_perm key _).trans hparts
  unavailable := by
    rintro ⟨records4, rfl⟩ e rfl he
    obtain ⟨ipv4, hipv4, hperm4⟩ := h4 (.inr ⟨e, rfl, he⟩) records4 rfl
    refine ⟨ipv4, _, hipv4, if_pos he, ?_, pairwise_sortByKey key _⟩
    exact (sortByKey_perm key _).trans ((sortByKey_perm key' _).trans hperm4)
  failed4 := by
    rintro e rfl
    rfl
  failed6 := by
    rintro ⟨records4, rfl⟩ e rfl he
    have hunavailable : ¬ ipv6Unavailable e = true := by
      rw [he]
      exact Bool.false_ne_true
    exact if_neg hunavailable
  only := by
    rintro ⟨entries, h⟩
    obtain ⟨ipv4, hipv4, h⟩ := (Outcome.bind_eq_ok_iff _ _ _).1 h
    obtain ⟨records4, hrecords4, -⟩ := (Outcome.bind_eq_ok_iff _ _ _).1 hipv4
    refine ⟨⟨records4, hrecords4⟩, ?_⟩
    cases hdump6 : dump6 with
    | ok records6 => exact Or.inl ⟨records6, rfl⟩
    | err e =>
      rw [hdump6] at h
      refine Or.inr ⟨e, rfl, ?_⟩
      by_contra hunavailable
      have herr : (Outcome.err e : IoResult (List T)) = .ok entries := (if_neg hunavailable).symm.trans h
      cases herr
    | panicked p =>
      rw [hdump6] at h
      cases h
    | waiting =>
      rw [hdump6] at h
      cases h

/-- Parts that a predicate tells apart are compared one by one. -/
theorem perm_of_append_perm {p : T → Bool} {a a' b b' : List T} (ha : ∀ x ∈ a, p x = true) (ha' : ∀ x ∈ a', p x = true)
    (hb : ∀ x ∈ b, p x = false) (hb' : ∀ x ∈ b', p x = false) (h : (a ++ b).Perm (a' ++ b')) :
    a.Perm a' ∧ b.Perm b' := by
  have hnil : ∀ {l : List T}, (∀ x ∈ l, p x = false) → l.filter p = [] := by
    intro l hl
    exact List.filter_eq_nil_iff.2 (fun x hx => by simp [hl x hx])
  have hfilter := h.filter p
  rw [List.filter_append, List.filter_append, List.filter_eq_self.2 ha, List.filter_eq_self.2 ha', hnil hb, hnil hb',
    List.append_nil, List.append_nil] at hfilter
  refine ⟨hfilter, ?_⟩
  exact (List.perm_append_left_iff a').1 ((hfilter.symm.append_right b).trans h)

/-- **A dump of both families merges them exactly when it retains what it asked for**: the IPv4 part when it is shown,
and the IPv6 part when both are. -/
theorem dualStack_merges_iff (hkeeps : ∀ t, keeps4 t = true → keeps6 t = false)
    (hpart4 : ∀ entries, part4 entries → ∀ t ∈ entries, keeps4 t = true)
    (hpart6 : ∀ entries, part6 entries → ∀ t ∈ entries, keeps6 t = true) :
    MergesFamilies key dump4 dump6 part4 part6
        (dualStack key (retainSorted key' keeps4 dump4) (retainSorted key' keeps6 dump6)) ↔
      (dump6.IsOk ∨ IsUnavailable dump6 → Retains dump4 keeps4 part4) ∧ (dump4.IsOk → Retains dump6 keeps6 part6) := by
  refine ⟨fun h => ?_, fun h => dualStack_merges h.1 h.2⟩
  have hnot : ∀ t, keeps6 t = true → keeps4 t = false := by
    intro t ht
    by_contra hkept
    rw [hkeeps t (Bool.of_not_eq_false hkept)] at ht
    cases ht
  have hboth : ∀ records4 records6, dump4 = .ok records4 → dump6 = .ok records6 →
      ∃ ipv4 ipv6, part4 ipv4 ∧ part6 ipv6 ∧ (records4.filter keeps4).Perm ipv4 ∧
        (records6.filter keeps6).Perm ipv6 := by
    rintro records4 records6 rfl rfl
    obtain ⟨ipv4, ipv6, entries, hipv4, hipv6, hwhole, hperm, -⟩ := h.both ⟨_, rfl⟩ ⟨_, rfl⟩
    cases hwhole
    have hshown : (records4.filter keeps4 ++ records6.filter keeps6).Perm (ipv4 ++ ipv6) :=
      ((sortByKey_perm key' _).append (sortByKey_perm key' _)).symm.trans ((sortByKey_perm key _).symm.trans hperm)
    obtain ⟨hperm4, hperm6⟩ := perm_of_append_perm (p := keeps4) (fun t ht => (List.mem_filter.1 ht).2)
      (hpart4 ipv4 hipv4) (fun t ht => hnot t (List.mem_filter.1 ht).2) (fun t ht => hnot t (hpart6 ipv6 hipv6 t ht))
      hshown
    exact ⟨ipv4, ipv6, hipv4, hipv6, hperm4, hperm6⟩
  constructor
  · rintro hdump6 records4 hrecords4
    rcases hdump6 with ⟨records6, hrecords6⟩ | ⟨e, he, hunavailable⟩
    · obtain ⟨ipv4, -, hipv4, -, hperm, -⟩ := hboth records4 records6 hrecords4 hrecords6
      exact ⟨ipv4, hipv4, hperm⟩
    · obtain ⟨ipv4, entries, hipv4, hwhole, hperm, -⟩ := h.unavailable ⟨_, hrecords4⟩ e he hunavailable
      rw [hrecords4, he] at hwhole
      obtain rfl := Outcome.ok.inj ((if_pos hunavailable).symm.trans hwhole)
      exact ⟨ipv4, hipv4, ((sortByKey_perm key' _).symm.trans (sortByKey_perm key _).symm).trans hperm⟩
  · rintro ⟨records4, hrecords4⟩ records6 hrecords6
    obtain ⟨-, ipv6, -, hipv6, -, hperm⟩ := hboth records4 records6 hrecords4 hrecords6
    exact ⟨ipv6, hipv6, hperm⟩

end

section
variable (calls : DumpCalls) (family : UInt8)

def neighborsOf : List Neighbor → Prop :=
  DumpedOfFamily host requestSequence rtmNewneigh (parseNeighbor host false) family (received host [] calls.replies)

def addressesOf : List Address → Prop :=
  DumpedOfFamily host addressSequence rtmNewaddr (parseAddress host) family (received host [] calls.replies)

def routesOf : List Route → Prop :=
  DumpedOfFamily host routeDumpSequence rtmNewroute (parseRoute host) family (received host [] calls.replies)

def rulesOf : List Rule → Prop :=
  DumpedOfFamily host ruleDumpSequence rtmNewrule (parseRule host) family (received host [] calls.replies)

variable {calls family}

theorem routesOf_dump : Retains (routeTableDump host calls family)
    (fun route => ipAddressMatchesFamily route.destination family) (routesOf host calls family) := by
  intro records h
  refine ⟨_, ?_, List.Perm.refl _⟩
  exact dumpedOfFamily_of_textless host (parseRoute_family host) family
    (receiveDump_textless host _ _ (parseRoute host) "route" calls.replies) (loop_of_familyDump h)

theorem rulesOf_dump : Retains (ruleDump host calls family) (fun rule => ipFamilyMatchesFamily rule.family family)
    (rulesOf host calls family) := by
  intro records h
  refine ⟨_, ?_, List.Perm.refl _⟩
  exact dumpedOfFamily_of_textless host (parseRule_family host) family
    (receiveDump_textless host _ _ (parseRule host) "rule" calls.replies) (loop_of_familyDump h)

end

/-! ## What the loops over `parse_response` must hear -/

/-- **How a dump ends**: at the first of its calls that fails, or at the first ending of a stream. -/
def DumpEnds (ending : Except IoError MessageItem → Option (Ending IoError)) (request : Bytes) (calls : DumpCalls)
    (stream : List (Except IoError MessageItem)) (e : Ending IoError) : Prop :=
  match calls.socket, calls.bind, calls.sent with
  | .error errno, _, _ => e = .failed (.os errno)
  | .ok (), .error errno, _ => e = .failed (.os errno)
  | .ok (), .ok (), .failed errno => e = .failed (.os errno)
  | .ok (), .ok (), .bytes n =>
    if n ≠ request.length then e = .failed (.custom .writeZero [])
    else ∃ pre i post, stream = pre ++ i :: post ∧ (∀ x ∈ pre, ending x = none) ∧ ending i = some e

/-- **A dump ends as its calls do.** -/
theorem familyDump_ends_iff {T : Type} {ending : Except IoError MessageItem → Option (Ending IoError)}
    {values : Except IoError MessageItem → List T} {request : Bytes} {calls : DumpCalls}
    {stream : List (Except IoError MessageItem)} {loop : Socket → IoResult (List T) × Socket}
    (hloop : (loop calls.replies).1.mapErr IoError.textless = run (verdictOf ending values) stream)
    (e : Ending IoError) :
    (∃ records, (familyDump calls request loop).mapErr IoError.textless = e.outcome records) ↔
      DumpEnds ending request calls stream e := by
  have hfailed : ∀ error : IoError, (∃ records : List T, Outcome.err error = e.outcome records) ↔
      e = .failed error := by
    intro error
    cases e <;> simp [Ending.outcome, eq_comm]
  unfold familyDump openRouteSocket DumpEnds
  cases calls.socket with
  | error errno => exact hfailed (.os errno)
  | ok u =>
    cases calls.bind with
    | error errno => exact hfailed (.os errno)
    | ok u =>
      cases calls.sent with
      | failed errno => exact hfailed (.os errno)
      | bytes n =>
        by_cases hn : n = request.length
        · have hsend : sendRequest (.bytes n) request = .ok () := if_neg (not_not.2 hn)
          have hends : (∃ records, (loop calls.replies).1.mapErr IoError.textless = e.outcome records) ↔
              ∃ pre i post, stream = pre ++ i :: post ∧ (∀ x ∈ pre, ending x = none) ∧ ending i = some e := by
            rw [hloop]
            constructor
            · rintro ⟨records, h⟩
              obtain ⟨pre, i, post, hstream, hpre, hi, -⟩ := (run_eq_outcome_iff ending values stream e records).1 h
              exact ⟨pre, i, post, hstream, hpre, hi⟩
            · rintro ⟨pre, i, post, hstream, hpre, hi⟩
              exact ⟨_, (run_eq_outcome_iff ending values stream e _).2 ⟨pre, i, post, hstream, hpre, hi, fun _ => rfl⟩⟩
          rw [hsend]
          dsimp only
          rw [if_neg (not_not.2 hn)]
          exact hends
        · have hsend : sendRequest (.bytes n) request = .err (.custom .writeZero "incomplete netlink request") :=
            if_pos hn
          rw [hsend]
          dsimp only
          rw [if_pos hn]
          exact hfailed (.custom .writeZero [])

theorem familyDump_isOk_iff {T : Type} {ending : Except IoError MessageItem → Option (Ending IoError)}
    {values : Except IoError MessageItem → List T} {request : Bytes} {calls : DumpCalls}
    {stream : List (Except IoError MessageItem)} {loop : Socket → IoResult (List T) × Socket}
    (hloop : (loop calls.replies).1.mapErr IoError.textless = run (verdictOf ending values) stream) :
    (familyDump calls request loop).IsOk ↔ DumpEnds ending request calls stream .complete := by
  rw [← familyDump_ends_iff hloop]
  exact exists_congr (fun records => (Outcome.mapErr_eq_ok_iff IoError.textless _ records).symm)

/-- A dump ends with one of the two errors of a machine without IPv6. -/
theorem familyDump_isUnavailable_iff {T : Type} {ending : Except IoError MessageItem → Option (Ending IoError)}
    {values : Except IoError MessageItem → List T} {request : Bytes} {calls : DumpCalls}
    {stream : List (Except IoError MessageItem)} {loop : Socket → IoResult (List T) × Socket}
    (hloop : (loop calls.replies).1.mapErr IoError.textless = run (verdictOf ending values) stream) :
    IsUnavailable (familyDump calls request loop) ↔
      ∃ code, (code = 93 ∨ code = 97) ∧ DumpEnds ending request calls stream (.failed (.os code)) := by
  constructor
  · rintro ⟨e, he, hunavailable⟩
    cases e with
    | os code =>
      refine ⟨code, by simpa [ipv6Unavailable] using hunavailable, (familyDump_ends_iff hloop _).1 ⟨[], ?_⟩⟩
      rw [he]
      rfl
    | custom kind message => cases hunavailable
  · rintro ⟨code, hcode, hends⟩
    obtain ⟨records, h⟩ := (familyDump_ends_iff hloop _).2 hends
    refine ⟨.os code, ?_, by simpa [ipv6Unavailable] using hcode⟩
    cases hdump : familyDump calls request loop with
    | ok records => rw [hdump] at h; cases h
    | err e =>
      rw [hdump] at h
      cases e with
      | os code' => cases h; rfl
      | custom kind message => cases h
    | panicked p => rw [hdump] at h; cases h
    | waiting => rw [hdump] at h; cases h

section
variable {T : Type} (requestType : UInt16) (sequence : UInt32) (size : Nat) (replyType : UInt16)
  (parse : Bytes → Checked (Option T)) (calls : DumpCalls) (family : UInt8)

/-- How the dump of a family ends whose loop is one over `parse_response`. -/
def HeardEnds (e : Ending IoError) : Prop :=
  DumpEnds (streamEnding (dumpEnding host sequence replyType parse)) (dumpRequest host requestType sequence family size)
    calls (receivedHeard host sequence [] calls.replies) e

/-- **The records of a family are heard**, up to the end of what is heard. -/
def HearsFamily : Prop :=
  HearsValues (streamEnding (dumpEnding host sequence replyType parse))
    (streamValues (dumpValues sequence replyType (ofFamily family parse))) (receivedHearing host sequence calls.replies)

/-- **What the loops over `parse_response` must hear of both families**: the IPv4 records when the dumps show them, and
the IPv6 records when both dumps complete. -/
def HearsFamilies (calls4 calls6 : DumpCalls) : Prop :=
  (HeardEnds host requestType sequence size replyType parse calls6 afInet6 .complete ∨
      (∃ code, (code = 93 ∨ code = 97) ∧
        HeardEnds host requestType sequence size replyType parse calls6 afInet6 (.failed (.os code))) →
    HeardEnds host requestType sequence size replyType parse calls4 afInet .complete →
    HearsFamily host sequence replyType parse calls4 afInet) ∧
  (HeardEnds host requestType sequence size replyType parse calls4 afInet .complete →
    HeardEnds host requestType sequence size replyType parse calls6 afInet6 .complete →
    HearsFamily host sequence replyType parse calls6 afInet6)

variable {requestType sequence size replyType parse calls family} {shows_ : T → UInt8 → Bool}

/-- **A dump retains the records of its family exactly when they are heard.** -/
theorem retains_iff_hears (hshows : ShowsFamily parse shows_) {loop : Socket → IoResult (List T) × Socket}
    (hloop : (loop calls.replies).1.mapErr IoError.textless =
      run (judgeStream (verdictOf (dumpEnding host sequence replyType parse) (dumpValues sequence replyType parse)))
        (receivedHeard host sequence [] calls.replies)) :
    Retains (familyDump calls (dumpRequest host requestType sequence family size) loop)
        (fun record => shows_ record family)
        (DumpedOfFamily host sequence replyType parse family (received host [] calls.replies)) ↔
      (HeardEnds host requestType sequence size replyType parse calls family .complete →
        HearsFamily host sequence replyType parse calls family) := by
  have hwhole : whole (receivedHearing host sequence calls.replies) = received host [] calls.replies :=
    whole_flatMap_arrivalHearing host sequence _
  have hheardOf :
      heardOf (receivedHearing host sequence calls.replies) = receivedHeard host sequence [] calls.replies :=
    heardOf_flatMap_arrivalHearing host sequence _
  have hends : (familyDump calls (dumpRequest host requestType sequence family size) loop).IsOk ↔
      HeardEnds host requestType sequence size replyType parse calls family .complete :=
    familyDump_isOk_iff (by rw [hloop, judgeStream_verdictOf])
  -- what is retained is what a run over what is heard keeps of the family
  have hrun : ∀ records, familyDump calls (dumpRequest host requestType sequence family size) loop = .ok records →
      run (verdictOf (streamEnding (dumpEnding host sequence replyType parse))
        (streamValues (dumpValues sequence replyType (ofFamily family parse))))
        (heardOf (receivedHearing host sequence calls.replies)) =
          .ok (records.filter (fun record => shows_ record family)) := by
    intro records h
    rw [hheardOf, ← judgeStream_verdictOf]
    exact (run_judgeStream_eq_ok_iff _ _ _ _).2
      (dumpedOfFamily_of_textless host hshows family hloop (loop_of_familyDump h))
  have hpart : ∀ records, familyDump calls (dumpRequest host requestType sequence family size) loop = .ok records →
      ((∃ entries, DumpedOfFamily host sequence replyType parse family (received host [] calls.replies) entries ∧
        (records.filter (fun record => shows_ record family)).Perm entries) ↔
        HearsFamily host sequence replyType parse calls family) := by
    intro records h
    refine Iff.trans (exists_congr (fun entries => and_congr_left (fun _ => ?_)))
      (run_heard_perm_iff _ _ (hrun records h))
    rw [hwhole, ← judgeStream_verdictOf]
    exact (run_judgeStream_eq_ok_iff _ _ _ _).symm
  constructor
  · intro h hcomplete
    obtain ⟨records, hrecords⟩ := hends.2 hcomplete
    exact (hpart records hrecords).1 (h records hrecords)
  · intro h records hrecords
    exact (hpart records hrecords).2 (h (hends.1 ⟨records, hrecords⟩))

/-- The records of a family in a stream show it. -/
theorem DumpedOfFamily.shows (hshows : ShowsFamily parse shows_) {stream : List (Except IoError MessageItem)}
    {records : List T} (h : DumpedOfFamily host sequence replyType parse family stream records) :
    ∀ record ∈ records, shows_ record family = true := by
  obtain ⟨pre, done, post, -, -, -, rfl⟩ := h
  intro record hrecord
  obtain ⟨i, -, hi⟩ := List.mem_flatMap.1 hrecord
  rw [← dumpValues_ofFamily hshows family i] at hi
  exact (List.mem_filter.1 hi).2

/-- **A table whose loops are over `parse_response` merges both families exactly when they hear them.** -/
theorem merges_iff_hears {κ κ' : Type} [LinearOrder κ] [LinearOrder κ'] {key : T → κ} {key' : T → κ'}
    (hshows : ShowsFamily parse shows_) (hkeeps : ∀ t, shows_ t afInet = true → shows_ t afInet6 = false)
    {calls4 calls6 : DumpCalls} {loop : Socket → IoResult (List T) × Socket}
    (hloop : ∀ socket, (loop socket).1.mapErr IoError.textless =
      run (judgeStream (verdictOf (dumpEnding host sequence replyType parse) (dumpValues sequence replyType parse)))
        (receivedHeard host sequence [] socket)) :
    MergesFamilies key (familyDump calls4 (dumpRequest host requestType sequence afInet size) loop)
        (familyDump calls6 (dumpRequest host requestType sequence afInet6 size) loop)
        (DumpedOfFamily host sequence replyType parse afInet (received host [] calls4.replies))
        (DumpedOfFamily host sequence replyType parse afInet6 (received host [] calls6.replies))
        (dualStack key
          (retainSorted key' (fun t => shows_ t afInet)
            (familyDump calls4 (dumpRequest host requestType sequence afInet size) loop))
          (retainSorted key' (fun t => shows_ t afInet6)
            (familyDump calls6 (dumpRequest host requestType sequence afInet6 size) loop))) ↔
      HearsFamilies host requestType sequence size replyType parse calls4 calls6 := by
  have hrun : ∀ calls : DumpCalls, (loop calls.replies).1.mapErr IoError.textless =
      run (verdictOf (streamEnding (dumpEnding host sequence replyType parse))
        (streamValues (dumpValues sequence replyType parse))) (receivedHeard host sequence [] calls.replies) := by
    intro calls
    rw [hloop, judgeStream_verdictOf]
  rw [dualStack_merges_iff hkeeps (fun _ h => h.shows host hshows) (fun _ h => h.shows host hshows),
    familyDump_isOk_iff (hrun calls4), familyDump_isOk_iff (hrun calls6), familyDump_isUnavailable_iff (hrun calls6),
    retains_iff_hears host hshows (hloop calls4.replies), retains_iff_hears host hshows (hloop calls6.replies)]
  rfl

end

theorem ipAddressMatchesFamily_not (address : IpAddr) (h : ipAddressMatchesFamily address afInet = true) :
    ipAddressMatchesFamily address afInet6 = false := by
  cases address with
  | v4 address => rfl
  | v6 address => cases h

/-- A neighbor of the IPv4 table, behind an acknowledgement of the request in one datagram. -/
def acknowledgedNeighbor : Bytes :=
  MessageHeader.bytes hostX86 ⟨36, nlmsgError, 0x100, requestSequence, 0⟩ ++ [0, 0, 0, 0] ++
    MessageHeader.bytes hostX86 ⟨28, rtmGetneigh, 0x301, requestSequence, 0⟩ ++
    (MessageHeader.bytes hostX86 ⟨48, rtmNewneigh, 2, requestSequence, 0⟩ ++ [2, 0, 0, 0, 2, 0, 0, 0, 2, 0, 0, 1] ++
      [8, 0, 1, 0, 10, 0, 0, 1] ++ [10, 0, 2, 0, 0x02, 0x42, 0xac, 0x11, 0x00, 0x01, 0, 0])

def acknowledgedDone : Bytes := MessageHeader.bytes hostX86 ⟨20, nlmsgDone, 2, requestSequence, 0⟩ ++ [0, 0, 0, 0]

def acknowledgedCalls : DumpCalls :=
  ⟨.ok (), .ok (), .bytes 28, [.datagram acknowledgedNeighbor, .datagram acknowledgedDone]⟩

/-- A dump without records. -/
def doneCalls : DumpCalls := ⟨.ok (), .ok (), .bytes 28, [.datagram acknowledgedDone]⟩

end Networkrs
