import Networkrs.KernelRecords
/-!
# KernelTables — the tables of a kernel, listed

A kernel that holds a table answers a dump of a family with the entries of that family, and perhaps with others
(`DumpKernel`).  `ip_neighbors`, `ip_addresses`, `ip_routes` and `ip_rules` list the records of its whole table, each
once and in order, however the kernel packs its answers and whatever messages of other sequence numbers and types stand
among them (`ip_neighbors_exact` and its like).
-/
namespace Networkrs

open Machine Framing Collect

/-! ## Requests -/

/-- A request for a dump as the kernel reads it: its header, and the family its message begins with. -/
structure DumpQuery where
  messageType : UInt16
  flags : UInt16
  sequence : UInt32
  family : UInt8

def DumpQuery.read (host : Host) (bytes : Bytes) : Option DumpQuery :=
  match MessageHeader.read host bytes with
  | none => none
  | some header =>
    if header.length.toNat = bytes.length ∧ MessageHeader.size < bytes.length then
      some
        { messageType := header.messageType
          flags := header.flags
          sequence := header.sequence
          family := u8At bytes MessageHeader.size }
    else none

variable {host : Host}

/-- **A request asks for all entries of its family.** -/
theorem DumpQuery.read_dumpRequest (messageType : UInt16) (sequence : UInt32) (family : UInt8) {size : Nat}
    (hpos : 0 < size) (hsize : size < 1024) :
    DumpQuery.read host (dumpRequest host messageType sequence family size) =
      some ⟨messageType, nlmFRequest ||| nlmFDump, sequence, family⟩ := by
  have hlength : (dumpRequest host messageType sequence family size).length = MessageHeader.size + size := by
    simp only [dumpRequest, List.length_append, MessageHeader.length_bytes, List.length_cons, List.length_replicate,
      MessageHeader.size]
    omega
  have hdeclared : (UInt32.ofNat (MessageHeader.size + size)).toNat = MessageHeader.size + size := by
    refine UInt32.toNat_ofNat_of_lt' ?_
    rw [MessageHeader.size, UInt32.size]
    omega
  unfold DumpQuery.read
  rw [hlength]
  unfold dumpRequest
  dsimp only
  rw [MessageHeader.read_bytes]
  dsimp only
  rw [if_pos ⟨hdeclared, by omega⟩, u8At_skip (by simp [MessageHeader.size])]
  simp [MessageHeader.size, u8At]

/-! ## Kernels -/

/-- **A kernel with a table**: its answer to a query for a dump of the table holds of the family asked for what the
table does, and perhaps more. -/
structure DumpKernel {D : Type} (family : D → UInt8) (requestType : UInt16) where
  table : List D
  answer : DumpQuery → List D
  whole : ∀ q, q.messageType = requestType → q.flags = nlmFRequest ||| nlmFDump →
    (answer q).filter (fun d => family d = q.family) = table.filter (fun d => family d = q.family)

variable {D T : Type} {entryFamily : D → UInt8} {requestType : UInt16}

/-- **A kernel serves a dump**: it reads the request that is sent, and its answer is what the socket receives. -/
def DumpKernel.Serves (host : Host) (kernel : DumpKernel entryFamily requestType) (sends : D → WireMessage → Prop)
    (messageType : UInt16)
    (request : Bytes) (calls : DumpCalls) : Prop :=
  ∃ q, DumpQuery.read host request = some q ∧ calls.socket = .ok () ∧ calls.bind = .ok () ∧
    calls.sent = .bytes request.length ∧
    Nonempty (Answers host q.sequence messageType sends (kernel.answer q) calls.replies)

/-- The records of the entries of a family. -/
def DumpKernel.records (kernel : DumpKernel entryFamily requestType) (value : D → Option T) (family : UInt8) : List T :=
  (kernel.table.filter (fun d => entryFamily d = family)).filterMap value

/-- A dump that is served returns what its loop makes of the answer. -/
theorem familyDump_serves {kernel : DumpKernel entryFamily requestType} {sends : D → WireMessage → Prop}
    {replyType : UInt16}
    {sequence : UInt32} {family : UInt8} {size : Nat} (hpos : 0 < size) (hsize : size < 1024) {calls : DumpCalls}
    (h : kernel.Serves host sends replyType (dumpRequest host requestType sequence family size) calls)
    {loop : Socket → IoResult (List T) × Socket} {value : D → Option T}
    (hloop : ∀ entries : List D, Answers host sequence replyType sends entries calls.replies →
      (loop calls.replies).1 = .ok (entries.filterMap value)) :
    ∃ entries : List D, familyDump calls (dumpRequest host requestType sequence family size) loop =
        .ok (entries.filterMap value) ∧
      entries.filter (fun d => entryFamily d = family) = kernel.table.filter (fun d => entryFamily d = family) := by
  obtain ⟨q, hq, hsocket, hbind, hsent, ⟨answers⟩⟩ := h
  rw [DumpQuery.read_dumpRequest requestType sequence family hpos hsize, Option.some.injEq] at hq
  subst hq
  have hwhole := kernel.whole ⟨requestType, nlmFRequest ||| nlmFDump, sequence, family⟩ rfl rfl
  refine ⟨_, ?_, hwhole⟩
  have hsend : sendRequest calls.sent (dumpRequest host requestType sequence family size) = .ok () := by
    rw [hsent]
    exact if_neg (not_not.2 rfl)
  unfold familyDump openRouteSocket
  rw [hsocket, hbind, hsend]
  exact hloop _ answers

/-! ## Both families -/

section
variable {κ κ' : Type} [LinearOrder κ] [LinearOrder κ']

/-- **A table is listed**: the records of both families in the order of their keys; those of IPv4 alone when the kernel
has no IPv6; and otherwise the failure of the IPv6 part. -/
structure ListsTable (key : T → κ) (records : UInt8 → List T) (served6 : Prop) (ipv6 whole : IoResult (List T)) :
    Prop where
  both : served6 → ∃ shown, whole = .ok shown ∧ InOrder key (records afInet ++ records afInet6) shown
  unavailable : ∀ e, ipv6 = .err e → ipv6Unavailable e = true →
    ∃ shown, whole = .ok shown ∧ InOrder key (records afInet) shown
  failed : ∀ e, ipv6 = .err e → ipv6Unavailable e = false → whole = .err e

/-- What is retained of an answer are the records of its entries of the family. -/
theorem filter_filterMap_of_shows {value : D → Option T} {keeps : T → UInt8 → Bool}
    (hkeeps : ∀ d t, value d = some t → ∀ family, keeps t family = decide (entryFamily d = family))
    (family : UInt8) : ∀ (entries : List D),
      (entries.filterMap value).filter (fun t => keeps t family) =
        (entries.filter (fun d => entryFamily d = family)).filterMap value
  | [] => rfl
  | d :: entries => by
    have ih := filter_filterMap_of_shows hkeeps family entries
    cases hd : value d with
    | none =>
      rw [List.filterMap_cons_none hd, ih]
      by_cases hfamily : entryFamily d = family
      · rw [List.filter_cons_of_pos (by simpa using hfamily), List.filterMap_cons_none hd]
      · rw [List.filter_cons_of_neg (by simpa using hfamily)]
    | some t =>
      have ht := hkeeps d t hd family
      rw [List.filterMap_cons_some hd]
      by_cases hfamily : entryFamily d = family
      · rw [List.filter_cons_of_pos (by simpa [ht] using hfamily), ih,
          List.filter_cons_of_pos (by simpa using hfamily), List.filterMap_cons_some hd]
      · rw [List.filter_cons_of_neg (by simpa [ht] using hfamily), ih,
          List.filter_cons_of_neg (by simpa using hfamily)]

/-- **A dual-stack table of a kernel is listed.** -/
theorem dualStack_lists {kernel : DumpKernel entryFamily requestType} {value : D → Option T} {keeps : T → UInt8 → Bool}
    {key : T → κ}
    {key' : T → κ'} (hkey : ∀ a b, key a = key b → key' a = key' b)
    (hkeeps : ∀ d t, value d = some t → ∀ family, keeps t family = decide (entryFamily d = family))
    {dump4 dump6 : IoResult (List T)} {served6 : Prop}
    (h4 : ∃ entries : List D, dump4 = .ok (entries.filterMap value) ∧
      entries.filter (fun d => entryFamily d = afInet) = kernel.table.filter (fun d => entryFamily d = afInet))
    (h6 : served6 → ∃ entries : List D, dump6 = .ok (entries.filterMap value) ∧
      entries.filter (fun d => entryFamily d = afInet6) = kernel.table.filter (fun d => entryFamily d = afInet6)) :
    ListsTable key (kernel.records value) served6 (retainSorted key' (fun t => keeps t afInet6) dump6)
      (dualStack key (retainSorted key' (fun t => keeps t afInet) dump4)
        (retainSorted key' (fun t => keeps t afInet6) dump6)) := by
  obtain ⟨entries4, rfl, hentries4⟩ := h4
  have hpart4 : retainSorted key' (fun t => keeps t afInet) (.ok (entries4.filterMap value)) =
      .ok (sortByKey key' (kernel.records value afInet)) := by
    rw [DumpKernel.records, ← hentries4, ← filter_filterMap_of_shows hkeeps]
    rfl
  refine ⟨fun hserved => ?_, fun e he hunavailable => ?_, fun e he hunavailable => ?_⟩
  · obtain ⟨entries6, rfl, hentries6⟩ := h6 hserved
    have hpart6 : retainSorted key' (fun t => keeps t afInet6) (.ok (entries6.filterMap value)) =
        .ok (sortByKey key' (kernel.records value afInet6)) := by
      rw [DumpKernel.records, ← hentries6, ← filter_filterMap_of_shows hkeeps]
      rfl
    refine ⟨_, ?_, inOrder_sortByKey key _⟩
    rw [hpart4, hpart6, ← sortByKey_append_of_coarser key hkey]
    rfl
  · rw [hpart4, he]
    refine ⟨_, if_pos hunavailable, ?_⟩
    have hsort := sortByKey_append_of_coarser key hkey (kernel.records value afInet) []
    rw [List.append_nil] at hsort
    have hnil : sortByKey key' ([] : List T) = [] := List.eq_nil_of_length_eq_zero (sortByKey_perm key' []).length_eq
    rw [hnil, List.append_nil] at hsort
    rw [hsort]
    exact inOrder_sortByKey key _
  · rw [hpart4, he]
    exact if_neg (by rw [hunavailable]; exact Bool.false_ne_true)

end

/-- A kernel that answers every query with its whole table. -/
def DumpKernel.ofTable (entryFamily : D → UInt8) (requestType : UInt16) (table : List D) :
    DumpKernel entryFamily requestType where
  table := table
  answer := fun _ => table
  whole := fun _ _ _ => rfl

/-- A dump that such a kernel serves. -/
theorem DumpKernel.serves_ofTable {table : List D} {sends : D → WireMessage → Prop} {replyType : UInt16}
    {sequence : UInt32} {family : UInt8} {size : Nat} (hpos : 0 < size) (hsize : size < 1024) {calls : DumpCalls}
    (hsocket : calls.socket = .ok ()) (hbind : calls.bind = .ok ())
    (hsent : calls.sent = .bytes (MessageHeader.size + size))
    (answers : Answers host sequence replyType sends table calls.replies) :
    (DumpKernel.ofTable entryFamily requestType table).Serves host sends replyType
      (dumpRequest host requestType sequence family size) calls := by
  refine ⟨_, DumpQuery.read_dumpRequest requestType sequence family hpos hsize, hsocket, hbind, ?_, ⟨answers⟩⟩
  rw [hsent]
  congr 1
  simp only [dumpRequest, List.length_append, MessageHeader.length_bytes, List.length_cons, List.length_replicate,
    MessageHeader.size]
  omega

/-! ## The four tables -/

theorem ipAddressMatchesFamily_eq (address : IpAddr) (family : UInt8) :
    ipAddressMatchesFamily address family = decide (address.family = family) := by
  cases address with
  | v4 address => exact decide_eq_decide.2 eq_comm
  | v6 address => exact decide_eq_decide.2 eq_comm

/-- **The neighbors of a kernel are listed**, those that are reportable. -/
theorem ip_neighbors_exact (host : Host) (calls4 calls6 : DumpCalls)
    (kernel : DumpKernel (fun neighbor : KernelNeighbor => neighbor.address.family) rtmGetneigh)
    (h4 : kernel.Serves host (KernelNeighbor.Sends host) rtmNewneigh
      (dumpRequest host rtmGetneigh requestSequence afInet NeighborMessage.size) calls4) :
    ListsTable neighborKey
      (kernel.records (fun neighbor => if neighbor.isListed then some (neighbor.record host) else none))
      (kernel.Serves host (KernelNeighbor.Sends host) rtmNewneigh
        (dumpRequest host rtmGetneigh requestSequence afInet6 NeighborMessage.size) calls6)
      (neighbors host calls6 afInet6) (ipNeighbors host calls4 calls6) := by
  have hloop : ∀ (calls : DumpCalls) (entries : List KernelNeighbor),
      Answers host requestSequence rtmNewneigh (KernelNeighbor.Sends host) entries calls.replies →
      (neighborsLoop host requestSequence calls.replies).1 =
        .ok (entries.filterMap (fun neighbor => if neighbor.isListed then some (neighbor.record host) else none)) :=
    fun calls entries h => responseLoop_answers (by decide) parseNeighbor_sends h _ neighborTexts
  have hkeeps : ∀ (neighbor : KernelNeighbor) (record : Neighbor),
      (if neighbor.isListed then some (neighbor.record host) else none) = some record → ∀ family,
      ipAddressMatchesFamily record.address family = decide (neighbor.address.family = family) := by
    intro neighbor record hrecord family
    split at hrecord
    · obtain rfl := Option.some.inj hrecord
      exact ipAddressMatchesFamily_eq neighbor.address family
    · cases hrecord
  refine dualStack_lists (fun _ _ h => h) hkeeps ?_ (fun h6 => ?_)
  · exact familyDump_serves (by decide) (by decide) h4 (hloop calls4)
  · exact familyDump_serves (by decide) (by decide) h6 (hloop calls6)

def gateway : KernelNeighbor where
  address := .v4 (Ipv4Addr.new 192 168 1 1)
  interfaceIndex := 2
  state := 2
  flags := 0
  messageType := 1
  linkAddress := some [0x02, 0x42, 0xac, 0x11, 0x00, 0x01]
  cache := none
  probes := none
  masterIndex := none
  protocol := none
  extendedFlags := none

def gatewayMessage : WireMessage where
  header := ⟨48, rtmNewneigh, 2, requestSequence, 0⟩
  payload := gateway.struct hostX86 ++ (AttributeHeader.bytes hostX86 ⟨8, ndaDst⟩ ++ [192, 168, 1, 1] ++
    ([] ++ (AttributeHeader.bytes hostX86 ⟨10, ndaLladdr⟩ ++ [0x02, 0x42, 0xac, 0x11, 0x00, 0x01] ++ [0, 0])))
  padding := []
  length_eq := by decide
  padding_eq := by decide

theorem sends_gateway : gateway.Sends hostX86 gatewayMessage := by
  refine ⟨_, _, .cons ⟨8, ndaDst⟩ [192, 168, 1, 1] [] (by decide) (by decide)
    (.last ⟨10, ndaLladdr⟩ [0x02, 0x42, 0xac, 0x11, 0x00, 0x01] [0, 0] (by decide) (by decide)), ?_, rfl⟩
  unfold Presents
  decide +kernel

def gatewayCalls : DumpCalls :=
  ⟨.ok (), .ok (), .bytes 28, [.datagram (datagramOf hostX86 [gatewayMessage, doneMessage requestSequence])]⟩

/-- A kernel that answers both dumps with its one neighbor. -/
theorem ip_neighbors_exact_gateway :
    ∃ shown, ipNeighbors hostX86 gatewayCalls gatewayCalls = .ok shown ∧
      InOrder neighborKey [gateway.record hostX86] shown := by
  have answers : Answers hostX86 requestSequence rtmNewneigh (KernelNeighbor.Sends hostX86) [gateway]
      gatewayCalls.replies := oneEntry (by decide) (by decide) sends_gateway (by decide +kernel)
  exact (ip_neighbors_exact hostX86 gatewayCalls gatewayCalls (.ofTable _ _ [gateway])
    (DumpKernel.serves_ofTable (by decide) (by decide) rfl rfl rfl answers)).both
    (DumpKernel.serves_ofTable (by decide) (by decide) rfl rfl rfl answers)

/-- **The addresses of a kernel are listed.** -/
theorem ip_addresses_exact (host : Host) (calls4 calls6 : DumpCalls)
    (kernel : DumpKernel (fun address : KernelAddress => address.local.family) rtmGetaddr)
    (h4 : kernel.Serves host (KernelAddress.Sends host) rtmNewaddr
      (dumpRequest host rtmGetaddr addressSequence afInet AddressMessage.size) calls4) :
    ListsTable addressPrefixKey (kernel.records (fun address => some address.record))
      (kernel.Serves host (KernelAddress.Sends host) rtmNewaddr
        (dumpRequest host rtmGetaddr addressSequence afInet6 AddressMessage.size) calls6)
      (addressesForFamily host calls6 afInet6) (ipAddresses host calls4 calls6) := by
  have hloop : ∀ (calls : DumpCalls) (entries : List KernelAddress),
      Answers host addressSequence rtmNewaddr (KernelAddress.Sends host) entries calls.replies →
      (addressesLoop host addressSequence calls.replies).1 =
        .ok (entries.filterMap (fun address => some address.record)) :=
    fun calls entries h => responseLoop_answers (by decide) parseAddress_sends h _ addressTexts
  -- the sort of each family is by a part of the key of the whole
  have hkey : ∀ a b : Address, addressPrefixKey a = addressPrefixKey b → addressKey a = addressKey b := by
    intro a b h
    have h := toLex.injective h
    rw [Prod.mk.injEq] at h
    have hrank := congrArg Prod.fst (toLex.injective h.2)
    exact congrArg toLex (Prod.ext h.1 hrank)
  have hkeeps : ∀ (address : KernelAddress) (record : Address), some address.record = some record → ∀ family,
      ipAddressMatchesFamily record.local family = decide (address.local.family = family) := by
    rintro address record ⟨⟩ family
    exact ipAddressMatchesFamily_eq address.local family
  refine dualStack_lists hkey hkeeps ?_ (fun h6 => ?_)
  · exact familyDump_serves (by decide) (by decide) h4 (hloop calls4)
  · exact familyDump_serves (by decide) (by decide) h6 (hloop calls6)

def hostAddress : KernelAddress where
  «local» := .v4 (Ipv4Addr.new 192 168 1 7)
  prefixLength := 24
  peer := none
  broadcast := some (.v4 (Ipv4Addr.new 192 168 1 255))
  interfaceIndex := 2
  label := some "eth0"
  scope := 0
  flags := 0x80
  cache := none
  peer_ne := by
    rintro a ⟨⟩
  broadcast_family := by
    rintro a ⟨⟩
    rfl
  label_text := by
    rintro t ⟨⟩
    decide

def addressMessage : WireMessage where
  header := ⟨68, rtmNewaddr, 2, addressSequence, 0⟩
  payload := hostAddress.struct hostX86 ++ (AttributeHeader.bytes hostX86 ⟨8, ifaAddress⟩ ++ [192, 168, 1, 7] ++
    ([] ++ (AttributeHeader.bytes hostX86 ⟨8, ifaLocal⟩ ++ [192, 168, 1, 7] ++
      ([] ++ (AttributeHeader.bytes hostX86 ⟨8, ifaBroadcast⟩ ++ [192, 168, 1, 255] ++
        ([] ++ (AttributeHeader.bytes hostX86 ⟨9, ifaLabel⟩ ++ [101, 116, 104, 48, 0] ++
          ([0, 0, 0] ++ (AttributeHeader.bytes hostX86 ⟨8, ifaFlags⟩ ++ [0x80, 0, 0, 0] ++ [])))))))))
  padding := []
  length_eq := by decide
  padding_eq := by decide

theorem sends_hostAddress : hostAddress.Sends hostX86 addressMessage := by
  refine ⟨_, _, .cons ⟨8, ifaAddress⟩ [192, 168, 1, 7] [] (by decide) (by decide)
    (.cons ⟨8, ifaLocal⟩ [192, 168, 1, 7] [] (by decide) (by decide)
      (.cons ⟨8, ifaBroadcast⟩ [192, 168, 1, 255] [] (by decide) (by decide)
        (.cons ⟨9, ifaLabel⟩ [101, 116, 104, 48, 0] [0, 0, 0] (by decide) (by decide)
          (.last ⟨8, ifaFlags⟩ [0x80, 0, 0, 0] [] (by decide) (by decide))))), ?_, rfl⟩
  unfold Presents
  decide +kernel

def addressCalls : DumpCalls :=
  ⟨.ok (), .ok (), .bytes 24, [.datagram (datagramOf hostX86 [addressMessage, doneMessage addressSequence])]⟩

/-- A kernel that answers both dumps with its one address. -/
theorem ip_addresses_exact_host :
    ∃ shown, ipAddresses hostX86 addressCalls addressCalls = .ok shown ∧
      InOrder addressPrefixKey [hostAddress.record] shown := by
  have answers : Answers hostX86 addressSequence rtmNewaddr (KernelAddress.Sends hostX86) [hostAddress]
      addressCalls.replies := oneEntry (by decide) (by decide) sends_hostAddress (by decide +kernel)
  exact (ip_addresses_exact hostX86 addressCalls addressCalls (.ofTable _ _ [hostAddress])
    (DumpKernel.serves_ofTable (by decide) (by decide) rfl rfl rfl answers)).both
    (DumpKernel.serves_ofTable (by decide) (by decide) rfl rfl rfl answers)

/-- **The routes of a kernel are listed.** -/
theorem ip_routes_exact (host : Host) (calls4 calls6 : DumpCalls)
    (kernel : DumpKernel (fun route : KernelRoute => route.destination.family) rtmGetroute)
    (h4 : kernel.Serves host (KernelRoute.Sends host) rtmNewroute
      (dumpRequest host rtmGetroute routeDumpSequence afInet RouteMessage.size) calls4) :
    ListsTable routeKey (kernel.records (fun route => some route.record))
      (kernel.Serves host (KernelRoute.Sends host) rtmNewroute
        (dumpRequest host rtmGetroute routeDumpSequence afInet6 RouteMessage.size) calls6)
      (routesForFamily host calls6 afInet6) (ipRoutes host calls4 calls6) := by
  have hloop : ∀ (calls : DumpCalls) (entries : List KernelRoute),
      Answers host routeDumpSequence rtmNewroute (KernelRoute.Sends host) entries calls.replies →
      (receiveDump host routeDumpSequence rtmNewroute "route" (parseRoute host) calls.replies).1 =
        .ok (entries.filterMap (fun route => some route.record)) :=
    fun calls entries h => receiveDump_answers (by decide) parseRoute_sends h "route"
  have hkeeps : ∀ (route : KernelRoute) (record : Route), some route.record = some record → ∀ family,
      ipAddressMatchesFamily record.destination family = decide (route.destination.family = family) := by
    rintro route record ⟨⟩ family
    exact ipAddressMatchesFamily_eq route.destination family
  refine dualStack_lists (fun _ _ h => h) hkeeps ?_ (fun h6 => ?_)
  · exact familyDump_serves (by decide) (by decide) h4 (hloop calls4)
  · exact familyDump_serves (by decide) (by decide) h6 (hloop calls6)

def multipathRoute : KernelRoute where
  destination := .v4 Ipv4Addr.unspecified
  prefixLength := 0
  tos := 0
  source := none
  gateway := none
  interfaceIndex := none
  metric := some 600
  preferredSource := none
  table := 254
  protocol := 3
  scope := 0
  routeType := 1
  flags := 0
  nextHops := twoHops
  default_eq := fun _ => rfl
  source_family := by
    rintro s ⟨⟩
  gateway_family := by
    rintro a ⟨⟩
  preferred_family := by
    rintro a ⟨⟩

def multipathMessage : WireMessage where
  header := ⟨80, rtmNewroute, 2, routeDumpSequence, 0⟩
  payload := multipathRoute.struct hostX86 ++ (AttributeHeader.bytes hostX86 ⟨8, rtaTable⟩ ++ [254, 0, 0, 0] ++
    ([] ++ (AttributeHeader.bytes hostX86 ⟨8, rtaPriority⟩ ++ [0x58, 2, 0, 0] ++
      ([] ++ (AttributeHeader.bytes hostX86 ⟨36, rtaMultipath⟩ ++ twoHopBytes ++ [])))))
  padding := []
  length_eq := by decide
  padding_eq := by decide

theorem sends_multipathRoute : multipathRoute.Sends hostX86 multipathMessage := by
  refine ⟨some twoHopBytes, encodes_twoHops, _, _, .cons ⟨8, rtaTable⟩ [254, 0, 0, 0] [] (by decide) (by decide)
    (.cons ⟨8, rtaPriority⟩ [0x58, 2, 0, 0] [] (by decide) (by decide)
      (.last ⟨36, rtaMultipath⟩ twoHopBytes [] (by decide) (by decide))), ?_, rfl⟩
  unfold Presents
  decide +kernel

def multipathCalls : DumpCalls :=
  ⟨.ok (), .ok (), .bytes 28, [.datagram (datagramOf hostX86 [multipathMessage, doneMessage routeDumpSequence])]⟩

/-- A kernel that answers both dumps with its one route, over two next hops. -/
theorem ip_routes_exact_multipath :
    ∃ shown, ipRoutes hostX86 multipathCalls multipathCalls = .ok shown ∧
      InOrder routeKey [multipathRoute.record] shown := by
  have answers : Answers hostX86 routeDumpSequence rtmNewroute (KernelRoute.Sends hostX86) [multipathRoute]
      multipathCalls.replies := oneEntry (by decide) (by decide) sends_multipathRoute (by decide +kernel)
  exact (ip_routes_exact hostX86 multipathCalls multipathCalls (.ofTable _ _ [multipathRoute])
    (DumpKernel.serves_ofTable (by decide) (by decide) rfl rfl rfl answers)).both
    (DumpKernel.serves_ofTable (by decide) (by decide) rfl rfl rfl answers)

/-- **The rules of a kernel are listed.** -/
theorem ip_rules_exact (host : Host) (calls4 calls6 : DumpCalls)
    (kernel : DumpKernel KernelRule.family rtmGetrule)
    (h4 : kernel.Serves host (KernelRule.Sends host) rtmNewrule
      (dumpRequest host rtmGetrule ruleDumpSequence afInet RuleMessage.size) calls4) :
    ListsTable ruleKey (kernel.records (fun rule => some rule.record))
      (kernel.Serves host (KernelRule.Sends host) rtmNewrule
        (dumpRequest host rtmGetrule ruleDumpSequence afInet6 RuleMessage.size) calls6)
      (rulesForFamily host calls6 afInet6) (ipRules host calls4 calls6) := by
  have hloop : ∀ (calls : DumpCalls) (entries : List KernelRule),
      Answers host ruleDumpSequence rtmNewrule (KernelRule.Sends host) entries calls.replies →
      (receiveDump host ruleDumpSequence rtmNewrule "rule" (parseRule host) calls.replies).1 =
        .ok (entries.filterMap (fun rule => some rule.record)) :=
    fun calls entries h => receiveDump_answers (by decide) parseRule_sends h "rule"
  have hkeeps : ∀ (rule : KernelRule) (record : Rule), some rule.record = some record → ∀ family,
      ipFamilyMatchesFamily record.family family = decide (rule.family = family) := by
    rintro rule record ⟨⟩ family
    by_cases hinet : rule.family = afInet
    · rw [KernelRule.record, if_pos hinet, hinet]
      exact decide_eq_decide.2 eq_comm
    · have hinet6 : rule.family = afInet6 := by
        by_contra hne
        exact rule.family_known ⟨hinet, hne⟩
      rw [KernelRule.record, if_neg hinet, hinet6]
      exact decide_eq_decide.2 eq_comm
  refine dualStack_lists (fun _ _ h => h) hkeeps ?_ (fun h6 => ?_)
  · exact familyDump_serves (by decide) (by decide) h4 (hloop calls4)
  · exact familyDump_serves (by decide) (by decide) h6 (hloop calls6)

/-- The rule `from all lookup` of a table. -/
def lookupRule (priority table : UInt32) : KernelRule where
  family := afInet
  priority := priority
  source := none
  destination := none
  tos := 0
  inputInterface := none
  outputInterface := none
  fwmark := none
  fwmask := none
  table := table
  action := 1
  «goto» := none
  flags := 0
  family_known := by decide
  source_family := by
    rintro s ⟨⟩
  destination_family := by
    rintro s ⟨⟩
  input_text := by
    rintro t ⟨⟩
  output_text := by
    rintro t ⟨⟩

/-- The rule of the local table, which has the priority zero. -/
def localRule : KernelRule := lookupRule 0 255

def mainRule : KernelRule := lookupRule 32766 254

def localMessage : WireMessage where
  header := ⟨36, rtmNewrule, 2, ruleDumpSequence, 0⟩
  payload := localRule.struct hostX86 ++ (AttributeHeader.bytes hostX86 ⟨8, fraTable⟩ ++ [255, 0, 0, 0] ++ [])
  padding := []
  length_eq := by decide
  padding_eq := by decide

def ruleMessage : WireMessage where
  header := ⟨44, rtmNewrule, 2, ruleDumpSequence, 0⟩
  payload := mainRule.struct hostX86 ++ (AttributeHeader.bytes hostX86 ⟨8, fraTable⟩ ++ [254, 0, 0, 0] ++
    ([] ++ (AttributeHeader.bytes hostX86 ⟨8, fraPriority⟩ ++ [0xfe, 0x7f, 0, 0] ++ [])))
  padding := []
  length_eq := by decide
  padding_eq := by decide

theorem sends_localRule : localRule.Sends hostX86 localMessage := by
  refine ⟨_, _, .last ⟨8, fraTable⟩ [255, 0, 0, 0] [] (by decide) (by decide), ?_, rfl⟩
  unfold Presents
  decide +kernel

theorem sends_mainRule : mainRule.Sends hostX86 ruleMessage := by
  refine ⟨_, _, .cons ⟨8, fraTable⟩ [254, 0, 0, 0] [] (by decide) (by decide)
    (.last ⟨8, fraPriority⟩ [0xfe, 0x7f, 0, 0] [] (by decide) (by decide)), ?_, rfl⟩
  unfold Presents
  decide +kernel

def ruleCalls : DumpCalls :=
  ⟨.ok (), .ok (), .bytes 28,
    [.datagram (datagramOf hostX86 ([localMessage, ruleMessage] ++ [doneMessage ruleDumpSequence]))]⟩

/-- A kernel that answers both dumps with the rules of its local and its main table. -/
theorem ip_rules_exact_main :
    ∃ shown, ipRules hostX86 ruleCalls ruleCalls = .ok shown ∧
      InOrder ruleKey [localRule.record, mainRule.record] shown := by
  have answers : Answers hostX86 ruleDumpSequence rtmNewrule (KernelRule.Sends hostX86) [localRule, mainRule]
      ruleCalls.replies :=
    .ofMessages (by decide) (by decide) (.cons sends_localRule (.cons sends_mainRule .nil)) (by decide +kernel)
  exact (ip_rules_exact hostX86 ruleCalls ruleCalls (.ofTable _ _ [localRule, mainRule])
    (DumpKernel.serves_ofTable (by decide) (by decide) rfl rfl rfl answers)).both
    (DumpKernel.serves_ofTable (by decide) (by decide) rfl rfl rfl answers)

end Networkrs
