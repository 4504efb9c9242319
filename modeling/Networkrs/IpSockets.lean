import Networkrs.DualStack
import Networkrs.SocketTable
/-!
# IpSockets — the sockets of all tables

`ip_sockets` of `sockets.rs`: the TCP and UDP tables of both families, read one after the other, sorted for each family
and then together.  The sort is stable and the second one undoes nothing of the first, so the sockets come out as if the
four tables had been sorted once (`ipSockets_eq`); and what comes out are the sockets the kernel has
(`ip_sockets_exact`).
-/
namespace Networkrs

open Machine

/-- What reading the four tables returns. -/
structure TableFiles where
  tcp : Except IoError Text
  udp : Except IoError Text
  tcp6 : Except IoError Text
  udp6 : Except IoError Text

/-- `error.kind() == io::ErrorKind::NotFound`, of which `ENOENT` is one. -/
def IoError.isNotFound : IoError → Bool
  | .os code => code = 2
  | .custom kind _ => kind = .notFound

def Protocol.rank : Protocol → Nat
  | .tcp => 0
  | .udp => 1

/-- The order of sockets: by protocol, local port, local address and remote port. -/
def endpointsKey (protocol : Protocol) («local» remote : SocketAddr) : ℕ ×ₗ ℕ ×ₗ ℕ ×ₗ ℕ :=
  toLex (protocol.rank, toLex (local.port.toNat, toLex (local.ip.rank, remote.port.toNat)))

def socketKey (socket : NetworkSocket) : ℕ ×ₗ ℕ ×ₗ ℕ ×ₗ ℕ := endpointsKey socket.protocol socket.local socket.remote

/-- `sort_sockets`. -/
def sortSockets (sockets : List NetworkSocket) : List NetworkSocket := sortByKey socketKey sockets

section
variable (files : TableFiles)

def ipv4Sockets : Except IoError (List NetworkSocket) := do
  let tcp ← files.tcp
  let udp ← files.udp
  return sortSockets (Sockets.parseTable tcp .tcp ++ Sockets.parseTable udp .udp)

def ipv6Sockets : Except IoError (List NetworkSocket) := do
  let tcp6 ← files.tcp6
  let udp6 ← files.udp6
  return sortSockets (Sockets.parseTable tcp6 .tcp ++ Sockets.parseTable udp6 .udp)

def ipSockets : Except IoError (List NetworkSocket) := do
  let sockets ← ipv4Sockets files
  match ipv6Sockets files with
  | .ok ipv6 => return sortSockets (sockets ++ ipv6)
  | .error e => if e.isNotFound then return sortSockets sockets else .error e

end

/-! ## Tables and their sockets -/

/-- **A table file of the kernel**: a header, and a row for each socket, with any lines between them that are not
parsed. -/
def Prints (host : Host) (protocol : Protocol) (file : Except IoError Text) (sockets : List KernelSocket) : Prop :=
  ∃ header mixed, '\n' ∉ header ∧ (∀ line ∈ mixed, '\n' ∉ line) ∧ file = .ok (unlines (header :: mixed)) ∧
    List.Forall₂ (IsRow host) sockets (mixed.filter (fun line => (Sockets.parseLine line protocol).isSome))

theorem exists_of_prints {host : Host} (hlittle : host.byteOrder = .little) {protocol : Protocol}
    {file : Except IoError Text} {sockets : List KernelSocket} (h : Prints host protocol file sockets) :
    ∃ text, file = .ok text ∧ Sockets.parseTable text protocol = sockets.map (KernelSocket.socket protocol) := by
  obtain ⟨header, mixed, hheader, hmixed, rfl, hrows⟩ := h
  refine ⟨_, rfl, ?_⟩
  rw [parseTable_unlines hheader hmixed, ← (parseLine_of_rows hlittle protocol hrows).2, List.filterMap_filter]
  apply List.filterMap_congr
  intro line _
  cases Sockets.parseLine line protocol <;> rfl

/-- The first failure of reading two tables. -/
def firstFailure (tcp udp : Except IoError Text) : Option IoError :=
  match tcp with
  | .error e => some e
  | .ok _ =>
    match udp with
    | .error e => some e
    | .ok _ => none

/-- **One sort of the four tables.** -/
theorem ipSockets_eq {files : TableFiles} {tcp udp tcp6 udp6 : Text} (htcp : files.tcp = .ok tcp)
    (hudp : files.udp = .ok udp) (htcp6 : files.tcp6 = .ok tcp6) (hudp6 : files.udp6 = .ok udp6) :
    ipSockets files = .ok (sortSockets (Sockets.parseTable tcp .tcp ++ Sockets.parseTable udp .udp ++
      (Sockets.parseTable tcp6 .tcp ++ Sockets.parseTable udp6 .udp))) := by
  have h4 : ipv4Sockets files = .ok (sortSockets (Sockets.parseTable tcp .tcp ++ Sockets.parseTable udp .udp)) := by
    rw [ipv4Sockets, htcp, hudp]
    rfl
  have h6 : ipv6Sockets files = .ok (sortSockets (Sockets.parseTable tcp6 .tcp ++ Sockets.parseTable udp6 .udp)) := by
    rw [ipv6Sockets, htcp6, hudp6]
    rfl
  have hsort := sortByKey_append socketKey (Sockets.parseTable tcp .tcp ++ Sockets.parseTable udp .udp)
    (Sockets.parseTable tcp6 .tcp ++ Sockets.parseTable udp6 .udp)
  rw [ipSockets, h4, h6]
  exact congrArg Except.ok hsort

theorem ipv6Sockets_error {files : TableFiles} {e : IoError} (h : firstFailure files.tcp6 files.udp6 = some e) :
    ipv6Sockets files = .error e := by
  unfold firstFailure at h
  rw [ipv6Sockets]
  cases htcp6 : files.tcp6 with
  | error e' =>
    rw [htcp6] at h
    obtain rfl := Option.some.inj h
    rfl
  | ok tcp6 =>
    cases hudp6 : files.udp6 with
    | error e' =>
      rw [htcp6, hudp6] at h
      obtain rfl := Option.some.inj h
      rfl
    | ok udp6 =>
      rw [htcp6, hudp6] at h
      cases h

theorem ipv4Sockets_error {files : TableFiles} {e : IoError} (h : firstFailure files.tcp files.udp = some e) :
    ipv4Sockets files = .error e :=
  @ipv6Sockets_error ⟨files.tcp6, files.udp6, files.tcp, files.udp⟩ e h

/-- The sockets of a TCP and a UDP table. -/
def tableSockets (tcp udp : List KernelSocket) : List NetworkSocket :=
  tcp.map (KernelSocket.socket .tcp) ++ udp.map (KernelSocket.socket .udp)

/-- **All sockets are listed.**  Of the tables a little-endian kernel prints, every socket is listed once, in order; a
kernel without the tables of IPv6, or without one of them, is taken to have no IPv6 sockets; every other failure to read
a table is reported, the first one. -/
theorem ip_sockets_exact {host : Host} (hlittle : host.byteOrder = .little) (files : TableFiles)
    (tcp udp tcp6 udp6 : List KernelSocket) :
    (Prints host .tcp files.tcp tcp → Prints host .udp files.udp udp →
      (Prints host .tcp files.tcp6 tcp6 → Prints host .udp files.udp6 udp6 →
        ∃ shown, ipSockets files = .ok shown ∧
          InOrder socketKey (tableSockets tcp udp ++ tableSockets tcp6 udp6) shown) ∧
      ∀ e, firstFailure files.tcp6 files.udp6 = some e →
        if e.isNotFound then ∃ shown, ipSockets files = .ok shown ∧ InOrder socketKey (tableSockets tcp udp) shown
        else ipSockets files = .error e) ∧
    ∀ e, firstFailure files.tcp files.udp = some e → ipSockets files = .error e := by
  refine ⟨fun htcp hudp => ?_, fun e he => ?_⟩
  · obtain ⟨tcpText, htcpText, htcp⟩ := exists_of_prints hlittle htcp
    obtain ⟨udpText, hudpText, hudp⟩ := exists_of_prints hlittle hudp
    have h4 : ipv4Sockets files = .ok (sortSockets (tableSockets tcp udp)) := by
      rw [ipv4Sockets, htcpText, hudpText, tableSockets, ← htcp, ← hudp]
      rfl
    refine ⟨fun htcp6 hudp6 => ?_, fun e he => ?_⟩
    · obtain ⟨tcp6Text, htcp6Text, htcp6⟩ := exists_of_prints hlittle htcp6
      obtain ⟨udp6Text, hudp6Text, hudp6⟩ := exists_of_prints hlittle hudp6
      refine ⟨_, ipSockets_eq htcpText hudpText htcp6Text hudp6Text, ?_⟩
      rw [htcp, hudp, htcp6, hudp6]
      exact inOrder_sortByKey socketKey _
    · rw [ipSockets, h4, ipv6Sockets_error he]
      split
      · next hmissing =>
        refine ⟨sortSockets (sortSockets (tableSockets tcp udp)), if_pos hmissing, ?_⟩
        rw [sortSockets, sortSockets, sortByKey_sortByKey]
        exact inOrder_sortByKey socketKey _
      · next hother => exact if_neg hother
  · rw [ipSockets, ipv4Sockets_error he]
    rfl

theorem prints_sample {protocol : Protocol} {sockets : List KernelSocket}
    (hsockets : sockets ⊆ [listener, connection, ipv6Listener]) :
    Prints hostX86 protocol (.ok (unlines (("  sl  local_address" : Text) :: sockets.map sampleRow))) sockets := by
  have hrow : ∀ socket ∈ sockets, IsRow hostX86 socket (sampleRow socket) :=
    fun socket hsocket => isRow_sampleRow (hsockets hsocket)
  refine ⟨"  sl  local_address", sockets.map sampleRow, by decide, ?_, rfl, ?_⟩
  · rw [List.forall_mem_map]
    exact fun socket hsocket => newline_not_mem_of_isRow (hrow socket hsocket)
  · have hall : (sockets.map sampleRow).filter (fun line => (Sockets.parseLine line protocol).isSome) =
        sockets.map sampleRow := by
      refine List.filter_eq_self.2 (List.forall_mem_map.2 (fun socket hsocket => ?_))
      rw [parseLine_of_isRow rfl (hrow socket hsocket)]
      rfl
    rw [hall, List.forall₂_map_right_iff, List.forall₂_same]
    exact hrow

/-- Sockets of both families and protocols, and those of IPv4 on a machine without IPv6. -/
theorem ip_sockets_exact_listener :
    (∃ shown, ipSockets
        ⟨.ok (unlines ["  sl  local_address", sampleRow connection, sampleRow listener]),
          .ok (unlines ["  sl  local_address", sampleRow connection]),
          .ok (unlines ["  sl  local_address", sampleRow ipv6Listener]),
          .ok (unlines ["  sl  local_address", sampleRow ipv6Listener])⟩ = .ok shown ∧
      InOrder socketKey (tableSockets [connection, listener] [connection] ++ tableSockets [ipv6Listener] [ipv6Listener])
        shown) ∧
    ∃ shown, ipSockets
        ⟨.ok (unlines ["  sl  local_address", sampleRow connection, sampleRow listener]),
          .ok (unlines ["  sl  local_address", sampleRow connection]), .error (.os 2), .error (.os 2)⟩ = .ok shown ∧
      InOrder socketKey (tableSockets [connection, listener] [connection]) shown := by
  have htcp := @prints_sample .tcp [connection, listener] (by decide)
  have hudp := @prints_sample .udp [connection] (by decide)
  have htcp6 := @prints_sample .tcp [ipv6Listener] (by decide)
  have hudp6 := @prints_sample .udp [ipv6Listener] (by decide)
  exact ⟨((ip_sockets_exact rfl _ _ _ [ipv6Listener] [ipv6Listener]).1 htcp hudp).1 htcp6 hudp6,
    ((ip_sockets_exact rfl _ _ _ [] []).1 htcp hudp).2 (.os 2) rfl⟩

end Networkrs
