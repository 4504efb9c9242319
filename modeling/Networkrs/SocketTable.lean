import Networkrs.ProcNet
import Networkrs.Sockets
/-!
# SocketTable — the socket tables of procfs

`parse_table` of `sockets.rs` reads `/proc/net/tcp` and its siblings: a header line, then one row for each socket, in
columns.  On a little-endian host it gives back every table the kernel prints (`parseTable_of_printed`), whatever the
kernel pads its columns with and whatever stands in the columns that are not read; and a row that is malformed costs no
other row.
-/
namespace Networkrs

open Machine

/-- `parse_line` of `sockets.rs`: at least ten fields, of which five are read.  Its `socket_state` is that of
`sock_diag.rs`. -/
def Sockets.parseLine (line : Text) (protocol : Protocol) : Option NetworkSocket :=
  match splitWhitespace line with
  | _ :: «local» :: remote :: state :: _ :: _ :: _ :: uid :: _ :: inode :: _ => do
    let state ← parseUnsigned 16 (2 ^ 8 - 1) state
    let «local» ← parseEndpoint «local»
    let remote ← parseEndpoint remote
    let uid ← parseUnsigned 10 (2 ^ 32 - 1) uid
    let inode ← parseUnsigned 10 (2 ^ 64 - 1) inode
    return { protocol, «local», remote, state := socketState protocol (UInt8.ofNat state), uid := UInt32.ofNat uid,
             inode := UInt64.ofNat inode }
  | _ => none

def Sockets.parseTable (contents : Text) (protocol : Protocol) : List NetworkSocket :=
  ((lines contents).drop 1).filterMap (fun line => Sockets.parseLine line protocol)

/-! ## The kernel's side -/

/-- A socket as the kernel has it. -/
structure KernelSocket where
  localAddress : IpAddr
  localPort : UInt16
  remoteAddress : IpAddr
  remotePort : UInt16
  state : UInt8
  uid : UInt32
  inode : UInt64
  deriving DecidableEq, Repr

def KernelSocket.socket (protocol : Protocol) (socket : KernelSocket) : NetworkSocket where
  protocol := protocol
  «local» := SocketAddr.new socket.localAddress socket.localPort
  remote := SocketAddr.new socket.remoteAddress socket.remotePort
  state := socketState protocol socket.state
  uid := socket.uid
  inode := socket.inode

/-- The columns of a row that are not read: the slot, the queues, the timer, the retransmits and the timeout, and any
number after the inode. -/
structure OtherColumns where
  slot : Text
  queues : Text
  timer : Text
  retransmits : Text
  timeout : Text
  rest : List Text

def OtherColumns.all (others : OtherColumns) : List Text :=
  [others.slot, others.queues, others.timer, others.retransmits, others.timeout] ++ others.rest

/-- A field: text without blanks. -/
def IsField (field : Text) : Prop := field ≠ [] ∧ ∀ c ∈ field, isWhitespace c = false

/-- Padding within a line. -/
def IsPadding (padding : Text) : Prop := ∀ c ∈ padding, isWhitespace c = true ∧ c ≠ '\n'

instance (field : Text) : Decidable (IsField field) :=
  @instDecidableAnd _ _ _ (List.decidableBAll (fun c => isWhitespace c = false) field)

instance (padding : Text) : Decidable (IsPadding padding) :=
  List.decidableBAll (fun c => isWhitespace c = true ∧ c ≠ '\n') padding

section
variable (host : Host)

/-- The fields of a row. -/
def KernelSocket.fields (socket : KernelSocket) (others : OtherColumns) : List Text :=
  others.slot :: procEndpoint host socket.localAddress socket.localPort ::
    procEndpoint host socket.remoteAddress socket.remotePort :: hexUpper 2 socket.state.toNat :: others.queues ::
    others.timer :: others.retransmits :: decimal socket.uid.toNat :: others.timeout :: decimal socket.inode.toNat ::
    others.rest

/-- Columns, each with the padding before it. -/
def layOut (columns : List (Text × Text)) (trailing : Text) : Text :=
  columns.flatMap (fun column => column.1 ++ column.2) ++ trailing

/-- **A line that the kernel prints for a socket**: its fields in columns, padded to any width. -/
structure IsRow (socket : KernelSocket) (line : Text) : Prop where
  columns : ∃ others columns trailing, line = layOut columns trailing ∧
    columns.map Prod.snd = socket.fields host others ∧ (∀ field ∈ others.all, IsField field) ∧
    (∀ column ∈ columns, IsPadding column.1) ∧ (∀ column ∈ columns.tail, column.1 ≠ []) ∧ IsPadding trailing

/-! ## The fields of a line -/

theorem isField_hexUpper {k : Nat} (hk : 0 < k) (n : Nat) : IsField (hexUpper k n) := by
  refine ⟨fun hnil => ?_, fun c hc => ?_⟩
  · have hlength := length_hexUpper k n
    rw [hnil, List.length_nil] at hlength
    omega
  · obtain ⟨digit, hdigit, rfl⟩ := exists_of_mem_hexUpper k n c hc
    have hall : ∀ digit < 16, isWhitespace (upperDigit digit) = false := by decide
    exact hall digit hdigit

theorem isField_decimal (n : Nat) : IsField (decimal n) := by
  refine ⟨Nat.toDigits_ne_nil, fun c hc => ?_⟩
  exact of_mem_toDigits (by decide) (by decide) (p := fun c => isWhitespace c = false) (by decide) hc

theorem isField_procEndpoint (address : IpAddr) (port : UInt16) : IsField (procEndpoint host address port) := by
  unfold procEndpoint
  refine ⟨fun hnil => by simp at hnil, fun c hc => ?_⟩
  rw [List.mem_append, List.mem_cons] at hc
  rcases hc with hc | rfl | hc
  · obtain ⟨word, -, hc⟩ := List.mem_flatMap.1 hc
    exact (isField_hexUpper (by decide) _).2 c hc
  · decide
  · exact (isField_hexUpper (by decide) _).2 c hc

theorem isField_of_mem_fields (socket : KernelSocket) {others : OtherColumns}
    (h : ∀ field ∈ others.all, IsField field) : ∀ field ∈ socket.fields host others, IsField field := by
  intro field hfield
  unfold KernelSocket.fields at hfield
  unfold OtherColumns.all at h
  simp only [List.mem_cons] at hfield
  rcases hfield with rfl | rfl | rfl | rfl | rfl | rfl | rfl | rfl | rfl | rfl | hrest
  · exact h _ (by simp)
  · exact isField_procEndpoint host _ _
  · exact isField_procEndpoint host _ _
  · exact isField_hexUpper (by decide) _
  · exact h _ (by simp)
  · exact h _ (by simp)
  · exact h _ (by simp)
  · exact isField_decimal _
  · exact h _ (by simp)
  · exact isField_decimal _
  · exact h _ (by simp [hrest])

end

/-- Columns after a text are its fields and theirs. -/
theorem splitWhitespace_append_columns : ∀ (columns : List (Text × Text)) (before : Text),
    (∀ column ∈ columns, IsPadding column.1 ∧ column.1 ≠ [] ∧ IsField column.2) →
    splitWhitespace (before ++ columns.flatMap (fun column => column.1 ++ column.2)) =
      splitWhitespace before ++ columns.map Prod.snd
  | [], before, _ => by simp
  | (padding, field) :: columns, before, h => by
    obtain ⟨hpadding, hne, hfield⟩ := h (padding, field) List.mem_cons_self
    obtain ⟨c, padding, rfl⟩ := List.exists_cons_of_ne_nil hne
    have hspace : ∀ c' ∈ padding, isWhitespace c' = true := fun c' hc' => (hpadding c' (List.mem_cons_of_mem c hc')).1
    have hone : splitWhitespace (before ++ (c :: padding ++ field)) = splitWhitespace before ++ [field] := by
      rw [List.cons_append, splitWhitespace_append_cons (hpadding c List.mem_cons_self).1,
        splitWhitespace_padding_append field hspace, splitWhitespace_field hfield.1 hfield.2]
    have ih := splitWhitespace_append_columns columns (before ++ (c :: padding ++ field))
      (fun column hcolumn => h column (List.mem_cons_of_mem _ hcolumn))
    rw [List.flatMap_cons, ← List.append_assoc, ih, hone, List.map_cons, List.append_assoc, List.singleton_append]

/-- **A line in columns has the fields of its columns.** -/
theorem splitWhitespace_layOut {columns : List (Text × Text)} {trailing : Text}
    (hpadding : ∀ column ∈ columns, IsPadding column.1) (hseparated : ∀ column ∈ columns.tail, column.1 ≠ [])
    (hfield : ∀ column ∈ columns, IsField column.2) (htrailing : IsPadding trailing) :
    splitWhitespace (layOut columns trailing) = columns.map Prod.snd := by
  unfold layOut
  rw [splitWhitespace_append_padding _ (fun c hc => (htrailing c hc).1)]
  cases columns with
  | nil => rfl
  | cons column columns =>
    have hfirst : splitWhitespace (column.1 ++ column.2) = [column.2] := by
      obtain ⟨hne, hplain⟩ := hfield column List.mem_cons_self
      rw [splitWhitespace_padding_append _ (fun c hc => (hpadding column List.mem_cons_self c hc).1),
        splitWhitespace_field hne hplain]
    rw [List.flatMap_cons, splitWhitespace_append_columns columns _ (fun other hother => ?_), hfirst, List.map_cons,
      List.singleton_append]
    have hmem := List.mem_cons_of_mem column hother
    exact ⟨hpadding other hmem, hseparated other hother, hfield other hmem⟩

theorem newline_not_mem_layOut {columns : List (Text × Text)} {trailing : Text}
    (hpadding : ∀ column ∈ columns, IsPadding column.1) (hfield : ∀ column ∈ columns, IsField column.2)
    (htrailing : IsPadding trailing) : '\n' ∉ layOut columns trailing := by
  intro hmem
  rcases List.mem_append.1 hmem with hmem | hmem
  · obtain ⟨column, hcolumn, hmem⟩ := List.mem_flatMap.1 hmem
    rcases List.mem_append.1 hmem with hmem | hmem
    · exact (hpadding column hcolumn '\n' hmem).2 rfl
    · have hblank := (hfield column hcolumn).2 '\n' hmem
      revert hblank
      decide
  · exact (htrailing '\n' hmem).2 rfl

/-! ## What is parsed -/

section
variable {host : Host} (hlittle : host.byteOrder = .little)
include hlittle

/-- **An endpoint is parsed back** on a little-endian host. -/
theorem parseEndpoint_procEndpoint (address : IpAddr) (port : UInt16) :
    parseEndpoint (procEndpoint host address port) = some (SocketAddr.new address port) := by
  rw [parseEndpoint_eq_iff]
  intro word hword
  exact (parsedBytes_eq_iff host (length_of_mem_chunksExact hword)).2 (.inl hlittle)

/-- **A row is parsed as its socket.** -/
theorem parseLine_of_isRow {socket : KernelSocket} {line : Text} (h : IsRow host socket line) (protocol : Protocol) :
    Sockets.parseLine line protocol = some (socket.socket protocol) := by
  obtain ⟨others, columns, trailing, rfl, hfields, hothers, hpadding, hseparated, htrailing⟩ := h.columns
  have hfield : ∀ column ∈ columns, IsField column.2 := by
    intro column hcolumn
    refine isField_of_mem_fields host socket hothers column.2 ?_
    rw [← hfields]
    exact List.mem_map_of_mem hcolumn
  have hstate : parseUnsigned 16 (2 ^ 8 - 1) (hexUpper 2 socket.state.toNat) = some socket.state.toNat :=
    parseUnsigned_hexUpper (by decide) socket.state.toNat_lt (Nat.le_of_lt_succ socket.state.toNat_lt)
  have huid : parseUnsigned 10 (2 ^ 32 - 1) (decimal socket.uid.toNat) = some socket.uid.toNat :=
    parseUnsigned_toDigits (by decide) (by decide) (Nat.le_sub_one_of_lt socket.uid.toNat_lt)
  have hinode : parseUnsigned 10 (2 ^ 64 - 1) (decimal socket.inode.toNat) = some socket.inode.toNat :=
    parseUnsigned_toDigits (by decide) (by decide) (Nat.le_sub_one_of_lt socket.inode.toNat_lt)
  unfold Sockets.parseLine
  rw [splitWhitespace_layOut hpadding hseparated hfield htrailing, hfields]
  unfold KernelSocket.fields
  dsimp only [Option.bind_eq_bind]
  rw [hstate, Option.bind_some, parseEndpoint_procEndpoint hlittle, Option.bind_some,
    parseEndpoint_procEndpoint hlittle, Option.bind_some, huid, Option.bind_some, hinode, Option.bind_some,
    UInt8.ofNat_toNat, UInt32.ofNat_toNat, UInt64.ofNat_toNat]
  rfl

end

theorem newline_not_mem_of_isRow {host : Host} {socket : KernelSocket} {line : Text} (h : IsRow host socket line) :
    '\n' ∉ line := by
  obtain ⟨others, columns, trailing, rfl, hfields, hothers, hpadding, -, htrailing⟩ := h.columns
  refine newline_not_mem_layOut hpadding (fun column hcolumn => ?_) htrailing
  refine isField_of_mem_fields host socket hothers column.2 ?_
  rw [← hfields]
  exact List.mem_map_of_mem hcolumn

/-- **A table is read row by row**, without its header. -/
theorem parseTable_unlines {header : Text} {rows : List Text} (hheader : '\n' ∉ header)
    (hrows : ∀ line ∈ rows, '\n' ∉ line) (protocol : Protocol) :
    Sockets.parseTable (unlines (header :: rows)) protocol =
      rows.filterMap (fun line => Sockets.parseLine line protocol) := by
  have hlines : lines (unlines (header :: rows)) = (header :: rows).map withoutReturn :=
    lines_unlines (List.forall_mem_cons.2 ⟨hheader, hrows⟩)
  unfold Sockets.parseTable
  rw [hlines, List.map_cons, List.drop_one, List.tail_cons, List.filterMap_map]
  apply List.filterMap_congr
  intro line _
  show Sockets.parseLine (withoutReturn line) protocol = _
  unfold Sockets.parseLine
  rw [splitWhitespace_withoutReturn]

theorem parseLine_of_rows {host : Host} (hlittle : host.byteOrder = .little) (protocol : Protocol)
    {sockets : List KernelSocket} {rows : List Text} (hrows : List.Forall₂ (IsRow host) sockets rows) :
    (∀ line ∈ rows, '\n' ∉ line) ∧ rows.filterMap (fun line => Sockets.parseLine line protocol) =
      sockets.map (KernelSocket.socket protocol) := by
  induction hrows with
  | nil => exact ⟨fun line hline => absurd hline List.not_mem_nil, rfl⟩
  | cons hrow _ ih =>
    refine ⟨List.forall_mem_cons.2 ⟨newline_not_mem_of_isRow hrow, ih.1⟩, ?_⟩
    rw [List.filterMap_cons, parseLine_of_isRow hlittle hrow protocol, ih.2]
    rfl

/-- **Every table the kernel prints is read back**, and lines that are rejected change nothing. -/
theorem parseTable_of_printed (host : Host) (hlittle : host.byteOrder = .little) (protocol : Protocol) (header : Text)
    (hheader : '\n' ∉ header) (sockets : List KernelSocket) (rows : List Text)
    (hrows : List.Forall₂ (IsRow host) sockets rows) :
    Sockets.parseTable (unlines (header :: rows)) protocol = sockets.map (KernelSocket.socket protocol) ∧
      ∀ mixed : List Text, (∀ line ∈ mixed, '\n' ∉ line) →
        mixed.filter (fun line => (Sockets.parseLine line protocol).isSome) = rows →
        Sockets.parseTable (unlines (header :: mixed)) protocol = sockets.map (KernelSocket.socket protocol) := by
  obtain ⟨hnewline, hparsed⟩ := parseLine_of_rows hlittle protocol hrows
  refine ⟨(parseTable_unlines hheader hnewline protocol).trans hparsed, fun mixed hmixed hfilter => ?_⟩
  rw [parseTable_unlines hheader hmixed, ← hparsed, ← hfilter, List.filterMap_filter]
  apply List.filterMap_congr
  intro line _
  cases Sockets.parseLine line protocol <;> rfl

def listener : KernelSocket :=
  ⟨.v4 (Ipv4Addr.new 127 0 0 1), 1314, .v4 Ipv4Addr.unspecified, 0, 0x0a, 1000, 26014⟩

def connection : KernelSocket :=
  ⟨.v4 (Ipv4Addr.new 10 0 0 2), 51000, .v4 (Ipv4Addr.new 10 0 0 1), 22, 0x01, 0, 4294967296⟩

theorem length_ipv6Loopback : (List.replicate 15 (0 : UInt8) ++ [1]).length = 16 := rfl

def ipv6Loopback : Ipv6Addr := ⟨List.replicate 15 0 ++ [1], length_ipv6Loopback⟩

def ipv6Listener : KernelSocket := ⟨.v6 ipv6Loopback, 1314, .v6 Ipv6Addr.unspecified, 0, 0x0a, 1000, 26015⟩

def sampleColumns : OtherColumns := ⟨"0:", "00000000:00000000", "00:00000000", "00000000", "0", ["1"]⟩

def samplePadding : List Text := ["   ", " ", " ", " ", " ", " ", " ", "  ", "        ", " ", " "]

def sampleRow (socket : KernelSocket) : Text := layOut (samplePadding.zip (socket.fields hostX86 sampleColumns)) "  "

theorem isRow_sampleRow {socket : KernelSocket} (h : socket ∈ [listener, connection, ipv6Listener]) :
    IsRow hostX86 socket (sampleRow socket) := by
  have hcolumns : ∀ socket ∈ [listener, connection, ipv6Listener],
      (samplePadding.zip (socket.fields hostX86 sampleColumns)).map Prod.snd = socket.fields hostX86 sampleColumns ∧
      (∀ column ∈ samplePadding.zip (socket.fields hostX86 sampleColumns), IsPadding column.1) ∧
      ∀ column ∈ (samplePadding.zip (socket.fields hostX86 sampleColumns)).tail, column.1 ≠ [] := by
    decide +kernel
  obtain ⟨hfields, hpadding, hseparated⟩ := hcolumns socket h
  exact ⟨⟨sampleColumns, samplePadding.zip (socket.fields hostX86 sampleColumns), "  ", rfl, hfields,
    by decide +kernel, hpadding, hseparated, by decide +kernel⟩⟩

/-- Tables of both families, and one with a row that is cut off. -/
theorem parseTable_listener :
    sampleRow listener = ("   0: 0100007F:0522 00000000:0000 0A 00000000:00000000 00:00000000 00000000  1000" : Text) ++
        "        0 26014 1  " ∧
      Sockets.parseTable (unlines ["  sl  local_address rem_address", sampleRow listener, sampleRow connection]) .tcp =
        [⟨.tcp, .v4 (Ipv4Addr.new 127 0 0 1) 1314, .v4 Ipv4Addr.unspecified 0, "listen", 1000, 26014⟩,
          ⟨.tcp, .v4 (Ipv4Addr.new 10 0 0 2) 51000, .v4 (Ipv4Addr.new 10 0 0 1) 22, "established", 0, 4294967296⟩] ∧
      Sockets.parseTable (unlines ["  sl  local_address", "   0: 0100007F:05", sampleRow ipv6Listener]) .tcp =
        [⟨.tcp, .v6 ipv6Loopback 1314 0 0, .v6 Ipv6Addr.unspecified 0 0 0, "listen", 1000, 26015⟩] := by
  have hipv4 := parseTable_of_printed hostX86 rfl .tcp "  sl  local_address rem_address" (by decide)
    [listener, connection] [sampleRow listener, sampleRow connection]
    (.cons (isRow_sampleRow (by decide)) (.cons (isRow_sampleRow (by decide)) .nil))
  have hipv6 := parseTable_of_printed hostX86 rfl .tcp "  sl  local_address" (by decide) [ipv6Listener]
    [sampleRow ipv6Listener] (.cons (isRow_sampleRow (by decide)) .nil)
  exact ⟨by decide +kernel, hipv4.1,
    hipv6.2 ["   0: 0100007F:05", sampleRow ipv6Listener] (by decide +kernel) (by decide +kernel)⟩

end Networkrs
