import Networkrs.SockDiag
/-!
# ProcNet — the endpoints of procfs and of socket diagnostics

`parse_endpoint` of `sockets.rs` reads the text the kernel prints for an endpoint; `endpoint` of `sock_diag.rs` reads
the words it is printed from.  The command line joins the two tables by what they return.  The words are in network
order and loaded natively for both, but the text is taken for little-endian (`parseEndpoint_procEndpoint`), so the two
agree on every endpoint of a little-endian host, and of a big-endian one where the words read the same backwards
(`endpoints_agree_iff`).
-/
namespace Networkrs

open Machine

/-! ## `parse_endpoint` -/

/-- One word of an IPv6 address: eight hexadecimal digits, as the bytes `to_le_bytes` gives. -/
def parseWord (chunk : Bytes) : Option Bytes := do
  let text ← fromUtf8 chunk
  let word ← parseUnsigned 16 (2 ^ 32 - 1) text
  return ByteOrder.little.write 4 word

def parseEndpoint (value : Text) : Option SocketAddr := do
  let (address, port) ← splitOnce ':' value
  let port ← parseUnsigned 16 (2 ^ 16 - 1) port
  let bytes := utf8Bytes address
  if bytes.length = 8 then
    let word ← parseUnsigned 16 (2 ^ 32 - 1) address
    return .v4 ⟨UInt32.ofNat (ByteOrder.big.read (ByteOrder.little.write 4 word))⟩ (UInt16.ofNat port)
  else if bytes.length = 32 then
    let words ← (chunksExact 8 bytes).mapM parseWord
    let ip ← ipv6FromBytes words.flatten
    return .v6 ip (UInt16.ofNat port) 0 0
  else none

/-! ## The kernel's side -/

section
variable (host : Host)

def IpAddr.family : IpAddr → UInt8
  | .v4 _ => afInet
  | .v6 _ => afInet6

/-- What the kernel prints for an endpoint: each word of the address in memory as `%08X`, and the port as `%04X`. -/
def procEndpoint (address : IpAddr) (port : UInt16) : Text :=
  (chunksExact 4 address.octets).flatMap (fun word => hexUpper 8 (host.byteOrder.read word)) ++
    ':' :: hexUpper 4 port.toNat

/-- The words of a diagnostic record that start with an address in memory. -/
def memoryWords (address : IpAddr) (rest : Bytes) : Words := Words.read host (address.octets ++ rest) 0

/-- A port in memory is in network order. -/
def memoryPort (port : UInt16) : UInt16 := host.byteOrder.u16At (ByteOrder.big.u16Bytes port) 0

/-- **Both decoders give back the endpoint they were given.** -/
def EndpointsAgree (address : IpAddr) (port : UInt16) : Prop :=
  parseEndpoint (procEndpoint host address port) = some (SocketAddr.new address port) ∧
    ∀ rest, endpoint host address.family (memoryWords host address rest) (memoryPort host port) =
      some (SocketAddr.new address port)

/-- A word as `parse_endpoint` has it: its bytes as a little-endian host would have loaded them. -/
def parsedBytes (word : Bytes) : Bytes := ByteOrder.little.write 4 (host.byteOrder.read word)

theorem length_parsedBytes (word : Bytes) : (parsedBytes host word).length = 4 := ByteOrder.length_write _ _ _

/-- **A word is parsed as it was printed** on a little-endian host, and backwards on a big-endian one. -/
theorem parsedBytes_eq_iff {word : Bytes} (h : word.length = 4) :
    parsedBytes host word = word ↔ host.byteOrder = .little ∨ word.reverse = word := by
  unfold parsedBytes
  cases host.byteOrder with
  | little => exact iff_of_true (ByteOrder.little.write_read h) (.inl rfl)
  | big =>
    have hlength : word.reverse.length = 4 := by rw [List.length_reverse, h]
    have hback : ByteOrder.little.write 4 (ByteOrder.big.read word) = word.reverse :=
      ByteOrder.little.write_read hlength
    rw [hback]
    exact ⟨.inr, fun hword => hword.elim (fun h => by cases h) id⟩

theorem parseWord_utf8Bytes {n : Nat} (h : n < 2 ^ 32) :
    parseWord (utf8Bytes (hexUpper 8 n)) = some (ByteOrder.little.write 4 n) := by
  unfold parseWord
  rw [fromUtf8_utf8Bytes]
  show (parseUnsigned 16 (2 ^ 32 - 1) (hexUpper 8 n)).bind _ = _
  rw [parseUnsigned_hexUpper (by decide) h (by omega)]
  rfl

/-! ## What is parsed -/

/-- The printed form of one word. -/
def printedWord (word : Bytes) : Text := hexUpper 8 (host.byteOrder.read word)

theorem utf8Size_of_mem_printedWord {word : Bytes} {c : Char} (h : c ∈ printedWord host word) : c.utf8Size = 1 :=
  (of_mem_hexUpper 8 _ c h).1

theorem length_printedWord (word : Bytes) : (utf8Bytes (printedWord host word)).length = 8 := by
  rw [length_utf8Bytes _ (fun _ => utf8Size_of_mem_printedWord host)]
  exact length_hexUpper 8 _

theorem utf8Bytes_flatMap_printedWord (words : List Bytes) :
    utf8Bytes (words.flatMap (printedWord host)) =
      (words.map (fun word => utf8Bytes (printedWord host word))).flatten := by
  unfold utf8Bytes
  rw [List.flatMap_assoc, List.flatMap_def]

theorem length_utf8Bytes_printed (words : List Bytes) :
    (utf8Bytes (words.flatMap (printedWord host))).length = words.length * 8 := by
  rw [utf8Bytes_flatMap_printedWord, length_flatten_chunks (k := 8) (fun chunk hchunk => ?_), List.length_map]
  obtain ⟨word, -, rfl⟩ := List.mem_map.1 hchunk
  exact length_printedWord host word

theorem mapM_parseWord : ∀ (words : List Bytes), (∀ word ∈ words, word.length = 4) →
    (words.map (fun word => utf8Bytes (printedWord host word))).mapM parseWord = some (words.map (parsedBytes host))
  | [], _ => rfl
  | word :: words, h => by
    have hlt : host.byteOrder.read word < 2 ^ 32 := host.byteOrder.read_lt (h word List.mem_cons_self)
    have hword : parseWord (utf8Bytes (printedWord host word)) = some (parsedBytes host word) :=
      parseWord_utf8Bytes hlt
    have hwords := mapM_parseWord words (fun w hw => h w (List.mem_cons_of_mem _ hw))
    rw [List.map_cons, List.mapM_cons, hword, hwords]
    rfl

theorem splitOnce_procEndpoint (address : IpAddr) (port : UInt16) :
    splitOnce ':' (procEndpoint host address port) =
      some ((chunksExact 4 address.octets).flatMap (printedWord host), hexUpper 4 port.toNat) := by
  refine splitOnce_append _ (fun hmem => ?_)
  obtain ⟨word, -, hc⟩ := List.mem_flatMap.1 hmem
  exact (of_mem_hexUpper 8 _ _ hc).2.2.2 rfl

theorem parsePort_hexUpper (port : UInt16) :
    parseUnsigned 16 (2 ^ 16 - 1) (hexUpper 4 port.toNat) = some port.toNat := by
  have hlt := port.toNat_lt
  exact parseUnsigned_hexUpper (by decide) hlt (by omega)

theorem chunksExact_octets (ip : Ipv4Addr) : chunksExact 4 ip.octets = [ip.octets] := by
  simpa using @chunksExact_flatten _ 4 (by decide) [ip.octets] (by simp)

theorem parseEndpoint_v4 (ip : Ipv4Addr) (port : UInt16) :
    parseEndpoint (procEndpoint host (.v4 ip) port) =
      some (.v4 ⟨UInt32.ofNat (ByteOrder.big.read (parsedBytes host ip.octets))⟩ port) := by
  have hwords : chunksExact 4 (IpAddr.v4 ip).octets = [ip.octets] := chunksExact_octets ip
  have hlt : host.byteOrder.read ip.octets < 2 ^ 32 := host.byteOrder.read_lt ip.length_octets
  have hlength : (utf8Bytes ([ip.octets].flatMap (printedWord host))).length = 8 :=
    length_utf8Bytes_printed host [ip.octets]
  have hword : parseUnsigned 16 (2 ^ 32 - 1) (printedWord host ip.octets) = some (host.byteOrder.read ip.octets) :=
    parseUnsigned_hexUpper (by decide) hlt (by omega)
  unfold parseEndpoint
  rw [splitOnce_procEndpoint, hwords]
  dsimp only [Option.bind_eq_bind, Option.bind_some]
  rw [parsePort_hexUpper, Option.bind_some, if_pos hlength]
  simp only [List.flatMap_cons, List.flatMap_nil, List.append_nil, hword, Option.bind_some]
  rw [UInt16.ofNat_toNat]
  rfl

theorem parseEndpoint_v6 (ip : Ipv6Addr) (port : UInt16) :
    parseEndpoint (procEndpoint host (.v6 ip) port) =
      (ipv6FromBytes ((chunksExact 4 ip.octets).map (parsedBytes host)).flatten).map
        (fun parsed => .v6 parsed port 0 0) := by
  have hcount : (chunksExact 4 ip.octets).length = 4 := by simp [chunksExact, ip.length_octets]
  have hlength := length_utf8Bytes_printed host (chunksExact 4 ip.octets)
  rw [hcount] at hlength
  have hchunks : chunksExact 8 (utf8Bytes ((chunksExact 4 ip.octets).flatMap (printedWord host))) =
      (chunksExact 4 ip.octets).map (fun word => utf8Bytes (printedWord host word)) := by
    rw [utf8Bytes_flatMap_printedWord]
    refine chunksExact_flatten (by decide) _ (fun chunk hchunk => ?_)
    obtain ⟨word, -, rfl⟩ := List.mem_map.1 hchunk
    exact length_printedWord host word
  unfold parseEndpoint
  rw [splitOnce_procEndpoint]
  dsimp only [Option.bind_eq_bind, Option.bind_some, IpAddr.octets]
  rw [parsePort_hexUpper, Option.bind_some, if_neg (by omega), if_pos hlength, hchunks,
    mapM_parseWord host _ (fun _ => length_of_mem_chunksExact), Option.bind_some, UInt16.ofNat_toNat]
  cases ipv6FromBytes ((chunksExact 4 ip.octets).map (parsedBytes host)).flatten <;> rfl

/-! ## Agreement -/

theorem ipv6FromBytes_eq_some_iff {bytes : Bytes} (h : bytes.length = 16) (ip : Ipv6Addr) :
    ipv6FromBytes bytes = some ip ↔ bytes = ip.octets := by
  unfold ipv6FromBytes
  rw [dif_pos (Nat.le_of_eq h.symm), Option.some.injEq]
  cases ip
  simp only [Ipv6Addr.mk.injEq, List.take_of_length_le (Nat.le_of_eq h)]

/-- **When an address is parsed back**: exactly when each of its words is. -/
theorem parseEndpoint_eq_iff (address : IpAddr) (port : UInt16) :
    parseEndpoint (procEndpoint host address port) = some (SocketAddr.new address port) ↔
      ∀ word ∈ chunksExact 4 address.octets, parsedBytes host word = word := by
  cases address with
  | v4 ip =>
    have hwords : chunksExact 4 (IpAddr.v4 ip).octets = [ip.octets] := chunksExact_octets ip
    rw [parseEndpoint_v4, hwords]
    simp only [SocketAddr.new, List.mem_singleton, forall_eq, Option.some.injEq, SocketAddr.v4.injEq, and_true]
    constructor
    · intro h
      have hlt : ByteOrder.big.read (parsedBytes host ip.octets) < 2 ^ 32 :=
        ByteOrder.big.read_lt (length_parsedBytes host _)
      have hbits := congrArg (fun a => a.bits.toNat) h
      dsimp only at hbits
      rw [UInt32.toNat_ofNat_of_lt' hlt, ← ip.read_octets] at hbits
      rw [← ByteOrder.big.write_read (length_parsedBytes host ip.octets), hbits,
        ByteOrder.big.write_read ip.length_octets]
    · intro h
      rw [h, ip.read_octets, UInt32.ofNat_toNat]
  | v6 ip =>
    have hlengths : ∀ word ∈ (chunksExact 4 ip.octets).map (parsedBytes host), word.length = 4 := by
      intro word hword
      obtain ⟨w, -, rfl⟩ := List.mem_map.1 hword
      exact length_parsedBytes host w
    have hcount : ((chunksExact 4 ip.octets).map (parsedBytes host)).flatten.length = 16 := by
      rw [length_flatten_chunks hlengths, List.length_map, chunksExact, List.length_map, List.length_range,
        ip.length_octets]
    have hsame : ipv6FromBytes ((chunksExact 4 ip.octets).map (parsedBytes host)).flatten = some ip ↔
        (chunksExact 4 ip.octets).map (parsedBytes host) = chunksExact 4 ip.octets := by
      rw [ipv6FromBytes_eq_some_iff hcount]
      constructor
      · intro h
        rw [← chunksExact_flatten (by decide) _ hlengths, h]
      · intro h
        rw [h]
        exact flatten_chunksExact (by decide) 4 ip.octets ip.length_octets
    have hself : (chunksExact 4 ip.octets).map (parsedBytes host) = chunksExact 4 ip.octets ↔
        ∀ word ∈ chunksExact 4 ip.octets, parsedBytes host word = word := by
      conv => lhs; rhs; rw [← List.map_id (chunksExact 4 ip.octets)]
      exact List.map_inj_left
    rw [parseEndpoint_v6]
    show (ipv6FromBytes _).map _ = some (SocketAddr.v6 ip port 0 0) ↔ ∀ word ∈ chunksExact 4 ip.octets, _
    rw [← hself, ← hsame, Option.map_eq_some_iff]
    simp

/-- **The diagnostics decoder gives every endpoint back.** -/
theorem endpoint_memory (address : IpAddr) (port : UInt16) (rest : Bytes) :
    endpoint host address.family (memoryWords host address rest) (memoryPort host port) =
      some (SocketAddr.new address port) := by
  have hport : fromBe host (memoryPort host port) = port := by
    unfold fromBe memoryPort
    rw [host.byteOrder.u16Bytes_u16At _ (by simp), bytesAt, List.drop_zero,
      List.take_of_length_le (by simp), ByteOrder.u16Bytes, ByteOrder.big.read_write_of_lt port.toNat_lt,
      UInt16.ofNat_toNat]
  unfold endpoint
  rw [hport]
  cases address with
  | v4 ip =>
    have hword : host.byteOrder.u32Bytes (memoryWords host (.v4 ip) rest).w0 = ip.octets := by
      unfold memoryWords Words.read
      dsimp only [IpAddr.octets]
      rw [host.byteOrder.u32Bytes_u32At _ (by simp), bytesAt, List.drop_zero, List.take_left' ip.length_octets]
    rw [hword, ip.read_octets, UInt32.ofNat_toNat]
    rfl
  | v6 ip =>
    have hlength := ip.length_octets
    have hoctets : (memoryWords host (.v6 ip) rest).octets host = ip.octets := by
      unfold memoryWords Words.read Words.octets
      dsimp only [IpAddr.octets]
      rw [host.byteOrder.u32Bytes_u32At _ (by simp; omega), host.byteOrder.u32Bytes_u32At _ (by simp; omega),
        host.byteOrder.u32Bytes_u32At _ (by simp; omega), host.byteOrder.u32Bytes_u32At _ (by simp; omega)]
      have hsum := List.nil_append (bytesAt (ip.octets ++ rest) 0 4)
      rw [← hsum, ← List.take_zero, take_append_bytesAt, take_append_bytesAt, take_append_bytesAt, take_append_bytesAt]
      exact List.take_left' hlength
    have hip : (⟨(memoryWords host (.v6 ip) rest).octets host, Words.length_octets host _⟩ : Ipv6Addr) = ip := by
      cases ip
      simp only [Ipv6Addr.mk.injEq]
      exact hoctets
    rw [hip]
    rfl

/-- **When the two decoders agree**: on a little-endian host, and where every word reads the same backwards. -/
theorem endpoints_agree_iff (address : IpAddr) (port : UInt16) :
    EndpointsAgree host address port ↔
      host.byteOrder = .little ∨ ∀ word ∈ chunksExact 4 address.octets, word.reverse = word := by
  have hparse := parseEndpoint_eq_iff host address port
  have hword : ∀ word ∈ chunksExact 4 address.octets,
      (parsedBytes host word = word ↔ host.byteOrder = .little ∨ word.reverse = word) := fun word hword =>
    parsedBytes_eq_iff host (length_of_mem_chunksExact hword)
  constructor
  · rintro ⟨hparsed, -⟩
    by_cases hlittle : host.byteOrder = .little
    · exact .inl hlittle
    · exact .inr (fun word hmem => ((hword word hmem).1 (hparse.1 hparsed word hmem)).resolve_left hlittle)
  · intro h
    refine ⟨hparse.2 (fun word hmem => (hword word hmem).2 ?_), endpoint_memory host address port⟩
    exact h.imp_right (fun hall => hall word hmem)

end

def hostPower : Host := ⟨.big, 100⟩

/-- On a big-endian host, 127.0.0.1:443 is printed as 7F000001:01BB and parsed as 1.0.0.127:443. -/
theorem loopback_is_parsed_backwards :
    procEndpoint hostPower (.v4 (Ipv4Addr.new 127 0 0 1)) 443 = "7F000001:01BB" ∧
      parseEndpoint (procEndpoint hostPower (.v4 (Ipv4Addr.new 127 0 0 1)) 443) =
        some (.v4 (Ipv4Addr.new 1 0 0 127) 443) ∧
      ¬ EndpointsAgree hostPower (.v4 (Ipv4Addr.new 127 0 0 1)) 443 := by
  refine ⟨by decide +kernel, by decide +kernel, fun h => ?_⟩
  have hparsed := h.1
  revert hparsed
  decide +kernel

end Networkrs
