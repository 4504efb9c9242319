import Networkrs.Text
/-!
# Wire — netlink messages and attributes as bytes

The layouts `netlink.rs`, `generic_netlink.rs` and `sock_diag.rs` share: the message header, the attribute header, the
four-byte alignment of both, and the native reads of fixed-width fields.  Both formats are `Framing.Format`s, so a loop
over messages or attributes is a `Framing.walk`.
-/
namespace Networkrs

open Machine Framing

/-- The host: its byte order, and what `sysconf(_SC_CLK_TCK)` returns. -/
structure Host where
  byteOrder : ByteOrder
  clockTicks : Int64
  deriving DecidableEq, Repr

def hostX86 : Host := ⟨.little, 100⟩

def afInet : UInt8 := 2
def afInet6 : UInt8 := 10

def nlmFRequest : UInt16 := 0x01
def nlmFDump : UInt16 := 0x100 ||| 0x200
def nlmFDumpIntr : UInt16 := 0x10
def nlmsgError : UInt16 := 0x02
def nlmsgDone : UInt16 := 0x03
def nlmsgOverrun : UInt16 := 0x04
def nlaTypeMask : UInt16 := 0x3fff

/-- `(length + 3) & !3`. -/
def alignTo4 (length : Nat) : Nat := (length + 3) / 4 * 4

theorem le_alignTo4 (length : Nat) : length ≤ alignTo4 length := by
  unfold alignTo4
  omega

theorem alignTo4_le (length : Nat) : alignTo4 length ≤ length + 3 := by
  unfold alignTo4
  omega

theorem alignTo4_of_mod {length : Nat} (h : length % 4 = 0) : alignTo4 length = length := by
  unfold alignTo4
  omega

theorem alignTo4_mod (length : Nat) : alignTo4 length % 4 = 0 := by
  unfold alignTo4
  omega

/-! ## Native fields -/

variable (host : Host)

def nativeU16 (value : Bytes) : Option UInt16 :=
  if value.length < 2 then none else some (host.byteOrder.u16At value 0)

def nativeU32 (value : Bytes) : Option UInt32 :=
  if value.length < 4 then none else some (host.byteOrder.u32At value 0)

def nativeU64 (value : Bytes) : Option UInt64 :=
  if value.length < 8 then none else some (UInt64.ofNat (host.byteOrder.read (bytesAt value 0 8)))

theorem nativeU16_u16Bytes (n : UInt16) : nativeU16 host (host.byteOrder.u16Bytes n) = some n := by
  have hread := host.byteOrder.u16At_front n []
  rw [List.append_nil] at hread
  rw [nativeU16, host.byteOrder.length_u16Bytes, if_neg (by decide), hread]

theorem nativeU32_u32Bytes (n : UInt32) : nativeU32 host (host.byteOrder.u32Bytes n) = some n := by
  have hread := host.byteOrder.u32At_front n []
  rw [List.append_nil] at hread
  rw [nativeU32, host.byteOrder.length_u32Bytes, if_neg (by decide), hread]

/-- **A counter of eight native bytes is its number**, whatever stands after it. -/
theorem nativeU64_write (n : UInt64) (rest : Bytes) :
    nativeU64 host (host.byteOrder.write 8 n.toNat ++ rest) = some n := by
  have hlength : (host.byteOrder.write 8 n.toNat).length = 8 := host.byteOrder.length_write 8 n.toNat
  have hbytes : bytesAt (host.byteOrder.write 8 n.toNat ++ rest) 0 8 = host.byteOrder.write 8 n.toNat := by
    rw [bytesAt, List.drop_zero, List.take_left' hlength]
  rw [nativeU64, if_neg (by rw [List.length_append]; omega), hbytes,
    host.byteOrder.read_write_of_lt (k := 8) n.toNat_lt, UInt64.ofNat_toNat]

def readI32 (bytes : Bytes) (offset : Nat) : Option Int32 :=
  if bytes.length < offset + 4 then none else some (host.byteOrder.i32At bytes offset)

/-! ## Messages -/

structure MessageHeader where
  length : UInt32
  messageType : UInt16
  flags : UInt16
  sequence : UInt32
  portId : UInt32
  deriving DecidableEq, Repr

def MessageHeader.size : Nat := 16

def MessageHeader.read (bytes : Bytes) : Option MessageHeader :=
  if bytes.length < MessageHeader.size then none
  else some
    { length := host.byteOrder.u32At bytes 0
      messageType := host.byteOrder.u16At bytes 4
      flags := host.byteOrder.u16At bytes 6
      sequence := host.byteOrder.u32At bytes 8
      portId := host.byteOrder.u32At bytes 12 }

def MessageHeader.bytes (header : MessageHeader) : Bytes :=
  host.byteOrder.u32Bytes header.length ++
    (host.byteOrder.u16Bytes header.messageType ++
      (host.byteOrder.u16Bytes header.flags ++
        (host.byteOrder.u32Bytes header.sequence ++ host.byteOrder.u32Bytes header.portId)))

@[simp] theorem MessageHeader.length_bytes (header : MessageHeader) : (header.bytes host).length = 16 := by
  simp [MessageHeader.bytes]

theorem MessageHeader.read_bytes (header : MessageHeader) (rest : Bytes) :
    MessageHeader.read host (header.bytes host ++ rest) = some header := by
  have h0 := host.byteOrder.u32At_append [] (host.byteOrder.u16Bytes header.messageType ++
    (host.byteOrder.u16Bytes header.flags ++ (host.byteOrder.u32Bytes header.sequence ++
      (host.byteOrder.u32Bytes header.portId ++ rest)))) header.length (k := 0) rfl
  have h4 := host.byteOrder.u16At_append (host.byteOrder.u32Bytes header.length)
    (host.byteOrder.u16Bytes header.flags ++ (host.byteOrder.u32Bytes header.sequence ++
      (host.byteOrder.u32Bytes header.portId ++ rest))) header.messageType (k := 4) (by simp)
  have h6 := host.byteOrder.u16At_append
    (host.byteOrder.u32Bytes header.length ++ host.byteOrder.u16Bytes header.messageType)
    (host.byteOrder.u32Bytes header.sequence ++ (host.byteOrder.u32Bytes header.portId ++ rest)) header.flags
    (k := 6) (by simp)
  have h8 := host.byteOrder.u32At_append (host.byteOrder.u32Bytes header.length ++
    (host.byteOrder.u16Bytes header.messageType ++ host.byteOrder.u16Bytes header.flags))
    (host.byteOrder.u32Bytes header.portId ++ rest) header.sequence (k := 8) (by simp)
  have h12 := host.byteOrder.u32At_append (host.byteOrder.u32Bytes header.length ++
    (host.byteOrder.u16Bytes header.messageType ++ (host.byteOrder.u16Bytes header.flags ++
      host.byteOrder.u32Bytes header.sequence))) rest header.portId (k := 12) (by simp)
  simp only [List.append_assoc, List.nil_append] at h0 h4 h6 h8 h12
  unfold MessageHeader.read MessageHeader.bytes
  rw [if_neg (by simp [MessageHeader.size]; omega)]
  simp only [List.append_assoc, h0, h4, h6, h8, h12]

theorem MessageHeader.read_take (bytes : Bytes) (n : Nat) (h : MessageHeader.size ≤ n) :
    MessageHeader.read host (bytes.take n) = MessageHeader.read host bytes := by
  unfold MessageHeader.size at h
  by_cases hb : bytes.length < MessageHeader.size
  · have hb' : bytes.length < 16 := hb
    rw [MessageHeader.read, MessageHeader.read, if_pos hb, if_pos (by simp [MessageHeader.size]; omega)]
  · have hb' : ¬ bytes.length < 16 := hb
    rw [MessageHeader.read, MessageHeader.read, if_neg hb, if_neg (by simp [MessageHeader.size]; omega)]
    rw [host.byteOrder.u32At_take bytes (by omega), host.byteOrder.u16At_take bytes (by omega),
      host.byteOrder.u16At_take bytes (by omega), host.byteOrder.u32At_take bytes (by omega),
      host.byteOrder.u32At_take bytes (by omega)]

/-- Messages: a header declares the length of the whole message, and messages are four-byte aligned. -/
def messageFormat : Format UInt8 MessageHeader where
  size := MessageHeader.size
  read := MessageHeader.read host
  length := fun header => header.length.toNat
  align := alignTo4
  padding := 3
  size_pos := by decide
  read_isSome := fun l => by
    unfold MessageHeader.read
    split
    · rename_i h
      simp only [Option.isSome_none, Bool.false_eq_true, false_iff]
      omega
    · rename_i h
      simp only [Option.isSome_some, true_iff]
      omega
  read_take := MessageHeader.read_take host
  le_align := le_alignTo4
  align_le := alignTo4_le
  padding_le := by decide

/-! ## Attributes -/

structure AttributeHeader where
  length : UInt16
  kind : UInt16
  deriving DecidableEq, Repr

def AttributeHeader.size : Nat := 4

def AttributeHeader.read (bytes : Bytes) : Option AttributeHeader :=
  if bytes.length < AttributeHeader.size then none
  else some
    { length := host.byteOrder.u16At bytes 0
      kind := host.byteOrder.u16At bytes 2 }

def AttributeHeader.bytes (header : AttributeHeader) : Bytes :=
  host.byteOrder.u16Bytes header.length ++ host.byteOrder.u16Bytes header.kind

@[simp] theorem AttributeHeader.length_bytes (header : AttributeHeader) : (header.bytes host).length = 4 := by
  simp [AttributeHeader.bytes]

theorem AttributeHeader.read_bytes (header : AttributeHeader) (rest : Bytes) :
    AttributeHeader.read host (header.bytes host ++ rest) = some header := by
  have h0 := host.byteOrder.u16At_append [] (host.byteOrder.u16Bytes header.kind ++ rest) header.length (k := 0) rfl
  have h2 := host.byteOrder.u16At_append (host.byteOrder.u16Bytes header.length) rest header.kind (k := 2) (by simp)
  simp only [List.nil_append] at h0
  unfold AttributeHeader.read AttributeHeader.bytes
  rw [if_neg (by simp [AttributeHeader.size]; omega)]
  simp only [List.append_assoc, h0, h2]

theorem AttributeHeader.read_take (bytes : Bytes) (n : Nat) (h : AttributeHeader.size ≤ n) :
    AttributeHeader.read host (bytes.take n) = AttributeHeader.read host bytes := by
  unfold AttributeHeader.size at h
  by_cases hb : bytes.length < AttributeHeader.size
  · have hb' : bytes.length < 4 := hb
    rw [AttributeHeader.read, AttributeHeader.read, if_pos hb, if_pos (by simp [AttributeHeader.size]; omega)]
  · have hb' : ¬ bytes.length < 4 := hb
    rw [AttributeHeader.read, AttributeHeader.read, if_neg hb, if_neg (by simp [AttributeHeader.size]; omega)]
    rw [host.byteOrder.u16At_take bytes (by omega), host.byteOrder.u16At_take bytes (by omega)]

def attributeFormat : Format UInt8 AttributeHeader where
  size := AttributeHeader.size
  read := AttributeHeader.read host
  length := fun header => header.length.toNat
  align := alignTo4
  padding := 3
  size_pos := by decide
  read_isSome := fun l => by
    unfold AttributeHeader.read
    split
    · rename_i h
      simp only [Option.isSome_none, Bool.false_eq_true, false_iff]
      omega
    · rename_i h
      simp only [Option.isSome_some, true_iff]
      omega
  read_take := AttributeHeader.read_take host
  le_align := le_alignTo4
  align_le := alignTo4_le
  padding_le := by decide

/-- An attribute pushed by an attribute loop: its kind without the flag bits, and its payload. -/
def pushAttribute (attributes : List (UInt16 × Bytes)) (header : AttributeHeader) (body : Bytes) :
    Checked (Flow (List (UInt16 × Bytes)) Unit) := do
  let value ← sliceFrom body AttributeHeader.size
  return .next (attributes ++ [(header.kind &&& nlaTypeMask, value)])

def attributesFromOffset (message : Bytes) (offset : Nat) : Checked (Option (List (UInt16 × Bytes))) := do
  match ← walk (attributeFormat host) pushAttribute (fun _ _ => ()) message offset [] with
  | .next attributes => return some attributes
  | .stop () => return none

/-- The attributes bytes hold, or nothing when their framing breaks. -/
def attributesIn (bytes : Bytes) : Option (List (UInt16 × Bytes)) :=
  (allRecords (items (attributeFormat host) bytes)).map
    (fun records => records.map (fun r => (r.1.kind &&& nlaTypeMask, r.2.drop AttributeHeader.size)))

/-- **The attribute loop reads the attributes its bytes hold**, and does not panic. -/
theorem attributesFromOffset_eq (message : Bytes) (offset : Nat) :
    attributesFromOffset host message offset = .ok (attributesIn host (message.drop offset)) := by
  have hstep : ∀ (held : List (UInt16 × Bytes)), ∀ i ∈ items (attributeFormat host) (message.drop offset),
      itemStep pushAttribute (fun _ _ => ()) held i =
        itemStep (fun held (header : AttributeHeader) body =>
          .ok (.next (held ++ [(header.kind &&& nlaTypeMask, body.drop AttributeHeader.size)]))) (fun _ _ => ())
          held i := by
    intro held i hi
    cases i with
    | fault f => rfl
    | record header body =>
      obtain ⟨-, -, hsize⟩ := mem_items_record (attributeFormat host) _ hi
      simp only [itemStep, pushAttribute, sliceFrom_eq body (i := AttributeHeader.size) hsize]
      rfl
  unfold attributesFromOffset attributesIn
  rw [walk_eq_scan, scan_congr hstep, scan_append]
  cases allRecords (items (attributeFormat host) (message.drop offset)) <;> rfl

/-- **A record parser over attributes**: nothing for a message that is not its own, nothing for one whose attributes
break off, and one record for every other. -/
structure ReadsRecords {T : Type} (parse : Bytes → Checked (Option T)) (own : Bytes → Bool) (offset : Nat) : Prop where
  of_other : ∀ message, own message = false → parse message = .ok none
  of_malformed : ∀ message, own message = true → attributesIn host (message.drop offset) = none →
    parse message = .ok none
  of_wellFormed : ∀ message, own message = true → (attributesIn host (message.drop offset)).isSome = true →
    ∃ record, parse message = .ok (some record)

/-! ## Errors -/

/-- `Err(io::Error::from_raw_os_error(-error))`. -/
def rawOsError {α : Type} (error : Int32) : Checked (Except IoError α) := do
  let code ← i32Neg error
  return .error (.os code)

/-- `parse_netlink_error`, with the text for a message too short for a code. -/
def parseError (truncated : Text) (message : Bytes) : Checked (Except IoError Unit) :=
  match readI32 host message MessageHeader.size with
  | none => return .error (.custom .invalidData truncated)
  | some error => if error = 0 then return .ok () else rawOsError error

end Networkrs
