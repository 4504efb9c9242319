import Networkrs.NetlinkDump
/-!
# GenlMessage — generic-netlink messages and attributes

The encoders and decoders of `generic_netlink.rs`: `Attribute::nested` and `build_message` write attributes,
`parse_attributes` and `parse_messages` read them.
-/
namespace Networkrs

open Machine Framing Collect

def genlIdCtrl : UInt16 := 0x10
def ctrlCmdGetfamily : UInt8 := 3
def ctrlAttrFamilyId : UInt16 := 1
def ctrlAttrFamilyName : UInt16 := 2
def nlaFNested : UInt16 := 0x8000

/-- An attribute: its kind is without flag bits once it is parsed. -/
structure Attribute where
  kind : UInt16
  value : Bytes
  deriving DecidableEq, Repr

structure Message where
  command : UInt8
  attributes : List Attribute
  deriving DecidableEq, Repr

structure GenericHeader where
  command : UInt8
  version : UInt8
  reserved : UInt16
  deriving DecidableEq, Repr

def GenericHeader.size : Nat := 4

variable (host : Host)

def GenericHeader.read (bytes : Bytes) : Option GenericHeader :=
  if bytes.length < GenericHeader.size then none
  else some { command := u8At bytes 0, version := u8At bytes 1, reserved := host.byteOrder.u16At bytes 2 }

def GenericHeader.bytes (header : GenericHeader) : Bytes :=
  [header.command, header.version] ++ host.byteOrder.u16Bytes header.reserved

/-! ## Encoding -/

/-- `while !value.len().is_multiple_of(4) { value.push(0) }`. -/
def padTo4 (bytes : Bytes) : Bytes := bytes ++ List.replicate (alignTo4 bytes.length - bytes.length) 0

/-- One turn of the encoding loops: header, value and padding. -/
def appendAttribute (target : Bytes) (attr : Attribute) : Bytes :=
  let header : AttributeHeader :=
    { length := UInt16.ofNat (AttributeHeader.size + attr.value.length), kind := attr.kind }
  padTo4 (target ++ header.bytes host ++ attr.value)

def Attribute.u32 (kind : UInt16) (value : UInt32) : Attribute :=
  { kind := kind, value := host.byteOrder.u32Bytes value }

def Attribute.nested (kind : UInt16) (attributes : List Attribute) : Attribute :=
  { kind := kind ||| nlaFNested, value := attributes.foldl (appendAttribute host) [] }

def buildMessage (messageType : UInt16) (sequence : UInt32) (command version : UInt8) (flags : UInt16)
    (attributes : List Attribute) : Bytes :=
  let generic : GenericHeader := { command := command, version := version, reserved := 0 }
  let message := attributes.foldl (appendAttribute host)
    (List.replicate MessageHeader.size 0 ++ generic.bytes host)
  let header : MessageHeader :=
    { length := UInt32.ofNat message.length, messageType := messageType, flags := flags, sequence := sequence,
      portId := 0 }
  header.bytes host ++ message.drop MessageHeader.size

/-! ## Decoding -/

def pushGenericAttribute (attributes : List Attribute) (header : AttributeHeader) (body : Bytes) :
    Checked (Flow (List Attribute) Unit) := do
  let value ← sliceFrom body AttributeHeader.size
  return .next (attributes ++ [{ kind := header.kind &&& nlaTypeMask, value := value }])

def parseAttributes (message : Bytes) (offset : Nat) : Checked (Option (List Attribute)) := do
  match ← walk (attributeFormat host) pushGenericAttribute (fun _ _ => ()) message offset [] with
  | .next attributes => return some attributes
  | .stop () => return none

def nestedAttributes (value : Bytes) : Checked (Option (List Attribute)) := parseAttributes host value 0

def genericFault : Fault → IoError
  | .truncatedHeader => .custom .invalidData "truncated generic netlink header"
  | .invalidLength => .custom .invalidData "invalid generic netlink message length"

/-- The arm of `parse_messages` for the family's own messages. -/
def parseGenericPayload (message : Bytes) : Checked (Except IoError Message) := do
  match getFrom message MessageHeader.size with
  | none => return .error (.custom .invalidData "missing generic netlink header")
  | some payload =>
    match GenericHeader.read host payload with
    | none => return .error (.custom .invalidData "truncated generic netlink payload")
    | some generic =>
      match ← parseAttributes host message (alignTo4 (MessageHeader.size + GenericHeader.size)) with
      | none => return .error (.custom .invalidData "invalid generic netlink attributes")
      | some attributes => return .ok { command := generic.command, attributes := attributes }

def genericStep (messageType : UInt16) (sequence : UInt32) (messages : List Message) (header : MessageHeader)
    (message : Bytes) : Checked (Flow (List Message) IoError) :=
  if header.sequence = sequence then
    if header.messageType = nlmsgError then do
      match ← parseError host "truncated generic netlink error" message with
      | .error e => return .stop e
      | .ok () => return .next messages
    else if header.messageType = nlmsgOverrun then
      return .stop (.custom .other "generic netlink dump overran")
    else if header.messageType = messageType then do
      match ← parseGenericPayload host message with
      | .error e => return .stop e
      | .ok parsed => return .next (messages ++ [parsed])
    else return .next messages
  else return .next messages

def parseMessages (response : Bytes) (messageType : UInt16) (sequence : UInt32) :
    Checked (Except IoError (List Message)) := do
  match ← walk (messageFormat host) (genericStep host messageType sequence) (fun _ f => genericFault f) response 0 []
      with
  | .next messages => return .ok messages
  | .stop e => return .error e

def completionFault : Fault → IoError
  | .truncatedHeader => .custom .invalidData "truncated netlink completion header"
  | .invalidLength => .custom .invalidData "invalid netlink completion length"

def completionStep (sequence : UInt32) (_ : Unit) (header : MessageHeader) (_ : Bytes) :
    Checked (Flow Unit (Except IoError Bool)) :=
  if header.sequence = sequence ∧ header.messageType = nlmsgDone then return .stop (.ok true) else return .next ()

def responseHasDone (response : Bytes) (sequence : UInt32) : Checked (Except IoError Bool) := do
  match ← walk (messageFormat host) (completionStep sequence) (fun _ f => .error (completionFault f)) response 0 ()
      with
  | .next () => return .ok false
  | .stop result => return result

/-! ## What the decoders read -/

/-- **`parse_attributes` reads the attributes its bytes hold**, and does not panic. -/
theorem parseAttributes_eq (message : Bytes) (offset : Nat) :
    parseAttributes host message offset =
      .ok ((allRecords (items (attributeFormat host) (message.drop offset))).map (fun records => records.map
        (fun r => { kind := r.1.kind &&& nlaTypeMask, value := r.2.drop AttributeHeader.size }))) := by
  have hstep : ∀ (held : List Attribute), ∀ i ∈ items (attributeFormat host) (message.drop offset),
      itemStep pushGenericAttribute (fun _ _ => ()) held i =
        itemStep (fun held (header : AttributeHeader) body => .ok (.next
          (held ++ [{ kind := header.kind &&& nlaTypeMask, value := body.drop AttributeHeader.size }])))
          (fun _ _ => ()) held i := by
    intro held i hi
    cases i with
    | fault f => rfl
    | record header body =>
      obtain ⟨-, -, hsize⟩ := mem_items_record (attributeFormat host) _ hi
      simp only [itemStep, pushGenericAttribute, sliceFrom_eq body (i := AttributeHeader.size) hsize]
      rfl
  unfold parseAttributes
  rw [walk_eq_scan, scan_congr hstep, scan_append]
  cases allRecords (items (attributeFormat host) (message.drop offset)) <;> rfl

end Networkrs
