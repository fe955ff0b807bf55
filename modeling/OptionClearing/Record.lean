/-!
Packed records: choices as 32-bit codes, numbers as bytes in either order, layouts of fields of
fixed width, and the cursors that read and write a record along its layout.
-/

namespace OptionClearing

abbrev Bytes := List UInt8

def littleEndian : Nat → Nat → Bytes
  | 0, _ => []
  | width + 1, value => UInt8.ofNat value :: littleEndian width (value / 256)

def ofLittleEndian : Bytes → Nat
  | [] => 0
  | byte :: bytes => byte.toNat + 256 * ofLittleEndian bytes

@[simp]
theorem length_littleEndian (width value : Nat) : (littleEndian width value).length = width := by
  induction width generalizing value with
  | zero => rfl
  | succ width ih => simp [littleEndian, ih]

inductive ByteOrder
  | little
  | big
  deriving DecidableEq, Repr

namespace ByteOrder

def other : ByteOrder → ByteOrder
  | little => big
  | big => little

/-- Turns least-significant-first bytes into this order, and back. -/
def arrange : ByteOrder → Bytes → Bytes
  | little, bytes => bytes
  | big, bytes => bytes.reverse

def encode (order : ByteOrder) (width value : Nat) : Bytes :=
  order.arrange (littleEndian width value)

def decode (order : ByteOrder) (bytes : Bytes) : Nat :=
  ofLittleEndian (order.arrange bytes)

@[simp]
theorem arrange_arrange (order : ByteOrder) (bytes : Bytes) :
    order.arrange (order.arrange bytes) = bytes := by
  cases order <;> simp [arrange]

@[simp]
theorem length_arrange (order : ByteOrder) (bytes : Bytes) :
    (order.arrange bytes).length = bytes.length := by
  cases order <;> simp [arrange]

@[simp]
theorem length_encode (order : ByteOrder) (width value : Nat) :
    (order.encode width value).length = width := by
  simp [encode]

end ByteOrder

/-- Every choice has one code, and only that code is read back as the choice. -/
class Coded (α : Type) where
  code : α → UInt32
  ofCode? : UInt32 → Option α
  ofCode?_eq_some_iff : ∀ {word choice}, ofCode? word = some choice ↔ word = code choice

instance : Coded Bool where
  code flag := if flag then 1 else 0
  ofCode?
    | 0 => some false
    | 1 => some true
    | _ => none
  ofCode?_eq_some_iff {word choice} := by cases choice <;> split <;> simp_all

inductive RecordFault
  | lengthMismatch (expected actual : Nat)
  | invalidField (field : String) (value : UInt32)
  | outputTooSmall (required available : Nat)
  deriving DecidableEq, Repr

def RecordFault.message : RecordFault → String
  | lengthMismatch expected actual => s!"length mismatch: expected {expected} bytes, got {actual}"
  | invalidField field value => s!"invalid {field} code {value}"
  | outputTooSmall required available =>
    s!"output needs {required} bytes, only {available} available"

inductive Shape : Type 1
  | byte
  | word32
  | word64
  | choice (α : Type) [Coded α]
  /-- Bytes that no byte order touches. -/
  | raw (width : Nat)

namespace Shape

def width : Shape → Nat
  | byte => 1
  | word32 => 4
  | word64 => 8
  | choice _ => 4
  | raw width => width

@[reducible]
def Value : Shape → Type
  | byte => UInt8
  | word32 => UInt32
  | word64 => UInt64
  | choice α => α
  | raw width => Vector UInt8 width

end Shape

def Bytes.fit (bytes : Bytes) (width : Nat) : Vector UInt8 width :=
  Vector.ofFn fun index => bytes.getD index 0

structure Field where
  name : String
  shape : Shape

namespace Field

def width (field : Field) : Nat := field.shape.width

@[reducible]
def Value (field : Field) : Type := field.shape.Value

def encode (order : ByteOrder) : (field : Field) → field.Value → Bytes
  | ⟨_, .byte⟩, value => [value]
  | ⟨_, .word32⟩, value => order.encode 4 value.toNat
  | ⟨_, .word64⟩, value => order.encode 8 value.toNat
  | ⟨_, @Shape.choice _ _⟩, value => order.encode 4 (Coded.code value).toNat
  | ⟨_, .raw _⟩, value => value.toList

def decode (order : ByteOrder) : (field : Field) → Bytes → Except RecordFault field.Value
  | ⟨_, .byte⟩, bytes => .ok (UInt8.ofNat (order.decode bytes))
  | ⟨_, .word32⟩, bytes => .ok (UInt32.ofNat (order.decode bytes))
  | ⟨_, .word64⟩, bytes => .ok (UInt64.ofNat (order.decode bytes))
  | ⟨name, @Shape.choice α _⟩, bytes =>
    let word := UInt32.ofNat (order.decode bytes)
    match (Coded.ofCode? word : Option α) with
    | some value => .ok value
    | none => .error (.invalidField name word)
  | ⟨_, .raw width⟩, bytes => .ok (bytes.fit width)

end Field

abbrev Layout := List Field

namespace Layout

def width : Layout → Nat
  | [] => 0
  | field :: fields => field.width + width fields

@[reducible]
def Values : Layout → Type
  | [] => Unit
  | field :: fields => field.Value × Values fields

end Layout

def Bytes.overwrite (bytes : Bytes) (position : Nat) (chunk : Bytes) : Bytes :=
  bytes.take position ++ chunk ++ bytes.drop (position + chunk.length)

structure Reader where
  order : ByteOrder
  bytes : Bytes
  position : Nat
  deriving DecidableEq, Repr

namespace Reader

def start (order : ByteOrder) (bytes : Bytes) : Reader := ⟨order, bytes, 0⟩

def chunk (reader : Reader) (width : Nat) : Bytes :=
  (reader.bytes.drop reader.position).take width

def advance (reader : Reader) (width : Nat) : Reader :=
  { reader with position := reader.position + width }

def field (reader : Reader) (field : Field) : Except RecordFault (field.Value × Reader) := do
  let value ← field.decode reader.order (reader.chunk field.width)
  return (value, reader.advance field.width)

def fields (reader : Reader) :
    (layout : Layout) → Except RecordFault (layout.Values × Reader)
  | [] => .ok ((), reader)
  | first :: rest => do
    let (value, reader) ← reader.field first
    let (values, reader) ← reader.fields rest
    return ((value, values), reader)

end Reader

structure Writer where
  order : ByteOrder
  bytes : Bytes
  position : Nat
  deriving DecidableEq, Repr

namespace Writer

def start (order : ByteOrder) (width : Nat) : Writer := ⟨order, List.replicate width 0, 0⟩

def chunk (writer : Writer) (chunk : Bytes) : Writer :=
  { writer with
    bytes := writer.bytes.overwrite writer.position chunk
    position := writer.position + chunk.length }

def field (writer : Writer) (field : Field) (value : field.Value) : Writer :=
  writer.chunk (field.encode writer.order value)

def fields (writer : Writer) : (layout : Layout) → layout.Values → Writer
  | [], () => writer
  | first :: rest, (value, values) => (writer.field first value).fields rest values

end Writer

class Record (α : Type) where
  layout : Layout
  toFields : α → layout.Values
  ofFields : layout.Values → α
  ofFields_toFields : ∀ record, ofFields (toFields record) = record
  toFields_ofFields : ∀ values, toFields (ofFields values) = values

namespace Record

variable {α : Type} [Record α]

def width (α : Type) [Record α] : Nat := (layout α).width

def encode (order : ByteOrder) (record : α) : Bytes :=
  ((Writer.start order (width α)).fields (layout α) (toFields record)).bytes

def decode (order : ByteOrder) (bytes : Bytes) : Except RecordFault α :=
  if bytes.length = width α then do
    let (values, _) ← (Reader.start order bytes).fields (layout α)
    return ofFields values
  else .error (.lengthMismatch (width α) bytes.length)

end Record

end OptionClearing
