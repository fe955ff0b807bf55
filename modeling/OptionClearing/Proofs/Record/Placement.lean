import OptionClearing.Proofs.Record.Grammar
import OptionClearing.Proofs.Record.Reversal

/-!
Where the fields of a record stand. The cursors know no offsets, they only go on by the width of
each field; here they are held against tables of fixed offsets.
-/

namespace OptionClearing

/-- What stands in a field: a number in so many bytes, or bytes as they are. -/
inductive Cell
  | number (width value : Nat)
  | raw (bytes : Bytes)
  deriving DecidableEq, Repr

def Cell.encode (order : ByteOrder) : Cell → Bytes
  | number width value => order.encode width value
  | raw bytes => bytes

inductive Slot
  | number (offset width : Nat)
  | raw (offset width : Nat)
  deriving DecidableEq, Repr

namespace Slot

def window : Slot → Window
  | number offset width => ⟨offset, width⟩
  | raw offset width => ⟨offset, width⟩

def read (order : ByteOrder) (bytes : Bytes) : Slot → Cell
  | number offset width => .number width (order.decode ((bytes.drop offset).take width))
  | raw offset width => .raw ((bytes.drop offset).take width)

theorem read_number_eq_ofDigits (order : ByteOrder) (bytes : Bytes) (offset width : Nat) :
    (number offset width).read order bytes =
      .number width (
        match order with
        | .little => Nat.ofDigits 256 (((bytes.drop offset).take width).map UInt8.toNat)
        | .big => Nat.ofDigits 256 (((bytes.drop offset).take width).map UInt8.toNat).reverse) :=
  congrArg (Cell.number width) (order.decode_eq_ofDigits _)

example : read .big [9, 1, 2, 9] (.number 1 2) = .number 2 0x0102 := rfl

theorem encode_read (order : ByteOrder) (bytes : Bytes) (slot : Slot)
    (within : slot.window.offset + slot.window.width ≤ bytes.length) :
    (slot.read order bytes).encode order =
      (bytes.drop slot.window.offset).take slot.window.width := by
  cases slot with
  | number offset width =>
      have whole : ((bytes.drop offset).take width).length = width := bytes.length_window within
      simp only [read, Cell.encode, window]
      nth_rewrite 1 [← whole]
      exact order.encode_decode _
  | raw offset width => rfl

theorem read_number (order : ByteOrder) (bytes : Bytes) {offset width value : Nat}
    (bound : value < 256 ^ width)
    (same : (bytes.drop offset).take width = order.encode width value) :
    (number offset width).read order bytes = .number width value := by
  rw [read, same, ByteOrder.decode_encode, Nat.mod_eq_of_lt bound]

end Slot

def Window.positions (window : Window) : List Nat := List.range' window.offset window.width

namespace Field

def cell : (field : Field) → field.Value → Cell
  | ⟨_, .byte⟩, value => .number 1 value.toNat
  | ⟨_, .word32⟩, value => .number 4 value.toNat
  | ⟨_, .word64⟩, value => .number 8 value.toNat
  | ⟨_, @Shape.choice _ _⟩, value => .number 4 (Coded.code value).toNat
  | ⟨_, .raw _⟩, value => .raw value.toList

def slot (field : Field) (offset : Nat) : Slot :=
  match field.shape with
  | .raw width => .raw offset width
  | shape => .number offset shape.width

theorem window_slot (field : Field) (offset : Nat) :
    (field.slot offset).window = ⟨offset, field.width⟩ := by
  rcases field with ⟨name, shape⟩
  cases shape <;> rfl

theorem encode_cell (order : ByteOrder) (field : Field) (value : field.Value) :
    (field.cell value).encode order = field.encode order value := by
  rcases field with ⟨name, shape⟩
  cases shape with
  | byte =>
      have single : littleEndian 1 value.toNat = [value] := by simp [littleEndian]
      simp only [cell, Cell.encode, ByteOrder.encode, single, encode]
      cases order <;> rfl
  | word32 => rfl
  | word64 => rfl
  | choice α => rfl
  | raw width => rfl

section Read

variable (order : ByteOrder) (bytes : Bytes) (field : Field) {offset : Nat}

theorem read_slot (value : field.Value)
    (same : (bytes.drop offset).take field.width = (field.cell value).encode order) :
    (field.slot offset).read order bytes = field.cell value := by
  rcases field with ⟨name, shape⟩
  cases shape with
  | byte => exact Slot.read_number order bytes value.toNat_lt same
  | word32 => exact Slot.read_number order bytes value.toNat_lt same
  | word64 => exact Slot.read_number order bytes value.toNat_lt same
  | choice α => exact Slot.read_number order bytes (Coded.code value).toNat_lt same
  | raw width => exact congrArg Cell.raw same

theorem decode_eq_ok_iff (value : field.Value) (within : offset + field.width ≤ bytes.length) :
    field.decode order ((bytes.drop offset).take field.width) = .ok value ↔
      field.cell value = (field.slot offset).read order bytes := by
  constructor
  · intro accepted
    have same := field.encode_decode order _ value (bytes.length_window within) accepted
    rw [← encode_cell] at same
    exact (field.read_slot order bytes value same.symm).symm
  · intro same
    have chunk := Slot.encode_read order bytes (field.slot offset)
    rw [← same, encode_cell, window_slot] at chunk
    rw [← chunk within]
    exact field.decode_encode order value

theorem read_of_decode_eq_error {name : String} {word : UInt32}
    (within : offset + field.width ≤ bytes.length)
    (refused : field.decode order ((bytes.drop offset).take field.width) =
      .error (.invalidField name word)) :
    (field.slot offset).read order bytes = .number 4 word.toNat := by
  rcases field with ⟨title, shape⟩
  cases shape with
  | choice α =>
      have whole : ((bytes.drop offset).take 4).length = 4 := bytes.length_window within
      have bound := order.decode_lt ((bytes.drop offset).take 4)
      rw [whole] at bound
      have same : (bytes.wordAt order offset).toNat = order.decode ((bytes.drop offset).take 4) := by
        rw [Bytes.wordAt, UInt32.toNat_ofNat']
        exact Nat.mod_eq_of_lt bound
      simp only [decode] at refused
      split at refused
      · cases refused
      · cases refused
        exact congrArg (Cell.number 4) same.symm
  | byte => cases refused
  | word32 => cases refused
  | word64 => cases refused
  | raw width => cases refused

end Read

end Field

namespace Layout

def cells : (layout : Layout) → layout.Values → List Cell
  | [], () => []
  | first :: rest, (value, values) => first.cell value :: cells rest values

def slots : Layout → Nat → List Slot
  | [], _ => []
  | first :: rest, offset => first.slot offset :: slots rest (offset + first.width)

theorem encode_eq_cells (order : ByteOrder) (layout : Layout) (values : layout.Values) :
    layout.encode order values = (layout.cells values).flatMap (Cell.encode order) := by
  induction layout with
  | nil => rfl
  | cons first rest ih =>
      rcases values with ⟨value, values⟩
      rw [encode, cells, List.flatMap_cons, Field.encode_cell, ih]

theorem decode_cons_eq_ok_iff (order : ByteOrder) (first : Field) (rest : Layout) (bytes : Bytes)
    (values : Values (first :: rest)) :
    decode order (first :: rest) bytes = .ok values ↔
      first.decode order (bytes.take first.width) = .ok values.1 ∧
        decode order rest (bytes.drop first.width) = .ok values.2 := by
  rcases values with ⟨value, values⟩
  rw [decode]
  cases first.decode order (bytes.take first.width) with
  | error fault => simp
  | ok head =>
      cases decode order rest (bytes.drop first.width) with
      | error fault => simp [Except.map]
      | ok tail => simp [Except.map]

theorem decode_eq_ok_iff (order : ByteOrder) (bytes : Bytes) (layout : Layout) (offset : Nat)
    (values : layout.Values) (within : offset + layout.width ≤ bytes.length) :
    layout.decode order (bytes.drop offset) = .ok values ↔
      layout.cells values = (layout.slots offset).map (Slot.read order bytes) := by
  induction layout generalizing offset with
  | nil => simp [decode, cells, slots]
  | cons first rest ih =>
      rcases values with ⟨value, values⟩
      rw [width] at within
      rw [decode_cons_eq_ok_iff, List.drop_drop, ih (offset + first.width) values (by omega),
        first.decode_eq_ok_iff order bytes value (by omega), cells, slots, List.map_cons,
        List.cons.injEq]

theorem read_of_decode_eq_error (order : ByteOrder) (bytes : Bytes) (layout : Layout)
    (offset : Nat) {name : String} {word : UInt32}
    (within : offset + layout.width ≤ bytes.length)
    (refused : layout.decode order (bytes.drop offset) = .error (.invalidField name word)) :
    ∃ slot ∈ layout.slots offset, slot.read order bytes = .number 4 word.toNat := by
  induction layout generalizing offset with
  | nil => cases refused
  | cons first rest ih =>
      rw [width] at within
      rw [decode] at refused
      split at refused
      · next value accepted =>
          rw [List.drop_drop] at refused
          cases tail : decode order rest (bytes.drop (offset + first.width)) with
          | ok values =>
              rw [tail] at refused
              cases refused
          | error fault =>
              rw [tail] at refused
              cases refused
              obtain ⟨slot, member, read⟩ := ih (offset + first.width) (by omega) tail
              exact ⟨slot, List.mem_cons_of_mem _ member, read⟩
      · next fault head =>
          cases refused
          have read := first.read_of_decode_eq_error order bytes (by omega) head
          exact ⟨first.slot offset, List.mem_cons_self, read⟩

theorem positions_slots (layout : Layout) (offset : Nat) :
    (layout.slots offset).flatMap (fun slot => slot.window.positions) =
      List.range' offset layout.width := by
  induction layout generalizing offset with
  | nil => rfl
  | cons first rest ih =>
      rw [slots, List.flatMap_cons, ih, Field.window_slot, Window.positions, width,
        List.range'_append_1]

end Layout

namespace Writer

def windows (writer : Writer) : (layout : Layout) → layout.Values → List Window
  | [], () => []
  | first :: rest, (value, values) =>
    ⟨writer.position, (first.encode writer.order value).length⟩ ::
      (writer.field first value).windows rest values

theorem windows_eq (writer : Writer) (layout : Layout) (values : layout.Values) :
    writer.windows layout values = (layout.slots writer.position).map Slot.window := by
  induction layout generalizing writer with
  | nil => rfl
  | cons first rest ih =>
      rcases values with ⟨value, values⟩
      have next : (writer.field first value).position = writer.position + first.width := by
        rw [field, chunk, Field.length_encode]
      rw [windows, ih, next, Layout.slots, List.map_cons, Field.window_slot, Field.length_encode]

def chunkWithin? (writer : Writer) (chunk : Bytes) : Option Writer :=
  if writer.position + chunk.length ≤ writer.bytes.length then some (writer.chunk chunk) else none

def fieldsWithin? (writer : Writer) : (layout : Layout) → layout.Values → Option Writer
  | [], () => some writer
  | first :: rest, (value, values) =>
    (writer.chunkWithin? (first.encode writer.order value)).bind fun next =>
      next.fieldsWithin? rest values

theorem fieldsWithin?_eq (writer : Writer) (layout : Layout) (values : layout.Values)
    (room : writer.position + layout.width ≤ writer.bytes.length) :
    writer.fieldsWithin? layout values = some (writer.fields layout values) := by
  induction layout generalizing writer with
  | nil => rfl
  | cons first rest ih =>
      rcases values with ⟨value, values⟩
      have size := Field.length_encode writer.order first value
      rw [Layout.width] at room
      have within : writer.position + (first.encode writer.order value).length ≤
          writer.bytes.length := by omega
      have next : (writer.field first value).position + Layout.width rest ≤
          (writer.field first value).bytes.length := by
        simp only [field, chunk, size]
        rw [Bytes.length_overwrite _ _ _ within]
        omega
      rw [fieldsWithin?, chunkWithin?, if_pos within, Option.bind_some, fields]
      exact ih (writer.field first value) values next

end Writer

namespace Record

section Cursors

variable {α : Type} [Record α] (order : ByteOrder)

def writer (record : α) : Writer :=
  (Writer.start order (width α)).fields (layout α) (toFields record)

def writtenWindows (record : α) : List Window :=
  (Writer.start order (width α)).windows (layout α) (toFields record)

def encodeWithin? (record : α) : Option Bytes :=
  ((Writer.start order (width α)).fieldsWithin? (layout α) (toFields record)).map Writer.bytes

theorem room_of_length (bytes : Bytes) (whole : bytes.length = width α) :
    0 + (layout α).width ≤ bytes.length := by
  rw [Nat.zero_add, whole]
  exact Nat.le_refl _

theorem room_start : (Writer.start order (width α)).position + (layout α).width ≤
    (Writer.start order (width α)).bytes.length :=
  room_of_length _ List.length_replicate

theorem writer_position (record : α) : (writer order record).position = width α := by
  rw [writer, Writer.fields_eq _ _ _ (room_start order)]
  exact Nat.zero_add _

theorem encodeWithin?_eq (record : α) :
    encodeWithin? order record = some (encode order record) := by
  rw [encodeWithin?, Writer.fieldsWithin?_eq _ _ _ (room_start order), Option.map_some, encode]

theorem writtenWindows_eq (record : α) :
    writtenWindows order record = ((layout α).slots 0).map Slot.window :=
  Writer.windows_eq _ _ _

variable (bytes : Bytes) (record : α)

theorem decode_eq_ok_iff_cells :
    decode order bytes = .ok record ↔ bytes.length = width α ∧
      (layout α).cells (toFields record) = ((layout α).slots 0).map (Slot.read order bytes) := by
  rw [decode_eq_ok_iff_fields]
  apply and_congr_right
  intro whole
  exact (layout α).decode_eq_ok_iff order bytes 0 (toFields record) (room_of_length bytes whole)

theorem decodes_iff_of_takesAll (plain : ∀ field ∈ layout α, field.shape.takesAll = true) :
    (∃ record : α, decode order bytes = .ok record) ↔ bytes.length = width α := by
  constructor
  · rintro ⟨record, accepted⟩
    exact length_of_decode order bytes record accepted
  · exact decode_of_takesAll order bytes plain

theorem read_of_decode_eq_error {name : String} {word : UInt32}
    (refused : (decode order bytes : Except RecordFault α) = .error (.invalidField name word)) :
    ∃ slot ∈ (layout α).slots 0, slot.read order bytes = .number 4 word.toNat := by
  rw [decode_eq] at refused
  split at refused
  case isTrue whole =>
    apply (layout α).read_of_decode_eq_error order bytes 0 (room_of_length bytes whole)
    rw [List.drop_zero]
    cases read : (layout α).decode order bytes with
    | ok values =>
        rw [read] at refused
        cases refused
    | error fault =>
        rw [read] at refused
        cases refused
        rfl
  case isFalse wrong => cases refused

theorem reader_position (accepted : decode order bytes = .ok record) :
    ∃ reader, (Reader.start order bytes).fields (layout α) = .ok (toFields record, reader) ∧
      reader.position = width α := by
  obtain ⟨_, read⟩ := (decode_eq_ok_iff_fields order bytes record).mp accepted
  refine ⟨(Reader.start order bytes).advance (width α), ?_, Nat.zero_add _⟩
  rw [Reader.fields_eq]
  simp only [Reader.start, List.drop_zero, read]
  rfl

end Cursors

/-- The cursors of a record keep to a table: encoding fills its slots end to end, each position
once, and decoding finds in them the cells of the record. -/
structure KeepsTo (α : Type) [Record α] (cells : α → List Cell) (length : Nat)
    (slots : List Slot) : Prop where
  encode_eq : ∀ order (record : α),
    encode order record = (cells record).flatMap (Cell.encode order)
  writtenWindows_eq : ∀ order (record : α), writtenWindows order record = slots.map Slot.window
  written_once : ∀ order (record : α),
    (writtenWindows order record).flatMap Window.positions = List.range length
  encodeWithin?_eq : ∀ order (record : α),
    encodeWithin? order record = some (encode order record)
  writer_position : ∀ order (record : α), (writer order record).position = length
  decode_iff : ∀ order bytes (record : α), decode order bytes = .ok record ↔
    bytes.length = length ∧ cells record = slots.map (Slot.read order bytes)
  refused_within : ∀ order bytes name word,
    (decode order bytes : Except RecordFault α) = .error (.invalidField name word) →
      ∃ slot ∈ slots, slot.read order bytes = .number 4 word.toNat
  reader_position : ∀ order bytes (record : α), decode order bytes = .ok record →
    ∃ reader, (Reader.start order bytes).fields (layout α) = .ok (toFields record, reader) ∧
      reader.position = length

theorem keepsTo (α : Type) [Record α] :
    KeepsTo α (fun record => (layout α).cells (toFields record)) (width α) ((layout α).slots 0) where
  encode_eq order record := by rw [Record.encode_eq, Layout.encode_eq_cells]
  writtenWindows_eq order record := Record.writtenWindows_eq order record
  written_once order record := by
    rw [Record.writtenWindows_eq, List.flatMap_map, Layout.positions_slots, List.range_eq_range']
    rfl
  encodeWithin?_eq order record := Record.encodeWithin?_eq order record
  writer_position order record := Record.writer_position order record
  decode_iff order bytes record := decode_eq_ok_iff_cells order bytes record
  refused_within order bytes _ _ := Record.read_of_decode_eq_error order bytes
  reader_position order bytes record := Record.reader_position order bytes record

end Record

def Contract.cells (contract : Contract) : List Cell :=
  [.number 4 (Coded.code contract.kind).toNat,
    .number 4 contract.strike.toNat,
    .number 4 contract.spot.toNat,
    .number 4 contract.quantity.toNat,
    .number 4 contract.barrier.toNat,
    .number 4 (Coded.code contract.exercise).toNat,
    .number 4 contract.timeToExpiry.toNat,
    .number 4 contract.volatility.toNat]

def Outcome.cells (outcome : Outcome) : List Cell :=
  [.number 8 outcome.payout.toNat,
    .number 4 (Coded.code outcome.moneyness).toNat,
    .number 4 (Coded.code outcome.barrierHit).toNat,
    .number 8 outcome.profitLoss.toNat,
    .number 4 (Coded.code outcome.pnlSign).toNat,
    .number 4 (Coded.code outcome.earlyExercised).toNat]

def PurchaseRequest.cells (request : PurchaseRequest) : List Cell :=
  [.raw request.optionId.toList,
    .raw request.buyerKey.toList,
    .number 8 request.quantity.toNat,
    .number 8 request.premium.toNat,
    .number 8 request.strike.toNat,
    .number 8 request.expiry.toNat,
    .number 1 request.kindCode.toNat,
    .number 8 request.spot.toNat,
    .number 8 request.poolBalance.toNat]

def PurchaseRecord.cells (record : PurchaseRecord) : List Cell :=
  [.raw record.purchaseId.toList,
    .raw record.checksum.toList,
    .number 8 record.maxPayout.toNat]

namespace Record

end Record

end OptionClearing
