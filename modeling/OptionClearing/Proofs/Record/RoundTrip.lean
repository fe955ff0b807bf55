import Mathlib.Logic.ExistsUnique
import Mathlib.Logic.Function.Basic
import OptionClearing.Proofs.Record.ByteOrder
import OptionClearing.Purchase
import OptionClearing.Settlement

/-!
Packed fields lie end to end in the order of the layout, each is read back from its own bytes, and
reading accepts exactly the strings that writing produces.
-/

namespace OptionClearing

namespace Bytes

theorem fit_toList {width : Nat} (content : Vector UInt8 width) :
    fit content.toList width = content := by
  ext index bound
  simp [fit]

theorem toList_fit (bytes : Bytes) : (fit bytes bytes.length).toList = bytes := by
  apply List.ext_getElem
  · simp [fit]
  · intro index left right
    simp [fit]

end Bytes

namespace Field

@[simp]
theorem length_encode (order : ByteOrder) (field : Field) (value : field.Value) :
    (field.encode order value).length = field.width := by
  rcases field with ⟨name, shape⟩
  cases shape <;> simp [encode, width, Shape.width]

theorem decode_encode (order : ByteOrder) (field : Field) (value : field.Value) :
    field.decode order (field.encode order value) = .ok value := by
  rcases field with ⟨name, shape⟩
  cases shape with
  | byte =>
      have single : order.arrange [value] = [value] := by cases order <;> rfl
      simp [encode, decode, ByteOrder.decode, single, ofLittleEndian]
  | word32 =>
      have bound : value.toNat < 256 ^ 4 := value.toNat_lt
      simp only [encode, decode, ByteOrder.decode_encode, Nat.mod_eq_of_lt bound]
      rw [UInt32.ofNat_toNat]
  | word64 =>
      have bound : value.toNat < 256 ^ 8 := value.toNat_lt
      simp only [encode, decode, ByteOrder.decode_encode, Nat.mod_eq_of_lt bound]
      rw [UInt64.ofNat_toNat]
  | choice α =>
      have bound : (Coded.code value).toNat < 256 ^ 4 := (Coded.code value).toNat_lt
      have known : Coded.ofCode? (Coded.code value) = some value := Coded.ofCode?_eq_some_iff.mpr rfl
      simp only [encode, decode, ByteOrder.decode_encode, Nat.mod_eq_of_lt bound, UInt32.ofNat_toNat,
        known]
  | raw width => simp only [encode, decode, Bytes.fit_toList]

theorem encode_injective (order : ByteOrder) (field : Field) :
    Function.Injective (field.encode order) := by
  intro first second same
  have read := field.decode_encode order first
  rw [same, decode_encode] at read
  exact (Except.ok.inj read).symm

private theorem encode_decoded_word (order : ByteOrder) (bytes : Bytes) (width word : Nat)
    (whole : bytes.length = width) (same : word = order.decode bytes % 256 ^ width) :
    order.encode width word = bytes := by
  have bound : order.decode bytes < 256 ^ width := whole ▸ order.decode_lt bytes
  rw [same, Nat.mod_eq_of_lt bound, ← whole]
  exact order.encode_decode bytes

theorem encode_decode (order : ByteOrder) (field : Field) (bytes : Bytes) (value : field.Value)
    (whole : bytes.length = field.width) (accepted : field.decode order bytes = .ok value) :
    field.encode order value = bytes := by
  rcases field with ⟨name, shape⟩
  cases shape with
  | byte =>
      rcases List.length_eq_one_iff.mp whole with ⟨byte, rfl⟩
      have single : order.arrange [byte] = [byte] := by cases order <;> rfl
      have same := Except.ok.inj accepted
      simpa [ByteOrder.decode, single, ofLittleEndian, encode, eq_comm] using same
  | word32 =>
      have same := Except.ok.inj accepted
      subst same
      exact encode_decoded_word order bytes 4 _ whole UInt32.toNat_ofNat'
  | word64 =>
      have same := Except.ok.inj accepted
      subst same
      exact encode_decoded_word order bytes 8 _ whole UInt64.toNat_ofNat'
  | choice α =>
      simp only [decode] at accepted
      split at accepted
      · next known choice =>
          have same := Except.ok.inj accepted
          subst same
          have code := Coded.ofCode?_eq_some_iff.mp choice
          simp only [encode, ← code]
          exact encode_decoded_word order bytes 4 _ whole UInt32.toNat_ofNat'
      · cases accepted
  | raw width =>
      have same := Except.ok.inj accepted
      subst same
      change bytes.length = width at whole
      subst whole
      exact Bytes.toList_fit bytes

end Field

namespace Layout

def encode (order : ByteOrder) : (layout : Layout) → layout.Values → Bytes
  | [], () => []
  | first :: rest, (value, values) => first.encode order value ++ encode order rest values

def decode (order : ByteOrder) : (layout : Layout) → Bytes → Except RecordFault layout.Values
  | [], _ => .ok ()
  | first :: rest, bytes =>
    match first.decode order (bytes.take first.width) with
    | .ok value => (decode order rest (bytes.drop first.width)).map (value, ·)
    | .error fault => .error fault

@[simp]
theorem length_encode (order : ByteOrder) (layout : Layout) (values : layout.Values) :
    (layout.encode order values).length = layout.width := by
  induction layout with
  | nil => rfl
  | cons first rest ih =>
      rcases values with ⟨value, values⟩
      simp only [encode, List.length_append, Field.length_encode, ih, width]

theorem encode_cons_eq_iff (order other : ByteOrder) (first : Field) (rest : Layout)
    (values others : Values (first :: rest)) :
    encode order (first :: rest) values = encode other (first :: rest) others ↔
      first.encode order values.1 = first.encode other others.1 ∧
        encode order rest values.2 = encode other rest others.2 := by
  have width : (first.encode order values.1).length = (first.encode other others.1).length := by
    rw [Field.length_encode, Field.length_encode]
  exact List.append_eq_append_iff_of_size_eq_left width

theorem decode_encode (order : ByteOrder) (layout : Layout) (values : layout.Values) :
    layout.decode order (layout.encode order values) = .ok values := by
  induction layout with
  | nil => rfl
  | cons first rest ih =>
      rcases values with ⟨value, values⟩
      have front := Field.length_encode order first value
      simp only [encode, decode, List.take_left' front, List.drop_left' front,
        Field.decode_encode, ih]
      rfl

section Split

variable {first : Field} {rest : Layout} {bytes : Bytes}
  (whole : bytes.length = width (first :: rest))

include whole

theorem length_take_of_whole : (bytes.take first.width).length = first.width := by
  rw [width] at whole
  rw [List.length_take]
  omega

theorem length_drop_of_whole : (bytes.drop first.width).length = width rest := by
  rw [width] at whole
  rw [List.length_drop]
  omega

end Split

theorem encode_decode (order : ByteOrder) (layout : Layout) (bytes : Bytes)
    (values : layout.Values) (whole : bytes.length = layout.width)
    (accepted : layout.decode order bytes = .ok values) : layout.encode order values = bytes := by
  induction layout generalizing bytes with
  | nil => exact (List.eq_nil_of_length_eq_zero whole).symm
  | cons first rest ih =>
      rcases values with ⟨value, values⟩
      have front := length_take_of_whole whole
      have back := length_drop_of_whole whole
      simp only [decode] at accepted
      split at accepted
      · next head headAccepted =>
          cases tail : decode order rest (bytes.drop first.width) with
          | error fault =>
              rw [tail] at accepted
              cases accepted
          | ok others =>
              rw [tail] at accepted
              have same := Except.ok.inj accepted
              cases same
              rw [encode, Field.encode_decode order first _ value front headAccepted,
                ih _ values back tail, List.take_append_drop]
      · cases accepted

end Layout

theorem Bytes.length_overwrite (bytes : Bytes) (position : Nat) (chunk : Bytes)
    (room : position + chunk.length ≤ bytes.length) :
    (bytes.overwrite position chunk).length = bytes.length := by
  simp only [overwrite, List.length_append, List.length_take, List.length_drop]
  omega

theorem Bytes.overwrite_overwrite (bytes : Bytes) (position : Nat) (first second : Bytes)
    (room : position ≤ bytes.length) :
    (bytes.overwrite position first).overwrite (position + first.length) second =
      bytes.overwrite position (first ++ second) := by
  have before : (bytes.take position ++ first).length = position + first.length := by
    simp only [List.length_append, List.length_take]
    omega
  have kept : (bytes.overwrite position first).take (position + first.length) =
      bytes.take position ++ first := by
    rw [overwrite, List.take_left' before]
  have after : (bytes.overwrite position first).drop (position + first.length + second.length) =
      bytes.drop (position + first.length + second.length) := by
    rw [← List.drop_drop, overwrite, List.drop_left' before, List.drop_drop]
  calc
    (bytes.overwrite position first).overwrite (position + first.length) second
      = bytes.take position ++ first ++ second ++
          bytes.drop (position + first.length + second.length) := by rw [overwrite, kept, after]
    _ = bytes.overwrite position (first ++ second) := by
      simp only [overwrite, List.append_assoc, List.length_append, Nat.add_assoc]

/-- Writing field by field overwrites the layout's bytes in one piece. -/
theorem Writer.fields_eq (writer : Writer) (layout : Layout) (values : layout.Values)
    (room : writer.position + layout.width ≤ writer.bytes.length) :
    writer.fields layout values =
      ⟨writer.order,
        writer.bytes.overwrite writer.position (layout.encode writer.order values),
        writer.position + layout.width⟩ := by
  induction layout generalizing writer with
  | nil => simp [fields, Layout.encode, Layout.width, Bytes.overwrite]
  | cons first rest ih =>
      rcases values with ⟨value, values⟩
      have width := Field.length_encode writer.order first value
      simp only [Layout.width] at room
      have next : (writer.field first value).position + Layout.width rest ≤
          (writer.field first value).bytes.length := by
        simp only [field, chunk, width]
        rw [Bytes.length_overwrite _ _ _ (by omega)]
        omega
      rw [fields, ih _ values next]
      simp only [field, chunk, Layout.encode, Layout.width]
      rw [Bytes.overwrite_overwrite _ _ _ _ (by omega), width, Nat.add_assoc]

theorem Reader.fields_eq (reader : Reader) (layout : Layout) :
    reader.fields layout =
      (layout.decode reader.order (reader.bytes.drop reader.position)).map
        (·, reader.advance layout.width) := by
  induction layout generalizing reader with
  | nil => rfl
  | cons first rest ih =>
      simp only [fields, field, chunk, Layout.decode]
      cases first.decode reader.order ((reader.bytes.drop reader.position).take first.width) with
      | error fault => rfl
      | ok value =>
          simp only [bind, Except.bind, pure, Except.pure, ih]
          simp only [advance, List.drop_drop, Layout.width, Nat.add_assoc]
          cases Layout.decode reader.order rest
            (reader.bytes.drop (reader.position + first.width)) <;> rfl

namespace Record

variable {α : Type} [Record α]

theorem encode_eq (order : ByteOrder) (record : α) :
    encode order record = (layout α).encode order (toFields record) := by
  have room : 0 + (layout α).width ≤ (List.replicate (width α) (0 : UInt8)).length := by
    simp [width]
  rw [encode, Writer.start, Writer.fields_eq _ _ _ room]
  simp [Bytes.overwrite, width]

theorem decode_eq (order : ByteOrder) (bytes : Bytes) :
    (decode order bytes : Except RecordFault α) =
      if bytes.length = width α then ((layout α).decode order bytes).map ofFields
      else .error (.lengthMismatch (width α) bytes.length) := by
  rw [decode, Reader.fields_eq]
  simp only [Reader.start, List.drop_zero]
  cases (layout α).decode order bytes <;> rfl

@[simp]
theorem length_encode (order : ByteOrder) (record : α) :
    (encode order record).length = width α := by
  rw [encode_eq, Layout.length_encode, width]

theorem decode_eq_ok_iff_fields (order : ByteOrder) (bytes : Bytes) (record : α) :
    decode order bytes = .ok record ↔
      bytes.length = width α ∧ (layout α).decode order bytes = .ok (toFields record) := by
  rw [decode_eq]
  split
  case isTrue whole =>
    rw [and_iff_right whole]
    cases (layout α).decode order bytes with
    | error fault => simp [Except.map]
    | ok values =>
        simp only [Except.map, Except.ok.injEq]
        constructor
        · rintro rfl
          exact (toFields_ofFields values).symm
        · rintro rfl
          exact ofFields_toFields record
  case isFalse wrong => simp [wrong]

theorem decode_encode (order : ByteOrder) (record : α) :
    decode order (encode order record) = .ok record := by
  apply (decode_eq_ok_iff_fields order _ record).mpr
  refine ⟨length_encode order record, ?_⟩
  rw [encode_eq, Layout.decode_encode]

theorem length_of_decode (order : ByteOrder) (bytes : Bytes) (record : α)
    (accepted : decode order bytes = .ok record) : bytes.length = width α :=
  ((decode_eq_ok_iff_fields order bytes record).mp accepted).1

theorem encode_decode (order : ByteOrder) (bytes : Bytes) (record : α)
    (accepted : decode order bytes = .ok record) : encode order record = bytes := by
  obtain ⟨whole, read⟩ := (decode_eq_ok_iff_fields order bytes record).mp accepted
  rw [encode_eq]
  exact Layout.encode_decode order (layout α) bytes (toFields record) whole read

theorem decode_eq_ok_iff (order : ByteOrder) (bytes : Bytes) (record : α) :
    decode order bytes = .ok record ↔ bytes = encode order record := by
  constructor
  · intro accepted
    exact (encode_decode order bytes record accepted).symm
  · intro same
    rw [same]
    exact decode_encode order record

theorem encode_injective (order : ByteOrder) : Function.Injective (encode order : α → Bytes) := by
  intro left right same
  have read : (decode order (encode order left) : Except RecordFault α) = .ok right := by
    rw [same]
    exact decode_encode order right
  exact Except.ok.inj ((decode_encode order left).symm.trans read)

structure RoundTrips (α : Type) [Record α] : Prop where
  decode_encode : ∀ order (record : α), decode order (encode order record) = .ok record
  encode_decode : ∀ order bytes (record : α),
    decode order bytes = .ok record → encode order record = bytes
  encode_injective : ∀ order, Function.Injective (encode order : α → Bytes)
  one_encoding : ∀ order (record : α), ∃! bytes, decode order bytes = .ok record

theorem roundTrips (α : Type) [Record α] : RoundTrips α where
  decode_encode := decode_encode
  encode_decode := encode_decode
  encode_injective := encode_injective
  one_encoding order record := by
    refine ⟨encode order record, decode_encode order record, ?_⟩
    intro bytes accepted
    exact (decode_eq_ok_iff order bytes record).mp accepted

/-- No cursor drifts: every field of every record is read where it is written, and no string is
read as a record without being its encoding. -/
theorem every_record_roundTrips :
    RoundTrips Contract ∧ RoundTrips Outcome ∧ RoundTrips PurchaseRequest ∧
      RoundTrips PurchaseRecord :=
  ⟨roundTrips Contract, roundTrips Outcome, roundTrips PurchaseRequest, roundTrips PurchaseRecord⟩

end Record

end OptionClearing
