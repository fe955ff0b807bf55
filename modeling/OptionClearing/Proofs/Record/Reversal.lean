import Mathlib.Data.List.Palindrome
import OptionClearing.Proofs.Record.Bytewise

/-!
The two byte orders as one format: turning every integer of a record around, and nothing else,
rewrites the record in the other order.
-/

namespace OptionClearing

structure Window where
  offset : Nat
  width : Nat
  deriving DecidableEq, Repr

namespace Bytes

def turn (bytes : Bytes) (window : Window) : Bytes :=
  bytes.take window.offset ++ ((bytes.drop window.offset).take window.width).reverse ++
    bytes.drop (window.offset + window.width)

def turnAll (bytes : Bytes) (windows : List Window) : Bytes := windows.foldl turn bytes

@[simp]
theorem length_turn (bytes : Bytes) (window : Window) :
    (bytes.turn window).length = bytes.length := by
  simp only [turn, List.length_append, List.length_take, List.length_reverse, List.length_drop]
  omega

@[simp]
theorem length_turnAll (bytes : Bytes) (windows : List Window) :
    (bytes.turnAll windows).length = bytes.length := by
  induction windows generalizing bytes with
  | nil => rfl
  | cons window windows ih => exact (ih (bytes.turn window)).trans (length_turn bytes window)

theorem turn_append (front middle back : Bytes) :
    (front ++ (middle ++ back)).turn ⟨front.length, middle.length⟩ =
      front ++ middle.reverse ++ back := by
  have after : (front ++ (middle ++ back)).drop (front.length + middle.length) = back := by
    rw [← List.drop_drop, List.drop_left, List.drop_left]
  rw [turn, List.take_left, List.drop_left, List.take_left, after]

example : Bytes.turnAll [1, 2, 3, 4, 5, 6] [⟨1, 2⟩, ⟨3, 3⟩] = [1, 3, 2, 6, 5, 4] := by decide

end Bytes

namespace Shape

/-- Whether the bytes are those of one number and stand in the record's order. -/
def isInteger : Shape → Bool
  | word32 | word64 | choice _ => true
  | byte | raw _ => false

def turn (shape : Shape) (bytes : Bytes) : Bytes :=
  if shape.isInteger then bytes.reverse else bytes

@[simp]
theorem length_turn (shape : Shape) (bytes : Bytes) :
    (shape.turn bytes).length = bytes.length := by
  rw [turn]
  split
  · exact List.length_reverse
  · rfl

end Shape

namespace Field

theorem encode_other (order : ByteOrder) (field : Field) (value : field.Value) :
    field.encode order.other value = field.shape.turn (field.encode order value) := by
  rcases field with ⟨name, shape⟩
  cases shape with
  | byte => rfl
  | word32 => exact order.encode_other 4 _
  | word64 => exact order.encode_other 8 _
  | choice α => exact order.encode_other 4 _
  | raw width => rfl

theorem decode_other (order : ByteOrder) (field : Field) (bytes : Bytes)
    (whole : bytes.length = field.width) :
    field.decode order.other bytes = field.decode order (field.shape.turn bytes) := by
  rcases field with ⟨name, shape⟩
  cases shape with
  | byte =>
      -- one byte is its own reversal, so no order is looked at
      obtain ⟨byte, rfl⟩ := List.length_eq_one_iff.mp whole
      simp only [decode, ByteOrder.decode_other]
      rfl
  | word32 =>
      simp only [decode, ByteOrder.decode_other]
      rfl
  | word64 =>
      simp only [decode, ByteOrder.decode_other]
      rfl
  | choice α =>
      simp only [decode, ByteOrder.decode_other]
      rfl
  | raw width => rfl

end Field

namespace Layout

def turn : Layout → Bytes → Bytes
  | [], bytes => bytes
  | first :: rest, bytes =>
    first.shape.turn (bytes.take first.width) ++ turn rest (bytes.drop first.width)

theorem encode_other (order : ByteOrder) (layout : Layout) (values : layout.Values) :
    layout.encode order.other values = layout.turn (layout.encode order values) := by
  induction layout with
  | nil => rfl
  | cons first rest ih =>
      rcases values with ⟨value, values⟩
      have front := Field.length_encode order first value
      simp only [encode, turn, List.take_left' front, List.drop_left' front, Field.encode_other, ih]

theorem decode_other (order : ByteOrder) (layout : Layout) (bytes : Bytes)
    (whole : bytes.length = layout.width) :
    layout.decode order.other bytes = layout.decode order (layout.turn bytes) := by
  induction layout generalizing bytes with
  | nil => rfl
  | cons first rest ih =>
      have front := length_take_of_whole whole
      have turned : (first.shape.turn (bytes.take first.width)).length = first.width :=
        (Shape.length_turn _ _).trans front
      simp only [decode, turn, List.take_left' turned, List.drop_left' turned]
      rw [first.decode_other order _ front, ih _ (length_drop_of_whole whole)]

def integers : Layout → Nat → List Window
  | [], _ => []
  | first :: rest, offset =>
    let others := integers rest (offset + first.width)
    if first.shape.isInteger then ⟨offset, first.width⟩ :: others else others

theorem turnAll_integers (layout : Layout) (front bytes : Bytes)
    (whole : bytes.length = layout.width) :
    Bytes.turnAll (front ++ bytes) (layout.integers front.length) = front ++ layout.turn bytes := by
  -- a field that is done joins the front, so that the next window starts where the front ends
  induction layout generalizing front bytes with
  | nil => rfl
  | cons first rest ih =>
      have size := length_take_of_whole whole
      have turnField : Bytes.turnAll (front ++ bytes) (integers (first :: rest) front.length) =
          Bytes.turnAll (front ++ first.shape.turn (bytes.take first.width) ++
            bytes.drop first.width) (integers rest (front.length + first.width)) := by
        by_cases integer : first.shape.isInteger = true
        · have turned := Bytes.turn_append front (bytes.take first.width) (bytes.drop first.width)
          rw [size, List.take_append_drop] at turned
          simp only [integers, if_pos integer, Bytes.turnAll, List.foldl_cons, turned, Shape.turn]
        · simp only [integers, if_neg integer, Shape.turn, List.append_assoc,
            List.take_append_drop]
      have grown : (front ++ first.shape.turn (bytes.take first.width)).length =
          front.length + first.width := by
        rw [List.length_append, Shape.length_turn, size]
      calc
        Bytes.turnAll (front ++ bytes) (integers (first :: rest) front.length)
          = Bytes.turnAll (front ++ first.shape.turn (bytes.take first.width) ++
              bytes.drop first.width) (integers rest (front.length + first.width)) := turnField
        _ = front ++ first.shape.turn (bytes.take first.width) ++
              turn rest (bytes.drop first.width) := by
                rw [← grown, ih _ _ (length_drop_of_whole whole)]
        _ = front ++ turn (first :: rest) bytes := by rw [turn, List.append_assoc]

end Layout

namespace Record

/-- The two orders of a record are one format, up to the bytes of its integers. -/
structure TurnsInto (α : Type) [Record α] (integers : List Window) : Prop where
  encode_other : ∀ order (record : α),
    encode order.other record = (encode order record).turnAll integers
  decode_other : ∀ order bytes,
    (decode order.other bytes : Except RecordFault α) = decode order (bytes.turnAll integers)

theorem turnAll_integers {α : Type} [Record α] (bytes : Bytes) (whole : bytes.length = width α) :
    bytes.turnAll ((layout α).integers 0) = (layout α).turn bytes :=
  (layout α).turnAll_integers [] bytes whole

theorem turnsInto (α : Type) [Record α] : TurnsInto α ((layout α).integers 0) where
  encode_other order record := by
    rw [turnAll_integers _ (length_encode order record), encode_eq, encode_eq, Layout.encode_other]
  decode_other order bytes := by
    have kept := bytes.length_turnAll ((layout α).integers 0)
    by_cases whole : bytes.length = width α
    · have turned := turnAll_integers bytes whole
      rw [turned] at kept
      rw [turned, decode_eq, decode_eq, if_pos whole, if_pos (kept.trans whole),
        Layout.decode_other order _ bytes whole]
    · -- a wrong length is refused before any order is looked at
      rw [decode_of_length_ne _ bytes whole, decode_of_length_ne _ _ (kept ▸ whole), kept]

theorem purchaseRecord_orders_coincide_iff (record : PurchaseRecord) :
    encode .big record = encode .little record ↔
      (littleEndian 8 record.maxPayout.toNat).Palindrome := by
  rw [PurchaseRecord.encode_eq, PurchaseRecord.encode_eq, List.append_cancel_left_eq,
    List.Palindrome.iff_reverse_eq]
  rfl

/-- In each record the integers stand where the other order turns them around; ids, keys, checksums
and single bytes stay in place. A purchase record has one integer, so its two encodings coincide
when that one reads the same from either end. -/
theorem orders_differ_by_integers :
    TurnsInto Contract
      [⟨0, 4⟩, ⟨4, 4⟩, ⟨8, 4⟩, ⟨12, 4⟩, ⟨16, 4⟩, ⟨20, 4⟩, ⟨24, 4⟩, ⟨28, 4⟩] ∧
    TurnsInto Outcome [⟨0, 8⟩, ⟨8, 4⟩, ⟨12, 4⟩, ⟨16, 8⟩, ⟨24, 4⟩, ⟨28, 4⟩] ∧
    TurnsInto PurchaseRequest [⟨39, 8⟩, ⟨47, 8⟩, ⟨55, 8⟩, ⟨63, 8⟩, ⟨72, 8⟩, ⟨80, 8⟩] ∧
    TurnsInto PurchaseRecord [⟨40, 8⟩] ∧
    ∀ record : PurchaseRecord, encode .big record = encode .little record ↔
      (littleEndian 8 record.maxPayout.toNat).Palindrome :=
  ⟨turnsInto Contract, turnsInto Outcome, turnsInto PurchaseRequest, turnsInto PurchaseRecord,
    purchaseRecord_orders_coincide_iff⟩

end Record

end OptionClearing
