import Mathlib.Data.Nat.Digits.Defs
import OptionClearing.Record

/-! Every number survives its bytes as far as they reach, and bytes survive their number. -/

namespace OptionClearing

theorem ofLittleEndian_littleEndian (width value : Nat) :
    ofLittleEndian (littleEndian width value) = value % 256 ^ width := by
  induction width generalizing value with
  | zero => simp [littleEndian, ofLittleEndian, Nat.mod_one]
  | succ width ih =>
    have low : (UInt8.ofNat value).toNat = value % 256 := UInt8.toNat_ofNat'
    rw [littleEndian, ofLittleEndian, ih, low, Nat.pow_succ', Nat.mod_mul]

theorem littleEndian_ofLittleEndian (bytes : Bytes) :
    littleEndian bytes.length (ofLittleEndian bytes) = bytes := by
  induction bytes with
  | nil => rfl
  | cons byte bytes ih =>
    have byteBound : byte.toNat < 256 := byte.toNat_lt
    have low : UInt8.ofNat (byte.toNat + 256 * ofLittleEndian bytes) = byte := by
      apply UInt8.toNat_inj.mp
      rw [UInt8.toNat_ofNat']
      omega
    have high : (byte.toNat + 256 * ofLittleEndian bytes) / 256 = ofLittleEndian bytes := by omega
    rw [List.length_cons, ofLittleEndian, littleEndian, low, high, ih]

theorem ofLittleEndian_lt (bytes : Bytes) : ofLittleEndian bytes < 256 ^ bytes.length := by
  induction bytes with
  | nil => simp [ofLittleEndian]
  | cons byte bytes ih =>
    have byteBound : byte.toNat < 256 := byte.toNat_lt
    rw [ofLittleEndian, List.length_cons, Nat.pow_succ]
    omega

theorem littleEndian_mod (width value : Nat) :
    littleEndian width (value % 256 ^ width) = littleEndian width value := by
  have whole := littleEndian_ofLittleEndian (littleEndian width value)
  rw [length_littleEndian, ofLittleEndian_littleEndian] at whole
  exact whole

theorem littleEndian_take {low width : Nat} (within : low ≤ width) (value : Nat) :
    (littleEndian width value).take low = littleEndian low value := by
  induction low generalizing width value with
  | zero => rfl
  | succ low ih =>
    obtain ⟨width, rfl⟩ := Nat.exists_eq_add_of_le' (Nat.lt_of_lt_of_le (Nat.succ_pos low) within)
    rw [littleEndian, List.take_succ_cons, ih (Nat.le_of_succ_le_succ within), littleEndian]

theorem ofLittleEndian_eq_ofDigits (bytes : Bytes) :
    ofLittleEndian bytes = Nat.ofDigits 256 (bytes.map UInt8.toNat) := by
  induction bytes with
  | nil => rfl
  | cons byte bytes ih => rw [ofLittleEndian, ih, List.map_cons, Nat.ofDigits_cons]

namespace ByteOrder

/-- The bytes of a number are its digits to the base 256. -/
theorem decode_eq_ofDigits (order : ByteOrder) (bytes : Bytes) :
    order.decode bytes =
      match order with
      | little => Nat.ofDigits 256 (bytes.map UInt8.toNat)
      | big => Nat.ofDigits 256 (bytes.map UInt8.toNat).reverse := by
  cases order with
  | little => exact ofLittleEndian_eq_ofDigits bytes
  | big =>
      rw [← List.map_reverse]
      exact ofLittleEndian_eq_ofDigits bytes.reverse

theorem decode_encode (order : ByteOrder) (width value : Nat) :
    order.decode (order.encode width value) = value % 256 ^ width := by
  simp [decode, encode, ofLittleEndian_littleEndian]

theorem encode_decode (order : ByteOrder) (bytes : Bytes) :
    order.encode bytes.length (order.decode bytes) = bytes := by
  have whole := littleEndian_ofLittleEndian (order.arrange bytes)
  rw [length_arrange] at whole
  rw [encode, decode, whole, arrange_arrange]

theorem decode_lt (order : ByteOrder) (bytes : Bytes) :
    order.decode bytes < 256 ^ bytes.length := by
  simpa [decode] using ofLittleEndian_lt (order.arrange bytes)

theorem encode_eq_arrange (order other : ByteOrder) (width value : Nat) :
    other.encode width value = other.arrange (order.arrange (order.encode width value)) := by
  simp only [encode, arrange_arrange]

theorem encode_mod (order : ByteOrder) (width value : Nat) :
    order.encode width (value % 256 ^ width) = order.encode width value := by
  rw [encode, encode, littleEndian_mod]

theorem encode_eq_iff (order : ByteOrder) (width first second : Nat) :
    order.encode width first = order.encode width second ↔
      first % 256 ^ width = second % 256 ^ width := by
  constructor
  · intro same
    rw [← decode_encode order, ← decode_encode order, same]
  · intro same
    rw [← encode_mod, same, encode_mod]

def lowHalfOffset : ByteOrder → Nat
  | little => 0
  | big => 4

theorem lowHalf_window (order : ByteOrder) (value : Nat) :
    ((order.encode 8 value).drop order.lowHalfOffset).take 4 = order.encode 4 value := by
  have low := littleEndian_take (show 4 ≤ 8 by decide) value
  cases order with
  | little => exact low
  | big =>
      simp only [encode, arrange, lowHalfOffset, List.drop_reverse, length_littleEndian]
      rw [low]
      exact List.take_of_length_le (by simp)

theorem encode_lowHalf (order : ByteOrder) (value : Nat) :
    order.encode 4 (value % 2 ^ 32) = order.encode 4 value :=
  order.encode_mod 4 value

@[simp]
theorem other_other (order : ByteOrder) : order.other.other = order := by
  cases order <;> rfl

theorem encode_other (order : ByteOrder) (width value : Nat) :
    order.other.encode width value = (order.encode width value).reverse := by
  cases order <;> simp [encode, arrange, other]

theorem decode_other (order : ByteOrder) (bytes : Bytes) :
    order.other.decode bytes = order.decode bytes.reverse := by
  cases order <;> simp [decode, arrange, other]

private theorem littleEndian_of_small (value : Nat) (small : value < 256) :
    littleEndian 4 value = [UInt8.ofNat value, 0, 0, 0] := by
  simp [littleEndian, Nat.div_eq_of_lt small]

/-- A small number is read in the wrong order from the far end of its word. -/
theorem other_decode_encode_of_small (order : ByteOrder) (value : Nat) (small : value < 256) :
    order.other.decode (order.encode 4 value) = value * 2 ^ 24 := by
  have low : (UInt8.ofNat value).toNat = value := by
    rw [UInt8.toNat_ofNat', Nat.mod_eq_of_lt small]
  calc
    order.other.decode (order.encode 4 value)
      = ofLittleEndian (littleEndian 4 value).reverse := by
        rw [decode_other]
        cases order <;> simp [decode, encode, arrange]
    _ = ofLittleEndian [0, 0, 0, UInt8.ofNat value] := by
        rw [littleEndian_of_small value small]
        rfl
    _ = value * 2 ^ 24 := by
        simp only [ofLittleEndian, low, UInt8.toNat_zero]
        omega

theorem eq_zero_of_encode_eq (order : ByteOrder) (first second : Nat) (firstSmall : first < 256)
    (secondSmall : second < 256)
    (same : order.encode 4 first = order.other.encode 4 second) : first = 0 ∧ second = 0 := by
  have read : order.decode (order.encode 4 first) = first := by
    rw [decode_encode]
    exact Nat.mod_eq_of_lt (Nat.lt_trans firstSmall (by decide))
  have reread := order.other.other_decode_encode_of_small second secondSmall
  rw [other_other, ← same, read] at reread
  omega

end ByteOrder

end OptionClearing
