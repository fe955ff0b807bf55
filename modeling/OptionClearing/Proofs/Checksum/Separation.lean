import Mathlib.Algebra.Order.Ring.Abs
import Mathlib.Algebra.Order.Ring.Int
import Mathlib.Data.FinEnum
import Mathlib.Data.LawfulXor.Basic
import Mathlib.Tactic.Ring
import OptionClearing.Checksum.Fnv
import OptionClearing.Proofs.Record.ByteOrder

/-!
What an FNV hash tells apart. A step never merges two states, and two steps never merge two pairs of
bytes, so a change to one byte or to two adjacent ones is never lost, whatever comes after it.
-/

namespace OptionClearing

/-- No state is lost in a step, nor any byte in two steps. -/
structure Separates {σ : Type} (step : σ → UInt8 → σ) : Prop where
  state_injective : ∀ byte, Function.Injective (step · byte)
  bytes_injective : ∀ state first second third fourth,
    step (step state first) second = step (step state third) fourth →
      first = third ∧ second = fourth

namespace Separates

variable {σ : Type} {step : σ → UInt8 → σ} (separates : Separates step)

include separates

theorem bijective [Finite σ] (byte : UInt8) : Function.Bijective (step · byte) :=
  Finite.injective_iff_bijective.mp (separates.state_injective byte)

theorem foldl_injective (bytes : Bytes) : Function.Injective (bytes.foldl step ·) := by
  induction bytes with
  | nil => exact Function.injective_id
  | cons byte bytes ih =>
      intro state other same
      exact separates.state_injective byte (ih same)

theorem short_injective (state : σ) (left right : Bytes) (width : left.length = right.length)
    (short : left.length ≤ 2) (same : left.foldl step state = right.foldl step state) :
    left = right := by
  match left, right, width with
  | [], [], _ => rfl
  | [first], [third], _ =>
      have next := congrArg (step · 0) same
      rw [(separates.bytes_injective state first 0 third 0 next).1]
  | [first, second], [third, fourth], _ =>
      obtain ⟨head, tail⟩ := separates.bytes_injective state first second third fourth same
      rw [head, tail]
  | _ :: _ :: _ :: _, _, _ => simp at short

theorem foldl_ne_of_window (state : σ) (front left right back : Bytes)
    (width : left.length = right.length) (short : left.length ≤ 2) (differ : left ≠ right) :
    (front ++ left ++ back).foldl step state ≠ (front ++ right ++ back).foldl step state := by
  intro same
  simp only [List.foldl_append] at same
  apply differ
  apply separates.short_injective (front.foldl step state) left right width short
  exact separates.foldl_injective back same

end Separates

/-- Of a prime with one bit far above its low part, the low part shows in any product by the
difference of two bytes, so no such product is the difference of two bytes again. -/
theorem eq_zero_of_mixed (shift low difference mixed turns : Int) (steep : 255 < low)
    (wide : 255 * low + 255 < shift) (byte : |difference| ≤ 255) (result : |mixed| ≤ 255)
    (product : difference * (shift + low) = mixed + shift * turns) : difference = 0 := by
  have positive : 0 < low := by omega
  have scaled : |difference * low| = |difference| * low := by
    rw [abs_mul, abs_of_pos positive]
  have divides : shift ∣ difference * low - mixed := by
    refine ⟨turns - difference, ?_⟩
    calc
      difference * low - mixed = difference * (shift + low) - mixed - difference * shift := by ring
      _ = shift * (turns - difference) := by
        rw [product]
        ring
  have small : |difference * low - mixed| < shift := by
    calc
      |difference * low - mixed| ≤ |difference * low| + |mixed| := abs_sub _ _
      _ = |difference| * low + |mixed| := by rw [scaled]
      _ ≤ 255 * low + 255 := Int.add_le_add (Int.mul_le_mul_of_nonneg_right byte positive.le) result
      _ < shift := wide
  have exactly : difference * low = mixed :=
    sub_eq_zero.mp (Int.eq_zero_of_abs_lt_dvd divides small)
  by_contra nonzero
  have unit : 1 ≤ |difference| := Int.one_le_abs nonzero
  have grown : 1 * low ≤ |difference| * low := Int.mul_le_mul_of_nonneg_right unit positive.le
  rw [← scaled, exactly] at grown
  omega

theorem eq_of_mixed (shift low scale x y : Nat) (steep : 255 < low) (wide : 255 * low + 255 < shift)
    (high : x / 256 = y / 256)
    (mixed : x * (shift + low) % (shift * scale) / 256 =
      y * (shift + low) % (shift * scale) / 256) : x = y := by
  have split (z : Nat) : (z : Int) * (shift + low) =
      shift * scale * (z * (shift + low) / (shift * scale) : Nat) +
        (z * (shift + low) % (shift * scale) : Nat) := by
    exact_mod_cast (Nat.div_add_mod (z * (shift + low)) (shift * scale)).symm
  have zero : (x : Int) - y = 0 := by
    apply eq_zero_of_mixed shift low (x - y)
      ((x * (shift + low) % (shift * scale) : Nat) - (y * (shift + low) % (shift * scale) : Nat))
      (scale * ((x * (shift + low) / (shift * scale) : Nat) -
        (y * (shift + low) / (shift * scale) : Nat)))
    · omega
    · omega
    · exact abs_le.mpr ⟨by omega, by omega⟩
    · exact abs_le.mpr ⟨by omega, by omega⟩
    · rw [Int.sub_mul, split x, split y]
      ring
  omega

theorem xor_byte_div (word : Nat) (byte : UInt8) : (word ^^^ byte.toNat) / 256 = word / 256 := by
  have small : byte.toNat / 2 ^ 8 = 0 := Nat.div_eq_of_lt byte.toNat_lt
  change (word ^^^ byte.toNat) / 2 ^ 8 = word / 2 ^ 8
  rw [Nat.xor_div_two_pow, small, Nat.xor_zero]

theorem eq_of_xor_byte {word : Nat} {byte other : UInt8}
    (same : word ^^^ byte.toNat = word ^^^ other.toNat) : byte = other :=
  UInt8.toNat_inj.mp ((xor_right_involutive word).injective same)

theorem separates_of_mixing {σ : Type} [Mul σ] (value : σ → Nat) (take : σ → UInt8 → σ) (prime : σ)
    (shift low scale : Nat) (steep : 255 < low) (wide : 255 * low + 255 < shift)
    (faithful : Function.Injective value) (undoable : Function.Injective (· * prime))
    (value_take : ∀ word byte, value (take word byte) = value word ^^^ byte.toNat)
    (value_mul : ∀ word, value (word * prime) = value word * (shift + low) % (shift * scale)) :
    Separates fun state byte => take state byte * prime where
  state_injective byte state other same := by
    have words := congrArg value (undoable same)
    rw [value_take, value_take] at words
    exact faithful ((xor_left_involutive byte.toNat).injective words)
  bytes_injective state first second third fourth same := by
    have products := congrArg value (undoable same)
    rw [value_take, value_take] at products
    -- The last bytes touch the low byte only, so above it the two first products already agree.
    have words : value (take state first) = value (take state third) := by
      apply eq_of_mixed shift low scale _ _ steep wide
      · rw [value_take, value_take, xor_byte_div, xor_byte_div]
      · have high := congrArg (· / 256) products
        simp only [xor_byte_div, value_mul] at high
        exact high
    rw [value_take, value_take] at words
    have head : first = third := eq_of_xor_byte words
    rw [head] at products
    exact ⟨head, eq_of_xor_byte products⟩

namespace Fnv

def inverse32 : UInt32 := 0x359c449b

theorem prime32_mul_inverse32 : prime32 * inverse32 = 1 := by decide

theorem mul_prime32_injective : Function.Injective (· * prime32) := by
  intro word other same
  have undone := congrArg (· * inverse32) same
  simp only [UInt32.mul_assoc, prime32_mul_inverse32, UInt32.mul_one] at undone
  exact undone

theorem separates_absorb32 : Separates absorb32 := by
  apply separates_of_mixing UInt32.toNat (fun state byte => state ^^^ byte.toUInt32) prime32
    (2 ^ 24) 403 256 (by decide) (by decide)
  · exact fun _ _ => UInt32.toNat_inj.mp
  · exact mul_prime32_injective
  · intro word byte
    rw [UInt32.toNat_xor, UInt8.toNat_toUInt32]
  · exact fun word => UInt32.toNat_mul word prime32

def inverse64 : UInt64 := 0xce965057aff6957b

theorem prime64_mul_inverse64 : prime64 * inverse64 = 1 := by decide

theorem mul_prime64_injective : Function.Injective (· * prime64) := by
  intro word other same
  have undone := congrArg (· * inverse64) same
  simp only [UInt64.mul_assoc, prime64_mul_inverse64, UInt64.mul_one] at undone
  exact undone

theorem separates_absorb64 : Separates absorb64 := by
  apply separates_of_mixing UInt64.toNat (fun state byte => state ^^^ byte.toUInt64) prime64
    (2 ^ 40) 435 (2 ^ 24) (by decide) (by decide)
  · exact fun _ _ => UInt64.toNat_inj.mp
  · exact mul_prime64_injective
  · intro word byte
    rw [UInt64.toNat_xor, UInt8.toNat_toUInt64]
  · exact fun word => UInt64.toNat_mul word prime64

theorem checksum_take (bytes : Bytes) :
    (checksum bytes).toList.take 4 = ByteOrder.little.encode 4 (hash32 bytes).toNat := by
  simp only [checksum, stretch, Vector.toList_mk, List.take_left' (ByteOrder.length_encode _ 4 _)]

theorem hash32_eq_of_checksum_take {bytes others : Bytes}
    (same : (checksum bytes).toList.take 4 = (checksum others).toList.take 4) :
    hash32 bytes = hash32 others := by
  have read := congrArg ByteOrder.little.decode same
  have first : (hash32 bytes).toNat < 256 ^ 4 := (hash32 bytes).toNat_lt
  have second : (hash32 others).toNat < 256 ^ 4 := (hash32 others).toNat_lt
  rw [checksum_take, checksum_take, ByteOrder.decode_encode, ByteOrder.decode_encode,
    Nat.mod_eq_of_lt first, Nat.mod_eq_of_lt second] at read
  exact UInt32.toNat_inj.mp read

/-- What comes after two different states does not bring them together, so strings that differ in
one byte, or in two side by side, have different hashes and checksums that differ in their first
word. -/
theorem local_changes_show :
    (∀ byte, Function.Bijective (absorb64 · byte) ∧ Function.Bijective (absorb32 · byte)) ∧
    (∀ back : Bytes, Function.Injective (back.foldl absorb64 ·) ∧
      Function.Injective (back.foldl absorb32 ·)) ∧
    ∀ front left right back : Bytes, left.length = right.length →
      left.length = 1 ∨ left.length = 2 → left ≠ right →
        hash64 (front ++ left ++ back) ≠ hash64 (front ++ right ++ back) ∧
        (checksum (front ++ left ++ back)).toList.take 4 ≠
          (checksum (front ++ right ++ back)).toList.take 4 := by
  refine ⟨?steps, ?suffixes, ?changes⟩
  case steps =>
    intro byte
    exact ⟨separates_absorb64.bijective byte, separates_absorb32.bijective byte⟩
  case suffixes =>
    intro back
    exact ⟨separates_absorb64.foldl_injective back, separates_absorb32.foldl_injective back⟩
  case changes =>
    intro front left right back width short differ
    have within : left.length ≤ 2 := by omega
    refine ⟨separates_absorb64.foldl_ne_of_window _ front left right back width within differ, ?_⟩
    intro same
    apply separates_absorb32.foldl_ne_of_window _ front left right back width within differ
    exact hash32_eq_of_checksum_take same

theorem exchanged_bytes_show :
    (hash64 [1, 2, 3, 4] ≠ hash64 [1, 3, 2, 4] ∧
      (checksum [1, 2, 3, 4]).toList.take 4 ≠ (checksum [1, 3, 2, 4]).toList.take 4) ∧
    (hash64 [1, 2, 3] ≠ hash64 [1, 2, 2] ∧
      (checksum [1, 2, 3]).toList.take 4 ≠ (checksum [1, 2, 2]).toList.take 4) := by
  obtain ⟨_, _, changes⟩ := local_changes_show
  exact ⟨changes [1] [2, 3] [3, 2] [4] rfl (.inr rfl) (by decide),
    changes [1, 2] [3] [2] [] rfl (.inl rfl) (by decide)⟩

end Fnv

end OptionClearing
