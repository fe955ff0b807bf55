import Mathlib.Algebra.Group.Nat.Defs
import Mathlib.Algebra.Order.Monoid.Unbundled.MinMax
import OptionClearing.Amount

/-!
Amounts as unbounded numbers: saturation is a minimum, and a comparison with a truncated or
saturated amount loses nothing.
-/

namespace OptionClearing.Amount

theorem saturate_of_fits {value : Nat} (fits : value < 2 ^ 64) :
    saturate value = UInt64.ofNatLT value fits :=
  dif_pos fits

theorem saturate_of_exceeds {value : Nat} (exceeds : ¬ value < 2 ^ 64) :
    saturate value = greatest :=
  dif_neg exceeds

theorem toNat_saturate (value : Nat) : (saturate value).toNat = min value (2 ^ 64 - 1) := by
  by_cases fits : value < 2 ^ 64
  · rw [saturate_of_fits fits, UInt64.toNat_ofNatLT]
    omega
  · rw [saturate_of_exceeds fits]
    change 2 ^ 64 - 1 = min value (2 ^ 64 - 1)
    omega

/-- An amount is never above the largest, so the cut is not seen. -/
theorem saturate_lt_iff (value : Nat) (amount : UInt64) :
    saturate value < amount ↔ value < amount.toNat := by
  have bound : amount.toNat < 2 ^ 64 := amount.toNat_lt
  rw [UInt64.lt_iff_toNat_lt, toNat_saturate]
  omega

theorem addSaturating_lt_iff (a b amount : UInt64) :
    addSaturating a b < amount ↔ a.toNat + b.toNat < amount.toNat :=
  saturate_lt_iff _ amount

theorem toNat_sub_of_lt {a b : UInt64} (order : a < b) : (b - a).toNat = b.toNat - a.toNat :=
  UInt64.toNat_sub_of_le b a (UInt64.le_of_lt order)

theorem toNat_subSaturating (a b : UInt64) : (subSaturating a b).toNat = a.toNat - b.toNat := by
  by_cases below : a ≤ b
  · have order : a.toNat ≤ b.toNat := UInt64.le_iff_toNat_le.mp below
    rw [subSaturating, if_pos below, Nat.sub_eq_zero_of_le order]
    rfl
  · have order : b < a := UInt64.not_le.mp below
    rw [subSaturating, if_neg below]
    exact toNat_sub_of_lt order

theorem toNat_mulSaturating (a b : UInt64) :
    (mulSaturating a b).toNat = min (a.toNat * b.toNat) (2 ^ 64 - 1) :=
  toNat_saturate _

theorem toNat_ne_zero {amount : UInt64} (nonzero : amount ≠ 0) : amount.toNat ≠ 0 := by
  intro zero
  exact nonzero (UInt64.toNat_inj.mp zero)

theorem toNat_pos {amount : UInt64} (nonzero : amount ≠ 0) : 0 < amount.toNat :=
  Nat.pos_of_ne_zero (toNat_ne_zero nonzero)

section Quotient

variable {a b d : UInt64}

theorem mulDiv?_of_fits (nonzero : d ≠ 0) (fits : a.toNat * b.toNat / d.toNat < 2 ^ 64) :
    mulDiv? a b d = some (UInt64.ofNatLT (a.toNat * b.toNat / d.toNat) fits) :=
  (if_neg nonzero).trans (dif_pos fits)

theorem mulDiv?_of_exceeds (nonzero : d ≠ 0) (exceeds : ¬ a.toNat * b.toNat / d.toNat < 2 ^ 64) :
    mulDiv? a b d = none :=
  (if_neg nonzero).trans (dif_neg exceeds)

theorem div_eq_iff_between (nonzero : d ≠ 0) (quotient : Nat) :
    a.toNat * b.toNat / d.toNat = quotient ↔
      quotient * d.toNat ≤ a.toNat * b.toNat ∧ a.toNat * b.toNat < (quotient + 1) * d.toNat := by
  rw [← Nat.le_div_iff_mul_le (toNat_pos nonzero), ← Nat.div_lt_iff_lt_mul (toNat_pos nonzero)]
  omega

theorem map_mulDiv?_eq_some_iff (quotient : Nat) :
    (mulDiv? a b d).map UInt64.toNat = some quotient ↔
      d ≠ 0 ∧ quotient < 2 ^ 64 ∧ quotient * d.toNat ≤ a.toNat * b.toNat ∧
        a.toNat * b.toNat < (quotient + 1) * d.toNat := by
  rcases eq_or_ne d 0 with zero | nonzero
  · simp [mulDiv?, zero]
  · rw [and_iff_right nonzero, ← div_eq_iff_between nonzero]
    by_cases fits : a.toNat * b.toNat / d.toNat < 2 ^ 64
    · rw [mulDiv?_of_fits nonzero fits, Option.map_some, UInt64.toNat_ofNatLT, Option.some_inj]
      constructor
      · rintro rfl
        exact ⟨fits, rfl⟩
      · exact And.right
    · rw [mulDiv?_of_exceeds nonzero fits]
      constructor
      · intro absent
        cases absent
      · rintro ⟨small, rfl⟩
        exact absurd small fits

theorem mulDiv?_eq_none_iff :
    mulDiv? a b d = none ↔ d = 0 ∨ 2 ^ 64 * d.toNat ≤ a.toNat * b.toNat := by
  rcases eq_or_ne d 0 with zero | nonzero
  · simp [mulDiv?, zero]
  · have wide : 2 ^ 64 * d.toNat ≤ a.toNat * b.toNat ↔
        ¬ a.toNat * b.toNat / d.toNat < 2 ^ 64 := by
      rw [Nat.not_lt, Nat.le_div_iff_mul_le (toNat_pos nonzero)]
    rw [or_iff_right nonzero, wide]
    by_cases fits : a.toNat * b.toNat / d.toNat < 2 ^ 64
    · rw [mulDiv?_of_fits nonzero fits]
      exact iff_of_false (Option.some_ne_none _) (not_not_intro fits)
    · exact iff_of_true (mulDiv?_of_exceeds nonzero fits) fits

/-- When one factor is at most the divisor, the other one bounds the quotient, and it fits. -/
theorem mul_lt_of_min_le (nonzero : d ≠ 0) (share : min a.toNat b.toNat ≤ d.toNat) :
    a.toNat * b.toNat < 2 ^ 64 * d.toNat := by
  have largest : max a.toNat b.toNat < 2 ^ 64 := max_lt a.toNat_lt b.toNat_lt
  calc
    a.toNat * b.toNat = max a.toNat b.toNat * min a.toNat b.toNat := (max_mul_min _ _).symm
    _ ≤ max a.toNat b.toNat * d.toNat := Nat.mul_le_mul_left _ share
    _ < 2 ^ 64 * d.toNat := Nat.mul_lt_mul_of_pos_right largest (toNat_pos nonzero)

theorem mulDiv?_ne_none_of_min_le (nonzero : d ≠ 0) (share : min a.toNat b.toNat ≤ d.toNat) :
    mulDiv? a b d ≠ none := by
  intro absent
  rcases mulDiv?_eq_none_iff.mp absent with zero | wide
  · exact nonzero zero
  · exact absurd (mul_lt_of_min_le nonzero share) (Nat.not_lt.mpr wide)

end Quotient

theorem mulDivSaturating_eq_saturate (a b d : UInt64) (nonzero : d ≠ 0) :
    mulDivSaturating a b d = saturate (a.toNat * b.toNat / d.toNat) := by
  by_cases fits : a.toNat * b.toNat / d.toNat < 2 ^ 64
  · rw [mulDivSaturating, if_neg nonzero, mulDiv?_of_fits nonzero fits,
      saturate_of_fits fits]
    rfl
  · rw [mulDivSaturating, if_neg nonzero, mulDiv?_of_exceeds nonzero fits,
      saturate_of_exceeds fits]
    rfl

theorem toNat_mulDivSaturating (a b d : UInt64) (nonzero : d ≠ 0) :
    (mulDivSaturating a b d).toNat = min (a.toNat * b.toNat / d.toNat) (2 ^ 64 - 1) := by
  rw [mulDivSaturating_eq_saturate a b d nonzero, toNat_saturate]

theorem mulDivSaturating_lt_iff (a b d amount : UInt64) (nonzero : d ≠ 0) :
    mulDivSaturating a b d < amount ↔ a.toNat * b.toNat < amount.toNat * d.toNat := by
  rw [mulDivSaturating_eq_saturate a b d nonzero, saturate_lt_iff]
  exact Nat.div_lt_iff_lt_mul (toNat_pos nonzero)

theorem mulDivSaturating_zero (a b : UInt64) : mulDivSaturating a b 0 = 0 := if_pos rfl

theorem mulDivSaturating_mono {a a' b b' : UInt64} (d : UInt64) (first : a ≤ a')
    (second : b ≤ b') : mulDivSaturating a b d ≤ mulDivSaturating a' b' d := by
  rcases eq_or_ne d 0 with rfl | nonzero
  · rw [mulDivSaturating_zero, mulDivSaturating_zero]
    exact UInt64.le_refl 0
  · have product : a.toNat * b.toNat ≤ a'.toNat * b'.toNat := Nat.mul_le_mul first second
    have quotient : a.toNat * b.toNat / d.toNat ≤ a'.toNat * b'.toNat / d.toNat :=
      Nat.div_le_div_right product
    rw [UInt64.le_iff_toNat_le, toNat_mulDivSaturating _ _ _ nonzero,
      toNat_mulDivSaturating _ _ _ nonzero]
    omega

theorem mulDivSaturating_antitone (a b : UInt64) {d d' : UInt64} (nonzero : d ≠ 0)
    (order : d ≤ d') : mulDivSaturating a b d' ≤ mulDivSaturating a b d := by
  have positive := toNat_pos nonzero
  have larger : d.toNat ≤ d'.toNat := UInt64.le_iff_toNat_le.mp order
  have nonzero' : d' ≠ 0 := by
    rintro rfl
    exact absurd (Nat.lt_of_lt_of_le positive larger) (Nat.lt_irrefl 0)
  have quotient : a.toNat * b.toNat / d'.toNat ≤ a.toNat * b.toNat / d.toNat :=
    Nat.div_le_div_left larger positive
  rw [UInt64.le_iff_toNat_le, toNat_mulDivSaturating _ _ _ nonzero,
    toNat_mulDivSaturating _ _ _ nonzero']
  omega

theorem toNat_scaledGain (high low quantity : UInt64) :
    (scaledGain high low quantity).toNat =
      min ((high.toNat - low.toNat) * quantity.toNat / 100) (2 ^ 64 - 1) := by
  rw [scaledGain, toNat_mulDivSaturating _ _ _ (by decide), toNat_subSaturating]
  rfl

theorem toNat_lowHalf (value : UInt64) : (lowHalf value).toNat = value.toNat % 2 ^ 32 :=
  UInt64.toNat_toUInt32 value

/-- The amount without its high half. -/
def cut (value : UInt64) : UInt64 := (lowHalf value).toUInt64

theorem toNat_cut (value : UInt64) : (cut value).toNat = value.toNat % 2 ^ 32 := by
  rw [cut, UInt32.toNat_toUInt64, toNat_lowHalf]

theorem cut_eq_self {value : UInt64} (fits : value.toNat < 2 ^ 32) : cut value = value := by
  apply UInt64.toNat_inj.mp
  rw [toNat_cut, Nat.mod_eq_of_lt fits]

theorem cut_eq_zero_iff (value : UInt64) : cut value = 0 ↔ value.toNat % 2 ^ 32 = 0 := by
  rw [← UInt64.toNat_inj, toNat_cut]
  rfl

theorem toNat_cut_mul_lt (a b : UInt64) : (cut a).toNat * (cut b).toNat < 2 ^ 64 := by
  have first : (cut a).toNat < 2 ^ 32 := toNat_cut a ▸ Nat.mod_lt _ (by decide)
  have second : (cut b).toNat < 2 ^ 32 := toNat_cut b ▸ Nat.mod_lt _ (by decide)
  have product : (cut a).toNat * (cut b).toNat < 2 ^ 32 * 2 ^ 32 := Nat.mul_lt_mul'' first second
  exact product

theorem toNat_cut_mul (a b : UInt64) : (cut a * cut b).toNat = (cut a).toNat * (cut b).toNat := by
  rw [UInt64.toNat_mul]
  exact Nat.mod_eq_of_lt (toNat_cut_mul_lt a b)

/-- Of two amounts and a divisor there is a quotient exactly when division with a remainder has one
that fits. The saturating form is the nearest amount to it, and no comparison sees the cut. -/
theorem scaled_division_exact :
    (∀ (a b d : UInt64) (quotient : Nat), (mulDiv? a b d).map UInt64.toNat = some quotient ↔
      d ≠ 0 ∧ quotient < 2 ^ 64 ∧ quotient * d.toNat ≤ a.toNat * b.toNat ∧
        a.toNat * b.toNat < (quotient + 1) * d.toNat) ∧
    (∀ a b d : UInt64,
      mulDiv? a b d = none ↔ d = 0 ∨ 2 ^ 64 * d.toNat ≤ a.toNat * b.toNat) ∧
    (∀ a b d : UInt64, d ≠ 0 → min a.toNat b.toNat ≤ d.toNat → mulDiv? a b d ≠ none) ∧
    (∀ a b : UInt64, mulDivSaturating a b 0 = 0) ∧
    (∀ a b d : UInt64, d ≠ 0 →
      (mulDivSaturating a b d).toNat = min (2 ^ 64 - 1) (a.toNat * b.toNat / d.toNat)) ∧
    (∀ a a' b b' d : UInt64, a ≤ a' → b ≤ b' →
      mulDivSaturating a b d ≤ mulDivSaturating a' b' d) ∧
    (∀ a b d d' : UInt64, d ≠ 0 → d ≤ d' → mulDivSaturating a b d' ≤ mulDivSaturating a b d) ∧
    (∀ a b d k : UInt64, d ≠ 0 →
      (mulDivSaturating a b d < k ↔ a.toNat * b.toNat < k.toNat * d.toNat)) := by
  refine ⟨?quotient, ?absence, ?share, mulDivSaturating_zero, ?nearest, ?order, ?divisors,
    ?comparison⟩
  case quotient =>
    intro a b d quotient
    exact map_mulDiv?_eq_some_iff quotient
  case absence =>
    intro a b d
    exact mulDiv?_eq_none_iff
  case share =>
    intro a b d nonzero share
    exact mulDiv?_ne_none_of_min_le nonzero share
  case nearest =>
    intro a b d nonzero
    rw [toNat_mulDivSaturating a b d nonzero, Nat.min_comm]
  case order =>
    intro a a' b b' d first second
    exact mulDivSaturating_mono d first second
  case divisors =>
    intro a b d d' nonzero order
    exact mulDivSaturating_antitone a b nonzero order
  case comparison =>
    intro a b d k nonzero
    exact mulDivSaturating_lt_iff a b d k nonzero

theorem greatest_division_exact :
    (mulDiv? greatest greatest greatest).map UInt64.toNat = some (2 ^ 64 - 1) ∧
    mulDiv? greatest greatest (greatest - 1) = none ∧
    (greatest ≠ 0 ∧ min greatest.toNat greatest.toNat ≤ greatest.toNat ∧
      mulDiv? greatest greatest greatest ≠ none) ∧
    (greatest - 1 ≠ 0 ∧ (mulDivSaturating greatest greatest (greatest - 1)).toNat = 2 ^ 64 - 1) ∧
    ((7 : UInt64) ≤ 8 ∧ 3 ≤ greatest ∧
      mulDivSaturating 7 3 2 ≤ mulDivSaturating 8 greatest 2) ∧
    ((2 : UInt64) ≠ 0 ∧ 2 ≤ greatest ∧
      mulDivSaturating 7 3 greatest ≤ mulDivSaturating 7 3 2) ∧
    ((2 : UInt64) ≠ 0 ∧ mulDivSaturating 7 3 2 < 11 ∧ ¬ mulDivSaturating 7 3 2 < 10) := by
  obtain ⟨quotient, absence, share, _, nearest, order, divisors, comparison⟩ :=
    scaled_division_exact
  have two : (2 : UInt64) ≠ 0 := by decide
  refine ⟨(quotient _ _ _ _).mpr (by decide), (absence _ _ _).mpr (by decide), ?share, ?nearest,
    ?order, ?divisors, two, ?comparison⟩
  case share => exact ⟨by decide, by decide, share _ _ _ (by decide) (by decide)⟩
  case nearest => exact ⟨by decide, (nearest _ _ _ (by decide)).trans (by decide)⟩
  case order => exact ⟨by decide, by decide, order _ _ _ _ _ (by decide) (by decide)⟩
  case divisors => exact ⟨two, by decide, divisors _ _ _ _ two (by decide)⟩
  case comparison =>
    rw [comparison 7 3 2 11 two, comparison 7 3 2 10 two]
    decide

end OptionClearing.Amount
