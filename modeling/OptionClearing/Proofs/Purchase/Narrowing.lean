import OptionClearing.Proofs.Purchase.Validation

/-!
The two widths in which the payout of a put is bounded. The narrowed bound is the full-width bound
of the low halves, so the two differ only where a half is lost, and nothing ever wraps in it.
-/

namespace OptionClearing

open Amount

namespace Amount

def mulChecked? (a b : UInt64) : Option UInt64 :=
  if a.toNat * b.toNat < 2 ^ 64 then some (a * b) else none

def divChecked? (a b : UInt64) : Option UInt64 :=
  if b = 0 then none else some (a / b)

end Amount

namespace PutBound

variable (strike quantity spot : UInt64)

/-- The narrowed bound in arithmetic that stops where words would wrap or be divided by zero. -/
def narrowedChecked? : Option (Except Rejection UInt64) :=
  if spot = 0 then some (.error .invalidSpotPrice)
  else if cut spot = 0 then some (.ok quantity)
  else
    (mulChecked? (cut strike) (cut quantity)).bind fun product =>
      (divChecked? product (cut spot)).map .ok

theorem narrowedChecked?_eq :
    narrowedChecked? strike quantity spot = some (narrowed.bound strike quantity spot) := by
  by_cases free : spot = 0
  · simp only [narrowedChecked?, bound, if_pos free]
  by_cases low : cut spot = 0
  · have fallback : (lowHalf spot).toUInt64 = 0 := low
    simp only [narrowedChecked?, bound, if_neg free, if_pos low, if_pos fallback]
  · have divisor : (lowHalf spot).toUInt64 ≠ 0 := low
    have product : mulChecked? (cut strike) (cut quantity) = some (cut strike * cut quantity) :=
      if_pos (toNat_cut_mul_lt strike quantity)
    have quotient : divChecked? (cut strike * cut quantity) (cut spot) =
        some (cut strike * cut quantity / cut spot) := if_neg low
    simp only [narrowedChecked?, bound, if_neg free, if_neg low, if_neg divisor, product,
      Option.bind_some, quotient, Option.map_some]
    rfl

theorem narrowed_bound_ne_overflow :
    narrowed.bound strike quantity spot ≠ .error .arithmeticOverflow := by
  by_cases free : spot.toNat = 0
  · rw [narrowed.bound_of_zero strike quantity spot free]
    simp
  · rw [narrowed.bound_of_priced strike quantity spot free (by simp)]
    simp

theorem narrowed_bound_eq_cut (low : cut spot ≠ 0) :
    narrowed.bound strike quantity spot =
      fullWidth.bound (cut strike) (cut quantity) (cut spot) := by
  have half : (cut spot).toNat ≠ 0 := toNat_ne_zero low
  have priced : spot.toNat ≠ 0 := by
    intro free
    rw [toNat_cut, free] at half
    exact half rfl
  have fits : (cut strike).toNat * (cut quantity).toNat < 2 ^ 64 * (cut spot).toNat := by
    have product := toNat_cut_mul_lt strike quantity
    omega
  have owed : narrowed.owed strike.toNat quantity.toNat spot.toNat =
      fullWidth.owed (cut strike).toNat (cut quantity).toNat (cut spot).toNat := by
    rw [PutBound.owed, PutBound.owed, toNat_cut, toNat_cut, toNat_cut]
    exact if_neg (mt (cut_eq_zero_iff spot).mpr low)
  calc
    narrowed.bound strike quantity spot
      = .ok (UInt64.ofNat (narrowed.owed strike.toNat quantity.toNat spot.toNat)) :=
        narrowed.bound_of_priced strike quantity spot priced (by simp)
    _ = .ok (UInt64.ofNat (fullWidth.owed (cut strike).toNat (cut quantity).toNat
          (cut spot).toNat)) := by rw [owed]
    _ = fullWidth.bound (cut strike) (cut quantity) (cut spot) :=
        (fullWidth.bound_of_priced _ _ _ half fun _ => fits).symm

theorem bound_eq_of_fits (strikeFits : strike.toNat < 2 ^ 32)
    (quantityFits : quantity.toNat < 2 ^ 32) (spotFits : spot.toNat < 2 ^ 32)
    (first second : PutBound) :
    first.bound strike quantity spot = second.bound strike quantity spot := by
  have agree : narrowed.bound strike quantity spot = fullWidth.bound strike quantity spot := by
    by_cases free : spot.toNat = 0
    · rw [narrowed.bound_of_zero _ _ _ free, fullWidth.bound_of_zero _ _ _ free]
    · have low : cut spot ≠ 0 := by
        rw [cut_eq_self spotFits]
        intro zero
        exact free (congrArg UInt64.toNat zero)
      have narrow := narrowed_bound_eq_cut strike quantity spot low
      rw [cut_eq_self strikeFits, cut_eq_self quantityFits, cut_eq_self spotFits] at narrow
      exact narrow
  cases first <;> cases second <;> simp only [agree]

end PutBound

def PurchaseRequest.narrowed (request : PurchaseRequest) : PurchaseRequest :=
  { request with
    strike := cut request.strike
    quantity := cut request.quantity
    spot := cut request.spot }

structure PurchaseRequest.Narrow (request : PurchaseRequest) : Prop where
  strike : request.strike.toNat < 2 ^ 32
  quantity : request.quantity.toNat < 2 ^ 32
  spot : request.spot.toNat < 2 ^ 32

namespace PurchaseRules

variable (rules : PurchaseRules) (request : PurchaseRequest)

def withPutBound (mode : PutBound) : PurchaseRules := { rules with putBound := mode }

theorem payoutBound_withPutBound (kind : PurchaseKind)
    (known : PurchaseKind.ofCode? request.kindCode = some kind)
    (alike : request.kindCode ≠ 1 ∨ request.Narrow) (first second : PutBound) :
    (rules.withPutBound first).payoutBound kind request =
      (rules.withPutBound second).payoutBound kind request := by
  cases kind with
  | call => rfl
  | put =>
      have put : request.kindCode = 1 := (PurchaseKind.ofCode?_eq_put_iff _).mp known
      rcases alike with notPut | narrow
      · exact absurd put notPut
      · exact PutBound.bound_eq_of_fits _ _ _ narrow.strike narrow.quantity narrow.spot first second

theorem maxPayout_withPutBound (alike : request.kindCode ≠ 1 ∨ request.Narrow)
    (first second : PutBound) :
    (rules.withPutBound first).maxPayout request =
      (rules.withPutBound second).maxPayout request := by
  have premium : (rules.withPutBound first).maxPremium = (rules.withPutBound second).maxPremium :=
    rfl
  simp only [maxPayout, premium]
  cases known : PurchaseKind.ofCode? request.kindCode with
  | none => rfl
  | some kind =>
      simp only [rules.payoutBound_withPutBound request kind known alike first second]

theorem maxPayout_narrowed_ne_overflow :
    (rules.withPutBound .narrowed).maxPayout request ≠ .error .arithmeticOverflow := by
  intro overflow
  have decided := (rules.withPutBound .narrowed).maxPayout_eq_decision request
  rw [overflow] at decided
  obtain ⟨earlier, later, split, holds, clear⟩ :=
    ((rules.withPutBound .narrowed).decision_eq_rejection_iff request _ .arithmeticOverflow).mp
      decided.symm
  exact absurd holds.2.1 (by simp [withPutBound])

end PurchaseRules

namespace Validator

variable (validator : Validator) (request : PurchaseRequest)

def withPutBound (mode : PutBound) : Validator :=
  { validator with rules := validator.rules.withPutBound mode }

theorem validate_withPutBound (alike : request.kindCode ≠ 1 ∨ request.Narrow)
    (first second : PutBound) :
    (validator.withPutBound first).validate request =
      (validator.withPutBound second).validate request := by
  have payout := validator.rules.maxPayout_withPutBound request alike first second
  simp only [validate, Validator.record, withPutBound, payout]

theorem covered_of_validate (put : request.kindCode = 1) (narrow : request.Narrow)
    (mode : PutBound) (record : PurchaseRecord)
    (accepted : (validator.withPutBound mode).validate request = .ok record) :
    request.strike.toNat * request.quantity.toNat / request.spot.toNat ≤
      request.poolBalance.toNat := by
  rw [validator.validate_withPutBound request (.inr narrow) mode .fullWidth] at accepted
  obtain ⟨bound, payout, _⟩ := (Validator.record_eq_ok_iff _ request _ record).mp accepted
  obtain ⟨clear, _⟩ := (PurchaseRules.maxPayout_eq_ok_iff _ request bound).mp payout
  have solvent := Nat.le_of_not_lt (clear .insufficientPoolBalance)
  rw [PurchaseRules.owed, if_pos put] at solvent
  exact solvent

theorem validate_narrowed_ne_overflow :
    (validator.withPutBound .narrowed).validate request ≠ .error .arithmeticOverflow := by
  have fits := validator.rules.maxPayout_narrowed_ne_overflow request
  intro overflow
  rw [validate, Validator.record] at overflow
  cases payout : (validator.withPutBound .narrowed).rules.maxPayout request with
  | ok bound =>
      rw [payout] at overflow
      cases overflow
  | error reason =>
      rw [payout] at overflow
      cases overflow
      exact fits payout

/-- Two validators that differ in the width alone give the same answer on everything but puts with
high halves. On those the narrowed width is total, in arithmetic that neither wraps nor divides by
zero, and bounds the put as the full width bounds its low halves. -/
theorem widths_compared :
    (request.kindCode ≠ 1 ∨ request.Narrow →
      (validator.withPutBound .narrowed).validate request =
        (validator.withPutBound .fullWidth).validate request) ∧
    (request.kindCode = 1 → request.Narrow → ∀ mode record,
      (validator.withPutBound mode).validate request = .ok record →
        request.strike.toNat * request.quantity.toNat / request.spot.toNat ≤
          request.poolBalance.toNat) ∧
    ((validator.withPutBound .narrowed).validate request ≠ .error .arithmeticOverflow ∧
      (validator.rules.withPutBound .narrowed).payoutBound .put request ≠
        .error .arithmeticOverflow ∧
      PutBound.narrowedChecked? request.strike request.quantity request.spot =
        some ((validator.rules.withPutBound .narrowed).payoutBound .put request)) ∧
    (request.spot.toNat % 2 ^ 32 ≠ 0 →
      (validator.rules.withPutBound .narrowed).payoutBound .put request =
        (validator.rules.withPutBound .fullWidth).payoutBound .put request.narrowed) := by
  refine ⟨?agree, ?covered, ⟨?validated, ?bounded, ?checked⟩, ?cut⟩
  case agree =>
    intro alike
    exact validator.validate_withPutBound request alike .narrowed .fullWidth
  case covered =>
    intro put narrow mode record accepted
    exact validator.covered_of_validate request put narrow mode record accepted
  case validated => exact validator.validate_narrowed_ne_overflow request
  case bounded => exact PutBound.narrowed_bound_ne_overflow _ _ _
  case checked => exact PutBound.narrowedChecked?_eq _ _ _
  case cut =>
    intro low
    exact PutBound.narrowed_bound_eq_cut _ _ _ (mt (cut_eq_zero_iff request.spot).mp low)

/-- A put at three times the spot price, against a pool that just covers it. -/
def coveredPut : PurchaseRequest :=
  ⟨.replicate _ 7, .replicate _ 2, 50, 25, 300, 0, 1, 100, 150⟩

def loftyPut : PurchaseRequest := { coveredPut with strike := 0x10000012c }

theorem lofty_put_narrowed :
    (coveredPut.Narrow ∧
      (standard.withPutBound .narrowed).validate coveredPut =
        (standard.withPutBound .fullWidth).validate coveredPut ∧
      (∃ record, (standard.withPutBound .narrowed).validate coveredPut = .ok record) ∧
      300 * 50 / 100 ≤ coveredPut.poolBalance.toNat) ∧
    (loftyPut.spot.toNat % 2 ^ 32 ≠ 0 ∧
      (standard.rules.withPutBound .narrowed).payoutBound .put loftyPut =
        (standard.rules.withPutBound .fullWidth).payoutBound .put loftyPut.narrowed ∧
      (standard.rules.withPutBound .narrowed).payoutBound .put loftyPut = .ok 150 ∧
      (standard.rules.withPutBound .fullWidth).payoutBound .put loftyPut = .ok 2147483798) := by
  have narrow : coveredPut.Narrow := ⟨by decide, by decide, by decide⟩
  have accepted : (standard.withPutBound .narrowed).validate coveredPut =
      .ok ⟨_, _, 150⟩ := (Validator.record_eq_ok_iff _ coveredPut _ _).mpr ⟨150, rfl, rfl⟩
  have low : loftyPut.spot.toNat % 2 ^ 32 ≠ 0 := by decide
  obtain ⟨agree, covered, _, _⟩ := widths_compared standard coveredPut
  obtain ⟨_, _, _, cut⟩ := widths_compared standard loftyPut
  exact ⟨⟨narrow, agree (.inr narrow), ⟨_, accepted⟩, covered rfl narrow .narrowed _ accepted⟩,
    low, cut low, rfl, rfl⟩

end Validator

end OptionClearing
