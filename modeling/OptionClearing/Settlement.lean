import OptionClearing.Amount
import OptionClearing.Record

/-!
Settlement of one contract: the barrier is looked at first, then early exercise, and whatever
remains is settled at its intrinsic value against the premium.
-/

namespace OptionClearing

open Amount

inductive OptionKind
  | call
  | put
  | binaryCall
  | binaryPut
  deriving DecidableEq, Repr

namespace OptionKind

def isCallLike : OptionKind → Bool
  | call | binaryCall => true
  | put | binaryPut => false

instance : Coded OptionKind where
  code
    | call => 0
    | put => 1
    | binaryCall => 2
    | binaryPut => 3
  ofCode?
    | 0 => some call
    | 1 => some put
    | 2 => some binaryCall
    | 3 => some binaryPut
    | _ => none
  ofCode?_eq_some_iff {word choice} := by cases choice <;> split <;> simp_all

end OptionKind

inductive ExerciseStyle
  | european
  | american
  deriving DecidableEq, Repr

instance : Coded ExerciseStyle where
  code
    | .european => 0
    | .american => 1
  ofCode?
    | 0 => some .european
    | 1 => some .american
    | _ => none
  ofCode?_eq_some_iff {word choice} := by cases choice <;> split <;> simp_all

/-- Prices and the quantity are hundredths; a barrier of zero stands for none. -/
structure Contract where
  kind : OptionKind
  strike : UInt32
  spot : UInt32
  quantity : UInt32
  barrier : UInt32
  exercise : ExerciseStyle
  timeToExpiry : UInt32
  volatility : UInt32
  deriving DecidableEq, Repr

instance : Record Contract where
  layout := [
    ⟨"option_kind", .choice OptionKind⟩,
    ⟨"strike", .word32⟩,
    ⟨"spot", .word32⟩,
    ⟨"quantity", .word32⟩,
    ⟨"barrier", .word32⟩,
    ⟨"exercise", .choice ExerciseStyle⟩,
    ⟨"time_to_expiry", .word32⟩,
    ⟨"volatility", .word32⟩]
  toFields contract :=
    (contract.kind, contract.strike, contract.spot, contract.quantity, contract.barrier,
      contract.exercise, contract.timeToExpiry, contract.volatility, ())
  ofFields
    | (kind, strike, spot, quantity, barrier, exercise, timeToExpiry, volatility, ()) =>
      { kind, strike, spot, quantity, barrier, exercise, timeToExpiry, volatility }
  ofFields_toFields _ := rfl
  toFields_ofFields _ := rfl

theorem width_contract : Record.width Contract = 32 := rfl

inductive Moneyness
  | notApplicable
  | inTheMoney
  | outOfTheMoney
  | atTheMoney
  deriving DecidableEq, Repr

instance : Coded Moneyness where
  code
    | .notApplicable => 0
    | .inTheMoney => 1
    | .outOfTheMoney => 2
    | .atTheMoney => 3
  ofCode?
    | 0 => some .notApplicable
    | 1 => some .inTheMoney
    | 2 => some .outOfTheMoney
    | 3 => some .atTheMoney
    | _ => none
  ofCode?_eq_some_iff {word choice} := by cases choice <;> split <;> simp_all

inductive PnlSign
  | flat
  | profit
  | loss
  deriving DecidableEq, Repr, Inhabited

instance : Coded PnlSign where
  code
    | .flat => 0
    | .profit => 1
    | .loss => 2
  ofCode?
    | 0 => some .flat
    | 1 => some .profit
    | 2 => some .loss
    | _ => none
  ofCode?_eq_some_iff {word choice} := by cases choice <;> split <;> simp_all

structure Outcome where
  payout : UInt64
  moneyness : Moneyness
  barrierHit : Bool
  /-- The size of the profit or loss; `pnlSign` gives its direction. -/
  profitLoss : UInt64
  pnlSign : PnlSign
  earlyExercised : Bool
  deriving DecidableEq, Repr

namespace Outcome

def knockedOut : Outcome where
  payout := 0
  moneyness := .outOfTheMoney
  barrierHit := true
  profitLoss := 0
  pnlSign := .flat
  earlyExercised := false

def signedPnl (outcome : Outcome) : Int :=
  let size : Int := min outcome.profitLoss.toNat 0x7fffffffffffffff
  match outcome.pnlSign with
  | .flat => 0
  | .profit => size
  | .loss => -size

def exitCode (outcome : Outcome) : UInt32 :=
  if outcome.payout < 0x100000000 then outcome.payout.toUInt32 else 0xffffffff

end Outcome

instance : Record Outcome where
  layout := [
    ⟨"payout", .word64⟩,
    ⟨"moneyness", .choice Moneyness⟩,
    ⟨"barrier_hit", .choice Bool⟩,
    ⟨"profit_loss", .word64⟩,
    ⟨"pnl_sign", .choice PnlSign⟩,
    ⟨"early_exercised", .choice Bool⟩]
  toFields outcome :=
    (outcome.payout, outcome.moneyness, outcome.barrierHit, outcome.profitLoss, outcome.pnlSign,
      outcome.earlyExercised, ())
  ofFields
    | (payout, moneyness, barrierHit, profitLoss, pnlSign, earlyExercised, ()) =>
      { payout, moneyness, barrierHit, profitLoss, pnlSign, earlyExercised }
  ofFields_toFields _ := rfl
  toFields_ofFields _ := rfl

theorem width_outcome : Record.width Outcome = 32 := rfl

structure SettlementRules where
  /-- Half the width of the at-the-money band around the strike, in hundredths. -/
  atmBuffer : UInt64
  /-- A put is exercised early when its strike exceeds this percentage of the spot price. -/
  earlyExercisePercent : UInt64
  /-- The premium in basis points of strike times quantity. -/
  premiumBasisPoints : UInt64
  barrierEnabled : Bool
  earlyExerciseEnabled : Bool
  deriving DecidableEq, Repr

def Contract.barrierHit (contract : Contract) : Bool :=
  contract.barrier ≠ 0 &&
    if contract.kind.isCallLike then contract.barrier ≤ contract.spot
    else contract.spot ≤ contract.barrier

def OptionKind.intrinsicValue (kind : OptionKind) (strike spot quantity : UInt64) : UInt64 :=
  match kind with
  | .call => scaledGain spot strike quantity
  | .put => scaledGain strike spot quantity
  | .binaryCall => if strike ≤ spot then mulSaturating quantity cents else 0
  | .binaryPut => if spot ≤ strike then mulSaturating quantity cents else 0

namespace SettlementRules

def standard : SettlementRules where
  atmBuffer := 100
  earlyExercisePercent := 115
  premiumBasisPoints := 200
  barrierEnabled := true
  earlyExerciseEnabled := true

def vanilla : SettlementRules :=
  { standard with barrierEnabled := false, earlyExerciseEnabled := false }

def moneyness (rules : SettlementRules) (kind : OptionKind) (strike spot : UInt64) : Moneyness :=
  let (gain, loss) := if kind.isCallLike then (spot, strike) else (strike, spot)
  if addSaturating loss rules.atmBuffer < gain then .inTheMoney
  else if addSaturating gain rules.atmBuffer < loss then .outOfTheMoney
  else .atTheMoney

def exercisesEarly (rules : SettlementRules) (contract : Contract) : Bool :=
  rules.earlyExerciseEnabled && contract.kind == .put && contract.exercise == .american &&
    contract.timeToExpiry ≠ 0 &&
    mulDivSaturating contract.spot.toUInt64 rules.earlyExercisePercent cents <
      contract.strike.toUInt64

def premium (rules : SettlementRules) (contract : Contract) : UInt64 :=
  mulDivSaturating (contract.strike.toUInt64 * contract.quantity.toUInt64)
    rules.premiumBasisPoints (basisPoints * cents)

def profitLoss (payout premium : UInt64) : UInt64 × PnlSign :=
  if premium < payout then (payout - premium, .profit)
  else if payout < premium then (premium - payout, .loss)
  else (0, .flat)

def settle (rules : SettlementRules) (contract : Contract) : Outcome :=
  if rules.barrierEnabled && contract.barrierHit then .knockedOut
  else
    let strike := contract.strike.toUInt64
    let spot := contract.spot.toUInt64
    let payout := contract.kind.intrinsicValue strike spot contract.quantity.toUInt64
    let moneyness := rules.moneyness contract.kind strike spot
    if rules.exercisesEarly contract then
      { payout, moneyness, barrierHit := false, profitLoss := 0, pnlSign := .flat,
        earlyExercised := true }
    else
      let (profitLoss, pnlSign) := profitLoss payout (rules.premium contract)
      { payout, moneyness, barrierHit := false, profitLoss, pnlSign, earlyExercised := false }

end SettlementRules

end OptionClearing
