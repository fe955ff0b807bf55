import OptionClearing.Proofs.Amount
import OptionClearing.Settlement

/-!
Settlement as exact arithmetic over unbounded numbers, which the 64-bit rules meet on every
contract, since no price or quantity is wide enough for a product to leave its word.
-/

namespace OptionClearing

open Amount

namespace OptionKind

/-- The price that has to rise above the other for the holder to gain. -/
def gainSide (kind : OptionKind) (strike spot : Nat) : Nat :=
  if kind.isCallLike then spot else strike

def lossSide (kind : OptionKind) (strike spot : Nat) : Nat :=
  if kind.isCallLike then strike else spot

def payoff (kind : OptionKind) (strike spot quantity : Nat) : Nat :=
  match kind with
  | .call => (spot - strike) * quantity / 100
  | .put => (strike - spot) * quantity / 100
  | .binaryCall => if strike ≤ spot then 100 * quantity else 0
  | .binaryPut => if spot ≤ strike then 100 * quantity else 0

end OptionKind

namespace Contract

def gainSide (contract : Contract) : Nat :=
  contract.kind.gainSide contract.strike.toNat contract.spot.toNat

def lossSide (contract : Contract) : Nat :=
  contract.kind.lossSide contract.strike.toNat contract.spot.toNat

def payoff (contract : Contract) : Nat :=
  contract.kind.payoff contract.strike.toNat contract.spot.toNat contract.quantity.toNat

end Contract

namespace SettlementRules

def KnocksOut (rules : SettlementRules) (contract : Contract) : Prop :=
  rules.barrierEnabled = true ∧ contract.barrier.toNat ≠ 0 ∧
    if contract.kind.isCallLike then contract.barrier.toNat ≤ contract.spot.toNat
    else contract.spot.toNat ≤ contract.barrier.toNat

def EarlyDue (rules : SettlementRules) (contract : Contract) : Prop :=
  rules.earlyExerciseEnabled = true ∧ contract.kind = .put ∧ contract.exercise = .american ∧
    0 < contract.timeToExpiry.toNat ∧
    rules.earlyExercisePercent.toNat * contract.spot.toNat < 100 * contract.strike.toNat

instance (rules : SettlementRules) (contract : Contract) : Decidable (rules.KnocksOut contract) :=
  inferInstanceAs (Decidable (_ ∧ _ ∧ ite _ _ _))

instance (rules : SettlementRules) (contract : Contract) : Decidable (rules.EarlyDue contract) :=
  inferInstanceAs (Decidable (_ ∧ _ ∧ _ ∧ _ ∧ _))

def premiumDue (rules : SettlementRules) (contract : Contract) : Nat :=
  min (2 ^ 64 - 1)
    (contract.strike.toNat * contract.quantity.toNat * rules.premiumBasisPoints.toNat / 10 ^ 6)

/-- The account of a contract that is not knocked out. -/
structure Settled (rules : SettlementRules) (contract : Contract) (outcome : Outcome) : Prop where
  barrierHit : outcome.barrierHit = false
  inTheMoney_iff : outcome.moneyness = .inTheMoney ↔
    contract.lossSide + rules.atmBuffer.toNat < contract.gainSide
  outOfTheMoney_iff : outcome.moneyness = .outOfTheMoney ↔
    contract.gainSide + rules.atmBuffer.toNat < contract.lossSide
  atTheMoney_iff : outcome.moneyness = .atTheMoney ↔
    contract.gainSide ≤ contract.lossSide + rules.atmBuffer.toNat ∧
      contract.lossSide ≤ contract.gainSide + rules.atmBuffer.toNat
  payout : outcome.payout.toNat = contract.payoff
  earlyExercised_iff : outcome.earlyExercised = true ↔ rules.EarlyDue contract
  early : rules.EarlyDue contract → outcome.profitLoss = 0 ∧ outcome.pnlSign = .flat
  size : ¬ rules.EarlyDue contract →
    outcome.profitLoss.toNat = ((contract.payoff : Int) - rules.premiumDue contract).natAbs
  profit_iff : ¬ rules.EarlyDue contract →
    (outcome.pnlSign = .profit ↔ rules.premiumDue contract < contract.payoff)
  loss_iff : ¬ rules.EarlyDue contract →
    (outcome.pnlSign = .loss ↔ contract.payoff < rules.premiumDue contract)
  flat_iff : ¬ rules.EarlyDue contract →
    (outcome.pnlSign = .flat ↔ contract.payoff = rules.premiumDue contract)

end SettlementRules

theorem Contract.barrierHit_iff (contract : Contract) :
    contract.barrierHit = true ↔ contract.barrier.toNat ≠ 0 ∧
      if contract.kind.isCallLike then contract.barrier.toNat ≤ contract.spot.toNat
      else contract.spot.toNat ≤ contract.barrier.toNat := by
  have zero : contract.barrier = 0 ↔ contract.barrier.toNat = 0 := UInt32.toNat_inj.symm
  by_cases callLike : contract.kind.isCallLike = true
  · simp [barrierHit, callLike, zero, UInt32.le_iff_toNat_le]
  · simp [barrierHit, callLike, zero, UInt32.le_iff_toNat_le]

theorem toNat_binaryPayout (low high quantity : UInt64) :
    (if low ≤ high then mulSaturating quantity cents else 0).toNat =
      min (if low.toNat ≤ high.toNat then 100 * quantity.toNat else 0) (2 ^ 64 - 1) := by
  by_cases reached : low ≤ high
  · have order : low.toNat ≤ high.toNat := UInt64.le_iff_toNat_le.mp reached
    rw [if_pos reached, if_pos order, toNat_mulSaturating, Nat.mul_comm]
    rfl
  · have order : ¬ low.toNat ≤ high.toNat := by
      intro below
      exact reached (UInt64.le_iff_toNat_le.mpr below)
    rw [if_neg reached, if_neg order]
    rfl

theorem OptionKind.toNat_intrinsicValue (kind : OptionKind) (strike spot quantity : UInt64) :
    (kind.intrinsicValue strike spot quantity).toNat =
      min (kind.payoff strike.toNat spot.toNat quantity.toNat) (2 ^ 64 - 1) := by
  cases kind with
  | call => exact toNat_scaledGain spot strike quantity
  | put => exact toNat_scaledGain strike spot quantity
  | binaryCall => exact toNat_binaryPayout strike spot quantity
  | binaryPut => exact toNat_binaryPayout spot strike quantity

theorem OptionKind.payoff_le (kind : OptionKind) (strike spot quantity : Nat)
    (strikeBound : strike < 2 ^ 32) (spotBound : spot < 2 ^ 32) (quantityBound : quantity < 2 ^ 32) :
    kind.payoff strike spot quantity ≤ (2 ^ 32 - 1) ^ 2 / 100 := by
  have product (difference : Nat) (bound : difference < 2 ^ 32) :
      difference * quantity / 100 ≤ (2 ^ 32 - 1) ^ 2 / 100 := by
    have wide : difference * quantity ≤ (2 ^ 32 - 1) * (2 ^ 32 - 1) :=
      Nat.mul_le_mul (Nat.le_pred_of_lt bound) (Nat.le_pred_of_lt quantityBound)
    exact Nat.div_le_div_right wide
  have unit (p : Prop) [Decidable p] : (if p then 100 * quantity else 0) ≤ (2 ^ 32 - 1) ^ 2 / 100 := by
    split <;> omega
  cases kind with
  | call => exact product (spot - strike) (by omega)
  | put => exact product (strike - spot) (by omega)
  | binaryCall => exact unit (strike ≤ spot)
  | binaryPut => exact unit (spot ≤ strike)

theorem OptionKind.payoff_lt (kind : OptionKind) (strike spot quantity : Nat)
    (strikeBound : strike < 2 ^ 32) (spotBound : spot < 2 ^ 32) (quantityBound : quantity < 2 ^ 32) :
    kind.payoff strike spot quantity < 2 ^ 64 :=
  Nat.lt_of_le_of_lt (kind.payoff_le strike spot quantity strikeBound spotBound quantityBound)
    (by decide)

theorem threeWay_iff {α : Type} {first second third : α} {p q : Prop} [Decidable p] [Decidable q]
    (exclusive : p → ¬ q) (distinct : first ≠ second ∧ first ≠ third ∧ second ≠ third) :
    let answer := if p then first else if q then second else third
    (answer = first ↔ p) ∧ (answer = second ↔ q) ∧ (answer = third ↔ ¬ p ∧ ¬ q) := by
  rcases distinct with ⟨firstSecond, firstThird, secondThird⟩
  intro answer
  by_cases left : p
  · have chosen : answer = first := if_pos left
    have right := exclusive left
    simp [chosen, left, right, firstSecond, firstThird]
  · by_cases right : q
    · have chosen : answer = second := (if_neg left).trans (if_pos right)
      simp [chosen, left, right, secondThird, firstSecond.symm]
    · have chosen : answer = third := (if_neg left).trans (if_neg right)
      simp [chosen, left, right, firstThird.symm, secondThird.symm]

namespace SettlementRules

theorem moneyness_eq (rules : SettlementRules) (kind : OptionKind) (strike spot : UInt64) :
    rules.moneyness kind strike spot =
      if kind.lossSide strike.toNat spot.toNat + rules.atmBuffer.toNat <
          kind.gainSide strike.toNat spot.toNat then .inTheMoney
      else if kind.gainSide strike.toNat spot.toNat + rules.atmBuffer.toNat <
          kind.lossSide strike.toNat spot.toNat then .outOfTheMoney
      else .atTheMoney := by
  by_cases callLike : kind.isCallLike = true
  · simp [moneyness, OptionKind.gainSide, OptionKind.lossSide, callLike, addSaturating_lt_iff]
  · simp [moneyness, OptionKind.gainSide, OptionKind.lossSide, callLike, addSaturating_lt_iff]

theorem moneyness_iff (rules : SettlementRules) (kind : OptionKind) (strike spot : UInt64) :
    let gain := kind.gainSide strike.toNat spot.toNat
    let loss := kind.lossSide strike.toNat spot.toNat
    (rules.moneyness kind strike spot = .inTheMoney ↔ loss + rules.atmBuffer.toNat < gain) ∧
    (rules.moneyness kind strike spot = .outOfTheMoney ↔ gain + rules.atmBuffer.toNat < loss) ∧
    (rules.moneyness kind strike spot = .atTheMoney ↔
      gain ≤ loss + rules.atmBuffer.toNat ∧ loss ≤ gain + rules.atmBuffer.toNat) := by
  intro gain loss
  have exclusive : loss + rules.atmBuffer.toNat < gain → ¬ gain + rules.atmBuffer.toNat < loss := by
    omega
  obtain ⟨above, below, between⟩ := threeWay_iff exclusive
    (show Moneyness.inTheMoney ≠ .outOfTheMoney ∧ Moneyness.inTheMoney ≠ .atTheMoney ∧
      Moneyness.outOfTheMoney ≠ .atTheMoney by decide)
  rw [moneyness_eq]
  refine ⟨above, below, between.trans ?_⟩
  rw [Nat.not_lt, Nat.not_lt]

theorem exercisesEarly_iff (rules : SettlementRules) (contract : Contract) :
    rules.exercisesEarly contract = true ↔ rules.EarlyDue contract := by
  have started : contract.timeToExpiry ≠ 0 ↔ 0 < contract.timeToExpiry.toNat := by
    rw [ne_eq, ← UInt32.toNat_inj]
    exact Nat.pos_iff_ne_zero.symm
  have deep : mulDivSaturating contract.spot.toUInt64 rules.earlyExercisePercent cents <
      contract.strike.toUInt64 ↔
      rules.earlyExercisePercent.toNat * contract.spot.toNat < 100 * contract.strike.toNat := by
    rw [mulDivSaturating_lt_iff _ _ _ _ (by decide), UInt32.toNat_toUInt64, UInt32.toNat_toUInt64,
      Nat.mul_comm contract.spot.toNat, Nat.mul_comm contract.strike.toNat]
    rfl
  simp only [exercisesEarly, EarlyDue, Bool.and_eq_true, decide_eq_true_eq, beq_iff_eq, started,
    deep, and_assoc]

theorem toNat_premium (rules : SettlementRules) (contract : Contract) :
    (rules.premium contract).toNat = rules.premiumDue contract := by
  -- two 32-bit words leave room for their product, so only the quotient can be cut off
  have notional : (contract.strike.toUInt64 * contract.quantity.toUInt64).toNat =
      contract.strike.toNat * contract.quantity.toNat := by
    have wide : contract.strike.toNat * contract.quantity.toNat < 2 ^ 32 * 2 ^ 32 :=
      Nat.mul_lt_mul'' contract.strike.toNat_lt contract.quantity.toNat_lt
    calc
      (contract.strike.toUInt64 * contract.quantity.toUInt64).toNat
        = contract.strike.toNat * contract.quantity.toNat % 2 ^ 64 := by
          rw [UInt64.toNat_mul, UInt32.toNat_toUInt64, UInt32.toNat_toUInt64]
      _ = contract.strike.toNat * contract.quantity.toNat := Nat.mod_eq_of_lt wide
  rw [premium, toNat_mulDivSaturating _ _ _ (by decide), notional, premiumDue, Nat.min_comm]
  rfl

theorem toNat_profitLoss (payout premium : UInt64) :
    (profitLoss payout premium).1.toNat = ((payout.toNat : Int) - premium.toNat).natAbs := by
  rcases Nat.lt_trichotomy payout.toNat premium.toNat with below | same | above
  · have order : payout < premium := UInt64.lt_iff_toNat_lt.mpr below
    rw [profitLoss, if_neg (UInt64.lt_asymm order), if_pos order, toNat_sub_of_lt order]
    omega
  · have equal := UInt64.toNat_inj.mp same
    simp [profitLoss, equal]
  · have order : premium < payout := UInt64.lt_iff_toNat_lt.mpr above
    rw [profitLoss, if_pos order, toNat_sub_of_lt order]
    omega

theorem profitLoss_sign (payout premium : UInt64) :
    ((profitLoss payout premium).2 = .profit ↔ premium.toNat < payout.toNat) ∧
    ((profitLoss payout premium).2 = .loss ↔ payout.toNat < premium.toNat) ∧
    ((profitLoss payout premium).2 = .flat ↔ payout.toNat = premium.toNat) := by
  have sign : (profitLoss payout premium).2 =
      if premium.toNat < payout.toNat then .profit
      else if payout.toNat < premium.toNat then .loss else .flat := by
    simp only [profitLoss, UInt64.lt_iff_toNat_lt]
    split
    · rfl
    · split <;> rfl
  have exclusive : premium.toNat < payout.toNat → ¬ payout.toNat < premium.toNat := by
    omega
  obtain ⟨above, below, between⟩ := threeWay_iff exclusive
    (show PnlSign.profit ≠ .loss ∧ PnlSign.profit ≠ .flat ∧ PnlSign.loss ≠ .flat by decide)
  rw [sign]
  refine ⟨above, below, between.trans ?_⟩
  omega

end SettlementRules

def Contract.intrinsicValue (contract : Contract) : UInt64 :=
  contract.kind.intrinsicValue contract.strike.toUInt64 contract.spot.toUInt64
    contract.quantity.toUInt64

theorem Contract.toNat_intrinsicValue (contract : Contract) :
    contract.intrinsicValue.toNat = contract.payoff := by
  have fits := contract.kind.payoff_lt _ _ _ contract.strike.toNat_lt contract.spot.toNat_lt
    contract.quantity.toNat_lt
  rw [intrinsicValue, OptionKind.toNat_intrinsicValue]
  simp only [UInt32.toNat_toUInt64]
  rw [payoff]
  omega

namespace SettlementRules

variable (rules : SettlementRules) (contract : Contract)

def contractMoneyness : Moneyness :=
  rules.moneyness contract.kind contract.strike.toUInt64 contract.spot.toUInt64

theorem settle_of_knocksOut (hit : rules.KnocksOut contract) :
    rules.settle contract = .knockedOut := by
  have barrier := contract.barrierHit_iff.mpr hit.2
  simp [settle, hit.1, barrier]

private theorem no_barrier (standing : ¬ rules.KnocksOut contract) :
    (rules.barrierEnabled && contract.barrierHit) = false := by
  rw [Bool.eq_false_iff]
  intro both
  rcases (Bool.and_eq_true _ _).mp both with ⟨enabled, hit⟩
  exact standing ⟨enabled, contract.barrierHit_iff.mp hit⟩

theorem settle_of_earlyDue (standing : ¬ rules.KnocksOut contract)
    (due : rules.EarlyDue contract) :
    rules.settle contract =
      ⟨contract.intrinsicValue, rules.contractMoneyness contract, false, 0, .flat, true⟩ := by
  have early := (rules.exercisesEarly_iff contract).mpr due
  simp only [settle, no_barrier rules contract standing, early, if_true, Bool.false_eq_true, if_false]
  rfl

theorem settle_of_terminal (standing : ¬ rules.KnocksOut contract)
    (waits : ¬ rules.EarlyDue contract) :
    rules.settle contract =
      ⟨contract.intrinsicValue, rules.contractMoneyness contract, false,
        (profitLoss contract.intrinsicValue (rules.premium contract)).1,
        (profitLoss contract.intrinsicValue (rules.premium contract)).2, false⟩ := by
  have late : ¬ rules.exercisesEarly contract = true := by
    rw [exercisesEarly_iff]
    exact waits
  simp only [settle, no_barrier rules contract standing, late, Bool.false_eq_true, if_false]
  rfl

theorem settled_settle (standing : ¬ rules.KnocksOut contract) :
    rules.Settled contract (rules.settle contract) := by
  have payout := contract.toNat_intrinsicValue
  have premium := rules.toNat_premium contract
  have moneyness := rules.moneyness_iff contract.kind contract.strike.toUInt64 contract.spot.toUInt64
  simp only [UInt32.toNat_toUInt64] at moneyness
  by_cases due : rules.EarlyDue contract
  · rw [rules.settle_of_earlyDue contract standing due]
    exact {
      barrierHit := rfl
      inTheMoney_iff := moneyness.1
      outOfTheMoney_iff := moneyness.2.1
      atTheMoney_iff := moneyness.2.2
      payout := payout
      earlyExercised_iff := iff_of_true rfl due
      early := fun _ => ⟨rfl, rfl⟩
      size := fun waits => absurd due waits
      profit_iff := fun waits => absurd due waits
      loss_iff := fun waits => absurd due waits
      flat_iff := fun waits => absurd due waits }
  · have size := toNat_profitLoss contract.intrinsicValue (rules.premium contract)
    have sign := profitLoss_sign contract.intrinsicValue (rules.premium contract)
    rw [payout, premium] at size sign
    rw [rules.settle_of_terminal contract standing due]
    exact {
      barrierHit := rfl
      inTheMoney_iff := moneyness.1
      outOfTheMoney_iff := moneyness.2.1
      atTheMoney_iff := moneyness.2.2
      payout := payout
      earlyExercised_iff := iff_of_false Bool.false_ne_true due
      early := fun early => absurd early due
      size := fun _ => size
      profit_iff := fun _ => sign.1
      loss_iff := fun _ => sign.2.1
      flat_iff := fun _ => sign.2.2 }

theorem barrierHit_settle_iff :
    (rules.settle contract).barrierHit = true ↔ rules.KnocksOut contract := by
  by_cases hit : rules.KnocksOut contract
  · rw [rules.settle_of_knocksOut contract hit]
    exact iff_of_true rfl hit
  · rw [(rules.settled_settle contract hit).barrierHit]
    exact iff_of_false Bool.false_ne_true hit

theorem standing_settle_iff :
    (rules.settle contract).barrierHit = false ↔ ¬ rules.KnocksOut contract := by
  rw [← Bool.not_eq_true, barrierHit_settle_iff]

theorem earlyExercised_settle_iff :
    (rules.settle contract).earlyExercised = true ↔
      ¬ rules.KnocksOut contract ∧ rules.EarlyDue contract := by
  by_cases hit : rules.KnocksOut contract
  · rw [rules.settle_of_knocksOut contract hit]
    exact iff_of_false Bool.false_ne_true fun due => due.1 hit
  · rw [(rules.settled_settle contract hit).earlyExercised_iff]
    exact (and_iff_right hit).symm

/-- The rules in 64-bit words meet the account in unbounded numbers on every contract. -/
theorem settle_exact :
    (rules.settle contract = ⟨0, .outOfTheMoney, true, 0, .flat, false⟩ ↔ rules.KnocksOut contract) ∧
    (¬ rules.KnocksOut contract → rules.Settled contract (rules.settle contract)) := by
  refine ⟨⟨?_, ?_⟩, rules.settled_settle contract⟩
  · intro knockedOut
    apply Classical.byContradiction
    intro standing
    have untouched := (rules.settled_settle contract standing).barrierHit
    rw [knockedOut] at untouched
    cases untouched
  · exact rules.settle_of_knocksOut contract

/-- A put that is deep enough in the money to be exercised early under the standard rules. -/
def deepPut : Contract := ⟨.put, 12000, 10000, 100, 9000, .american, 1440, 2500⟩

theorem settle_exact_deep_put :
    ¬ standard.KnocksOut deepPut ∧ (standard.settle deepPut).payout.toNat = 2000 ∧
      (standard.settle deepPut).earlyExercised = true ∧
      (standard.settle deepPut).profitLoss = 0 := by
  have standing : ¬ standard.KnocksOut deepPut := by decide
  have due : standard.EarlyDue deepPut := by decide
  have worth : deepPut.payoff = 2000 := by decide
  have account := (settle_exact standard deepPut).2 standing
  exact ⟨standing, account.payout.trans worth, account.earlyExercised_iff.mpr due,
    (account.early due).1⟩

end SettlementRules

end OptionClearing
