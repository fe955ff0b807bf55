import OptionClearing.Proofs.Settlement.Coherence
import OptionClearing.Proofs.Settlement.Sides

/-!
The band of a contract and its payoff, each found on its own from words of any size, and the payout
that never contradicts the band.
-/

namespace OptionClearing

open Amount

namespace SettlementRules

/-- Bands are told apart by sums that no word has to hold, and at most one side clears the other. The
payoff is exact up to the largest amount, which no 32-bit prices and quantity reach. -/
theorem pricing_exact (rules : SettlementRules) (kind : OptionKind)
    (strike spot quantity : UInt64) :
    let gain := kind.gainSide strike.toNat spot.toNat
    let loss := kind.lossSide strike.toNat spot.toNat
    let buffer := rules.atmBuffer.toNat
    let band := rules.moneyness kind strike spot
    let payoff := kind.payoff strike.toNat spot.toNat quantity.toNat
    let value := kind.intrinsicValue strike spot quantity
    ¬ (loss + buffer < gain ∧ gain + buffer < loss) ∧
    (band = .inTheMoney ↔ loss + buffer < gain) ∧
    (band = .outOfTheMoney ↔ gain + buffer < loss) ∧
    (band = .atTheMoney ↔ ¬ loss + buffer < gain ∧ ¬ gain + buffer < loss) ∧
    value.toNat = min (2 ^ 64 - 1) payoff ∧
    (strike.toNat < 2 ^ 32 → spot.toNat < 2 ^ 32 → quantity.toNat < 2 ^ 32 →
      payoff < 2 ^ 64 ∧ value.toNat = payoff) := by
  intro gain loss buffer band payoff value
  obtain ⟨inside, outside, between⟩ := rules.moneyness_iff kind strike spot
  have cutOff : value.toNat = min (2 ^ 64 - 1) payoff :=
    (kind.toNat_intrinsicValue strike spot quantity).trans (Nat.min_comm _ _)
  refine ⟨?exclusive, inside, outside, ?between, cutOff, ?narrow⟩
  case exclusive =>
    rintro ⟨above, below⟩
    omega
  case between =>
    rw [Nat.not_lt, Nat.not_lt]
    exact between
  case narrow =>
    intro strikeBound spotBound quantityBound
    have fits : payoff < 2 ^ 64 := kind.payoff_lt _ _ _ strikeBound spotBound quantityBound
    refine ⟨fits, ?_⟩
    omega

theorem pricing_exact_upper_end :
    let top : UInt64 := 0xffffffffffffffff
    let narrow : UInt64 := 0xffffffff
    standard.moneyness .put top (top - 50) = .atTheMoney ∧
    standard.moneyness .put top (top - 101) = .inTheMoney ∧
    (OptionKind.call.intrinsicValue 0 top top).toNat = 2 ^ 64 - 1 ∧
    (narrow.toNat < 2 ^ 32 ∧
      (OptionKind.call.intrinsicValue 0 narrow narrow).toNat = (2 ^ 32 - 1) ^ 2 / 100) := by
  intro top narrow
  obtain ⟨_, _, _, between, _⟩ := pricing_exact standard .put top (top - 50) 0
  obtain ⟨_, inside, _⟩ := pricing_exact standard .put top (top - 101) 0
  obtain ⟨_, _, _, _, cutOff, _⟩ := pricing_exact standard .call 0 top top
  obtain ⟨_, _, _, _, _, whole⟩ := pricing_exact standard .call 0 narrow narrow
  have fits : narrow.toNat < 2 ^ 32 := by decide
  refine ⟨between.mpr (by decide), inside.mpr (by decide), cutOff.trans (by decide), fits, ?_⟩
  exact (whole (by decide) fits fits).2.trans (by decide)

end SettlementRules

namespace Outcome

/-- In the money a payout clears the buffer, at the money it stays within it. -/
structure PaysByBand (outcome : Outcome) (buffer quantity : Nat) : Prop where
  inTheMoney : outcome.moneyness = .inTheMoney →
    (buffer + 1) * quantity / 100 ≤ outcome.payout.toNat
  atTheMoney : outcome.moneyness = .atTheMoney →
    outcome.payout.toNat ≤ buffer * quantity / 100
  outOfTheMoney : outcome.moneyness = .outOfTheMoney → outcome.payout.toNat = 0

structure PaysInFull (outcome : Outcome) (quantity : Nat) : Prop where
  inTheMoney : outcome.moneyness = .inTheMoney → outcome.payout.toNat = 100 * quantity
  atTheMoney : outcome.moneyness = .atTheMoney →
    outcome.payout.toNat = 100 * quantity ∨ outcome.payout.toNat = 0
  outOfTheMoney : outcome.moneyness = .outOfTheMoney → outcome.payout.toNat = 0

theorem PaysByBand.quantity_between {outcome : Outcome} {quantity : Nat}
    (pays : outcome.PaysByBand 100 quantity) :
    (outcome.moneyness = .inTheMoney → quantity ≤ outcome.payout.toNat) ∧
      (outcome.moneyness = .atTheMoney → outcome.payout.toNat ≤ quantity) := by
  constructor
  · intro inside
    have cleared := pays.inTheMoney inside
    omega
  · intro between
    have kept := pays.atTheMoney between
    omega

end Outcome

namespace OptionKind

variable (kind : OptionKind) (quantity : Nat) {gain loss buffer : Nat}

theorem le_worth_of_clear (vanilla : ¬ kind.isBinary = true) (clear : loss + buffer < gain) :
    (buffer + 1) * quantity / 100 ≤ kind.worth gain loss quantity := by
  have margin : buffer + 1 ≤ gain - loss := by omega
  rw [kind.worth_of_not_isBinary quantity vanilla]
  exact Nat.div_le_div_right (Nat.mul_le_mul_right quantity margin)

theorem worth_le_of_close (vanilla : ¬ kind.isBinary = true) (close : gain ≤ loss + buffer) :
    kind.worth gain loss quantity ≤ buffer * quantity / 100 := by
  have margin : gain - loss ≤ buffer := by omega
  rw [kind.worth_of_not_isBinary quantity vanilla]
  exact Nat.div_le_div_right (Nat.mul_le_mul_right quantity margin)

end OptionKind

namespace SettlementRules

variable {rules : SettlementRules} {contract : Contract} {outcome : Outcome}

theorem Settled.payout_of_outside (account : rules.Settled contract outcome)
    (outside : outcome.moneyness = .outOfTheMoney) : outcome.payout.toNat = 0 := by
  rw [account.worthless outside]
  rfl

theorem Settled.paysByBand (account : rules.Settled contract outcome)
    (vanilla : ¬ contract.kind.isBinary = true) :
    outcome.PaysByBand rules.atmBuffer.toNat contract.quantity.toNat where
  inTheMoney inside := by
    have clear := account.inTheMoney_iff.mp inside
    rw [account.payout_eq_worth]
    exact contract.kind.le_worth_of_clear _ vanilla clear
  atTheMoney between := by
    have close := (account.atTheMoney_iff.mp between).1
    rw [account.payout_eq_worth]
    exact contract.kind.worth_le_of_close _ vanilla close
  outOfTheMoney := account.payout_of_outside

theorem Settled.paysInFull (account : rules.Settled contract outcome)
    (binary : contract.kind.isBinary = true) : outcome.PaysInFull contract.quantity.toNat where
  inTheMoney inside := by
    have clear := account.inTheMoney_iff.mp inside
    rw [account.payout_eq_worth, contract.kind.worth_of_isBinary _ binary]
    exact if_pos (by omega)
  atTheMoney _ := by
    rw [account.payout_eq_worth, contract.kind.worth_of_isBinary _ binary]
    split
    · exact .inl rfl
    · exact .inr rfl
  outOfTheMoney := account.payout_of_outside

variable (rules contract)

/-- Whatever the buffer, a contract that stands is in one of three bands, and its payout belongs to
that band. -/
theorem payout_follows_band (standing : (rules.settle contract).barrierHit = false) :
    let outcome := rules.settle contract
    let quantity := contract.quantity.toNat
    outcome.moneyness ≠ .notApplicable ∧
    (¬ contract.kind.isBinary = true → outcome.PaysByBand rules.atmBuffer.toNat quantity) ∧
    (contract.kind.isBinary = true → outcome.PaysInFull quantity) ∧
    (rules.atmBuffer = standard.atmBuffer → ¬ contract.kind.isBinary = true →
      (outcome.moneyness = .inTheMoney → quantity ≤ outcome.payout.toNat) ∧
      (outcome.moneyness = .atTheMoney → outcome.payout.toNat ≤ quantity)) := by
  intro outcome quantity
  have account := rules.settled_settle contract ((rules.standing_settle_iff contract).mp standing)
  refine ⟨account.decided, account.paysByBand, account.paysInFull, ?_⟩
  intro buffer vanilla
  have pays := account.paysByBand vanilla
  rw [buffer] at pays
  exact pays.quantity_between

def edgeCall : Contract := ⟨.call, 10000, 10101, 33, 0, .european, 0, 2500⟩

def boundless : SettlementRules := { standard with atmBuffer := greatest }

theorem edgeCall_paid_by_band :
    let beyond := standard.settle edgeCall
    let within := standard.settle { edgeCall with spot := 10100 }
    let binary := standard.settle { edgeCall with kind := .binaryCall, spot := 9900 }
    let buffered := boundless.settle edgeCall
    (beyond.barrierHit = false ∧ beyond.moneyness = .inTheMoney ∧ beyond.payout.toNat = 33 ∧
      (100 + 1) * 33 / 100 ≤ beyond.payout.toNat ∧ 33 ≤ beyond.payout.toNat) ∧
    (within.moneyness = .atTheMoney ∧ within.payout.toNat = 33 ∧ within.payout.toNat ≤ 33) ∧
    (binary.moneyness = .atTheMoney ∧
      (binary.payout.toNat = 3300 ∨ binary.payout.toNat = 0)) ∧
    (buffered.moneyness = .atTheMoney ∧ buffered.payout.toNat ≤ greatest.toNat * 33 / 100) := by
  intro beyond within binary buffered
  obtain ⟨_, beyondPays, _, beyondUnit⟩ := payout_follows_band standard edgeCall (by decide)
  obtain ⟨_, _, _, withinUnit⟩ :=
    payout_follows_band standard { edgeCall with spot := 10100 } (by decide)
  obtain ⟨_, _, binaryPays, _⟩ := payout_follows_band standard
    { edgeCall with kind := .binaryCall, spot := 9900 } (by decide)
  obtain ⟨_, bufferedPays, _⟩ := payout_follows_band boundless edgeCall (by decide)
  have inside : beyond.moneyness = .inTheMoney := by decide
  have between : within.moneyness = .atTheMoney := by decide
  have binaryBetween : binary.moneyness = .atTheMoney := by decide
  have bufferedBetween : buffered.moneyness = .atTheMoney := by decide
  refine ⟨⟨by decide, inside, by decide, ?_, ?_⟩, ⟨between, by decide, ?_⟩,
    ⟨binaryBetween, ?_⟩, bufferedBetween, ?_⟩
  · exact (beyondPays (by decide)).inTheMoney inside
  · exact (beyondUnit rfl (by decide)).1 inside
  · exact (withinUnit rfl (by decide)).2 between
  · exact (binaryPays rfl).atTheMoney binaryBetween
  · exact (bufferedPays (by decide)).atTheMoney bufferedBetween

end SettlementRules

end OptionClearing
