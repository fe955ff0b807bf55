import OptionClearing.Proofs.Settlement.Exact

/-!
The two sides of a contract: the price that the holder gains by and the price that the holder loses
by. Strike and spot price enter payout and moneyness through them alone.
-/

namespace OptionClearing

namespace OptionKind

def isBinary : OptionKind → Bool
  | call | put => false
  | binaryCall | binaryPut => true

/-- The payoff between a price to gain by and a price to lose by. -/
def worth (kind : OptionKind) (gain loss quantity : Nat) : Nat :=
  if kind.isBinary then if loss ≤ gain then 100 * quantity else 0
  else (gain - loss) * quantity / 100

variable (kind : OptionKind) (quantity : Nat)

theorem payoff_eq_worth (strike spot : Nat) :
    kind.payoff strike spot quantity =
      kind.worth (kind.gainSide strike spot) (kind.lossSide strike spot) quantity := by
  cases kind <;> rfl

theorem worth_of_isBinary (binary : kind.isBinary = true) (gain loss : Nat) :
    kind.worth gain loss quantity = if loss ≤ gain then 100 * quantity else 0 :=
  if_pos binary

theorem worth_of_not_isBinary (vanilla : ¬ kind.isBinary = true) (gain loss : Nat) :
    kind.worth gain loss quantity = (gain - loss) * quantity / 100 :=
  if_neg vanilla

theorem worth_mono {gain loss higher lower : Nat} (gains : gain ≤ higher) (losses : lower ≤ loss) :
    kind.worth gain loss quantity ≤ kind.worth higher lower quantity := by
  by_cases binary : kind.isBinary = true
  · rw [kind.worth_of_isBinary quantity binary, kind.worth_of_isBinary quantity binary]
    split
    · next reached =>
        have still : lower ≤ higher := Nat.le_trans losses (Nat.le_trans reached gains)
        exact Nat.le_of_eq (if_pos still).symm
    · exact Nat.zero_le _
  · rw [kind.worth_of_not_isBinary quantity binary, kind.worth_of_not_isBinary quantity binary]
    have wider : gain - loss ≤ higher - lower := by omega
    exact Nat.div_le_div_right (Nat.mul_le_mul_right quantity wider)

end OptionKind

namespace Contract

variable (contract : Contract)

theorem gainSide_of_callLike (callLike : contract.kind.isCallLike = true) :
    contract.gainSide = contract.spot.toNat :=
  if_pos callLike

theorem lossSide_of_callLike (callLike : contract.kind.isCallLike = true) :
    contract.lossSide = contract.strike.toNat :=
  if_pos callLike

theorem gainSide_of_putLike (putLike : contract.kind.isCallLike = false) :
    contract.gainSide = contract.strike.toNat :=
  if_neg (ne_true_of_eq_false putLike)

theorem lossSide_of_putLike (putLike : contract.kind.isCallLike = false) :
    contract.lossSide = contract.spot.toNat :=
  if_neg (ne_true_of_eq_false putLike)

end Contract

namespace Moneyness

def band (buffer gain loss : Nat) : Moneyness :=
  if loss + buffer < gain then .inTheMoney
  else if gain + buffer < loss then .outOfTheMoney
  else .atTheMoney

/-- How well the holder stands; zero for a moneyness that is no band. -/
def rank : Moneyness → Nat
  | notApplicable => 0
  | outOfTheMoney => 1
  | atTheMoney => 2
  | inTheMoney => 3

theorem rank_band_mono (buffer : Nat) {gain loss higher lower : Nat} (gains : gain ≤ higher)
    (losses : lower ≤ loss) : (band buffer gain loss).rank ≤ (band buffer higher lower).rank := by
  by_cases above : loss + buffer < gain
  · have still : lower + buffer < higher := by omega
    have same : band buffer gain loss = band buffer higher lower :=
      (if_pos above).trans (if_pos still).symm
    exact Nat.le_of_eq (congrArg rank same)
  by_cases below : gain + buffer < loss
  · rw [band, if_neg above, if_pos below, band]
    split
    · decide
    · split <;> decide
  · -- between the bands, so the improved prices are not below them
    have held : ¬ higher + buffer < lower := by omega
    rw [band, if_neg above, if_neg below, band, if_neg held]
    split <;> decide

end Moneyness

namespace SettlementRules

section Barrier

variable (rules : SettlementRules) (contract : Contract)

theorem knocksOut_iff_of_callLike (callLike : contract.kind.isCallLike = true) :
    rules.KnocksOut contract ↔ rules.barrierEnabled = true ∧ contract.barrier.toNat ≠ 0 ∧
      contract.barrier.toNat ≤ contract.spot.toNat := by
  rw [KnocksOut, if_pos callLike]

theorem knocksOut_iff_of_putLike (putLike : contract.kind.isCallLike = false) :
    rules.KnocksOut contract ↔ rules.barrierEnabled = true ∧ contract.barrier.toNat ≠ 0 ∧
      contract.spot.toNat ≤ contract.barrier.toNat := by
  rw [KnocksOut, if_neg (ne_true_of_eq_false putLike)]

end Barrier

variable {rules : SettlementRules} {contract : Contract} {outcome : Outcome}

theorem Settled.payout_eq_worth (account : rules.Settled contract outcome) :
    outcome.payout.toNat =
      contract.kind.worth contract.gainSide contract.lossSide contract.quantity.toNat :=
  account.payout.trans (contract.kind.payoff_eq_worth _ _ _)

theorem Settled.moneyness_eq_band (account : rules.Settled contract outcome) :
    outcome.moneyness = .band rules.atmBuffer.toNat contract.gainSide contract.lossSide := by
  by_cases above : contract.lossSide + rules.atmBuffer.toNat < contract.gainSide
  · rw [Moneyness.band, if_pos above]
    exact account.inTheMoney_iff.mpr above
  by_cases below : contract.gainSide + rules.atmBuffer.toNat < contract.lossSide
  · rw [Moneyness.band, if_neg above, if_pos below]
    exact account.outOfTheMoney_iff.mpr below
  · rw [Moneyness.band, if_neg above, if_neg below]
    exact account.atTheMoney_iff.mpr ⟨Nat.le_of_not_lt above, Nat.le_of_not_lt below⟩

end SettlementRules

end OptionClearing
