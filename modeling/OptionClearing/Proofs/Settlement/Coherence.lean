import OptionClearing.Proofs.Settlement.Exact

/-!
Coherent outcomes. A record has room for outcomes that no contract settles to, such as a loss with
the sign of a flat one. Settling under any rules yields a coherent outcome.
-/

namespace OptionClearing

/-- What holds of an outcome whatever the contract and the rules were. -/
structure Outcome.Coherent (outcome : Outcome) : Prop where
  decided : outcome.moneyness ≠ .notApplicable
  flat_iff : outcome.pnlSign = .flat ↔ outcome.profitLoss = 0
  voided : outcome.barrierHit = true →
    outcome.payout = 0 ∧ outcome.moneyness = .outOfTheMoney ∧ outcome.pnlSign = .flat ∧
      outcome.earlyExercised = false
  early : outcome.earlyExercised = true → outcome.pnlSign = .flat
  worthless : outcome.moneyness = .outOfTheMoney → outcome.payout = 0
  profit_le : outcome.pnlSign = .profit → outcome.profitLoss ≤ outcome.payout
  payout_le : outcome.payout.toNat ≤ (2 ^ 32 - 1) ^ 2 / 100

structure Contract.Exercisable (contract : Contract) : Prop where
  kind : contract.kind = .put
  exercise : contract.exercise = .american
  unexpired : 0 < contract.timeToExpiry.toNat

theorem OptionKind.payoff_eq_zero (kind : OptionKind) (strike spot quantity : Nat)
    (outside : kind.gainSide strike spot < kind.lossSide strike spot) :
    kind.payoff strike spot quantity = 0 := by
  cases kind with
  | call =>
      have below : spot < strike := outside
      simp only [payoff, Nat.sub_eq_zero_of_le (Nat.le_of_lt below), Nat.zero_mul, Nat.zero_div]
  | put =>
      have above : strike < spot := outside
      simp only [payoff, Nat.sub_eq_zero_of_le (Nat.le_of_lt above), Nat.zero_mul, Nat.zero_div]
  | binaryCall => exact if_neg (Nat.not_le.mpr outside)
  | binaryPut => exact if_neg (Nat.not_le.mpr outside)

theorem Contract.payoff_le (contract : Contract) : contract.payoff ≤ (2 ^ 32 - 1) ^ 2 / 100 :=
  contract.kind.payoff_le _ _ _ contract.strike.toNat_lt contract.spot.toNat_lt
    contract.quantity.toNat_lt

namespace Outcome

theorem coherent_knockedOut : knockedOut.Coherent where
  decided := by decide
  flat_iff := iff_of_true rfl rfl
  voided := fun _ => ⟨rfl, rfl, rfl, rfl⟩
  early := fun _ => rfl
  worthless := fun _ => rfl
  profit_le := fun _ => UInt64.le_refl 0
  payout_le := Nat.zero_le _

end Outcome

namespace SettlementRules

variable {rules : SettlementRules} {contract : Contract} {outcome : Outcome}

theorem Settled.decided (account : rules.Settled contract outcome) :
    outcome.moneyness ≠ .notApplicable := by
  intro undecided
  have notAbove := mt account.inTheMoney_iff.mpr
  have notBelow := mt account.outOfTheMoney_iff.mpr
  have notBetween := mt account.atTheMoney_iff.mpr
  rw [undecided] at notAbove notBelow notBetween
  apply notBetween (by decide)
  exact ⟨Nat.le_of_not_lt (notAbove (by decide)), Nat.le_of_not_lt (notBelow (by decide))⟩

theorem Settled.profitLoss_eq_zero_iff (account : rules.Settled contract outcome)
    (waits : ¬ rules.EarlyDue contract) :
    outcome.profitLoss = 0 ↔ contract.payoff = rules.premiumDue contract := by
  have size := account.size waits
  rw [← UInt64.toNat_inj, size]
  change _ = 0 ↔ _
  omega

theorem Settled.flat_iff_profitLoss (account : rules.Settled contract outcome) :
    outcome.pnlSign = .flat ↔ outcome.profitLoss = 0 := by
  by_cases due : rules.EarlyDue contract
  · obtain ⟨nothing, flat⟩ := account.early due
    exact iff_of_true flat nothing
  · exact (account.flat_iff due).trans (account.profitLoss_eq_zero_iff due).symm

theorem Settled.worthless (account : rules.Settled contract outcome)
    (outside : outcome.moneyness = .outOfTheMoney) : outcome.payout = 0 := by
  have beyond := account.outOfTheMoney_iff.mp outside
  have nothing : contract.payoff = 0 := by
    apply contract.kind.payoff_eq_zero
    exact Nat.lt_of_le_of_lt (Nat.le_add_right _ _) beyond
  exact UInt64.toNat_inj.mp (account.payout.trans nothing)

theorem Settled.profit_le (account : rules.Settled contract outcome)
    (profit : outcome.pnlSign = .profit) : outcome.profitLoss ≤ outcome.payout := by
  by_cases due : rules.EarlyDue contract
  · have flat := (account.early due).2
    rw [profit] at flat
    contradiction
  · have size := account.size due
    have gained := (account.profit_iff due).mp profit
    rw [UInt64.le_iff_toNat_le, size, account.payout]
    omega

theorem Settled.coherent (account : rules.Settled contract outcome) : outcome.Coherent where
  decided := account.decided
  flat_iff := account.flat_iff_profitLoss
  voided := by
    intro hit
    rw [account.barrierHit] at hit
    contradiction
  early := fun exercised => (account.early (account.earlyExercised_iff.mp exercised)).2
  worthless := account.worthless
  profit_le := account.profit_le
  payout_le := account.payout.symm ▸ contract.payoff_le

variable (rules contract)

theorem coherent_settle : (rules.settle contract).Coherent := by
  by_cases hit : rules.KnocksOut contract
  · rw [rules.settle_of_knocksOut contract hit]
    exact Outcome.coherent_knockedOut
  · exact (rules.settled_settle contract hit).coherent

theorem exercisable_of_settle (exercised : (rules.settle contract).earlyExercised = true) :
    contract.Exercisable := by
  by_cases hit : rules.KnocksOut contract
  · rw [rules.settle_of_knocksOut contract hit] at exercised
    contradiction
  · obtain ⟨_, kind, style, unexpired, _⟩ :=
      (rules.settled_settle contract hit).earlyExercised_iff.mp exercised
    exact ⟨kind, style, unexpired⟩

end SettlementRules

end OptionClearing
