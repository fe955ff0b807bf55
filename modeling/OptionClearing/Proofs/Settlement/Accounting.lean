import Mathlib.Algebra.Group.Int.Defs
import OptionClearing.Proofs.Settlement.Coherence

/-!
Profit and loss as an account: the payout less the premium, down to the least number that can be
stated.
-/

namespace OptionClearing

namespace Outcome

/-- Settled against the premium: neither voided by the barrier nor exercised early. -/
structure Terminal (outcome : Outcome) : Prop where
  standing : outcome.barrierHit = false
  held : outcome.earlyExercised = false

def Saturated (outcome : Outcome) : Prop := 2 ^ 63 ≤ outcome.profitLoss.toNat

end Outcome

namespace SettlementRules

section Terminal

variable {rules : SettlementRules} {contract : Contract} {outcome : Outcome}

theorem terminal_settle_iff :
    (rules.settle contract).Terminal ↔ ¬ rules.KnocksOut contract ∧ ¬ rules.EarlyDue contract := by
  constructor
  · intro terminal
    have standing := (rules.standing_settle_iff contract).mp terminal.standing
    have account := rules.settled_settle contract standing
    exact ⟨standing, mt account.earlyExercised_iff.mpr (ne_true_of_eq_false terminal.held)⟩
  · rintro ⟨standing, waits⟩
    have account := rules.settled_settle contract standing
    exact ⟨account.barrierHit, eq_false_of_ne_true (mt account.earlyExercised_iff.mp waits)⟩

theorem settled_of_terminal (terminal : (rules.settle contract).Terminal) :
    rules.Settled contract (rules.settle contract) ∧ ¬ rules.EarlyDue contract := by
  obtain ⟨standing, waits⟩ := terminal_settle_iff.mp terminal
  exact ⟨rules.settled_settle contract standing, waits⟩

/-- No payout is near the largest signed word, so a difference is cut off from below only. -/
theorem Settled.signedPnl_eq (account : rules.Settled contract outcome)
    (waits : ¬ rules.EarlyDue contract) :
    outcome.signedPnl =
      max (-(2 ^ 63 - 1)) ((contract.payoff : Int) - rules.premiumDue contract) := by
  have size := account.size waits
  have worth := contract.payoff_le
  cases sign : outcome.pnlSign with
  | flat =>
      have even := (account.flat_iff waits).mp sign
      simp only [Outcome.signedPnl, sign]
      omega
  | profit =>
      have gained := (account.profit_iff waits).mp sign
      simp only [Outcome.signedPnl, sign]
      omega
  | loss =>
      have lost := (account.loss_iff waits).mp sign
      simp only [Outcome.signedPnl, sign]
      omega

theorem Settled.saturated_iff (account : rules.Settled contract outcome)
    (waits : ¬ rules.EarlyDue contract) :
    outcome.Saturated ↔ contract.payoff + 2 ^ 63 ≤ rules.premiumDue contract := by
  have size := account.size waits
  have worth := contract.payoff_le
  rw [Outcome.Saturated]
  omega

theorem Settled.balanced_iff (account : rules.Settled contract outcome)
    (waits : ¬ rules.EarlyDue contract) :
    (contract.payoff : Int) = rules.premiumDue contract + outcome.signedPnl ↔
      ¬ outcome.Saturated := by
  rw [account.signedPnl_eq waits, account.saturated_iff waits]
  omega

end Terminal

section Rate

variable (rules : SettlementRules) (contract : Contract)

theorem notional_le :
    contract.strike.toNat * contract.quantity.toNat ≤ (2 ^ 32 - 1) * (2 ^ 32 - 1) :=
  Nat.mul_le_mul (Nat.le_pred_of_lt contract.strike.toNat_lt)
    (Nat.le_pred_of_lt contract.quantity.toNat_lt)

theorem premium_quotient_lt (moderate : rules.premiumBasisPoints.toNat ≤ 500000) :
    contract.strike.toNat * contract.quantity.toNat * rules.premiumBasisPoints.toNat / 10 ^ 6 <
      2 ^ 63 := by
  calc
    contract.strike.toNat * contract.quantity.toNat * rules.premiumBasisPoints.toNat / 10 ^ 6
      ≤ (2 ^ 32 - 1) * (2 ^ 32 - 1) * 500000 / 10 ^ 6 :=
        Nat.div_le_div_right (Nat.mul_le_mul (notional_le contract) moderate)
    _ < 2 ^ 63 := by decide

theorem premiumDue_of_moderate (moderate : rules.premiumBasisPoints.toNat ≤ 500000) :
    rules.premiumDue contract =
      contract.strike.toNat * contract.quantity.toNat *
        rules.premiumBasisPoints.toNat / 10 ^ 6 := by
  have bound := rules.premium_quotient_lt contract moderate
  rw [premiumDue]
  omega

theorem not_saturated_of_moderate (moderate : rules.premiumBasisPoints.toNat ≤ 500000)
    (terminal : (rules.settle contract).Terminal) : ¬ (rules.settle contract).Saturated := by
  obtain ⟨account, waits⟩ := settled_of_terminal terminal
  have bound := rules.premium_quotient_lt contract moderate
  rw [account.saturated_iff waits, rules.premiumDue_of_moderate contract moderate]
  omega

theorem not_earlyDue_of_callLike (callLike : contract.kind.isCallLike = true) :
    ¬ rules.EarlyDue contract := by
  intro due
  rw [due.2.1] at callLike
  contradiction

/-- The widest notional on a worthless underlying. Nothing sets its premium off. -/
def widestCall : Contract := ⟨.call, 0xffffffff, 0, 0xffffffff, 0, .european, 0, 0⟩

theorem terminal_widestCall : (rules.settle widestCall).Terminal := by
  have standing : ¬ rules.KnocksOut widestCall := fun hit => hit.2.1 rfl
  exact terminal_settle_iff.mpr ⟨standing, rules.not_earlyDue_of_callLike widestCall rfl⟩

theorem saturated_widestCall (excessive : 500000 < rules.premiumBasisPoints.toNat) :
    (rules.settle widestCall).Saturated := by
  obtain ⟨account, waits⟩ := settled_of_terminal rules.terminal_widestCall
  have worthless : widestCall.payoff = 0 := by decide
  have owed : 2 ^ 63 ≤
      (2 ^ 32 - 1) * (2 ^ 32 - 1) * rules.premiumBasisPoints.toNat / 10 ^ 6 := by
    calc
      2 ^ 63 ≤ (2 ^ 32 - 1) * (2 ^ 32 - 1) * 500001 / 10 ^ 6 := by decide
      _ ≤ (2 ^ 32 - 1) * (2 ^ 32 - 1) * rules.premiumBasisPoints.toNat / 10 ^ 6 :=
        Nat.div_le_div_right (Nat.mul_le_mul_left _ excessive)
  have premium : rules.premiumDue widestCall = min (2 ^ 64 - 1)
      ((2 ^ 32 - 1) * (2 ^ 32 - 1) * rules.premiumBasisPoints.toNat / 10 ^ 6) := rfl
  rw [account.saturated_iff waits, worthless, premium]
  omega

theorem saturation_unreachable_iff :
    (∀ contract, (rules.settle contract).Terminal → ¬ (rules.settle contract).Saturated) ↔
      rules.premiumBasisPoints.toNat ≤ 500000 := by
  constructor
  · intro unreachable
    apply Nat.le_of_not_lt
    intro excessive
    exact unreachable widestCall rules.terminal_widestCall (rules.saturated_widestCall excessive)
  · intro moderate contract terminal
    exact rules.not_saturated_of_moderate contract moderate terminal

theorem balanced_settle_iff (terminal : (rules.settle contract).Terminal) :
    ((rules.settle contract).payout.toNat : Int) =
        rules.premiumDue contract + (rules.settle contract).signedPnl ↔
      ¬ (rules.settle contract).Saturated := by
  obtain ⟨account, waits⟩ := settled_of_terminal terminal
  rw [account.payout]
  exact account.balanced_iff waits

theorem payout_eq_of_moderate (moderate : rules.premiumBasisPoints.toNat ≤ 500000)
    (terminal : (rules.settle contract).Terminal) :
    ((rules.settle contract).payout.toNat : Int) =
      rules.premiumDue contract + (rules.settle contract).signedPnl :=
  (rules.balanced_settle_iff contract terminal).mpr
    (rules.not_saturated_of_moderate contract moderate terminal)

theorem signedPnl_settle_of_idle (idle : rules.KnocksOut contract ∨ rules.EarlyDue contract) :
    (rules.settle contract).signedPnl = 0 := by
  have flat : (rules.settle contract).pnlSign = .flat := by
    by_cases hit : rules.KnocksOut contract
    · rw [rules.settle_of_knocksOut contract hit]
      rfl
    · exact ((rules.settled_settle contract hit).early (idle.resolve_left hit)).2
  rw [Outcome.signedPnl, flat]

theorem premiumDue_of_twoPercent (twoPercent : rules.premiumBasisPoints = 200) :
    rules.premiumDue contract =
      2 * contract.strike.toNat * contract.quantity.toNat / 10000 := by
  have rate : rules.premiumBasisPoints.toNat = 200 := by rw [twoPercent]; rfl
  rw [rules.premiumDue_of_moderate contract (by omega), rate, Nat.mul_assoc 2]
  omega

/-- A contract settled against its premium states the payout less the premium, cut off below only.
Up to fifty times the notional nothing is cut off, and at no greater rate is that so of all
contracts. -/
theorem signedPnl_accounted :
    (∀ contract, (rules.settle contract).Terminal →
      (rules.settle contract).signedPnl = max (-(2 ^ 63 - 1))
        (((rules.settle contract).payout.toNat : Int) - rules.premiumDue contract) ∧
      ((rules.settle contract).pnlSign = .profit → ¬ (rules.settle contract).Saturated)) ∧
    (rules.premiumBasisPoints = 200 → ∀ contract, rules.premiumDue contract =
      2 * contract.strike.toNat * contract.quantity.toNat / 10000) ∧
    ((∀ contract, (rules.settle contract).Terminal → ¬ (rules.settle contract).Saturated) ↔
      rules.premiumBasisPoints.toNat ≤ 500000) ∧
    ((∀ contract, (rules.settle contract).Terminal →
        ((rules.settle contract).payout.toNat : Int) =
          rules.premiumDue contract + (rules.settle contract).signedPnl) ↔
      rules.premiumBasisPoints.toNat ≤ 500000) := by
  refine ⟨?stated, ?twoPercent, rules.saturation_unreachable_iff, ?balanced⟩
  case stated =>
    intro contract terminal
    obtain ⟨account, waits⟩ := settled_of_terminal terminal
    rw [account.payout, account.signedPnl_eq waits, account.profit_iff waits,
      account.saturated_iff waits]
    refine ⟨rfl, ?_⟩
    omega
  case twoPercent =>
    intro rate contract
    exact rules.premiumDue_of_twoPercent contract rate
  case balanced =>
    rw [← rules.saturation_unreachable_iff]
    exact forall_congr' fun contract => imp_congr_right (rules.balanced_settle_iff contract)

end Rate

def exorbitant : SettlementRules := { standard with premiumBasisPoints := 500001 }

theorem standard_call_balances :
    let call : Contract := ⟨.call, 10000, 11000, 100, 0, .european, 0, 2500⟩
    ((standard.settle call).Terminal ∧ (standard.settle call).pnlSign = .profit ∧
      ¬ (standard.settle call).Saturated ∧ standard.premiumDue call = 2 * 10000 * 100 / 10000 ∧
      ((standard.settle call).payout.toNat : Int) =
        standard.premiumDue call + (standard.settle call).signedPnl) ∧
    ((exorbitant.settle widestCall).Terminal ∧
      (exorbitant.settle widestCall).signedPnl = -(2 ^ 63 - 1) ∧
      ¬ ∀ contract, (exorbitant.settle contract).Terminal →
        ¬ (exorbitant.settle contract).Saturated) := by
  intro call
  have terminal : (standard.settle call).Terminal := ⟨by decide, by decide⟩
  have profit : (standard.settle call).pnlSign = .profit := by decide
  obtain ⟨stated, twoPercent, _, balanced⟩ := signedPnl_accounted standard
  obtain ⟨cutOff, _, unreachable, _⟩ := signedPnl_accounted exorbitant
  have widest := exorbitant.terminal_widestCall
  refine ⟨⟨terminal, profit, (stated call terminal).2 profit, twoPercent rfl call, ?_⟩,
    widest, ?_, ?_⟩
  · exact balanced.mpr (by decide) call terminal
  · exact (cutOff widestCall widest).1.trans (by decide)
  · exact mt unreachable.mp (by decide)

end SettlementRules

end OptionClearing
