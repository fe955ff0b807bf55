import OptionClearing.Proofs.Dispute.Agreement
import OptionClearing.Proofs.Record.Bytewise
import OptionClearing.Proofs.Settlement.Coherence

/-!
Disputes between rules that differ in their flags alone: the flags decide the branch in which a
contract is settled, and nothing else.
-/

namespace OptionClearing

inductive SettlementBranch
  | knockOut
  | earlyExercise
  | terminal
  deriving DecidableEq, Repr

namespace SettlementRules

/-- Rules that charge, exercise and classify by the same figures, whatever their flags are. -/
structure SameFigures (first second : SettlementRules) : Prop where
  atmBuffer : first.atmBuffer = second.atmBuffer
  earlyExercisePercent : first.earlyExercisePercent = second.earlyExercisePercent
  premiumBasisPoints : first.premiumBasisPoints = second.premiumBasisPoints

def branch (rules : SettlementRules) (contract : Contract) : SettlementBranch :=
  if rules.KnocksOut contract then .knockOut
  else if rules.EarlyDue contract then .earlyExercise
  else .terminal

def outcomeIn (rules : SettlementRules) (contract : Contract) : SettlementBranch → Outcome
  | .knockOut => .knockedOut
  | .earlyExercise =>
    ⟨contract.intrinsicValue, rules.contractMoneyness contract, false, 0, .flat, true⟩
  | .terminal =>
    ⟨contract.intrinsicValue, rules.contractMoneyness contract, false,
      (profitLoss contract.intrinsicValue (rules.premium contract)).1,
      (profitLoss contract.intrinsicValue (rules.premium contract)).2, false⟩

section Branch

variable (rules : SettlementRules) (contract : Contract)

theorem settle_eq_outcomeIn :
    rules.settle contract = rules.outcomeIn contract (rules.branch contract) := by
  rw [branch]
  split
  · next hit => exact rules.settle_of_knocksOut contract hit
  · next standing =>
      split
      · next due => exact rules.settle_of_earlyDue contract standing due
      · next waits => exact rules.settle_of_terminal contract standing waits

theorem barrierHit_outcomeIn (branch : SettlementBranch) :
    (rules.outcomeIn contract branch).barrierHit = decide (branch = .knockOut) := by
  cases branch <;> rfl

theorem earlyExercised_outcomeIn (branch : SettlementBranch) :
    (rules.outcomeIn contract branch).earlyExercised = decide (branch = .earlyExercise) := by
  cases branch <;> rfl

theorem outcomeIn_injective : Function.Injective (rules.outcomeIn contract) := by
  intro first second same
  have barrier := congrArg Outcome.barrierHit same
  have early := congrArg Outcome.earlyExercised same
  rw [barrierHit_outcomeIn, barrierHit_outcomeIn, decide_eq_decide] at barrier
  rw [earlyExercised_outcomeIn, earlyExercised_outcomeIn, decide_eq_decide] at early
  cases first <;> cases second <;> simp_all

theorem outcomeIn_of_standing (branch : SettlementBranch) (standing : branch ≠ .knockOut) :
    (rules.outcomeIn contract branch).payout = contract.intrinsicValue ∧
      (rules.outcomeIn contract branch).moneyness = rules.contractMoneyness contract ∧
      (rules.outcomeIn contract branch).barrierHit = false := by
  cases branch with
  | knockOut => contradiction
  | earlyExercise => exact ⟨rfl, rfl, rfl⟩
  | terminal => exact ⟨rfl, rfl, rfl⟩

end Branch

section Pair

variable {first second : SettlementRules} (contract : Contract)

theorem SameFigures.outcomeIn_eq (alike : first.SameFigures second) :
    first.outcomeIn contract = second.outcomeIn contract := by
  have moneyness : first.contractMoneyness contract = second.contractMoneyness contract := by
    simp only [contractMoneyness, SettlementRules.moneyness, alike.atmBuffer]
  have premium : first.premium contract = second.premium contract := by
    simp only [SettlementRules.premium, alike.premiumBasisPoints]
  funext branch
  cases branch with
  | knockOut => rfl
  | earlyExercise => simp only [outcomeIn, moneyness]
  | terminal => simp only [outcomeIn, moneyness, premium]

theorem SameFigures.settle_eq_iff (alike : first.SameFigures second) :
    first.settle contract = second.settle contract ↔
      first.branch contract = second.branch contract := by
  rw [settle_eq_outcomeIn, settle_eq_outcomeIn, ← alike.outcomeIn_eq contract]
  exact (first.outcomeIn_injective contract).eq_iff

theorem take_encode_settle_ne (order : ByteOrder)
    (one : ¬ (first.branch contract = .knockOut ↔ second.branch contract = .knockOut)) :
    (Record.encode order (second.settle contract)).take 16 ≠
      (Record.encode order (first.settle contract)).take 16 := by
  intro common
  have flags := ((Outcome.take_encode_eq_iff order _ _).mp common).2.2
  rw [settle_eq_outcomeIn, settle_eq_outcomeIn, barrierHit_outcomeIn, barrierHit_outcomeIn,
    decide_eq_decide] at flags
  exact one flags.symm

theorem SameFigures.take_encode_settle (alike : first.SameFigures second) (order : ByteOrder)
    (standing : first.branch contract ≠ .knockOut)
    (otherStanding : second.branch contract ≠ .knockOut) :
    (Record.encode order (second.settle contract)).take 16 =
      (Record.encode order (first.settle contract)).take 16 := by
  rw [Outcome.take_encode_eq_iff, settle_eq_outcomeIn, settle_eq_outcomeIn,
    ← alike.outcomeIn_eq contract]
  obtain ⟨payout, moneyness, barrierHit⟩ := first.outcomeIn_of_standing contract _ standing
  obtain ⟨otherPayout, otherMoneyness, otherBarrierHit⟩ :=
    first.outcomeIn_of_standing contract _ otherStanding
  exact ⟨otherPayout.trans payout.symm, otherMoneyness.trans moneyness.symm,
    otherBarrierHit.trans barrierHit.symm⟩

end Pair

end SettlementRules

namespace Verifier

variable (verifier : Verifier)

def withRules (rules : SettlementRules) : Verifier := { verifier with rules }

theorem honestSettlement_of_decode (input : Bytes) (contract : Contract)
    (read : Record.decode verifier.validator.order input = .ok contract) :
    verifier.honestSettlement input =
      Record.encode verifier.validator.order (verifier.rules.settle contract) := by
  rw [honestSettlement, read]

/-- Rules that share their figures agree on a contract when it settles in one branch under both. A
barrier that they part over shows in the first half of the record, an early exercise in the second
half alone. -/
theorem flags_show_in_outcome (other : SettlementRules) (alike : verifier.rules.SameFigures other)
    (input : Bytes) (contract : Contract)
    (read : Record.decode verifier.validator.order input = .ok contract) :
    let honest := verifier.honestSettlement input
    let claimed := (verifier.withRules other).honestSettlement input
    let report := verifier.verifySettlement input claimed
    (report.verdict = .agree ↔ verifier.rules.branch contract = other.branch contract) ∧
    (¬ (verifier.rules.branch contract = .knockOut ↔ other.branch contract = .knockOut) →
      ∃ position, position < 16 ∧ report.verdict = .diverge position) ∧
    (verifier.rules.branch contract ≠ .knockOut → other.branch contract ≠ .knockOut →
      ¬ (verifier.rules.branch contract = .earlyExercise ↔
        other.branch contract = .earlyExercise) →
      claimed.take 16 = honest.take 16 ∧
        ∃ position, 16 ≤ position ∧ report.verdict = .diverge position) := by
  intro honest claimed report
  have written : honest = Record.encode verifier.validator.order (verifier.rules.settle contract) :=
    verifier.honestSettlement_of_decode input contract read
  have rewritten : claimed = Record.encode verifier.validator.order (other.settle contract) :=
    (verifier.withRules other).honestSettlement_of_decode input contract read
  have same_iff : claimed = honest ↔ verifier.rules.branch contract = other.branch contract := by
    rw [written, rewritten, (Record.encode_injective _).eq_iff, eq_comm]
    exact alike.settle_eq_iff contract
  refine ⟨?agree, ?knockOut, ?early⟩
  case agree =>
    exact (DisputeReport.compare_verdict_eq_agree_iff honest claimed).trans same_iff
  case knockOut =>
    intro one
    have differ := SettlementRules.take_encode_settle_ne contract verifier.validator.order one
    rw [← written, ← rewritten] at differ
    exact DisputeReport.compare_diverges_within 16 differ.symm
  case early =>
    -- only the second half of the record can tell the two apart, and it does
    intro standing otherStanding one
    have common :=
      alike.take_encode_settle contract verifier.validator.order standing otherStanding
    rw [← written, ← rewritten] at common
    refine ⟨common, DisputeReport.compare_diverges_beyond 16 common.symm ?_⟩
    intro same
    rw [same_iff.mp same] at one
    exact one Iff.rfl

/-- A put that reaches its barrier, which vanilla rules do not look at. -/
def knockedPut : Contract := { SettlementRules.deepPut with barrier := 10000 }

theorem vanilla_claims_refused :
    let report (contract : Contract) :=
      standard.verifySettlement (Record.encode .little contract)
        ((standard.withRules .vanilla).honestSettlement (Record.encode .little contract))
    SettlementRules.standard.SameFigures .vanilla ∧
      (∃ position, position < 16 ∧ (report knockedPut).verdict = .diverge position) ∧
      (∃ position, 16 ≤ position ∧
        (report SettlementRules.deepPut).verdict = .diverge position) ∧
      (report { SettlementRules.deepPut with exercise := .european }).verdict = .agree := by
  intro report
  have alike : SettlementRules.standard.SameFigures .vanilla := ⟨rfl, rfl, rfl⟩
  have told (contract : Contract) := flags_show_in_outcome standard .vanilla alike
    (Record.encode .little contract) contract (Record.decode_encode .little contract)
  refine ⟨alike, ?_, ?_, ?_⟩
  · exact (told knockedPut).2.1 (by decide)
  · exact ((told SettlementRules.deepPut).2.2 (by decide) (by decide) (by decide)).2
  · exact (told { SettlementRules.deepPut with exercise := .european }).1.mpr (by decide)

end Verifier

end OptionClearing
