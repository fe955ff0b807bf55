import OptionClearing.Proofs.Dispute.Agreement
import OptionClearing.Proofs.Purchase.Validation
import OptionClearing.Proofs.Record.RoundTrip
import OptionClearing.Proofs.Settlement.Coherence

/-!
What a claim is worth once it is agreed to. Every string of the right length with known codes reads
as a record, so a claim can say anything; agreement rules out all that no honest run would say.
-/

namespace OptionClearing

namespace Verifier

/-- The input is a contract that could have this outcome under some rules, as far as can be told
from the outcome alone and from whether it was exercised early. -/
def SettlementStands (verifier : Verifier) (input : Bytes) (outcome : Outcome) : Prop :=
  ∃ contract : Contract, Record.decode verifier.validator.order input = .ok contract ∧
    outcome.Coherent ∧ (outcome.earlyExercised = true → contract.Exercisable)

def PurchaseStands (verifier : Verifier) (input : Bytes) (record : PurchaseRecord) : Prop :=
  input.length = 88 ∧ ∃ request : PurchaseRequest,
    Record.decode verifier.validator.order input = .ok request ∧
      verifier.validator.Backs request input record

theorem answered_of_agreed {α : Type} [Record α] (order : ByteOrder)
    (answer : Except RunFailure α) (claimed : Bytes) (claims : claimed ≠ [])
    (agreed : (DisputeReport.compare (Record.answerBytes order answer) claimed).verdict = .agree) :
    ∃ record, answer = .ok record ∧ Record.decode order claimed = .ok record := by
  have honest := (DisputeReport.compare_verdict_eq_agree_iff _ claimed).mp agreed
  cases answer with
  | error failure => exact absurd honest claims
  | ok record => exact ⟨record, rfl, (Record.decode_eq_ok_iff order claimed record).mpr honest⟩

/-- The empty claim reads as no record, and no claim reads as two. -/
theorem holds_of_decode {α : Type} [Record α] (wide : 0 < Record.width α) (order : ByteOrder)
    (claimed : Bytes) (record : α) (read : Record.decode order claimed = .ok record)
    (holds : α → Prop)
    (found : claimed ≠ [] → ∃ other, Record.decode order claimed = .ok other ∧ holds other) :
    holds record := by
  have whole := Record.length_of_decode order claimed record read
  rw [← whole] at wide
  obtain ⟨other, same, held⟩ := found (List.ne_nil_of_length_pos wide)
  rw [read] at same
  cases same
  exact held

variable (verifier : Verifier)

theorem settlementStands_of_agreed (input claimed : Bytes) (claims : claimed ≠ [])
    (agreed : (verifier.verifySettlement input claimed).verdict = .agree) :
    ∃ outcome, Record.decode verifier.validator.order claimed = .ok outcome ∧
      verifier.SettlementStands input outcome := by
  rw [verifySettlement, honestSettlement_eq_answerBytes] at agreed
  obtain ⟨outcome, deserved, recorded⟩ := answered_of_agreed _ _ claimed claims agreed
  obtain ⟨contract, read, rfl⟩ := (verifier.rules.answer_eq_ok_iff _ input outcome).mp deserved
  refine ⟨verifier.rules.settle contract, recorded, contract, read, ?_, ?_⟩
  · exact verifier.rules.coherent_settle contract
  · exact verifier.rules.exercisable_of_settle contract

theorem purchaseStands_of_agreed (input claimed : Bytes) (claims : claimed ≠ [])
    (agreed : (verifier.verifyPurchase input claimed).verdict = .agree) :
    ∃ record, Record.decode verifier.validator.order claimed = .ok record ∧
      verifier.PurchaseStands input record := by
  rw [verifyPurchase, honestPurchase_eq_answerBytes] at agreed
  obtain ⟨record, deserved, recorded⟩ := answered_of_agreed _ _ claimed claims agreed
  have accepted := (verifier.validator.answer_eq_ok_iff input record).mp deserved
  obtain ⟨request, read, backed⟩ := verifier.validator.backs_of_validateBytes input record accepted
  have whole := Record.length_of_decode verifier.validator.order input request read
  exact ⟨record, recorded, whole, request, read, backed⟩

theorem settlementStands_of_decode (input claimed : Bytes) (outcome : Outcome)
    (read : Record.decode verifier.validator.order claimed = .ok outcome)
    (agreed : (verifier.verifySettlement input claimed).verdict = .agree) :
    verifier.SettlementStands input outcome := by
  apply holds_of_decode (by decide) _ claimed outcome read (verifier.SettlementStands input)
  intro claims
  exact verifier.settlementStands_of_agreed input claimed claims agreed

theorem purchaseStands_of_decode (input claimed : Bytes) (record : PurchaseRecord)
    (read : Record.decode verifier.validator.order claimed = .ok record)
    (agreed : (verifier.verifyPurchase input claimed).verdict = .agree) :
    verifier.PurchaseStands input record := by
  apply holds_of_decode (by decide) _ claimed record read (verifier.PurchaseStands input)
  intro claims
  exact verifier.purchaseStands_of_agreed input claimed claims agreed

/-- A claim that is agreed to reads as a record that stands for its input, so a claim that reads as
anything else is agreed to on no input. -/
theorem agreed_claim_stands :
    (∀ input claimed, claimed ≠ [] →
      (verifier.verifySettlement input claimed).verdict = .agree →
        ∃ outcome, Record.decode verifier.validator.order claimed = .ok outcome ∧
          verifier.SettlementStands input outcome) ∧
    (∀ input claimed, claimed ≠ [] →
      (verifier.verifyPurchase input claimed).verdict = .agree →
        ∃ record, Record.decode verifier.validator.order claimed = .ok record ∧
          verifier.PurchaseStands input record) ∧
    (∀ claimed outcome, Record.decode verifier.validator.order claimed = .ok outcome →
      (¬ outcome.Coherent →
        ∀ input, (verifier.verifySettlement input claimed).verdict ≠ .agree) ∧
      ∀ input, ¬ verifier.SettlementStands input outcome →
        (verifier.verifySettlement input claimed).verdict ≠ .agree) ∧
    (∀ claimed record, Record.decode verifier.validator.order claimed = .ok record →
      ∀ input, ¬ verifier.PurchaseStands input record →
        (verifier.verifyPurchase input claimed).verdict ≠ .agree) := by
  refine ⟨verifier.settlementStands_of_agreed, verifier.purchaseStands_of_agreed, ?_, ?_⟩
  · intro claimed outcome read
    constructor
    · intro incoherent input agreed
      obtain ⟨_, _, coherent, _⟩ :=
        verifier.settlementStands_of_decode input claimed outcome read agreed
      exact incoherent coherent
    · intro input falls agreed
      exact falls (verifier.settlementStands_of_decode input claimed outcome read agreed)
  · intro claimed record read input falls agreed
    exact falls (verifier.purchaseStands_of_decode input claimed record read agreed)

theorem early_put_stands :
    let put := Record.encode .little SettlementRules.deepPut
    let exercised := Record.encode .little (⟨2000, .inTheMoney, false, 0, .flat, true⟩ : Outcome)
    let call := Record.encode .little Validator.coveredCall
    let bought := Record.encode .little Validator.coveredRecord
    let loss : Outcome := ⟨0, .atTheMoney, false, 500, .flat, false⟩
    (exercised ≠ [] ∧ (standard.verifySettlement put exercised).verdict = .agree ∧
      ∃ outcome, Record.decode .little exercised = .ok outcome ∧
        standard.SettlementStands put outcome) ∧
    (bought ≠ [] ∧ (standard.verifyPurchase call bought).verdict = .agree ∧
      ∃ record, Record.decode .little bought = .ok record ∧ standard.PurchaseStands call record) ∧
    (¬ loss.Coherent ∧
      ∀ input, (standard.verifySettlement input (Record.encode .little loss)).verdict ≠ .agree) ∧
    (¬ standard.PurchaseStands put Validator.coveredRecord ∧
      (standard.verifyPurchase put bought).verdict ≠ .agree) := by
  intro put exercised call bought loss
  obtain ⟨settlement, purchase, refused, misplaced⟩ := agreed_claim_stands standard
  have exercisedAgreed : (standard.verifySettlement put exercised).verdict = .agree := by
    decide +kernel
  have boughtAgreed : (standard.verifyPurchase call bought).verdict = .agree := by
    decide +kernel
  have incoherent : ¬ loss.Coherent := by
    intro coherent
    exact absurd (coherent.flat_iff.mp rfl) (by decide)
  have short : ¬ standard.PurchaseStands put Validator.coveredRecord := by
    rintro ⟨whole, _⟩
    rw [Record.length_encode] at whole
    exact absurd whole (by decide)
  refine ⟨⟨by decide, exercisedAgreed, ?_⟩, ⟨by decide, boughtAgreed, ?_⟩,
    ⟨incoherent, ?_⟩, short, ?_⟩
  · exact settlement put exercised (by decide) exercisedAgreed
  · exact purchase call bought (by decide) boughtAgreed
  · exact (refused _ loss (Record.decode_encode _ loss)).1 incoherent
  · have read := Record.decode_encode .little Validator.coveredRecord
    exact misplaced bought Validator.coveredRecord read put short

end Verifier

end OptionClearing
