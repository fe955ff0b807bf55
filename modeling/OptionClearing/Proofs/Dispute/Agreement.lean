import Mathlib.Logic.ExistsUnique
import OptionClearing.Proofs.Dispute.Mismatch
import OptionClearing.Proofs.ForeignCall

/-!
A claim is agreed to exactly when it is what an honest run leaves behind. The run over a buffer, the
verifier and the foreign call each decode, compute and encode on their own; all three are compared
here by the answer's bytes.
-/

namespace OptionClearing

namespace RunFamily

def width : RunFamily → Nat
  | settlement => Record.width Outcome
  | purchase => Record.width PurchaseRecord

def call : RunFamily → Region → Region → ForeignCall.Answer × Region
  | settlement => ForeignCall.settle
  | purchase => ForeignCall.validatePurchase

end RunFamily

namespace Verifier

def runOutput (verifier : Verifier) (input buffer : Bytes) : RunFamily → Bytes
  | .settlement =>
    (Host.settle (BufferHost.start input buffer) verifier.rules verifier.validator.order).2.output
  | .purchase => (Host.purchase (BufferHost.start input buffer) verifier.validator).2.output

def Rejects (verifier : Verifier) (input : Bytes) : RunFamily → Prop
  | .settlement => ∃ fault,
    (Record.decode verifier.validator.order input : Except RecordFault Contract) = .error fault
  | .purchase => ∃ reason, verifier.validator.validateBytes input = .error reason

theorem verify_verdict_eq_agree_iff (verifier : Verifier) (family : RunFamily)
    (input claimed : Bytes) :
    (verifier.verify family input claimed).verdict = .agree ↔
      claimed = verifier.honest family input := by
  cases family <;> exact DisputeReport.compare_verdict_eq_agree_iff _ claimed

theorem runOutput_eq_honest (verifier : Verifier) (family : RunFamily) (input buffer : Bytes)
    (room : family.width ≤ buffer.length) :
    verifier.runOutput input buffer family = verifier.honest family input := by
  cases family with
  | settlement =>
      rw [runOutput, Host.settle_eq_finish, BufferHost.output_finish]
      · exact (verifier.honestSettlement_eq_answerBytes input).symm
      · exact Nat.le_trans (Record.length_answerBytes_le _ _) room
  | purchase =>
      rw [runOutput, Host.purchase_eq_finish, BufferHost.output_finish]
      · exact (verifier.honestPurchase_eq_answerBytes input).symm
      · exact Nat.le_trans (Record.length_answerBytes_le _ _) room

private theorem encode_ne_nil {α : Type} [Record α] (wide : 0 < Record.width α)
    (order : ByteOrder) (record : α) : Record.encode order record ≠ [] := by
  intro empty
  have width := Record.length_encode order record
  rw [empty, List.length_nil] at width
  omega

theorem honest_eq_nil_iff (verifier : Verifier) (family : RunFamily) (input : Bytes) :
    verifier.honest family input = [] ↔ verifier.Rejects input family := by
  cases family with
  | settlement =>
      simp only [honest, honestSettlement, Rejects]
      cases (Record.decode verifier.validator.order input : Except RecordFault Contract) with
      | error fault => simp
      | ok contract =>
          have full := encode_ne_nil (by decide) verifier.validator.order (verifier.rules.settle contract)
          simp [full]
  | purchase =>
      simp only [honest, honestPurchase, Rejects]
      cases verifier.validator.validateBytes input with
      | error reason => simp
      | ok record =>
          have full := encode_ne_nil (by decide) verifier.validator.order record
          simp [full]

end Verifier

namespace ForeignCall

/-- What a caller takes from a call: the bytes of its own memory that a positive integer counts, or
no bytes at all for a negative one. -/
def Delivers (result : Answer × Region) (delivered : Bytes) : Prop :=
  ∃ content, result.2 = .memory content ∧
    ((0 < returnCode result.1 ∧ delivered = content.take (returnCode result.1).toNat) ∨
      (returnCode result.1 < 0 ∧ delivered = []))

theorem delivers_unique {result : Answer × Region} {first second : Bytes}
    (left : Delivers result first) (right : Delivers result second) : first = second := by
  rcases left with ⟨content, kept, rest⟩
  rcases right with ⟨other, same, tail⟩
  have equal : content = other := Region.memory.inj (kept.symm.trans same)
  subst equal
  rcases rest with ⟨positive, counted⟩ | ⟨negative, none⟩
  · rcases tail with ⟨_, others⟩ | ⟨below, _⟩
    · exact counted.trans others.symm
    · omega
  · rcases tail with ⟨above, _⟩ | ⟨_, nothing⟩
    · omega
    · exact none.trans nothing.symm

theorem call_delivers {α : Type} [Record α] (wide : 0 < Record.width α) (order : ByteOrder)
    (answer : Bytes → Except RunFailure α) (run : BufferHost → Except RunFailure α × BufferHost)
    (finishes : ∀ host, run host =
      Host.finish host (Record.answerBytes order (answer host.input)) (answer host.input))
    (input buffer : Bytes) (room : Record.width α ≤ buffer.length) :
    Delivers (call run (.memory input) (.memory buffer))
      (Record.answerBytes order (answer input)) := by
  have inputValid : (Region.memory input).bytes? = some input := rfl
  have outputValid : (Region.memory buffer).bytes? = some buffer := rfl
  rw [call_eq order answer run finishes inputValid outputValid]
  cases answer input with
  | error failure => exact ⟨buffer, rfl, .inr ⟨status_code_neg failure.status, rfl⟩⟩
  | ok record =>
      have front := Record.length_encode order record
      simp only [if_neg (Nat.not_lt.mpr room)]
      refine ⟨Record.encode order record ++ buffer.drop (Record.width α), rfl, .inl ⟨?_, ?_⟩⟩
      · change (0 : Int) < (Record.width α : Int)
        omega
      · exact (List.take_left' front).symm

theorem delivers_honest (family : RunFamily) (input buffer : Bytes)
    (room : family.width ≤ buffer.length) :
    Delivers (family.call (.memory input) (.memory buffer))
      (Verifier.standard.honest family input) := by
  cases family with
  | settlement =>
      have same := Verifier.standard.honestSettlement_eq_answerBytes input
      rw [Verifier.honest, same]
      exact call_delivers (by decide) .little (SettlementRules.answer .standard .little) _
        (fun host => Host.settle_eq_finish host .standard .little) input buffer room
  | purchase =>
      have same := Verifier.standard.honestPurchase_eq_answerBytes input
      rw [Verifier.honest, same]
      exact call_delivers (by decide) .little (Validator.answer .standard) _
        (fun host => Host.purchase_eq_finish host .standard) input buffer room

end ForeignCall

namespace Verifier

/-- A verifier agrees to one claim on each input, the output of an honest run over any buffer that
is long enough. Under the standard rules that claim is also what the caller of a foreign call takes
away. -/
theorem agrees_iff_honest_run (verifier : Verifier) (family : RunFamily) (input : Bytes) :
    (∀ claimed buffer, family.width ≤ buffer.length →
      ((verifier.verify family input claimed).verdict = .agree ↔
        claimed = verifier.runOutput input buffer family)) ∧
    (∃! claimed, (verifier.verify family input claimed).verdict = .agree) ∧
    ((verifier.verify family input []).verdict = .agree ↔ verifier.Rejects input family) ∧
    (∀ claimed buffer, family.width ≤ buffer.length →
      ((standard.verify family input claimed).verdict = .agree ↔
        ForeignCall.Delivers (family.call (.memory input) (.memory buffer)) claimed)) := by
  refine ⟨?_, ?_, ?_, ?_⟩
  · intro claimed buffer room
    rw [verifier.runOutput_eq_honest family input buffer room]
    exact verifier.verify_verdict_eq_agree_iff family input claimed
  · refine ⟨verifier.honest family input, ?_, ?_⟩
    · exact (verifier.verify_verdict_eq_agree_iff family input _).mpr rfl
    · intro claimed agreed
      exact (verifier.verify_verdict_eq_agree_iff family input claimed).mp agreed
  · rw [verify_verdict_eq_agree_iff, eq_comm]
    exact verifier.honest_eq_nil_iff family input
  · intro claimed buffer room
    have delivered := ForeignCall.delivers_honest family input buffer room
    rw [verify_verdict_eq_agree_iff]
    constructor
    · intro same
      rw [same]
      exact delivered
    · intro taken
      exact ForeignCall.delivers_unique taken delivered

theorem call_in_the_money_agreed :
    let input := Record.encode .little
      (⟨.call, 10000, 11000, 100, 0, .european, 0, 2500⟩ : Contract)
    let claimed := Record.encode .little (⟨1000, .inTheMoney, false, 800, .profit, false⟩ : Outcome)
    RunFamily.settlement.width ≤ (List.replicate 40 0xff : Bytes).length ∧
      (standard.verify .settlement input claimed).verdict = .agree ∧
      ForeignCall.Delivers
        (RunFamily.settlement.call (.memory input) (.memory (List.replicate 40 0xff))) claimed := by
  intro input claimed
  have room : RunFamily.settlement.width ≤ (List.replicate 40 0xff : Bytes).length := by decide
  have agreement := standard.agrees_iff_honest_run .settlement input
  have agreed : (standard.verify .settlement input claimed).verdict = .agree :=
    (agreement.1 claimed (List.replicate 40 0xff) room).mpr (by decide +kernel)
  exact ⟨room, agreed, (agreement.2.2.2 claimed (List.replicate 40 0xff) room).mp agreed⟩

end Verifier

end OptionClearing
