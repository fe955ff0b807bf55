import OptionClearing.Proofs.Dispute.Guarantee
import OptionClearing.Proofs.Record.Bytewise

/-!
Settlement records read in the order they were not written in. A choice whose code is not zero shows
the mistake, since its word becomes too large for any code.
-/

namespace OptionClearing

namespace Contract

/-- Both choices have the code zero. -/
structure EuropeanCall (contract : Contract) : Prop where
  kind : contract.kind = .call
  exercise : contract.exercise = .european

theorem code_kind_lt (contract : Contract) : (Coded.code contract.kind).toNat < 256 := by
  cases contract.kind <;> decide

theorem code_exercise_lt (contract : Contract) : (Coded.code contract.exercise).toNat < 256 := by
  cases contract.exercise <;> decide

theorem europeanCall_of_codes (contract : Contract)
    (kind : (Coded.code contract.kind).toNat = 0)
    (exercise : (Coded.code contract.exercise).toNat = 0) : contract.EuropeanCall where
  kind := Coded.code_injective (UInt32.toNat_inj.mp kind)
  exercise := Coded.code_injective (UInt32.toNat_inj.mp exercise)

theorem europeanCall_of_both_orders (order : ByteOrder) (bytes : Bytes) (first second : Contract)
    (read : Record.decode order bytes = .ok first)
    (reread : Record.decode order.other bytes = .ok second) :
    first.EuropeanCall ∧ second.EuropeanCall := by
  -- the bytes are both contracts' encodings, and only zero is the same word from either end
  have written := Record.encode_decode order bytes first read
  have rewritten := Record.encode_decode order.other bytes second reread
  have same : Record.encode order first = Record.encode order.other second :=
    written.trans rewritten.symm
  rw [Record.encode_eq, Record.encode_eq] at same
  simp only [Record.layout, Layout.encode_cons_eq_iff] at same
  obtain ⟨kind, _, _, _, _, exercise, _⟩ := same
  have kinds := order.eq_zero_of_encode_eq _ _ first.code_kind_lt second.code_kind_lt kind
  have styles :=
    order.eq_zero_of_encode_eq _ _ first.code_exercise_lt second.code_exercise_lt exercise
  constructor
  · exact first.europeanCall_of_codes kinds.1 styles.1
  · exact second.europeanCall_of_codes kinds.2 styles.2

end Contract

namespace Moneyness

theorem code_le (moneyness : Moneyness) : (Coded.code moneyness).toNat ≤ 3 := by
  cases moneyness <;> decide

theorem code_pos (moneyness : Moneyness) (decided : moneyness ≠ .notApplicable) :
    0 < (Coded.code moneyness).toNat := by
  apply Nat.pos_of_ne_zero
  intro zero
  exact decided (Coded.code_injective (UInt32.toNat_inj.mp zero))

end Moneyness

theorem Outcome.decode_other_encode (order : ByteOrder) (outcome : Outcome)
    (decided : outcome.moneyness ≠ .notApplicable) :
    ∃ word : UInt32, word.toNat = (Coded.code outcome.moneyness).toNat * 2 ^ 24 ∧
      (Record.decode order.other (Record.encode order outcome) : Except RecordFault Outcome) =
        .error (.invalidField "moneyness" word) := by
  have bound := outcome.moneyness.code_le
  have positive := outcome.moneyness.code_pos decided
  have misread := outcome.wordAt_encode_moneyness order order.other
  rw [order.other_decode_encode_of_small _ (by omega)] at misread
  have word : ((Record.encode order outcome).wordAt order.other 8).toNat =
      (Coded.code outcome.moneyness).toNat * 2 ^ 24 := by
    rw [misread, UInt32.toNat_ofNat']
    omega
  refine ⟨_, word, decode_of_unknown_moneyness _ _ (Record.length_encode order outcome) ?_⟩
  rw [Coded.ofCode?_eq_none_iff]
  intro choice same
  have small := choice.code_le
  rw [same] at word
  omega

namespace SettlementRules

theorem decode_other_encode_settle (order : ByteOrder) (rules : SettlementRules)
    (contract : Contract) :
    ∃ word : UInt32,
      word.toNat = (Coded.code (rules.settle contract).moneyness).toNat * 2 ^ 24 ∧
      (Record.decode order.other (Record.encode order (rules.settle contract)) :
        Except RecordFault Outcome) = .error (.invalidField "moneyness" word) :=
  Outcome.decode_other_encode order _ (rules.coherent_settle contract).decided

end SettlementRules

namespace Verifier

theorem foreign_outcome_refused (verifier : Verifier) (input : Bytes) (rules : SettlementRules)
    (contract : Contract) :
    (verifier.verifySettlement input
      (Record.encode verifier.validator.order.other (rules.settle contract))).verdict ≠ .agree := by
  intro agreed
  have claims :
      Record.encode verifier.validator.order.other (rules.settle contract) ≠ [] := by
    apply List.ne_nil_of_length_pos
    rw [Record.length_encode]
    decide
  -- an agreed claim reads as an outcome in the verifier's own order, and this one does not
  obtain ⟨outcome, read, _⟩ := verifier.settlementStands_of_agreed input _ claims agreed
  obtain ⟨word, _, refused⟩ :=
    rules.decode_other_encode_settle verifier.validator.order.other contract
  rw [ByteOrder.other_other, read] at refused
  cases refused

/-- A contract that reads in both orders is a European call in both, an outcome is refused in the
other order for its moneyness, and no verifier agrees to an outcome in an order not its own. -/
theorem orders_never_confused :
    (∀ (order : ByteOrder) (bytes : Bytes) (first second : Contract),
      Record.decode order bytes = .ok first → Record.decode order.other bytes = .ok second →
        first.EuropeanCall ∧ second.EuropeanCall) ∧
    (∀ (order : ByteOrder) (rules : SettlementRules) (contract : Contract), ∃ word : UInt32,
      word.toNat = (Coded.code (rules.settle contract).moneyness).toNat * 2 ^ 24 ∧
      (Record.decode order.other (Record.encode order (rules.settle contract)) :
        Except RecordFault Outcome) = .error (.invalidField "moneyness" word)) ∧
    (∀ (verifier : Verifier) (input : Bytes) (rules : SettlementRules) (contract : Contract),
      (verifier.verifySettlement input
        (Record.encode verifier.validator.order.other (rules.settle contract))).verdict ≠
          .agree) :=
  ⟨Contract.europeanCall_of_both_orders, SettlementRules.decode_other_encode_settle,
    foreign_outcome_refused⟩

def europeanCall : Contract := ⟨.call, 10000, 11000, 100, 0, .european, 0, 2500⟩

/-- The same bytes in the other order. -/
def misreadCall : Contract := ⟨.call, 0x10270000, 0xf82a0000, 0x64000000, 0, .european, 0, 0xc4090000⟩

theorem misread_call_and_put :
    let bytes := Record.encode .little europeanCall
    let outcome := SettlementRules.standard.settle SettlementRules.deepPut
    (Record.decode .little bytes = .ok europeanCall ∧ Record.decode .big bytes = .ok misreadCall ∧
      europeanCall.EuropeanCall ∧ misreadCall.EuropeanCall) ∧
    (∃ word : UInt32, word.toNat = 2 ^ 24 ∧
      (Record.decode .big (Record.encode .little outcome) : Except RecordFault Outcome) =
        .error (.invalidField "moneyness" word)) ∧
    (standard.verifySettlement (Record.encode .little SettlementRules.deepPut)
      (Record.encode .big outcome)).verdict ≠ .agree := by
  intro bytes outcome
  obtain ⟨contracts, outcomes, claims⟩ := orders_never_confused
  have read : Record.decode .little bytes = .ok europeanCall :=
    Record.decode_encode .little europeanCall
  have reread : Record.decode .big bytes = .ok misreadCall := by
    rw [Record.decode_eq_ok_iff]
    decide +kernel
  exact ⟨⟨read, reread, contracts .little bytes _ _ read reread⟩,
    outcomes .little .standard SettlementRules.deepPut,
    claims standard _ .standard SettlementRules.deepPut⟩

end Verifier

end OptionClearing
