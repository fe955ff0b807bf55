import OptionClearing.Proofs.Checksum.Separation
import OptionClearing.Proofs.Dispute.Agreement
import OptionClearing.Proofs.Purchase.Validation
import OptionClearing.Proofs.Record.Bytewise

/-!
Records passed off as a neighbouring request's. A small change to a request shows in the first word
of its FNV checksum.
-/

namespace OptionClearing

namespace Bytes

/-- Different strings of one length, with no difference but in one byte or in two side by side. -/
def Neighbours (first second : Bytes) : Prop :=
  first.length = second.length ∧ first ≠ second ∧
    ∃ position, ∀ index, index ≠ position → index ≠ position + 1 →
      first[index]? = second[index]?

theorem Neighbours.of_forall_lt {first second : Bytes} (width : first.length = second.length)
    (differ : first ≠ second) (position : Nat)
    (elsewhere : ∀ index < first.length, index ≠ position → index ≠ position + 1 →
      first[index]? = second[index]?) : Neighbours first second := by
  refine ⟨width, differ, position, ?_⟩
  intro index before after
  by_cases within : index < first.length
  · exact elsewhere index within before after
  · rw [List.getElem?_eq_none (by omega), List.getElem?_eq_none (by omega)]

theorem take_append_window (bytes : Bytes) (position : Nat) :
    bytes.take position ++ (bytes.drop position).take 2 ++ bytes.drop (position + 2) = bytes := by
  rw [List.append_assoc, ← List.drop_drop, List.take_append_drop, List.take_append_drop]

theorem Neighbours.window {first second : Bytes} (neighbours : Neighbours first second) :
    ∃ front left right back : Bytes, left.length = right.length ∧ left.length ≤ 2 ∧
      left ≠ right ∧ first = front ++ left ++ back ∧ second = front ++ right ++ back := by
  rcases neighbours with ⟨width, differ, position, elsewhere⟩
  have front : first.take position = second.take position := by
    apply List.ext_getElem?
    intro index
    by_cases before : index < position
    · rw [List.getElem?_take_of_lt before, List.getElem?_take_of_lt before]
      exact elsewhere index (by omega) (by omega)
    · simp only [List.getElem?_take, if_neg before]
  have back : first.drop (position + 2) = second.drop (position + 2) := by
    apply List.ext_getElem?
    intro index
    rw [List.getElem?_drop, List.getElem?_drop]
    exact elsewhere _ (by omega) (by omega)
  have whole := take_append_window first position
  have other := take_append_window second position
  rw [← front, ← back] at other
  refine ⟨first.take position, (first.drop position).take 2, (second.drop position).take 2,
    first.drop (position + 2), ?_, ?_, ?_, whole.symm, other.symm⟩
  · simp only [List.length_take, List.length_drop, width]
  · exact List.length_take_le _ _
  · intro same
    rw [same] at whole
    exact differ (whole.symm.trans other)

end Bytes

theorem Fnv.hash32_ne_of_neighbours {first second : Bytes}
    (neighbours : Bytes.Neighbours first second) : hash32 first ≠ hash32 second := by
  obtain ⟨front, left, right, back, width, short, differ, rfl, rfl⟩ := neighbours.window
  exact separates_absorb32.foldl_ne_of_window _ front left right back width short differ

theorem PurchaseRecord.take_encode (order : ByteOrder) (record : PurchaseRecord) :
    (Record.encode order record).take 12 =
      record.purchaseId.toList ++ record.checksum.toList.take 4 := by
  have id : record.purchaseId.toList.length = 8 := Vector.length_toList
  have checksum : record.checksum.toList.length = 32 := Vector.length_toList
  rw [encode_eq, List.append_assoc, List.take_append, List.take_append, id, checksum,
    List.take_of_length_le (by omega)]
  simp

namespace Verifier

variable (verifier : Verifier)

theorem honestPurchase_of_accepted (input : Bytes) (record : PurchaseRecord)
    (accepted : verifier.validator.validateBytes input = .ok record) :
    verifier.honestPurchase input = Record.encode verifier.validator.order record := by
  rw [honestPurchase, accepted]

theorem honestPurchase_of_rejected (input : Bytes) (reason : Rejection)
    (rejected : verifier.validator.validateBytes input = .error reason) :
    verifier.honestPurchase input = [] := by
  rw [honestPurchase, rejected]

theorem honestPurchase_take_of_accepted (input : Bytes) (record : PurchaseRecord)
    (accepted : verifier.validator.validateBytes input = .ok record) :
    ∃ id : Bytes, id.length = 8 ∧
      (verifier.honestPurchase input).take 12 =
        id ++ (verifier.validator.hasher input).toList.take 4 := by
  obtain ⟨request, bound, _, _, rfl⟩ :=
    (verifier.validator.validateBytes_eq_ok_iff input record).mp accepted
  refine ⟨request.purchaseId.toList, Vector.length_toList, ?_⟩
  rw [verifier.honestPurchase_of_accepted input _ accepted, PurchaseRecord.take_encode]

theorem honestPurchase_take_ne_nil (input : Bytes) (record : PurchaseRecord)
    (accepted : verifier.validator.validateBytes input = .ok record) :
    (verifier.honestPurchase input).take 12 ≠ [] := by
  obtain ⟨id, width, front⟩ := verifier.honestPurchase_take_of_accepted input record accepted
  rw [front]
  apply List.append_ne_nil_of_left_ne_nil
  apply List.ne_nil_of_length_pos
  omega

theorem honestPurchase_take_ne (fnv : verifier.validator.hasher = Fnv.checksum)
    {first second : Bytes} (neighbours : Bytes.Neighbours first second)
    (accepted : (∃ record, verifier.validator.validateBytes first = .ok record) ∨
      ∃ record, verifier.validator.validateBytes second = .ok record) :
    (verifier.honestPurchase first).take 12 ≠ (verifier.honestPurchase second).take 12 := by
  cases left : verifier.validator.validateBytes first with
  | error reason =>
      obtain ⟨record, right⟩ := accepted.resolve_left (by simp [left])
      rw [verifier.honestPurchase_of_rejected first reason left]
      exact (verifier.honestPurchase_take_ne_nil second record right).symm
  | ok record =>
      cases right : verifier.validator.validateBytes second with
      | error reason =>
          rw [verifier.honestPurchase_of_rejected second reason right]
          exact verifier.honestPurchase_take_ne_nil first record left
      | ok other =>
          obtain ⟨id, width, front⟩ := verifier.honestPurchase_take_of_accepted first record left
          obtain ⟨name, size, head⟩ := verifier.honestPurchase_take_of_accepted second other right
          intro same
          rw [front, head, fnv] at same
          have words := (List.append_inj same (width.trans size.symm)).2
          exact Fnv.hash32_ne_of_neighbours neighbours (Fnv.hash32_eq_of_checksum_take words)

/-- Under the FNV checksum the honest record of a request, or the empty output if it is rejected, is
refused for every neighbouring request, at one of the first twelve bytes; ids and payouts that agree
do not help. -/
theorem neighbour_record_refused (fnv : verifier.validator.hasher = Fnv.checksum)
    (first second : Bytes) (neighbours : Bytes.Neighbours first second)
    (accepted : (∃ record, verifier.validator.validateBytes first = .ok record) ∨
      ∃ record, verifier.validator.validateBytes second = .ok record) :
    ∃ position, position ≤ 11 ∧
      (verifier.verifyPurchase first (verifier.honestPurchase second)).verdict =
        .diverge position := by
  have differ := verifier.honestPurchase_take_ne fnv neighbours accepted
  obtain ⟨position, within, diverges⟩ := DisputeReport.compare_diverges_within 12 differ
  exact ⟨position, Nat.le_of_lt_succ within, diverges⟩

/-- The covered call at another strike, which neither its id nor its payout shows. -/
def restruckCall : PurchaseRequest := { Validator.coveredCall with strike := 10256 }

theorem restruck_call_refused :
    let covered := Record.encode .little Validator.coveredCall
    let restruck := Record.encode .little restruckCall
    restruckCall.purchaseId = Validator.coveredCall.purchaseId ∧
      PurchaseRules.standard.maxPayout restruckCall =
        PurchaseRules.standard.maxPayout Validator.coveredCall ∧
      Bytes.Neighbours covered restruck ∧
      ∃ position, position ≤ 11 ∧
        (standard.verifyPurchase covered (standard.honestPurchase restruck)).verdict =
          .diverge position := by
  intro covered restruck
  have neighbours : Bytes.Neighbours covered restruck := by
    have width : covered.length = 88 := Record.length_encode .little Validator.coveredCall
    have size : restruck.length = 88 := Record.length_encode .little restruckCall
    apply Bytes.Neighbours.of_forall_lt (width.trans size.symm) (by decide +kernel) 56
    rw [width]
    decide +kernel
  have accepted : ∃ record, standard.validator.validateBytes covered = .ok record :=
    ⟨_, Validator.validateBytes_coveredCall⟩
  exact ⟨rfl, rfl, neighbours,
    neighbour_record_refused standard rfl covered restruck neighbours (.inl accepted)⟩

end Verifier

end OptionClearing
