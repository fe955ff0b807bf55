import OptionClearing.Dispute.Exhibit
import OptionClearing.Host.Recording
import OptionClearing.Proofs.Record.RoundTrip

/-!
The answer of an input, apart from any host. Both runs are a single output of the answer's bytes, a
verifier expects the very same bytes, and into a buffer they go at the front or not at all.
-/

namespace OptionClearing

def SettlementRules.answer (rules : SettlementRules) (order : ByteOrder) (input : Bytes) :
    Except RunFailure Outcome :=
  match (Record.decode order input : Except RecordFault Contract) with
  | .ok contract => .ok (rules.settle contract)
  | .error fault => .error (.record fault)

def Validator.answer (validator : Validator) (input : Bytes) : Except RunFailure PurchaseRecord :=
  match validator.validateBytes input with
  | .ok record => .ok record
  | .error reason => .error (.rejected reason)

theorem SettlementRules.answer_eq_ok_iff (rules : SettlementRules) (order : ByteOrder)
    (input : Bytes) (outcome : Outcome) :
    rules.answer order input = .ok outcome ↔
      ∃ contract, Record.decode order input = .ok contract ∧ outcome = rules.settle contract := by
  simp only [answer]
  cases (Record.decode order input : Except RecordFault Contract) with
  | error fault => simp
  | ok contract => simp [eq_comm]

theorem Validator.answer_eq_ok_iff (validator : Validator) (input : Bytes)
    (record : PurchaseRecord) :
    validator.answer input = .ok record ↔ validator.validateBytes input = .ok record := by
  simp only [answer]
  cases validator.validateBytes input with
  | error reason => simp
  | ok accepted => simp

def Record.answerBytes {α : Type} [Record α] (order : ByteOrder) : Except RunFailure α → Bytes
  | .ok record => Record.encode order record
  | .error _ => []

theorem Record.length_answerBytes_le {α : Type} [Record α] (order : ByteOrder)
    (answer : Except RunFailure α) : (answerBytes order answer).length ≤ width α := by
  cases answer with
  | ok record => exact Nat.le_of_eq (length_encode order record)
  | error failure => exact Nat.zero_le _

section Host

variable {σ : Type} [Host σ]

theorem Host.settle_eq_finish (host : σ) (rules : SettlementRules) (order : ByteOrder) :
    Host.settle host rules order =
      Host.finish host (Record.answerBytes order (rules.answer order (Host.input host)))
        (rules.answer order (Host.input host)) := by
  simp only [Host.settle, SettlementRules.answer]
  cases (Record.decode order (Host.input host) : Except RecordFault Contract) <;> rfl

theorem Host.purchase_eq_finish (host : σ) (validator : Validator) :
    Host.purchase host validator =
      Host.finish host
        (Record.answerBytes validator.order (validator.answer (Host.input host)))
        (validator.answer (Host.input host)) := by
  simp only [Host.purchase, Validator.answer]
  cases validator.validateBytes (Host.input host) <;> rfl

end Host

namespace Verifier

theorem honestSettlement_eq_answerBytes (verifier : Verifier) (input : Bytes) :
    verifier.honestSettlement input =
      Record.answerBytes verifier.validator.order
        (verifier.rules.answer verifier.validator.order input) := by
  simp only [honestSettlement, SettlementRules.answer]
  cases (Record.decode verifier.validator.order input : Except RecordFault Contract) <;> rfl

theorem honestPurchase_eq_answerBytes (verifier : Verifier) (input : Bytes) :
    verifier.honestPurchase input =
      Record.answerBytes verifier.validator.order (verifier.validator.answer input) := by
  simp only [honestPurchase, Validator.answer]
  cases verifier.validator.validateBytes input <;> rfl

end Verifier

namespace BufferHost

theorem write_of_fits (host : BufferHost) (bytes : Bytes)
    (fits : bytes.length ≤ host.buffer.length) :
    host.write bytes =
      (.ok (), ⟨host.input, bytes ++ host.buffer.drop bytes.length, bytes.length⟩) := by
  rw [write, if_neg (Nat.not_lt.mpr fits)]
  simp [Bytes.overwrite]

theorem write_of_exceeds (host : BufferHost) (bytes : Bytes)
    (exceeds : host.buffer.length < bytes.length) :
    host.write bytes =
      (.error (.outputTooSmall bytes.length host.buffer.length), { host with written := 0 }) := by
  rw [write, if_pos exceeds]

theorem finish_of_fits {α : Type} (host : BufferHost) (bytes : Bytes)
    (value : Except RunFailure α) (fits : bytes.length ≤ host.buffer.length) :
    Host.finish host bytes value =
      (value, ⟨host.input, bytes ++ host.buffer.drop bytes.length, bytes.length⟩) := by
  have wrote : Host.write host bytes = _ := host.write_of_fits bytes fits
  rw [Host.finish, wrote]

theorem finish_of_exceeds {α : Type} (host : BufferHost) (bytes : Bytes)
    (value : Except RunFailure α) (exceeds : host.buffer.length < bytes.length) :
    Host.finish host bytes value =
      (.error (.record (.outputTooSmall bytes.length host.buffer.length)),
        { host with written := 0 }) := by
  have refused : Host.write host bytes = _ := host.write_of_exceeds bytes exceeds
  rw [Host.finish, refused]

theorem output_finish {α : Type} (host : BufferHost) (bytes : Bytes)
    (value : Except RunFailure α) (fits : bytes.length ≤ host.buffer.length) :
    (Host.finish host bytes value).2.output = bytes := by
  rw [host.finish_of_fits bytes value fits]
  exact List.take_left

end BufferHost

end OptionClearing
