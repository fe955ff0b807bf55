import OptionClearing.Proofs.Host.History
import OptionClearing.Proofs.Purchase.Validation
import OptionClearing.Proofs.Settlement.Coherence

/-!
Runs on a used buffer. A run leaves a whole record or nothing, and neither the record nor the answer
tells anything of what the buffer went through before.
-/

namespace OptionClearing

namespace BufferHost

/-- A caller that looks at answer, length and output cannot tell the two apart. -/
structure Alike {α : Type} (first second : Except RunFailure α × BufferHost) : Prop where
  answer : first.1 = second.1
  written : first.2.written = second.2.written
  output : first.2.output = second.2.output

/-- The output is the whole record that is answered, or it is empty and the answer is a failure. -/
structure FailsClosed {α : Type} [Record α] (order : ByteOrder) (size : Nat)
    (after : Except RunFailure α × BufferHost) : Prop where
  ok_iff : (∃ record, after.1 = .ok record) ↔ after.2.written = size
  error_iff : (∃ failure, after.1 = .error failure) ↔
    after.2.written = 0 ∧ after.2.output = []
  output : ∀ record, after.1 = .ok record → after.2.output = Record.encode order record ∧
    Record.decode order after.2.output = .ok record

section Finish

variable {α : Type} (host : BufferHost)

theorem alike_finish (other : BufferHost)
    (sameCapacity : host.buffer.length = other.buffer.length) (bytes : Bytes)
    (value : Except RunFailure α) :
    Alike (Host.finish host bytes value) (Host.finish other bytes value) := by
  by_cases fits : bytes.length ≤ host.buffer.length
  · have room : bytes.length ≤ other.buffer.length := sameCapacity ▸ fits
    have output := host.output_finish bytes value fits
    rw [host.finish_of_fits bytes value fits] at output ⊢
    rw [other.finish_of_fits bytes value room]
    exact ⟨rfl, rfl, output.trans List.take_left.symm⟩
  · have exceeds := Nat.lt_of_not_le fits
    rw [host.finish_of_exceeds bytes value exceeds,
      other.finish_of_exceeds bytes value (sameCapacity ▸ exceeds), sameCapacity]
    exact ⟨rfl, rfl, rfl⟩

variable [Record α] (wide : 0 < Record.width α) (order : ByteOrder)

include wide

theorem failsClosed_of_error (failure : RunFailure) (after : BufferHost) (empty : after.written = 0) :
    FailsClosed order (Record.width α) ((.error failure : Except RunFailure α), after) where
  ok_iff := by
    constructor
    · rintro ⟨record, answered⟩
      cases answered
    · intro whole
      exact absurd (whole.symm.trans empty) (Nat.ne_of_gt wide)
  error_iff := by
    have nothing : after.output = [] := by rw [BufferHost.output, empty, List.take_zero]
    exact iff_of_true ⟨failure, rfl⟩ ⟨empty, nothing⟩
  output record answered := by cases answered

theorem failsClosed_of_ok (record : α) (after : BufferHost)
    (whole : after.written = Record.width α) (output : after.output = Record.encode order record) :
    FailsClosed order (Record.width α) ((.ok record : Except RunFailure α), after) where
  ok_iff := iff_of_true ⟨record, rfl⟩ whole
  error_iff := by
    constructor
    · rintro ⟨failure, answered⟩
      cases answered
    · rintro ⟨empty, _⟩
      exact absurd (whole.symm.trans empty) (Nat.ne_of_gt wide)
  output other answered := by
    cases answered
    exact ⟨output, output ▸ Record.decode_encode order record⟩

theorem failsClosed_finish (answer : Except RunFailure α) :
    FailsClosed order (Record.width α)
      (Host.finish host (Record.answerBytes order answer) answer) := by
  cases answer with
  | error failure =>
      have room : (Record.answerBytes order (.error failure : Except RunFailure α)).length ≤
          host.buffer.length := Nat.zero_le _
      rw [host.finish_of_fits _ _ room]
      exact failsClosed_of_error wide order failure _ rfl
  | ok record =>
      have size := Record.length_encode order record
      rw [Record.answerBytes]
      by_cases fits : (Record.encode order record).length ≤ host.buffer.length
      · rw [host.finish_of_fits _ _ fits]
        exact failsClosed_of_ok wide order record _ size List.take_left
      · rw [host.finish_of_exceeds _ _ (Nat.lt_of_not_le fits)]
        exact failsClosed_of_error wide order _ _ rfl

end Finish

theorem frame_session (input initial : Bytes) (steps : List SessionStep) :
    (Session.run (start input initial) steps).input = input ∧
      (Session.run (start input initial) steps).buffer.length = initial.length := by
  have unnoticed :=
    (Session.run_observed (⟨start input initial, []⟩ : Observed BufferHost) steps).1
  have reflects := Reflects.session steps ⟨start input initial, []⟩ (reflects_start input initial)
  rw [unnoticed] at reflects
  exact ⟨reflects.input, reflects.capacity⟩

/-- Whatever went before, on whatever bytes, a run answers, and outputs, what it would on a fresh
buffer of the same size; it succeeds exactly when its whole record is the output. -/
theorem runs_fail_closed (input first second : Bytes) (sameCapacity : first.length = second.length)
    (earlier others : List SessionStep) (rules : SettlementRules) (order : ByteOrder)
    (validator : Validator) :
    let host := Session.run (start input first) earlier
    let other := Session.run (start input second) others
    (Alike (Host.settle host rules order) (Host.settle other rules order) ∧
      FailsClosed order 32 (Host.settle host rules order) ∧
      ∀ outcome (read : Outcome), (Host.settle host rules order).1 = .ok outcome →
        Record.decode order (Host.settle host rules order).2.output = .ok read →
          read.signedPnl = outcome.signedPnl ∧ read.exitCode = outcome.exitCode) ∧
    (Alike (Host.purchase host validator) (Host.purchase other validator) ∧
      FailsClosed validator.order 48 (Host.purchase host validator)) := by
  intro host other
  obtain ⟨hostInput, hostSize⟩ := frame_session input first earlier
  obtain ⟨otherInput, otherSize⟩ := frame_session input second others
  have sameSize : host.buffer.length = other.buffer.length :=
    hostSize.trans (sameCapacity.trans otherSize.symm)
  have sameInput : Host.input other = Host.input host := otherInput.trans hostInput.symm
  have settled : FailsClosed order 32 (Host.settle host rules order) := by
    rw [Host.settle_eq_finish, ← width_outcome]
    exact failsClosed_finish host (by decide) order _
  refine ⟨⟨?_, settled, ?_⟩, ?_, ?_⟩
  · rw [Host.settle_eq_finish, Host.settle_eq_finish, sameInput]
    exact alike_finish host other sameSize _ _
  · -- sign and exit code are read off the outcome, and that is the same one
    intro outcome read answered decoded
    have whole := (settled.output outcome answered).2
    rw [decoded] at whole
    cases whole
    exact ⟨rfl, rfl⟩
  · rw [Host.purchase_eq_finish, Host.purchase_eq_finish, sameInput]
    exact alike_finish host other sameSize _ _
  · rw [Host.purchase_eq_finish, ← width_purchaseRecord]
    exact failsClosed_finish host (by decide) validator.order _

def usedHost : BufferHost :=
  Session.run (start (Record.encode .little SettlementRules.deepPut) (List.replicate 48 0))
    [.settle .standard .little]

def strewnHost : BufferHost :=
  Session.run (start (Record.encode .little SettlementRules.deepPut) (List.replicate 48 255))
    [.write [1, 2, 3]]

theorem stale_outcome_unread :
    usedHost.written = 32 ∧
      (∃ failure, (Host.purchase usedHost .standard).1 = .error failure) ∧
      (Host.purchase usedHost .standard).2.output = [] ∧
      (∃ outcome, (Host.settle strewnHost .standard .little).1 = .ok outcome) ∧
      (Host.settle strewnHost .standard .little).2.output =
        (Host.settle usedHost .standard .little).2.output := by
  have empty : (Host.purchase usedHost .standard).2.written = 0 ∧
      (Host.purchase usedHost .standard).2.output = [] := by decide +kernel
  have full : (Host.settle usedHost .standard .little).2.written = 32 := by decide +kernel
  obtain ⟨⟨settled, whole, _⟩, _, rejected⟩ := runs_fail_closed
    (Record.encode .little SettlementRules.deepPut) (List.replicate 48 0) (List.replicate 48 255)
    rfl [.settle .standard .little] [.write [1, 2, 3]] .standard .little .standard
  obtain ⟨outcome, answered⟩ := whole.ok_iff.mpr full
  refine ⟨by decide +kernel, rejected.error_iff.mpr empty, empty.2, ?_, settled.output.symm⟩
  exact ⟨outcome, settled.answer.symm.trans answered⟩

end BufferHost

end OptionClearing
