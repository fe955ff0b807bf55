import OptionClearing.Host.Session
import OptionClearing.Proofs.Host.Answer
import OptionClearing.Proofs.Host.Protocol

/-!
A buffer and the outputs that it has been handed. After any session the output is the last of them,
and each byte of the buffer stems from the last output that reached it.
-/

namespace OptionClearing

theorem Host.map_finish {σ α β : Type} [Host σ] (host : σ) (bytes : Bytes)
    (value : Except RunFailure α) (f : α → β) :
    ((finish host bytes value).1.map f, (finish host bytes value).2) =
      finish host bytes (value.map f) := by
  simp only [finish]
  rcases write host bytes with ⟨_ | _, next⟩ <;> rfl

namespace SessionStep

def output (input : Bytes) : SessionStep → Bytes
  | write bytes => bytes
  | settle rules order => Record.answerBytes order (rules.answer order input)
  | purchase validator => Record.answerBytes validator.order (validator.answer input)

/-- What the step answers unless its output is refused. -/
def answer (input : Bytes) : SessionStep → Except RunFailure SessionAnswer
  | write _ => .ok .written
  | settle rules order => (rules.answer order input).map .settled
  | purchase validator => (validator.answer input).map .purchased

theorem run_eq_finish {σ : Type} [Host σ] (host : σ) (step : SessionStep) :
    step.run host =
      Host.finish host (step.output (Host.input host)) (step.answer (Host.input host)) := by
  cases step with
  | write bytes => rfl
  | settle rules order =>
      simp only [run, Host.settle_eq_finish]
      exact Host.map_finish host _ _ _
  | purchase validator =>
      simp only [run, Host.purchase_eq_finish]
      exact Host.map_finish host _ _ _

theorem run_observed {σ : Type} [Host σ] (observed : Observed σ) (step : SessionStep) :
    (step.run observed).2 =
      ⟨(step.run observed.host).2,
        observed.outputs ++ [step.output (Host.input observed.host)]⟩ := by
  rw [run_eq_finish, Host.finish_observed, run_eq_finish]
  rfl

end SessionStep

namespace Session

variable {σ : Type} [Host σ]

theorem run_cons (host : σ) (step : SessionStep) (steps : List SessionStep) :
    run host (step :: steps) = run (step.run host).2 steps := rfl

theorem run_observed (observed : Observed σ) (steps : List SessionStep) :
    (run observed steps).host = run observed.host steps ∧
      (run observed steps).outputs.length = observed.outputs.length + steps.length := by
  induction steps generalizing observed with
  | nil => exact ⟨rfl, rfl⟩
  | cons step steps ih =>
      obtain ⟨host, count⟩ := ih (step.run observed).2
      rw [SessionStep.run_observed] at host count
      rw [run_cons, run_cons, SessionStep.run_observed]
      refine ⟨host, ?_⟩
      rw [count, List.length_append, List.length_cons, List.length_cons, List.length_nil]
      omega

end Session

namespace BufferHost

def lastOutput (capacity : Nat) (outputs : List Bytes) : Bytes :=
  match outputs.getLast? with
  | some bytes => if bytes.length ≤ capacity then bytes else []
  | none => []

def reaches (capacity index : Nat) (bytes : Bytes) : Bool :=
  bytes.length ≤ capacity ∧ index < bytes.length

def lastReaching (capacity index : Nat) (outputs : List Bytes) : Option Bytes :=
  (outputs.filter (reaches capacity index)).getLast?

/-- The host is what its outputs have made of the initial buffer. -/
structure Reflects (host : BufferHost) (input initial : Bytes) (outputs : List Bytes) : Prop where
  input : host.input = input
  capacity : host.buffer.length = initial.length
  written_le : host.written ≤ initial.length
  length_output : host.output.length = host.written
  accepts_iff : ∀ bytes, (host.write bytes).1 = .ok () ↔ bytes.length ≤ initial.length
  output : host.output = lastOutput initial.length outputs
  byte : ∀ index, host.buffer[index]? =
    match lastReaching initial.length index outputs with
    | some bytes => bytes[index]?
    | none => initial[index]?

theorem lastOutput_append (capacity : Nat) (outputs : List Bytes) (bytes : Bytes) :
    lastOutput capacity (outputs ++ [bytes]) = if bytes.length ≤ capacity then bytes else [] := by
  rw [lastOutput, List.getLast?_concat]

theorem lastReaching_append_of_reaches (capacity index : Nat) (outputs : List Bytes) (bytes : Bytes)
    (fits : bytes.length ≤ capacity) (longer : index < bytes.length) :
    lastReaching capacity index (outputs ++ [bytes]) = some bytes := by
  have kept : reaches capacity index bytes = true := decide_eq_true ⟨fits, longer⟩
  rw [lastReaching, List.filter_append, List.filter_cons_of_pos kept, List.filter_nil,
    List.getLast?_concat]

theorem lastReaching_append_of_misses (capacity index : Nat) (outputs : List Bytes) (bytes : Bytes)
    (misses : ¬ (bytes.length ≤ capacity ∧ index < bytes.length)) :
    lastReaching capacity index (outputs ++ [bytes]) = lastReaching capacity index outputs := by
  have dropped : ¬ reaches capacity index bytes = true := mt of_decide_eq_true misses
  rw [lastReaching, List.filter_append, List.filter_cons_of_neg dropped, List.filter_nil,
    List.append_nil, lastReaching]

variable {host : BufferHost} {input initial : Bytes} {outputs : List Bytes}

theorem accepts_write_iff (host : BufferHost) (bytes : Bytes) :
    (host.write bytes).1 = .ok () ↔ bytes.length ≤ host.buffer.length := by
  by_cases fits : bytes.length ≤ host.buffer.length
  · rw [host.write_of_fits bytes fits]
    exact iff_of_true rfl fits
  · rw [host.write_of_exceeds bytes (Nat.lt_of_not_le fits)]
    exact iff_of_false (fun same => nomatch same) fits

theorem reflects_start (input initial : Bytes) : (start input initial).Reflects input initial [] where
  input := rfl
  capacity := rfl
  written_le := Nat.zero_le _
  length_output := rfl
  accepts_iff := accepts_write_iff (start input initial)
  output := rfl
  byte _ := rfl

theorem Reflects.write_of_fits (reflects : host.Reflects input initial outputs) (bytes : Bytes)
    (fits : bytes.length ≤ initial.length) :
    (host.write bytes).2.Reflects input initial (outputs ++ [bytes]) := by
  have room : bytes.length ≤ host.buffer.length := by
    rw [reflects.capacity]
    exact fits
  have capacity : (bytes ++ host.buffer.drop bytes.length).length = initial.length := by
    rw [List.length_append, List.length_drop, reflects.capacity]
    omega
  rw [host.write_of_fits bytes room]
  constructor
  case input => exact reflects.input
  case capacity => exact capacity
  case written_le => exact fits
  case length_output =>
    rw [BufferHost.output, List.take_left]
  case accepts_iff =>
    intro other
    rw [accepts_write_iff, capacity]
  case output =>
    rw [lastOutput_append, if_pos fits, BufferHost.output, List.take_left]
  case byte =>
    intro index
    by_cases longer : index < bytes.length
    · rw [lastReaching_append_of_reaches _ _ _ _ fits longer]
      exact List.getElem?_append_left longer
    · -- behind the new output lies what lay there before
      have beyond : bytes.length ≤ index := Nat.le_of_not_lt longer
      rw [lastReaching_append_of_misses _ _ _ _ (fun both => longer both.2), ← reflects.byte index,
        List.getElem?_append_right beyond, List.getElem?_drop, Nat.add_sub_cancel' beyond]

theorem Reflects.write_of_exceeds (reflects : host.Reflects input initial outputs) (bytes : Bytes)
    (exceeds : initial.length < bytes.length) :
    (host.write bytes).2.Reflects input initial (outputs ++ [bytes]) := by
  have refused : host.buffer.length < bytes.length := by
    rw [reflects.capacity]
    exact exceeds
  have misses (index : Nat) : ¬ (bytes.length ≤ initial.length ∧ index < bytes.length) := by
    intro both
    exact Nat.not_le.mpr exceeds both.1
  rw [host.write_of_exceeds bytes refused]
  constructor
  case input => exact reflects.input
  case capacity => exact reflects.capacity
  case written_le => exact Nat.zero_le _
  case length_output => rfl
  case accepts_iff =>
    intro other
    rw [accepts_write_iff, reflects.capacity]
  case output =>
    rw [lastOutput_append, if_neg (Nat.not_le.mpr exceeds)]
    rfl
  case byte =>
    intro index
    rw [lastReaching_append_of_misses _ _ _ _ (misses index)]
    exact reflects.byte index

theorem Reflects.write (reflects : host.Reflects input initial outputs) (bytes : Bytes) :
    (host.write bytes).2.Reflects input initial (outputs ++ [bytes]) := by
  by_cases fits : bytes.length ≤ initial.length
  · exact reflects.write_of_fits bytes fits
  · exact reflects.write_of_exceeds bytes (Nat.lt_of_not_le fits)

theorem Reflects.step (reflects : host.Reflects input initial outputs) (step : SessionStep) :
    (step.run host).2.Reflects input initial
      (step.run (⟨host, outputs⟩ : Observed BufferHost)).2.outputs := by
  rw [SessionStep.run_observed, SessionStep.run_eq_finish, Host.finish_snd]
  exact reflects.write _

theorem Reflects.session (steps : List SessionStep) (observed : Observed BufferHost)
    (reflects : observed.host.Reflects input initial observed.outputs) :
    (Session.run observed steps).host.Reflects input initial
      (Session.run observed steps).outputs := by
  induction steps generalizing observed with
  | nil => exact reflects
  | cons step steps ih =>
      rw [Session.run_cons]
      apply ih
      -- the step keeps the invariant for the outputs up to it, which is where the rest starts
      have next := reflects.step step
      rw [SessionStep.run_observed] at next ⊢
      exact next

/-- Every state of a session is what its outputs, one a step, have made of the initial buffer. -/
theorem session_reflects_outputs (input initial : Bytes) (steps : List SessionStep) :
    let last := Session.run (⟨start input initial, []⟩ : Observed BufferHost) steps
    last.host = Session.run (start input initial) steps ∧
      last.outputs.length = steps.length ∧
      last.host.Reflects input initial last.outputs := by
  intro last
  obtain ⟨unnoticed, count⟩ :=
    Session.run_observed (⟨start input initial, []⟩ : Observed BufferHost) steps
  refine ⟨unnoticed, ?_, ?_⟩
  · rw [count]
    exact Nat.zero_add _
  · exact Reflects.session steps _ (reflects_start input initial)

/-- The third output does not fit: nothing of it lands, and the second is taken back. -/
example :
    Session.run (start [] [0, 0, 0, 0]) [.write [1, 2, 3], .write [9], .write [1, 2, 3, 4, 5]] =
      ⟨[], [9, 2, 3, 0], 0⟩ := by
  decide

end BufferHost

end OptionClearing
