import OptionClearing.Host.Recording
import OptionClearing.Proofs.Host.Answer
import OptionClearing.Proofs.Purchase.Validation
import OptionClearing.Proofs.Settlement.Coherence

/-!
What a run asks of a host. A host can be observed without its noticing, and on every host, however it
answers, a run is seen to hand over one output and to leave the host as that output leaves it.
-/

namespace OptionClearing

/-- A host with every output that it was handed, the refused ones among them. -/
structure Observed (σ : Type) where
  host : σ
  outputs : List Bytes

instance {σ : Type} [Host σ] : Host (Observed σ) where
  input observed := Host.input observed.host
  write observed bytes :=
    let (answer, host) := Host.write observed.host bytes
    (answer, ⟨host, observed.outputs ++ [bytes]⟩)

abbrev Run (α : Type) : Type 1 := {σ : Type} → [Host σ] → σ → Except RunFailure α × σ

/-- The run hands `bytes` to the host and nothing else, and answers `value` unless it is refused. -/
structure Run.OutputsOnce {α σ : Type} [Host σ] (run : Run α) (host : σ) (bytes : Bytes)
    (value : Except RunFailure α) : Prop where
  outputs : ∀ earlier, (run (⟨host, earlier⟩ : Observed σ)).2.outputs = earlier ++ [bytes]
  unnoticed : ∀ earlier, (run (⟨host, earlier⟩ : Observed σ)).1 = (run host).1 ∧
    (run (⟨host, earlier⟩ : Observed σ)).2.host = (run host).2
  state : (run host).2 = (Host.write host bytes).2
  refused : ∀ fault, (Host.write host bytes).1 = .error fault →
    (run host).1 = .error (.record fault)
  accepted : (Host.write host bytes).1 = .ok () → (run host).1 = value

namespace Host

variable {σ α : Type} [Host σ]

theorem finish_snd (host : σ) (bytes : Bytes) (value : Except RunFailure α) :
    (finish host bytes value).2 = (write host bytes).2 := by
  simp only [finish]
  rcases write host bytes with ⟨_ | _, next⟩ <;> rfl

theorem finish_fst_of_refused (host : σ) (bytes : Bytes) (value : Except RunFailure α)
    (fault : RecordFault) (refused : (write host bytes).1 = .error fault) :
    (finish host bytes value).1 = .error (.record fault) := by
  simp only [finish]
  rcases wrote : write host bytes with ⟨answer, next⟩
  rw [wrote] at refused
  cases refused
  rfl

theorem finish_fst_of_accepted (host : σ) (bytes : Bytes) (value : Except RunFailure α)
    (accepted : (write host bytes).1 = .ok ()) : (finish host bytes value).1 = value := by
  simp only [finish]
  rcases wrote : write host bytes with ⟨answer, next⟩
  rw [wrote] at accepted
  cases accepted
  rfl

theorem finish_observed (observed : Observed σ) (bytes : Bytes) (value : Except RunFailure α) :
    finish observed bytes value =
      ((finish observed.host bytes value).1,
        ⟨(finish observed.host bytes value).2, observed.outputs ++ [bytes]⟩) := by
  have seen : write observed bytes =
      ((write observed.host bytes).1,
        ⟨(write observed.host bytes).2, observed.outputs ++ [bytes]⟩) := rfl
  simp only [finish, seen]
  rcases write observed.host bytes with ⟨_ | _, next⟩ <;> rfl

end Host

theorem Run.outputsOnce_of_finish {α σ : Type} [Host σ] (run : Run α) (host : σ) (bytes : Bytes)
    (value : Except RunFailure α)
    (finishes : ∀ {τ : Type} [Host τ] (other : τ), Host.input other = Host.input host →
      run other = Host.finish other bytes value) :
    OutputsOnce run host bytes value := by
  -- the observed host has the same input, so it is handed the same output
  have plain : run host = Host.finish host bytes value := finishes host rfl
  have seen (earlier : List Bytes) : run (⟨host, earlier⟩ : Observed σ) =
      ((run host).1, ⟨(run host).2, earlier ++ [bytes]⟩) := by
    calc
      run (⟨host, earlier⟩ : Observed σ)
        = Host.finish (⟨host, earlier⟩ : Observed σ) bytes value := finishes _ rfl
      _ = ((run host).1, ⟨(run host).2, earlier ++ [bytes]⟩) := by rw [Host.finish_observed, plain]
  constructor
  case outputs =>
    intro earlier
    rw [seen]
  case unnoticed =>
    intro earlier
    rw [seen]
    exact ⟨rfl, rfl⟩
  case state => rw [plain, Host.finish_snd]
  case refused =>
    intro fault refused
    rw [plain]
    exact Host.finish_fst_of_refused host bytes value fault refused
  case accepted =>
    intro accepted
    rw [plain]
    exact Host.finish_fst_of_accepted host bytes value accepted

namespace Host

variable {σ : Type} [Host σ] (host : σ) (rules : SettlementRules) (order : ByteOrder)
  (validator : Validator)

theorem settle_outputsOnce :
    Run.OutputsOnce (fun host => settle host rules order) host
      (Record.answerBytes order (rules.answer order (input host)))
      (rules.answer order (input host)) := by
  apply Run.outputsOnce_of_finish
  intro τ _ other same
  rw [settle_eq_finish, same]

theorem purchase_outputsOnce :
    Run.OutputsOnce (fun host => purchase host validator) host
      (Record.answerBytes validator.order (validator.answer (input host)))
      (validator.answer (input host)) := by
  apply Run.outputsOnce_of_finish
  intro τ _ other same
  rw [purchase_eq_finish, same]

/-- Both runs hand over the record that the input deserves, or the empty output with the reason why
it deserves none; a refusal of either takes precedence over both. -/
theorem runs_output_once :
    (∀ contract : Contract, Record.decode order (input host) = .ok contract →
      Run.OutputsOnce (fun host => settle host rules order) host
        (Record.encode order (rules.settle contract)) (.ok (rules.settle contract))) ∧
    (∀ fault, (Record.decode order (input host) : Except RecordFault Contract) = .error fault →
      Run.OutputsOnce (fun host => settle host rules order) host [] (.error (.record fault))) ∧
    (∀ record, validator.validateBytes (input host) = .ok record →
      Run.OutputsOnce (fun host => purchase host validator) host
        (Record.encode validator.order record) (.ok record)) ∧
    (∀ reason, validator.validateBytes (input host) = .error reason →
      Run.OutputsOnce (fun host => purchase host validator) host []
        (.error (.rejected reason))) := by
  have settlement := settle_outputsOnce host rules order
  have purchase := purchase_outputsOnce host validator
  refine ⟨?_, ?_, ?_, ?_⟩
  · intro contract read
    have deserved : rules.answer order (input host) = .ok (rules.settle contract) := by
      rw [SettlementRules.answer, read]
    rw [deserved] at settlement
    exact settlement
  · intro fault unread
    have deserved : rules.answer order (input host) = .error (.record fault) := by
      rw [SettlementRules.answer, unread]
    rw [deserved] at settlement
    exact settlement
  · intro record accepted
    have deserved : validator.answer (input host) = .ok record := by
      rw [Validator.answer, accepted]
    rw [deserved] at purchase
    exact purchase
  · intro reason rejected
    have deserved : validator.answer (input host) = .error (.rejected reason) := by
      rw [Validator.answer, rejected]
    rw [deserved] at purchase
    exact purchase

theorem refusing_host_answered :
    (settle (RecordingHost.start [0, 0] true) .standard .little).1 =
      .error (.record (.outputTooSmall 0 0)) ∧
    (settle (RecordingHost.start (Record.encode .little SettlementRules.deepPut) false)
      .standard .little).1 = .ok (SettlementRules.standard.settle SettlementRules.deepPut) ∧
    (purchase (RecordingHost.start [0, 0] false) .standard).1 =
      .error (.rejected (.malformedInput 88 2)) ∧
    (purchase (⟨RecordingHost.start (Record.encode .little Validator.coveredCall) true, []⟩ :
      Observed RecordingHost) .standard).2.outputs =
        [Record.encode .little Validator.coveredRecord] := by
  obtain ⟨_, unread, _, _⟩ :=
    runs_output_once (RecordingHost.start [0, 0] true) .standard .little .standard
  obtain ⟨settled, _, _, _⟩ := runs_output_once
    (RecordingHost.start (Record.encode .little SettlementRules.deepPut) false)
    .standard .little .standard
  obtain ⟨_, _, _, rejected⟩ :=
    runs_output_once (RecordingHost.start [0, 0] false) .standard .little .standard
  obtain ⟨_, _, accepted, _⟩ := runs_output_once
    (RecordingHost.start (Record.encode .little Validator.coveredCall) true)
    .standard .little .standard
  have read := Record.decode_encode .little SettlementRules.deepPut
  have malformed := Validator.standard.validateBytes_of_length_ne [0, 0] (by decide)
  refine ⟨?_, ?_, ?_, ?_⟩
  · exact (unread (.lengthMismatch 32 2) rfl).refused _ rfl
  · exact (settled SettlementRules.deepPut read).accepted rfl
  · exact (rejected (.malformedInput 88 2) malformed).accepted rfl
  · have seen := (accepted Validator.coveredRecord Validator.validateBytes_coveredCall).outputs []
    rw [List.nil_append] at seen
    exact seen

end Host

end OptionClearing
