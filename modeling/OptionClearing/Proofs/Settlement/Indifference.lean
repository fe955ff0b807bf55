import OptionClearing.Proofs.Dispute.Branches
import OptionClearing.Proofs.Host.FailClosed
import OptionClearing.Proofs.Host.Protocol

/-!
What settlement does not look at. Beyond kind, prices and quantity a contract is asked two questions
only: whether its barrier is reached, and whether it can be exercised early.
-/

namespace OptionClearing

theorem Contract.exercisable_iff (contract : Contract) :
    contract.Exercisable ↔ contract.kind = .put ∧ contract.exercise = .american ∧
      0 < contract.timeToExpiry.toNat :=
  ⟨fun ⟨put, american, unexpired⟩ => ⟨put, american, unexpired⟩,
    fun ⟨put, american, unexpired⟩ => ⟨put, american, unexpired⟩⟩

namespace SettlementRules

/-- Two contracts that settlement cannot tell apart. -/
structure SeesAlike (rules : SettlementRules) (first second : Contract) : Prop where
  kind : first.kind = second.kind
  strike : first.strike = second.strike
  spot : first.spot = second.spot
  quantity : first.quantity = second.quantity
  knocksOut_iff : rules.KnocksOut first ↔ rules.KnocksOut second
  exercisable_iff : first.Exercisable ↔ second.Exercisable

theorem earlyDue_iff_exercisable (rules : SettlementRules) (contract : Contract) :
    rules.EarlyDue contract ↔ rules.earlyExerciseEnabled = true ∧ contract.Exercisable ∧
      rules.earlyExercisePercent.toNat * contract.spot.toNat < 100 * contract.strike.toNat := by
  rw [Contract.exercisable_iff, and_assoc, and_assoc]
  exact Iff.rfl

section Pair

variable {rules : SettlementRules} {first second : Contract}

theorem SeesAlike.branch_eq (alike : rules.SeesAlike first second) :
    rules.branch first = rules.branch second := by
  have early : rules.EarlyDue first ↔ rules.EarlyDue second := by
    rw [earlyDue_iff_exercisable, earlyDue_iff_exercisable, alike.exercisable_iff, alike.strike,
      alike.spot]
  simp only [branch, alike.knocksOut_iff, early]

theorem SeesAlike.outcomeIn_eq (alike : rules.SeesAlike first second) :
    rules.outcomeIn first = rules.outcomeIn second := by
  have payout : first.intrinsicValue = second.intrinsicValue := by
    rw [Contract.intrinsicValue, alike.kind, alike.strike, alike.spot, alike.quantity]
    rfl
  have moneyness : rules.contractMoneyness first = rules.contractMoneyness second := by
    rw [contractMoneyness, alike.kind, alike.strike, alike.spot]
    rfl
  have premium : rules.premium first = rules.premium second := by
    rw [SettlementRules.premium, alike.strike, alike.quantity]
    rfl
  funext branch
  cases branch with
  | knockOut => rfl
  | earlyExercise => simp only [outcomeIn, payout, moneyness]
  | terminal => simp only [outcomeIn, payout, moneyness, premium]

theorem SeesAlike.settle_eq (alike : rules.SeesAlike first second) :
    rules.settle first = rules.settle second := by
  rw [settle_eq_outcomeIn, settle_eq_outcomeIn, alike.outcomeIn_eq, alike.branch_eq]

end Pair

end SettlementRules

namespace Contract

def withVolatility (contract : Contract) (volatility : UInt32) : Contract :=
  { contract with volatility }

def withTimeToExpiry (contract : Contract) (timeToExpiry : UInt32) : Contract :=
  { contract with timeToExpiry }

theorem decode_append_volatility (order : ByteOrder) (front left right : Bytes)
    (size : front.length = 28) (leftSize : left.length = 4) (rightSize : right.length = 4) :
    (Record.decode order (front ++ right) : Except RecordFault Contract) =
      (Record.decode order (front ++ left) : Except RecordFault Contract).map
        (·.withVolatility (Bytes.wordAt order (front ++ right) 28)) := by
  have leftWhole : (front ++ left).length = 32 := by rw [List.length_append, size, leftSize]
  have rightWhole : (front ++ right).length = 32 := by rw [List.length_append, size, rightSize]
  rw [decode_eq order _ leftWhole, decode_eq order _ rightWhole]
  -- Of the words that are read, only the one at 28 lies behind the front.
  simp (disch := omega) only [Bytes.wordAt_append_of_le]
  cases (Coded.ofCode? (Bytes.wordAt order front 0) : Option OptionKind) with
  | none => rfl
  | some kind =>
      cases (Coded.ofCode? (Bytes.wordAt order front 20) : Option ExerciseStyle) with
      | none => rfl
      | some exercise => rfl

end Contract

namespace SettlementRules

variable (rules : SettlementRules) (contract : Contract)

theorem seesAlike_withVolatility (volatility : UInt32) :
    rules.SeesAlike contract (contract.withVolatility volatility) := by
  refine ⟨rfl, rfl, rfl, rfl, Iff.rfl, ?_⟩
  rw [Contract.exercisable_iff, Contract.exercisable_iff]
  exact Iff.rfl

/-- A time is looked at in an American put only, and there for whether it is up. -/
theorem seesAlike_withTimeToExpiry (time : UInt32)
    (unexpired_iff : contract.kind = .put → contract.exercise = .american →
      (contract.timeToExpiry = 0 ↔ time = 0)) :
    rules.SeesAlike contract (contract.withTimeToExpiry time) := by
  have unexpired (time : UInt32) : 0 < time.toNat ↔ ¬ time = 0 := by
    rw [← UInt32.toNat_inj]
    exact Nat.pos_iff_ne_zero
  refine ⟨rfl, rfl, rfl, rfl, Iff.rfl, ?_⟩
  rw [Contract.exercisable_iff, Contract.exercisable_iff, unexpired, unexpired]
  apply and_congr_right
  intro put
  apply and_congr_right
  intro american
  exact not_congr (unexpired_iff put american)

theorem answer_append_volatility (order : ByteOrder) (front left right : Bytes)
    (size : front.length = 28) (leftSize : left.length = 4) (rightSize : right.length = 4) :
    rules.answer order (front ++ left) = rules.answer order (front ++ right) := by
  have reread := Contract.decode_append_volatility order front left right size leftSize rightSize
  rw [answer, answer, reread]
  cases (Record.decode order (front ++ left) : Except RecordFault Contract) with
  | error fault => rfl
  | ok contract => exact congrArg Except.ok (rules.seesAlike_withVolatility contract _).settle_eq

end SettlementRules

namespace Verifier

/-- Nobody can tell the two inputs apart by what is made of them: not a host by the outputs of a run,
not the reader of a buffer, and not a claimant by a report. -/
structure SettlesAlike (verifier : Verifier) (first second : Bytes) : Prop where
  outputs : ∀ {σ τ : Type} [Host σ] [Host τ] (host : σ) (other : τ),
    Host.input host = first → Host.input other = second →
      (Host.settle (⟨host, []⟩ : Observed σ) verifier.rules verifier.validator.order).2.outputs =
        (Host.settle (⟨other, []⟩ : Observed τ) verifier.rules
          verifier.validator.order).2.outputs
  buffered : ∀ buffer, BufferHost.Alike
    (Host.settle (BufferHost.start first buffer) verifier.rules verifier.validator.order)
    (Host.settle (BufferHost.start second buffer) verifier.rules verifier.validator.order)
  reports : ∀ claimed,
    verifier.verifySettlement first claimed = verifier.verifySettlement second claimed

variable (verifier : Verifier)

theorem settlesAlike_of_answer {first second : Bytes}
    (same : verifier.rules.answer verifier.validator.order first =
      verifier.rules.answer verifier.validator.order second) :
    verifier.SettlesAlike first second where
  outputs host other hostInput otherInput := by
    have handed := (Host.settle_outputsOnce host verifier.rules verifier.validator.order).outputs []
    have others :=
      (Host.settle_outputsOnce other verifier.rules verifier.validator.order).outputs []
    rw [hostInput] at handed
    rw [otherInput, ← same] at others
    exact handed.trans others.symm
  buffered buffer := by
    have input (bytes : Bytes) : Host.input (BufferHost.start bytes buffer) = bytes := rfl
    rw [Host.settle_eq_finish, Host.settle_eq_finish, input, input, same]
    exact BufferHost.alike_finish (.start first buffer) (.start second buffer) rfl _ _
  reports claimed := by
    rw [verifySettlement, verifySettlement, honestSettlement_eq_answerBytes,
      honestSettlement_eq_answerBytes, same]

theorem settlesAlike_of_settle_eq {first second : Bytes} {contract other : Contract}
    (read : Record.decode verifier.validator.order first = .ok contract)
    (otherRead : Record.decode verifier.validator.order second = .ok other)
    (same : verifier.rules.settle contract = verifier.rules.settle other) :
    verifier.SettlesAlike first second := by
  have answered := (verifier.rules.answer_eq_ok_iff _ _ _).mpr ⟨contract, read, rfl⟩
  have others := (verifier.rules.answer_eq_ok_iff _ _ _).mpr ⟨other, otherRead, same⟩
  exact verifier.settlesAlike_of_answer (answered.trans others.symm)

/-- Inputs are settled to the same bytes, and claims about them get the same reports, when
settlement cannot tell their contracts apart. -/
theorem settlement_is_indifferent :
    (∀ first second (contract other : Contract),
      Record.decode verifier.validator.order first = .ok contract →
      Record.decode verifier.validator.order second = .ok other →
      verifier.rules.SeesAlike contract other → verifier.SettlesAlike first second) ∧
    (∀ front left right : Bytes, front.length = 28 → left.length = 4 → right.length = 4 →
      verifier.SettlesAlike (front ++ left) (front ++ right)) ∧
    (∀ first second (contract : Contract) (time : UInt32),
      Record.decode verifier.validator.order first = .ok contract →
      Record.decode verifier.validator.order second = .ok (contract.withTimeToExpiry time) →
      (contract.kind = .put → contract.exercise = .american →
        (contract.timeToExpiry = 0 ↔ time = 0)) → verifier.SettlesAlike first second) ∧
    (∀ first second (contract other : Contract),
      Record.decode verifier.validator.order first = .ok contract →
      Record.decode verifier.validator.order second = .ok other →
      verifier.rules.KnocksOut contract → verifier.rules.KnocksOut other →
        verifier.SettlesAlike first second) := by
  refine ⟨?alike, ?volatility, ?time, ?knockedOut⟩
  case alike =>
    intro first second contract other read otherRead alike
    exact verifier.settlesAlike_of_settle_eq read otherRead alike.settle_eq
  case volatility =>
    intro front left right size leftSize rightSize
    apply verifier.settlesAlike_of_answer
    exact verifier.rules.answer_append_volatility _ front left right size leftSize rightSize
  case time =>
    intro first second contract time read otherRead unexpired_iff
    have alike := verifier.rules.seesAlike_withTimeToExpiry contract time unexpired_iff
    exact verifier.settlesAlike_of_settle_eq read otherRead alike.settle_eq
  case knockedOut =>
    intro first second contract other read otherRead hit otherHit
    apply verifier.settlesAlike_of_settle_eq read otherRead
    rw [verifier.rules.settle_of_knocksOut contract hit,
      verifier.rules.settle_of_knocksOut other otherHit]

def voidCall : Contract := ⟨.binaryCall, 1, 0xffffffff, 7, 5, .european, 0, 0⟩

def barePut : Contract :=
  { SettlementRules.deepPut with barrier := 0, timeToExpiry := 1, volatility := 9000 }

theorem voidCall_and_barePut_alike :
    let input (contract : Contract) := Record.encode .little contract
    let front := (input SettlementRules.deepPut).take 28
    (SettlementRules.standard.KnocksOut knockedPut ∧ SettlementRules.standard.KnocksOut voidCall ∧
      standard.SettlesAlike (input knockedPut) (input voidCall)) ∧
    (SettlementRules.standard.SeesAlike SettlementRules.deepPut barePut ∧
      standard.SettlesAlike (input SettlementRules.deepPut) (input barePut)) ∧
    standard.SettlesAlike (front ++ [0, 0, 0, 0]) (front ++ [0xff, 0xff, 0xff, 0xff]) ∧
    standard.SettlesAlike (input SettlementRules.deepPut)
      (input (SettlementRules.deepPut.withTimeToExpiry 1)) ∧
    standard.honestSettlement (input (SettlementRules.deepPut.withTimeToExpiry 0)) ≠
      standard.honestSettlement (input SettlementRules.deepPut) := by
  intro input front
  obtain ⟨alike, volatility, time, knockedOut⟩ := settlement_is_indifferent standard
  have read (contract : Contract) : Record.decode .little (input contract) = .ok contract :=
    Record.decode_encode .little contract
  have hit : SettlementRules.standard.KnocksOut knockedPut := by decide
  have voided : SettlementRules.standard.KnocksOut voidCall := by decide
  have bare : SettlementRules.standard.SeesAlike SettlementRules.deepPut barePut := by
    refine ⟨rfl, rfl, rfl, rfl, by decide, ?_⟩
    rw [Contract.exercisable_iff, Contract.exercisable_iff]
    decide
  refine ⟨⟨hit, voided, ?_⟩, ⟨bare, ?_⟩, ?_, ?_, by decide +kernel⟩
  · exact knockedOut _ _ knockedPut voidCall (read _) (read _) hit voided
  · exact alike _ _ SettlementRules.deepPut barePut (read _) (read _) bare
  · exact volatility front _ _ (by decide) rfl rfl
  · exact time _ _ SettlementRules.deepPut 1 (read _) (read _) (by decide)

end Verifier

end OptionClearing
