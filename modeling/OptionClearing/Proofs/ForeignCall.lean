import OptionClearing.ForeignCall
import OptionClearing.Proofs.Host.Answer
import OptionClearing.Proofs.Purchase.Validation
import OptionClearing.Proofs.Record.Bytewise

/-!
The integer that a caller is answered with. Pointers are looked at first, then the input, then the
room for the record, and the caller's memory is written only without a complaint.
-/

namespace OptionClearing

namespace Region

/-- The region is said to hold bytes, but lies nowhere. -/
def Dangling : Region → Prop
  | null length => length ≠ 0
  | memory _ => False

instance : DecidablePred Dangling
  | null length => inferInstanceAs (Decidable (length ≠ 0))
  | memory _ => inferInstanceAs (Decidable False)

def content : Region → Bytes
  | null _ => []
  | memory bytes => bytes

theorem bytes?_of_dangling {region : Region} (dangling : region.Dangling) :
    region.bytes? = none := by
  cases region with
  | memory bytes => exact dangling.elim
  | null length =>
      cases length with
      | zero => exact absurd rfl dangling
      | succ length => rfl

theorem bytes?_of_not_dangling {region : Region} (valid : ¬ region.Dangling) :
    region.bytes? = some region.content := by
  cases region with
  | memory bytes => rfl
  | null length =>
      cases length with
      | zero => rfl
      | succ length => exact absurd (Nat.succ_ne_zero length) valid

theorem eq_memory_of_content_pos {region : Region} (room : 0 < region.content.length) :
    region = .memory region.content := by
  cases region with
  | memory bytes => rfl
  | null length => exact absurd room (Nat.lt_irrefl 0)

end Region

def Objection.code : Objection → Int
  | zeroAmount => -11
  | unknownOptionKind => -12
  | premiumTooHigh => -13
  | invalidSpotPrice => -14
  | insufficientPoolBalance => -15
  | arithmeticOverflow => -16

namespace PurchaseRules

variable (rules : PurchaseRules) (request : PurchaseRequest)

def firstObjection? : Option Objection :=
  Objection.inOrder.find? fun objection => decide (rules.Objects request objection)

theorem maxPayout_eq_firstObjection :
    rules.maxPayout request =
      match rules.firstObjection? request with
      | some objection => .error (rules.rejection request objection)
      | none => .ok (UInt64.ofNat (rules.owed request)) :=
  rules.maxPayout_eq_decision request

theorem code_rejection (objection : Objection) :
    (rules.rejection request objection).status.code = objection.code := by
  cases objection <;> rfl

theorem firstObjection?_standard_ne_overflow :
    standard.firstObjection? request ≠ some .arithmeticOverflow := by
  intro found
  have chosen := List.find?_some found
  -- an overflow is objected to in the full width only
  exact absurd (of_decide_eq_true chosen).2.1 (by decide)

end PurchaseRules

namespace ForeignCall

theorem leave_self {region : Region} {bytes : Bytes} (valid : region.bytes? = some bytes) :
    leave bytes region = region := by
  cases region with
  | null length => rfl
  | memory content => exact congrArg Region.memory (Option.some.inj valid).symm

theorem status_code_neg (status : Status) : status.code < 0 := by
  cases status <;> decide

theorem call_eq {α : Type} [Record α] (order : ByteOrder) (answer : Bytes → Except RunFailure α)
    (run : BufferHost → Except RunFailure α × BufferHost)
    (finishes : ∀ host, run host =
      Host.finish host (Record.answerBytes order (answer host.input)) (answer host.input))
    {input output : Region} {source target : Bytes} (inputValid : input.bytes? = some source)
    (outputValid : output.bytes? = some target) :
    call run input output =
      match answer source with
      | .ok record =>
        if target.length < Record.width α then (.error .outputTooSmall, output)
        else
          (.ok (Record.width α),
            leave (Record.encode order record ++ target.drop (Record.width α)) output)
      | .error failure => (.error failure.status, output) := by
  simp only [call, inputValid, outputValid, finishes]
  cases deserved : answer source with
  | error failure =>
      have fits : (Record.answerBytes order (.error failure : Except RunFailure α)).length ≤
          (BufferHost.start source target).buffer.length := Nat.zero_le _
      simp only [BufferHost.start, deserved] at fits ⊢
      rw [BufferHost.finish_of_fits _ _ _ fits]
      simp only [Record.answerBytes, List.nil_append, List.length_nil, List.drop_zero,
        leave_self outputValid]
  | ok record =>
      have width := Record.length_encode order record
      simp only [BufferHost.start, deserved, Record.answerBytes]
      by_cases exceeds : target.length < Record.width α
      · rw [if_pos exceeds, BufferHost.finish_of_exceeds _ _ _ (by simpa only [width] using exceeds)]
        simp only [leave_self outputValid, RunFailure.status, RecordFault.status]
      · have fits := Nat.not_lt.mp exceeds
        rw [if_neg exceeds, BufferHost.finish_of_fits _ _ _ (by simpa only [width] using fits)]
        simp only [width]

/-- What a call does to the caller's memory: nothing if it is answered with a negative integer, and
otherwise it puts a deserved record of that many bytes in front of the bytes that lay behind. -/
structure Leaves {α : Type} [Record α] (deserves : α → Prop) (result : Answer × Region)
    (output : Region) : Prop where
  untouched : returnCode result.1 < 0 → result.2 = output
  recorded : ∀ size : Nat, 0 < size → returnCode result.1 = size →
    ∃ record, deserves record ∧ (Record.encode .little record).length = size ∧
      result.2 = .memory (Record.encode .little record ++ output.content.drop size)

theorem Leaves.mono {α : Type} [Record α] {first second : α → Prop} {result : Answer × Region}
    {output : Region} (leaves : Leaves first result output)
    (weaker : ∀ record, first record → second record) : Leaves second result output where
  untouched := leaves.untouched
  recorded size positive counted := by
    obtain ⟨record, deserved, whole, left⟩ := leaves.recorded size positive counted
    exact ⟨record, weaker record deserved, whole, left⟩

theorem leaves_of_failure {α : Type} [Record α] {deserves : α → Prop} (status : Status)
    (output : Region) :
    Leaves deserves (.error status, output) output where
  untouched _ := rfl
  recorded size positive counted := by
    have negative : status.code < 0 := status_code_neg status
    change status.code = (size : Int) at counted
    omega

section Call

variable {α : Type} (run : BufferHost → Except RunFailure α × BufferHost) (input output : Region)

theorem call_of_dangling (dangling : input.Dangling ∨ output.Dangling) :
    call run input output = (.error .nullPointer, output) := by
  rcases dangling with lost | lost
  · simp only [call, Region.bytes?_of_dangling lost]
  · cases reached : input.bytes? with
    | none => simp only [call, reached]
    | some source => simp only [call, reached, Region.bytes?_of_dangling lost]

variable [Record α] (answer : Bytes → Except RunFailure α) (finishes : ∀ host, run host =
  Host.finish host (Record.answerBytes .little (answer host.input)) (answer host.input))

include finishes

theorem returnCode_call (inputValid : ¬ input.Dangling) (outputValid : ¬ output.Dangling) :
    returnCode (call run input output).1 =
      match answer input.content with
      | .error failure => failure.status.code
      | .ok _ =>
        if output.content.length < Record.width α then -4 else (Record.width α : Int) := by
  rw [call_eq .little answer run finishes (Region.bytes?_of_not_dangling inputValid)
    (Region.bytes?_of_not_dangling outputValid)]
  cases answer input.content with
  | error failure => rfl
  | ok record =>
      by_cases short : output.content.length < Record.width α
      · simp only [if_pos short]
        rfl
      · simp only [if_neg short]
        rfl

theorem leaves_call (wide : 0 < Record.width α) :
    Leaves (fun record => answer input.content = .ok record) (call run input output) output := by
  by_cases dangling : input.Dangling ∨ output.Dangling
  · rw [call_of_dangling run input output dangling]
    exact leaves_of_failure _ output
  obtain ⟨inputValid, outputValid⟩ := not_or.mp dangling
  rw [call_eq .little answer run finishes (Region.bytes?_of_not_dangling inputValid)
    (Region.bytes?_of_not_dangling outputValid)]
  cases deserved : answer input.content with
  | error failure => exact leaves_of_failure _ output
  | ok record =>
      by_cases short : output.content.length < Record.width α
      · simp only [if_pos short]
        exact leaves_of_failure _ output
      · have room : 0 < output.content.length := by omega
        simp only [if_neg short]
        constructor
        case untouched =>
          intro negative
          change (Record.width α : Int) < 0 at negative
          omega
        case recorded =>
          intro size _ counted
          have whole : Record.width α = size := Int.ofNat.inj counted
          refine ⟨record, rfl, (Record.length_encode .little record).trans whole, ?_⟩
          rw [Region.eq_memory_of_content_pos room, ← whole]
          rfl

end Call

variable (input output : Region)

theorem returnCode_settle (inputValid : ¬ input.Dangling) (outputValid : ¬ output.Dangling) :
    returnCode (settle input output).1 =
      if input.content.length ≠ 32 then -2
      else if ¬ Contract.KnownCodes .little input.content then -3
      else if output.content.length < 32 then -4
      else 32 := by
  have answered := returnCode_call _ input output (SettlementRules.answer .standard .little)
    (fun host => Host.settle_eq_finish host .standard .little) inputValid outputValid
  rw [settle, answered, SettlementRules.answer]
  by_cases whole : input.content.length = 32
  · rw [if_neg (not_not.mpr whole)]
    by_cases known : Contract.KnownCodes .little input.content
    · obtain ⟨contract, read⟩ := Contract.decode_of_knownCodes .little _ whole known
      rw [if_neg (not_not.mpr known), read]
      rfl
    · obtain ⟨field, word, refused⟩ := Contract.decode_of_not_knownCodes .little _ whole known
      rw [if_pos known, refused]
      rfl
  · rw [if_pos whole, Record.decode_of_length_ne .little _ whole]
    rfl

/-- The integer for a request: the first objection to it is complained of before the room. -/
def requestCode (request : PurchaseRequest) (room : Nat) : Int :=
  match PurchaseRules.standard.firstObjection? request with
  | some objection => objection.code
  | none => if room < 48 then -4 else 48

theorem requestCode_not_mem (request : PurchaseRequest) (room : Nat) :
    requestCode request room ∉ [-2, -3, -16] := by
  have narrowed := PurchaseRules.firstObjection?_standard_ne_overflow request
  rw [requestCode]
  cases chosen : PurchaseRules.standard.firstObjection? request with
  | none =>
      by_cases short : room < 48
      · simp [short]
      · simp [short]
  | some objection =>
      rw [chosen] at narrowed
      change objection.code ∉ [-2, -3, -16]
      cases objection with
      | arithmeticOverflow => exact absurd rfl narrowed
      | zeroAmount | unknownOptionKind | premiumTooHigh | invalidSpotPrice
        | insufficientPoolBalance => decide

section Purchase

variable (inputValid : ¬ input.Dangling) (outputValid : ¬ output.Dangling)

include inputValid outputValid

theorem returnCode_validatePurchase_of_valid :
    returnCode (validatePurchase input output).1 =
      match Validator.standard.validateBytes input.content with
      | .error reason => reason.status.code
      | .ok _ => if output.content.length < 48 then -4 else 48 := by
  have answered := returnCode_call _ input output (Validator.answer .standard)
    (fun host => Host.purchase_eq_finish host .standard) inputValid outputValid
  rw [validatePurchase, answered, Validator.answer]
  cases Validator.standard.validateBytes input.content with
  | error reason => rfl
  | ok record => rfl

theorem returnCode_validatePurchase_of_length_ne (wrong : input.content.length ≠ 88) :
    returnCode (validatePurchase input output).1 = -10 := by
  rw [returnCode_validatePurchase_of_valid input output inputValid outputValid,
    Validator.standard.validateBytes_of_length_ne _ wrong]
  rfl

theorem returnCode_validatePurchase_of_decode (request : PurchaseRequest)
    (read : Record.decode .little input.content = .ok request) :
    returnCode (validatePurchase input output).1 =
      requestCode request output.content.length := by
  have validated : Validator.standard.validateBytes input.content =
      Validator.standard.record request input.content :=
    Validator.standard.validateBytes_of_decode _ request read
  have decided := PurchaseRules.standard.maxPayout_eq_firstObjection request
  rw [returnCode_validatePurchase_of_valid input output inputValid outputValid, validated,
    requestCode]
  cases chosen : PurchaseRules.standard.firstObjection? request with
  | none =>
      rw [chosen] at decided
      have accepted := (Validator.standard.record_eq_ok_iff request input.content _).mpr
        ⟨_, decided, rfl⟩
      rw [accepted]
  | some objection =>
      rw [chosen] at decided
      have refused := Validator.standard.record_of_rejected request input.content _ decided
      rw [refused]
      exact PurchaseRules.standard.code_rejection request objection

end Purchase

theorem returnCode_validatePurchase :
    if input.Dangling ∨ output.Dangling then returnCode (validatePurchase input output).1 = -1
    else if input.content.length ≠ 88 then returnCode (validatePurchase input output).1 = -10
    else ∃ request, Record.decode .little input.content = .ok request ∧
      returnCode (validatePurchase input output).1 =
        requestCode request output.content.length := by
  by_cases dangling : input.Dangling ∨ output.Dangling
  · rw [if_pos dangling, validatePurchase, call_of_dangling _ input output dangling]
    rfl
  obtain ⟨inputValid, outputValid⟩ := not_or.mp dangling
  rw [if_neg dangling]
  by_cases whole : input.content.length = 88
  · obtain ⟨request, read⟩ := PurchaseRequest.decode_of_length .little input.content whole
    rw [if_neg (not_not.mpr whole)]
    exact ⟨request, read,
      returnCode_validatePurchase_of_decode input output inputValid outputValid request read⟩
  · rw [if_pos whole]
    exact returnCode_validatePurchase_of_length_ne input output inputValid outputValid whole

theorem returnCode_validatePurchase_not_mem :
    returnCode (validatePurchase input output).1 ∉ [-2, -3, -16] := by
  have code := returnCode_validatePurchase input output
  split at code
  · rw [code]
    decide
  · split at code
    · rw [code]
      decide
    · obtain ⟨request, _, decided⟩ := code
      rw [decided]
      exact requestCode_not_mem request output.content.length

/-- Every call is decided by the first complaint about it, and only a call without one changes the
caller's memory: it leaves the record of the standard parts there, and nothing else. -/
theorem first_complaint_answered :
    (returnCode (settle input output).1 =
      if input.Dangling ∨ output.Dangling then -1
      else if input.content.length ≠ 32 then -2
      else if ¬ Contract.KnownCodes .little input.content then -3
      else if output.content.length < 32 then -4
      else 32) ∧
    Leaves (fun outcome => ∃ contract, Record.decode .little input.content = .ok contract ∧
      outcome = SettlementRules.standard.settle contract) (settle input output) output ∧
    (if input.Dangling ∨ output.Dangling then returnCode (validatePurchase input output).1 = -1
      else if input.content.length ≠ 88 then
        returnCode (validatePurchase input output).1 = -10
      else ∃ request, Record.decode .little input.content = .ok request ∧
        returnCode (validatePurchase input output).1 =
          requestCode request output.content.length) ∧
    returnCode (validatePurchase input output).1 ∉ [-2, -3, -16] ∧
    Leaves (fun record => Validator.standard.validateBytes input.content = .ok record)
      (validatePurchase input output) output := by
  have settlement := leaves_call _ input output (SettlementRules.answer .standard .little)
    (fun host => Host.settle_eq_finish host .standard .little) (by decide)
  have purchase := leaves_call _ input output (Validator.answer .standard)
    (fun host => Host.purchase_eq_finish host .standard) (by decide)
  refine ⟨?settled, ?outcome, returnCode_validatePurchase input output,
    returnCode_validatePurchase_not_mem input output, ?record⟩
  case settled =>
    by_cases dangling : input.Dangling ∨ output.Dangling
    · rw [if_pos dangling, settle, call_of_dangling _ input output dangling]
      rfl
    · obtain ⟨inputValid, outputValid⟩ := not_or.mp dangling
      rw [if_neg dangling]
      exact returnCode_settle input output inputValid outputValid
  case outcome =>
    apply settlement.mono
    intro outcome deserved
    exact (SettlementRules.standard.answer_eq_ok_iff .little _ outcome).mp deserved
  case record =>
    apply purchase.mono
    intro record deserved
    exact (Validator.standard.answer_eq_ok_iff _ record).mp deserved

theorem covered_call_recorded :
    (validatePurchase (.memory (Record.encode .little Validator.coveredCall))
        (.memory (List.replicate 50 0xff))).2 =
      .memory (Record.encode .little Validator.coveredRecord ++ [0xff, 0xff]) ∧
    returnCode (validatePurchase (.memory (Record.encode .little Validator.dearCall))
        (.memory [1, 2, 3])).1 = -13 ∧
    (validatePurchase (.memory (Record.encode .little Validator.dearCall)) (.memory [1, 2, 3])).2 =
      .memory [1, 2, 3] := by
  obtain ⟨_, _, _, _, accepted⟩ := first_complaint_answered
    (.memory (Record.encode .little Validator.coveredCall)) (.memory (List.replicate 50 0xff))
  obtain ⟨_, _, _, _, refused⟩ := first_complaint_answered
    (.memory (Record.encode .little Validator.dearCall)) (.memory [1, 2, 3])
  have counted : returnCode (validatePurchase
      (.memory (Record.encode .little Validator.coveredCall))
      (.memory (List.replicate 50 0xff))).1 = 48 := by decide +kernel
  have dear : returnCode (validatePurchase (.memory (Record.encode .little Validator.dearCall))
      (.memory [1, 2, 3])).1 = -13 := by decide +kernel
  obtain ⟨record, deserved, _, left⟩ := accepted.recorded 48 (by decide) counted
  have same := deserved.symm.trans Validator.validateBytes_coveredCall
  cases same
  exact ⟨left, dear, refused.untouched (by rw [dear]; decide)⟩

end ForeignCall

end OptionClearing
