import OptionClearing.Checksum.Sha256
import OptionClearing.Proofs.Purchase.Decision
import OptionClearing.Proofs.Record.Bytewise

/-!
What stands behind a purchase record: the pool covers what it can owe, and the record names its
request. How the request arrived and who validated it show in the checksum alone.
-/

namespace OptionClearing

namespace Validator

structure Backs (validator : Validator) (request : PurchaseRequest) (raw : Bytes)
    (record : PurchaseRecord) : Prop where
  covered : record.maxPayout.toNat ≤ request.poolBalance.toNat
  purchaseId : record.purchaseId = request.purchaseId
  checksum : record.checksum = validator.hasher raw
  premium_pos : 1 ≤ request.premium.toNat
  premium_le : request.premium.toNat ≤
    request.quantity.toNat / max validator.rules.maxPremiumDivisor.toNat 1

variable (validator : Validator)

theorem record_eq_ok_iff (request : PurchaseRequest) (raw : Bytes) (record : PurchaseRecord) :
    validator.record request raw = .ok record ↔
      ∃ bound, validator.rules.maxPayout request = .ok bound ∧
        record = ⟨request.purchaseId, validator.hasher raw, bound⟩ := by
  simp only [Validator.record]
  cases validator.rules.maxPayout request with
  | error reason => simp [Except.map]
  | ok bound => simp [Except.map, eq_comm]

theorem record_of_rejected (request : PurchaseRequest) (raw : Bytes) (reason : Rejection)
    (rejected : validator.rules.maxPayout request = .error reason) :
    validator.record request raw = .error reason := by
  rw [Validator.record, rejected]
  rfl

theorem validateBytes_of_decode (raw : Bytes) (request : PurchaseRequest)
    (read : Record.decode validator.order raw = .ok request) :
    validator.validateBytes raw = validator.record request raw := by
  rw [validateBytes, read]

theorem validateBytes_eq_ok_iff (raw : Bytes) (record : PurchaseRecord) :
    validator.validateBytes raw = .ok record ↔
      ∃ request bound, Record.decode validator.order raw = .ok request ∧
        validator.rules.maxPayout request = .ok bound ∧
        record = ⟨request.purchaseId, validator.hasher raw, bound⟩ := by
  simp only [validateBytes]
  cases (Record.decode validator.order raw : Except RecordFault PurchaseRequest) with
  | error fault => simp
  | ok request => simp [record_eq_ok_iff]

theorem validateBytes_of_length_ne (raw : Bytes) (wrong : raw.length ≠ 88) :
    validator.validateBytes raw = .error (.malformedInput 88 raw.length) := by
  rw [← width_purchaseRequest] at wrong ⊢
  rw [validateBytes, Record.decode_eq, if_neg wrong]

theorem backs_of_validateBytes (raw : Bytes) (record : PurchaseRecord)
    (accepted : validator.validateBytes raw = .ok record) :
    ∃ request, Record.decode validator.order raw = .ok request ∧
      validator.Backs request raw record := by
  obtain ⟨request, bound, read, bounded, rfl⟩ :=
    (validator.validateBytes_eq_ok_iff raw record).mp accepted
  obtain ⟨clear, exactly⟩ := (validator.rules.maxPayout_eq_ok_iff request bound).mp bounded
  -- an accepted request is clear of the objections, and that is what backs its record
  obtain ⟨_, ⟨paid, affordable⟩, solvent⟩ := (validator.rules.clear_iff request).mp clear
  refine ⟨request, read, ?_⟩
  exact {
    covered := Nat.le_trans (Nat.le_of_eq exactly) solvent
    purchaseId := rfl
    checksum := rfl
    premium_pos := paid
    premium_le := affordable }

/-- A call against a pool that holds no more than it can owe. -/
def coveredCall : PurchaseRequest :=
  ⟨.replicate _ 7, .replicate _ 2, 1000, 100, 10000, 42, 0, 10000, 1000⟩

def coveredRecord : PurchaseRecord :=
  ⟨#v[7, 7, 2, 2, 0, 0, 0, 42], Fnv.checksum (Record.encode .little coveredCall), 1000⟩

theorem validateBytes_coveredCall :
    standard.validateBytes (Record.encode .little coveredCall) = .ok coveredRecord := by
  apply (standard.validateBytes_eq_ok_iff _ coveredRecord).mpr
  exact ⟨coveredCall, 1000, Record.decode_encode .little coveredCall, rfl, rfl⟩

/-- The covered call at the least premium that is too high for its quantity. -/
def dearCall : PurchaseRequest := { coveredCall with premium := 501 }

theorem validateBytes_eq_validate (raw : Bytes) (request : PurchaseRequest)
    (read : Record.decode validator.order raw = .ok request) :
    validator.validateBytes raw = validator.validate request := by
  -- the typed request is hashed over its own encoding, which is what was read
  have canonical := Record.encode_decode validator.order raw request read
  rw [validator.validateBytes_of_decode raw request read, validate, canonical]

theorem checksum_of_validateBytes (raw : Bytes) (record : PurchaseRecord)
    (accepted : validator.validateBytes raw = .ok record) :
    record.checksum = validator.hasher raw := by
  obtain ⟨_, _, _, _, rfl⟩ := (validator.validateBytes_eq_ok_iff raw record).mp accepted
  rfl

theorem record_map_maxPayout (request : PurchaseRequest) (raw : Bytes) :
    (validator.record request raw).map PurchaseRecord.maxPayout =
      validator.rules.maxPayout request := by
  rw [Validator.record]
  cases validator.rules.maxPayout request <;> rfl

/-- Validation tells a request as it arrives from a request as it is meant only by its length. -/
theorem arrival_is_unnoticed :
    (∀ request, validator.validateBytes (Record.encode validator.order request) =
      validator.validate request) ∧
    (∀ raw : Bytes, raw.length = 88 →
      ∃ request, Record.decode validator.order raw = .ok request ∧
        validator.validateBytes raw = validator.validate request ∧
        ∀ record, validator.validateBytes raw = .ok record →
          record.checksum = validator.hasher raw) ∧
    (∀ raw : Bytes, raw.length ≠ 88 →
      ∃ expected actual, expected = 88 ∧ actual = raw.length ∧
        (Record.decode validator.order raw : Except RecordFault PurchaseRequest) =
          .error (.lengthMismatch expected actual) ∧
        validator.validateBytes raw = .error (.malformedInput expected actual)) ∧
    (∀ request, (validator.validate request).map PurchaseRecord.maxPayout =
      validator.rules.maxPayout request) ∧
    (∀ raw request, Record.decode validator.order raw = .ok request →
      (validator.validateBytes raw).map PurchaseRecord.maxPayout =
        validator.rules.maxPayout request) := by
  refine ⟨?encoded, ?whole, ?misshapen, ?typed, ?raw⟩
  case encoded =>
    intro request
    apply validator.validateBytes_eq_validate
    exact Record.decode_encode validator.order request
  case whole =>
    intro raw whole
    obtain ⟨request, read⟩ := PurchaseRequest.decode_of_length validator.order raw whole
    refine ⟨request, read, validator.validateBytes_eq_validate raw request read, ?_⟩
    intro record accepted
    exact validator.checksum_of_validateBytes raw record accepted
  case misshapen =>
    intro raw wrong
    refine ⟨88, raw.length, rfl, rfl, ?_, validator.validateBytes_of_length_ne raw wrong⟩
    rw [← width_purchaseRequest] at wrong ⊢
    exact Record.decode_of_length_ne validator.order raw wrong
  case typed =>
    intro request
    exact validator.record_map_maxPayout request _
  case raw =>
    intro raw request read
    rw [validator.validateBytes_of_decode raw request read]
    exact validator.record_map_maxPayout request raw

def bigEndian : Validator := { standard with order := .big }

theorem big_endian_arrival_unnoticed :
    let raw := Record.encode .big coveredCall
    (raw.length = 88 ∧ ∃ request, Record.decode .big raw = .ok request ∧
      bigEndian.validateBytes raw = bigEndian.validate request ∧
      (bigEndian.validateBytes raw).map PurchaseRecord.maxPayout =
        PurchaseRules.standard.maxPayout request) ∧
    (([1, 2, 3] : Bytes).length ≠ 88 ∧
      bigEndian.validateBytes [1, 2, 3] = .error (.malformedInput 88 3)) := by
  intro raw
  obtain ⟨_, whole, misshapen, _, decided⟩ := arrival_is_unnoticed bigEndian
  have length : raw.length = 88 := Record.length_encode .big coveredCall
  have short : ([1, 2, 3] : Bytes).length ≠ 88 := by decide
  obtain ⟨request, read, same, _⟩ := whole raw length
  obtain ⟨_, _, rfl, rfl, _, malformed⟩ := misshapen [1, 2, 3] short
  exact ⟨⟨length, request, read, same, decided raw request read⟩, short, malformed⟩

end Validator

/-- Two answers that share all but their checksums. -/
inductive TwinAnswers (checksum other : Checksum) :
    Except Rejection PurchaseRecord → Except Rejection PurchaseRecord → Prop
  | rejected (reason : Rejection) : TwinAnswers checksum other (.error reason) (.error reason)
  | accepted (purchaseId : Vector UInt8 purchaseIdLength) (maxPayout : UInt64) :
    TwinAnswers checksum other (.ok ⟨purchaseId, checksum, maxPayout⟩)
      (.ok ⟨purchaseId, other, maxPayout⟩)

namespace TwinAnswers

variable {checksum other : Checksum} {answer : Except Rejection PurchaseRecord}

theorem eq_ok {record : PurchaseRecord}
    (twins : TwinAnswers checksum other (.ok record) answer) :
    answer = .ok { record with checksum := other } := by
  cases twins with
  | accepted purchaseId maxPayout => rfl

theorem eq_error {reason : Rejection} (twins : TwinAnswers checksum other (.error reason) answer) :
    answer = .error reason := by
  cases twins with
  | rejected reason => rfl

end TwinAnswers

namespace Validator

section Pair

variable {first second : Validator} (alike : first.rules = second.rules)
  (request : PurchaseRequest)

include alike

theorem record_twins (raw other : Bytes) :
    TwinAnswers (first.hasher raw) (second.hasher other) (first.record request raw)
      (second.record request other) := by
  rw [Validator.record, Validator.record, ← alike]
  cases first.rules.maxPayout request with
  | error reason => exact .rejected reason
  | ok maxPayout => exact .accepted request.purchaseId maxPayout

theorem validateBytes_twins (raw other : Bytes) (read : Record.decode first.order raw = .ok request)
    (reread : Record.decode second.order other = .ok request) :
    TwinAnswers (first.hasher raw) (second.hasher other) (first.validateBytes raw)
      (second.validateBytes other) := by
  rw [first.validateBytes_of_decode raw request read,
    second.validateBytes_of_decode other request reread]
  exact record_twins alike request raw other

end Pair

/-- Byte order and hasher show in the checksum of an accepted request and nowhere else, on the typed
path and on the raw one. -/
theorem order_and_hasher_show_in_checksum (first second : Validator)
    (alike : first.rules = second.rules) (request : PurchaseRequest) :
    let checksum := first.hasher (Record.encode first.order request)
    let other := second.hasher (Record.encode second.order request)
    TwinAnswers checksum other (first.validate request) (second.validate request) ∧
      TwinAnswers checksum other (first.validateBytes (Record.encode first.order request))
        (second.validateBytes (Record.encode second.order request)) := by
  intro checksum other
  constructor
  · exact record_twins alike request _ _
  · apply validateBytes_twins alike request
    · exact Record.decode_encode first.order request
    · exact Record.decode_encode second.order request

def hardened : Validator := ⟨.standard, .big, Sha256.checksum⟩

theorem hardened_pool_answers_alike :
    standard.rules = hardened.rules ∧
      standard.validateBytes (Record.encode .little coveredCall) = .ok coveredRecord ∧
      hardened.validateBytes (Record.encode .big coveredCall) =
        .ok { coveredRecord with checksum := hardened.hasher (Record.encode .big coveredCall) } ∧
      standard.validate dearCall = .error (.premiumTooHigh 501 500) ∧
      hardened.validate dearCall = .error (.premiumTooHigh 501 500) := by
  have rejected : standard.validate dearCall = .error (.premiumTooHigh 501 500) :=
    standard.record_of_rejected dearCall _ _ rfl
  obtain ⟨_, covered⟩ := order_and_hasher_show_in_checksum standard hardened rfl coveredCall
  obtain ⟨dear, _⟩ := order_and_hasher_show_in_checksum standard hardened rfl dearCall
  rw [rejected] at dear
  have accepted : standard.validateBytes (Record.encode standard.order coveredCall) =
      .ok coveredRecord := validateBytes_coveredCall
  rw [accepted] at covered
  exact ⟨rfl, accepted, covered.eq_ok, rejected, dear.eq_error⟩

end Validator

end OptionClearing
