import OptionClearing.Amount
import OptionClearing.Checksum.Fnv

/-!
Purchases of options from a pool. Amounts, kind, premium, payout bound and pool are checked in this
order, and the first failure is the answer.
-/

namespace OptionClearing

open Amount

inductive PurchaseKind
  | call
  | put
  deriving DecidableEq, Repr

def PurchaseKind.ofCode? : UInt8 → Option PurchaseKind
  | 0 => some .call
  | 1 => some .put
  | _ => none

abbrev optionIdLength : Nat := 6

abbrev buyerKeyLength : Nat := 33

abbrev purchaseIdLength : Nat := 8

/-- A proposed purchase with the state of pool and market that it is held against. -/
structure PurchaseRequest where
  optionId : Vector UInt8 optionIdLength
  buyerKey : Vector UInt8 buyerKeyLength
  quantity : UInt64
  premium : UInt64
  strike : UInt64
  expiry : UInt64
  kindCode : UInt8
  spot : UInt64
  poolBalance : UInt64
  deriving DecidableEq, Repr

/-- Two bytes of the option's id, two of the buyer's key, and the low half of the expiry with its
most significant byte first. -/
def PurchaseRequest.purchaseId (request : PurchaseRequest) : Vector UInt8 purchaseIdLength :=
  let bytes := request.optionId.toList.take 2 ++ request.buyerKey.toList.take 2 ++
    ByteOrder.big.encode 4 (Amount.lowHalf request.expiry).toNat
  ⟨bytes.toArray, by simp [bytes, optionIdLength, buyerKeyLength, purchaseIdLength]⟩

structure PurchaseRecord where
  purchaseId : Vector UInt8 purchaseIdLength
  checksum : Checksum
  maxPayout : UInt64
  deriving DecidableEq, Repr

instance : Record PurchaseRequest where
  layout := [
    ⟨"option_id", .raw optionIdLength⟩,
    ⟨"buyer_pubkey", .raw buyerKeyLength⟩,
    ⟨"quantity", .word64⟩,
    ⟨"premium", .word64⟩,
    ⟨"strike", .word64⟩,
    ⟨"expiry", .word64⟩,
    ⟨"option_kind", .byte⟩,
    ⟨"spot", .word64⟩,
    ⟨"pool_balance", .word64⟩]
  toFields request :=
    (request.optionId, request.buyerKey, request.quantity, request.premium, request.strike,
      request.expiry, request.kindCode, request.spot, request.poolBalance, ())
  ofFields
    | (optionId, buyerKey, quantity, premium, strike, expiry, kindCode, spot, poolBalance, ()) =>
      { optionId, buyerKey, quantity, premium, strike, expiry, kindCode, spot, poolBalance }
  ofFields_toFields _ := rfl
  toFields_ofFields _ := rfl

theorem width_purchaseRequest : Record.width PurchaseRequest = 88 := rfl

instance : Record PurchaseRecord where
  layout := [
    ⟨"purchase_id", .raw purchaseIdLength⟩,
    ⟨"checksum", .raw checksumLength⟩,
    ⟨"max_payout", .word64⟩]
  toFields record := (record.purchaseId, record.checksum, record.maxPayout, ())
  ofFields
    | (purchaseId, checksum, maxPayout, ()) => { purchaseId, checksum, maxPayout }
  ofFields_toFields _ := rfl
  toFields_ofFields _ := rfl

theorem width_purchaseRecord : Record.width PurchaseRecord = 48 := rfl

inductive Rejection
  | malformedInput (expected actual : Nat)
  | zeroAmount
  | unknownOptionKind (code : UInt8)
  | premiumTooHigh (premium maxPremium : UInt64)
  | invalidSpotPrice
  | insufficientPoolBalance (required available : UInt64)
  | arithmeticOverflow
  deriving DecidableEq, Repr

def Rejection.message : Rejection → String
  | malformedInput expected actual => s!"malformed input: expected {expected} bytes, got {actual}"
  | zeroAmount => "quantity and premium must be non-zero"
  | unknownOptionKind code => s!"unknown option kind {code}"
  | premiumTooHigh premium maxPremium => s!"premium {premium} exceeds maximum {maxPremium}"
  | invalidSpotPrice => "spot price must be non-zero"
  | insufficientPoolBalance required available =>
    s!"pool balance {available} below maximum payout {required}"
  | arithmeticOverflow => "arithmetic overflow"

inductive PutBound
  /-- All three are cut to their low halves; without a low half of the spot price, the bound is
  the quantity. -/
  | narrowed
  | fullWidth
  deriving DecidableEq, Repr

def PutBound.bound (mode : PutBound) (strike quantity spot : UInt64) : Except Rejection UInt64 :=
  if spot = 0 then .error .invalidSpotPrice
  else
    match mode with
    | .narrowed =>
      let divisor := (lowHalf spot).toUInt64
      if divisor = 0 then .ok quantity
      else .ok ((lowHalf strike).toUInt64 * (lowHalf quantity).toUInt64 / divisor)
    | .fullWidth =>
      match mulDiv? strike quantity spot with
      | some bound => .ok bound
      | none => .error .arithmeticOverflow

structure PurchaseRules where
  /-- A premium may be at most the quantity divided by this; zero counts as one. -/
  maxPremiumDivisor : UInt64
  putBound : PutBound
  deriving DecidableEq, Repr

namespace PurchaseRules

def standard : PurchaseRules where
  maxPremiumDivisor := 2
  putBound := .narrowed

def maxPremium (rules : PurchaseRules) (quantity : UInt64) : UInt64 :=
  quantity / max rules.maxPremiumDivisor 1

def payoutBound (rules : PurchaseRules) (kind : PurchaseKind) (request : PurchaseRequest) :
    Except Rejection UInt64 :=
  match kind with
  | .call => .ok request.quantity
  | .put => rules.putBound.bound request.strike request.quantity request.spot

def maxPayout (rules : PurchaseRules) (request : PurchaseRequest) : Except Rejection UInt64 :=
  let maxPremium := rules.maxPremium request.quantity
  if request.quantity = 0 ∨ request.premium = 0 then .error .zeroAmount
  else
    match PurchaseKind.ofCode? request.kindCode with
    | none => .error (.unknownOptionKind request.kindCode)
    | some kind =>
      if maxPremium < request.premium then .error (.premiumTooHigh request.premium maxPremium)
      else
        match rules.payoutBound kind request with
        | .error reason => .error reason
        | .ok bound =>
          if request.poolBalance < bound then
            .error (.insufficientPoolBalance bound request.poolBalance)
          else .ok bound

end PurchaseRules

structure Validator where
  rules : PurchaseRules
  order : ByteOrder
  hasher : Hasher

namespace Validator

def standard : Validator := ⟨.standard, .little, Fnv.checksum⟩

def record (validator : Validator) (request : PurchaseRequest) (raw : Bytes) :
    Except Rejection PurchaseRecord :=
  (validator.rules.maxPayout request).map fun maxPayout =>
    { purchaseId := request.purchaseId, checksum := validator.hasher raw, maxPayout }

/-- Validates a request as though it had been received in the validator's byte order. -/
def validate (validator : Validator) (request : PurchaseRequest) :
    Except Rejection PurchaseRecord :=
  validator.record request (Record.encode validator.order request)

def validateBytes (validator : Validator) (raw : Bytes) : Except Rejection PurchaseRecord :=
  match Record.decode validator.order raw with
  | .ok request => validator.record request raw
  | .error _ => .error (.malformedInput (Record.width PurchaseRequest) raw.length)

end Validator

end OptionClearing
