import OptionClearing.Purchase
import OptionClearing.Settlement

/-!
Claims about an output are settled by computing the output again and comparing. An exhibit is an
input with a claimed output, either of which may be tampered with.
-/

namespace OptionClearing

/-- The first position at which two byte strings differ or one of them ends. -/
def firstMismatch : Bytes → Bytes → Option Nat
  | [], [] => none
  | expected :: rest, claimed :: others =>
    if expected = claimed then (firstMismatch rest others).map (· + 1) else some 0
  | _, _ => some 0

inductive Verdict
  | agree
  | diverge (position : Nat)
  deriving DecidableEq, Repr

structure DisputeReport where
  verdict : Verdict
  expectedLength : Nat
  claimedLength : Nat
  expectedFingerprint : UInt64
  claimedFingerprint : UInt64
  deriving DecidableEq, Repr

namespace DisputeReport

def compare (expected claimed : Bytes) : DisputeReport where
  verdict := (firstMismatch expected claimed).elim .agree .diverge
  expectedLength := expected.length
  claimedLength := claimed.length
  expectedFingerprint := Fnv.hash64 expected
  claimedFingerprint := Fnv.hash64 claimed

def agrees (report : DisputeReport) : Bool := report.verdict == .agree

end DisputeReport

structure Verifier where
  rules : SettlementRules
  validator : Validator

inductive RunFamily
  | settlement
  | purchase
  deriving DecidableEq, Repr

namespace Verifier

def standard : Verifier := ⟨.standard, .standard⟩

def honestSettlement (verifier : Verifier) (input : Bytes) : Bytes :=
  match Record.decode verifier.validator.order input with
  | .ok contract => Record.encode verifier.validator.order (verifier.rules.settle contract)
  | .error _ => []

def honestPurchase (verifier : Verifier) (input : Bytes) : Bytes :=
  match verifier.validator.validateBytes input with
  | .ok record => Record.encode verifier.validator.order record
  | .error _ => []

def honest (verifier : Verifier) : RunFamily → Bytes → Bytes
  | .settlement => verifier.honestSettlement
  | .purchase => verifier.honestPurchase

def verifySettlement (verifier : Verifier) (input claimed : Bytes) : DisputeReport :=
  .compare (verifier.honestSettlement input) claimed

def verifyPurchase (verifier : Verifier) (input claimed : Bytes) : DisputeReport :=
  .compare (verifier.honestPurchase input) claimed

def verify (verifier : Verifier) : RunFamily → Bytes → Bytes → DisputeReport
  | .settlement => verifier.verifySettlement
  | .purchase => verifier.verifyPurchase

end Verifier

inductive Tampering
  | flip (position : Nat) (mask : UInt8)
  | truncate (length : Nat)
  | append (suffix : Bytes)
  | replace (bytes : Bytes)
  deriving DecidableEq, Repr

/-- Flipping a position beyond the end changes nothing, nor does truncating to a greater length. -/
def Tampering.apply : Tampering → Bytes → Bytes
  | flip position mask, bytes => bytes.modify position (· ^^^ mask)
  | truncate length, bytes => bytes.take length
  | append suffix, bytes => bytes ++ suffix
  | replace others, _ => others

structure Exhibit where
  input : Bytes
  claim : Bytes
  deriving DecidableEq, Repr

inductive ExhibitStep
  | tamperInput (tampering : Tampering)
  | tamperClaim (tampering : Tampering)
  | concede
  deriving DecidableEq, Repr

namespace Exhibit

def change (verifier : Verifier) (family : RunFamily) (exhibit : Exhibit) :
    ExhibitStep → Exhibit
  | .tamperInput tampering => { exhibit with input := tampering.apply exhibit.input }
  | .tamperClaim tampering => { exhibit with claim := tampering.apply exhibit.claim }
  | .concede => { exhibit with claim := verifier.honest family exhibit.input }

/-- The report on the exhibit as it stands, and one more after every step. -/
def reports (verifier : Verifier) (family : RunFamily) (exhibit : Exhibit) :
    List ExhibitStep → List DisputeReport
  | [] => [verifier.verify family exhibit.input exhibit.claim]
  | step :: steps =>
    verifier.verify family exhibit.input exhibit.claim ::
      reports verifier family (exhibit.change verifier family step) steps

end Exhibit

end OptionClearing
