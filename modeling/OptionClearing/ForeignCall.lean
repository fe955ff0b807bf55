import OptionClearing.Host.Recording

/-! Both runs as calls over memory that the caller owns, answered by one integer. -/

namespace OptionClearing

inductive Status
  | nullPointer
  | lengthMismatch
  | invalidField
  | outputTooSmall
  | malformedInput
  | zeroAmount
  | unknownOptionKind
  | premiumTooHigh
  | invalidSpotPrice
  | insufficientPoolBalance
  | arithmeticOverflow
  deriving DecidableEq, Repr

/-- Every status is negative, so none is mistaken for a number of bytes. -/
def Status.code : Status → Int
  | nullPointer => -1
  | lengthMismatch => -2
  | invalidField => -3
  | outputTooSmall => -4
  | malformedInput => -10
  | zeroAmount => -11
  | unknownOptionKind => -12
  | premiumTooHigh => -13
  | invalidSpotPrice => -14
  | insufficientPoolBalance => -15
  | arithmeticOverflow => -16

def RecordFault.status : RecordFault → Status
  | lengthMismatch _ _ => .lengthMismatch
  | invalidField _ _ => .invalidField
  | outputTooSmall _ _ => .outputTooSmall

def Rejection.status : Rejection → Status
  | malformedInput _ _ => .malformedInput
  | zeroAmount => .zeroAmount
  | unknownOptionKind _ => .unknownOptionKind
  | premiumTooHigh _ _ => .premiumTooHigh
  | invalidSpotPrice => .invalidSpotPrice
  | insufficientPoolBalance _ _ => .insufficientPoolBalance
  | arithmeticOverflow => .arithmeticOverflow

def RunFailure.status : RunFailure → Status
  | record fault => fault.status
  | rejected reason => reason.status

inductive Region
  | null (length : Nat)
  | memory (bytes : Bytes)
  deriving DecidableEq, Repr

/-- A null pointer stands for the empty region, and for nothing else. -/
def Region.bytes? : Region → Option Bytes
  | null 0 => some []
  | null (_ + 1) => none
  | memory bytes => some bytes

namespace ForeignCall

abbrev Answer := Except Status Nat

def returnCode : Answer → Int
  | .ok written => written
  | .error status => status.code

def leave (bytes : Bytes) : Region → Region
  | .null length => .null length
  | .memory _ => .memory bytes

def call {α : Type} (run : BufferHost → Except RunFailure α × BufferHost)
    (input output : Region) : Answer × Region :=
  match input.bytes?, output.bytes? with
  | some source, some target =>
    match run (.start source target) with
    | (.ok _, host) => (.ok host.written, leave host.buffer output)
    | (.error failure, host) => (.error failure.status, leave host.buffer output)
  | _, _ => (.error .nullPointer, output)

def settle (input output : Region) : Answer × Region :=
  call (fun host => Host.settle host .standard .little) input output

def validatePurchase (input output : Region) : Answer × Region :=
  call (fun host => Host.purchase host .standard) input output

end ForeignCall

end OptionClearing
