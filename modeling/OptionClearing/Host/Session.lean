import OptionClearing.Purchase
import OptionClearing.Settlement

/-!
Runs read one input record from a host and write one output record to it, and the output of a run
without a record is empty. A session is a sequence of runs and plain writes on one host.
-/

namespace OptionClearing

inductive RunFailure
  | record (fault : RecordFault)
  | rejected (reason : Rejection)
  deriving DecidableEq, Repr

def RunFailure.message : RunFailure → String
  | record fault => fault.message
  | rejected reason => s!"purchase rejected: {reason.message}"

/-- Where the input record lies, and what becomes of an output. -/
class Host (σ : Type) where
  input : σ → Bytes
  write : σ → Bytes → Except RecordFault Unit × σ

namespace Host

variable {σ α : Type} [Host σ]

/-- Writes the output of a run and answers with its value, unless the host refuses the output. -/
def finish (host : σ) (output : Bytes) (value : Except RunFailure α) :
    Except RunFailure α × σ :=
  match write host output with
  | (.ok (), host) => (value, host)
  | (.error fault, host) => (.error (.record fault), host)

def settle (host : σ) (rules : SettlementRules) (order : ByteOrder) :
    Except RunFailure Outcome × σ :=
  match Record.decode order (input host) with
  | .ok contract =>
    let outcome := rules.settle contract
    finish host (Record.encode order outcome) (.ok outcome)
  | .error fault => finish host [] (.error (.record fault))

def purchase (host : σ) (validator : Validator) : Except RunFailure PurchaseRecord × σ :=
  match validator.validateBytes (input host) with
  | .ok record => finish host (Record.encode validator.order record) (.ok record)
  | .error reason => finish host [] (.error (.rejected reason))

end Host

inductive SessionStep
  | write (bytes : Bytes)
  | settle (rules : SettlementRules) (order : ByteOrder)
  | purchase (validator : Validator)

inductive SessionAnswer
  | written
  | settled (outcome : Outcome)
  | purchased (record : PurchaseRecord)
  deriving DecidableEq, Repr

namespace SessionStep

variable {σ : Type} [Host σ]

def run (host : σ) : SessionStep → Except RunFailure SessionAnswer × σ
  | write bytes => Host.finish host bytes (.ok .written)
  | settle rules order =>
    let (answer, host) := Host.settle host rules order
    (answer.map .settled, host)
  | purchase validator =>
    let (answer, host) := Host.purchase host validator
    (answer.map .purchased, host)

end SessionStep

namespace Session

variable {σ : Type} [Host σ]

def trace (host : σ) : List SessionStep → List (Except RunFailure SessionAnswer × σ)
  | [] => []
  | step :: steps =>
    let (answer, next) := step.run host
    (answer, next) :: trace next steps

def run (host : σ) (steps : List SessionStep) : σ :=
  steps.foldl (fun host step => (step.run host).2) host

end Session

end OptionClearing
