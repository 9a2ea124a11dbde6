import Reckoner.Evaluation
import Reckoner.Event
import Reckoner.Limits
import Reckoner.Validation

namespace Reckoner

/-- How a calculation came out. A value that is too long for the limits is kept. -/
inductive Verdict
  | rejected (kind : ErrorKind)
  | failed (kind : ErrorKind) (message : String)
  | tooLong (value : Int)
  | result (value : Int)
  deriving DecidableEq

namespace Verdict

def value? : Verdict → Option Int
  | rejected _ | failed _ _ => none
  | tooLong value | result value => some value

def error? : Verdict → Option ErrorKind
  | rejected kind | failed kind _ => some kind
  | tooLong _ => some .digitLimitExceeded
  | result _ => none

end Verdict

/-- The value of an expression whose structure is in order. -/
def valueOf (stack : Stack) (t : Text) : Except Fault Int := do
  let tokens ← Token.ofText t
  evaluateTokens stack tokens

/-- Faults of a kind become verdicts; the others are let out. -/
def calculate (stack : Stack) (limits : Limits) (t : Text) : Except Fault Verdict :=
  match validate t with
  | some kind => .ok (.rejected kind)
  | none =>
    match valueOf stack t with
    | .error fault =>
      match fault.kind? with
      | some kind => .ok (.failed kind fault.message)
      | none => .error fault
    | .ok value =>
      .ok (if Numeral.fits value limits.maxDigits then .result value else .tooLong value)

/-- What is noted about a verdict on an expression. -/
def Verdict.event (limits : Limits) (t : Text) (verdict : Verdict) : Event :=
  let message := match verdict with
    | .rejected kind => s!"Rejected {t.quoted}: {kind.name}"
    | .failed _ message => s!"Evaluation of {t.quoted} failed: {message}"
    | .tooLong _ => s!"Result of {t.quoted} exceeds {limits.maxDigits} digits"
    | .result value => s!"{t.quoted} = {String.ofList (Numeral.text value)}"
  ⟨.calculation, message⟩

def calculationEvents (stack : Stack) (limits : Limits) (t : Text) : List Event :=
  match calculate stack limits t with
  | .ok verdict => [verdict.event limits t]
  | .error _ => []

end Reckoner
