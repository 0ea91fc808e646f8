import TinyImp.Execution.Channel
import TinyImp.Fault

/-!
# Failures

What can stop a program that was found correct: an assertion that does not
hold, arithmetic that has no result, input that does not fit, or a channel
that fails.  A run can also stop at a fault.
-/

namespace TinyImp

inductive FailureCause where
  | assertionFailed
  | divisionByZero
  | overflow
  | invalidInput (input : String)
  | inputExhausted
  | channel (error : ChannelError)
deriving DecidableEq

def FailureCause.message : FailureCause → String
  | .assertionFailed => "assert failed"
  | .divisionByZero => "division by zero"
  | .overflow => "integer overflow"
  | .invalidInput input =>
      s!"expected an integer as input, got {Text.quoted input}"
  | .inputExhausted => "unexpected end of input"
  | .channel error => s!"i/o failure: {error.message}"

structure Failure where
  cause : FailureCause
  position : Position
deriving DecidableEq

def Failure.line (failure : Failure) : String :=
  s!"{failure.position.text}: runtime error: {failure.cause.message}"

/-- What stops a run before its end. -/
inductive Stop where
  | failure (failure : Failure)
  | fault (fault : Fault)
deriving DecidableEq

def Stop.failed (cause : FailureCause) (position : Position) : Stop :=
  .failure ⟨cause, position⟩

end TinyImp
