import Databus.Fault

/-!
Failures of middleware calls, their wording and return codes, and how a fault of the bus shows up as one.
-/
namespace Databus.Middleware

inductive ReturnCode
  | ok
  | error
  | timeout
  | badAlloc
  | invalidArgument
  | incorrectImplementation
  deriving DecidableEq, Repr

def ReturnCode.value : ReturnCode → Nat
  | ok => 0
  | error => 1
  | timeout => 2
  | badAlloc => 10
  | invalidArgument => 11
  | incorrectImplementation => 12

inductive Failure
  | invalidArgument (detail : String)
  | implementationMismatch (expected found : String)
  | resourceExhausted (detail : String)
  | transportFailure (detail : String)
  | serialization (detail : String)
  deriving DecidableEq, Repr

namespace Failure

def message : Failure → String
  | invalidArgument detail => s!"invalid argument: {detail}"
  | implementationMismatch expected found =>
    s!"handle not from this implementation: expected '{expected}', found '{found}'"
  | resourceExhausted detail => s!"resource exhausted: {detail}"
  | transportFailure detail => s!"transport failure: {detail}"
  | serialization detail => s!"serialization failed: {detail}"

def returnCode : Failure → ReturnCode
  | invalidArgument _ => .invalidArgument
  | implementationMismatch _ _ => .incorrectImplementation
  | resourceExhausted _ => .badAlloc
  | transportFailure _ | serialization _ => .error

def ofFault (f : Fault) : Failure :=
  match f with
  | .typeNotRegistered _ | .outOfResources _ => resourceExhausted f.message
  | .timeout => transportFailure f.message
  | _ => invalidArgument f.message

end Failure
end Databus.Middleware
