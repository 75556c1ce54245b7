import Databus.Middleware.Failure

/-!
Handles: what callers hold in place of a resource. The implementation tag is checked before all else.
-/
namespace Databus.Middleware

abbrev ContextId := Nat

inductive Kind
  | node
  | publisher
  | subscription
  | guardCondition
  deriving DecidableEq, Repr

def Kind.name : Kind → String
  | node => "node"
  | publisher => "publisher"
  | subscription => "subscription"
  | guardCondition => "guard condition"

def implementationIdentifier : String := "conduit_static"

def checkImplementation (found : String) : Except Failure Unit :=
  if found = implementationIdentifier then .ok ()
  else .error (.implementationMismatch implementationIdentifier found)

structure Handle (kind : Kind) where
  implementation : String
  context : ContextId
  index : Nat
  generation : UInt32
  deriving DecidableEq, Repr

namespace Handle

variable {kind : Kind}

def text (h : Handle kind) : String :=
  s!"{kind.name}#{h.context}:{h.index}.{h.generation}@{h.implementation}"

def check (h : Handle kind) : Except Failure Unit := checkImplementation h.implementation

def require : Option (Handle kind) → Except Failure (Handle kind)
  | some h => .ok h
  | none => .error (.invalidArgument s!"{kind.name} handle is null")

end Handle
end Databus.Middleware
