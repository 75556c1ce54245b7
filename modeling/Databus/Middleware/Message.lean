import Databus.Bus.Entities
import Databus.Middleware.Failure

/-!
Message types and their type supports: how a typed value gets onto a writer and off a reader.
-/
namespace Databus.Middleware

/-- The message types of an application: names and codec of each. -/
class Catalog (K : Type) where
  Value : K → Type
  package : K → String
  name : K → String
  encode : (k : K) → Value k → Except Failure Octets
  decode : (k : K) → Octets → Except Failure (Value k)

inductive Message (K : Type) [Catalog K]
  | of (k : K) (value : Catalog.Value k)
  | foreign

def typeSupportIdentifier : String := "rosidl_typesupport_conduit"

def qualifiedName (package message : String) : String := s!"{package}::dds_::{message}_"

structure TypeSupport (K : Type) where
  identifier : String
  package : String
  message : String
  carrier : K
  registers : Bool
  deriving DecidableEq, Repr

namespace TypeSupport

variable {K : Type} [Catalog K]

def of (k : K) : TypeSupport K :=
  ⟨typeSupportIdentifier, Catalog.package k, Catalog.name k, k, true⟩

def carrierName (ts : TypeSupport K) : String :=
  s!"{Catalog.package ts.carrier}/{Catalog.name ts.carrier}"

def register (ts : TypeSupport K) (b : Bus) (p : InstanceHandle) (type : String) :
    Except Failure Bus :=
  if ts.registers then
    match b.registerType p type with
    | .ok b => .ok b
    | .error f => .error (.resourceExhausted s!"failed to register type: {f.message}")
  else .ok b

variable [DecidableEq K]

def encode (ts : TypeSupport K) : Message K → Except Failure Octets
  | .of k value =>
    if k = ts.carrier then Catalog.encode k value
    else .error (.invalidArgument s!"message is not a {ts.carrierName}")
  | .foreign => .error (.invalidArgument s!"message is not a {ts.carrierName}")

def publish (ts : TypeSupport K) (b : Bus) (writer : InstanceHandle) (m : Message K) :
    Except Failure Bus :=
  match ts.encode m with
  | .error f => .error f
  | .ok payload =>
    match b.write writer payload with
    | .ok b => .ok b
    | .error f => .error (.transportFailure s!"failed to publish message: {f.message}")

def nextPayload (reader : InstanceHandle) : Nat → Bus → Option Octets × Bus
  | 0, b => (none, b)
  | n + 1, b =>
    match b.take reader with
    | (none, b) => (none, b)
    | (some s, b) =>
      match s.payload with
      | some payload => (some payload, b)
      | none => nextPayload reader n b

def unread (b : Bus) (reader : InstanceHandle) : Nat :=
  match b.readers.get? reader with
  | some r => r.mailbox.unread
  | none => 0

/-- Take into a slot of the given type. A payload that does not decode is gone all the same. -/
def take (ts : TypeSupport K) (b : Bus) (reader : InstanceHandle) (slot : Option K) :
    Bus × Except Failure (Option (Catalog.Value ts.carrier)) :=
  if slot = some ts.carrier then
    match nextPayload reader (unread b reader + 1) b with
    | (none, b) => (b, .ok none)
    | (some payload, b) =>
      match Catalog.decode ts.carrier payload with
      | .ok value => (b, .ok (some value))
      | .error f => (b, .error f)
  else (b, .error (.invalidArgument s!"output is not a {ts.carrierName}"))

end TypeSupport
end Databus.Middleware
