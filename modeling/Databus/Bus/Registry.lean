import Databus.Bus.Entities

/-!
The states of domains, and who keeps them. Participants, groups and writers each refer to the state of their
domain; the registry only remembers it while somebody does, and makes a new one when nobody is left.
-/
namespace Databus

abbrev StateId := Nat

structure Registry where
  nextState : Nat := 0
  domains : Table DomainId StateId := .empty
  holders : Table InstanceHandle StateId := .empty
  deriving DecidableEq, Repr

namespace Registry

def isHeld (r : Registry) (s : StateId) : Bool := s ∈ r.holders.values

def upgrade (r : Registry) (domain : DomainId) : Option StateId :=
  (r.domains.get? domain).filter r.isHeld

def getOrCreate (r : Registry) (domain : DomainId) : StateId × Registry :=
  match r.upgrade domain with
  | some s => (s, r)
  | none => (r.nextState, { r with
      nextState := r.nextState + 1
      domains := (r.domains.filter fun _ s => r.isHeld s).insert domain r.nextState })

def hold (r : Registry) (k : InstanceHandle) (s : StateId) : Registry :=
  { r with holders := r.holders.insert k s }

def share (r : Registry) (k parent : InstanceHandle) : Registry :=
  match r.holders.get? parent with
  | some s => r.hold k s
  | none => r

def release (r : Registry) (k : InstanceHandle) : Registry :=
  { r with holders := r.holders.erase k }

end Registry
end Databus
