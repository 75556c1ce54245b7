/-!
Conditions: the status of a reader or a flag set by hand, and the hooks that wake whoever waits.
-/
namespace Databus

structure StatusMask where
  bits : UInt32
  deriving DecidableEq, Repr

namespace StatusMask

def none : StatusMask := ⟨0⟩
def dataAvailable : StatusMask := ⟨1⟩
def sampleLost : StatusMask := ⟨2⟩

instance : OrOp StatusMask := ⟨fun a b => ⟨a.bits ||| b.bits⟩⟩
instance : AndOp StatusMask := ⟨fun a b => ⟨a.bits &&& b.bits⟩⟩

def contains (a b : StatusMask) : Bool := a &&& b == b
def intersects (a b : StatusMask) : Bool := a &&& b != none
def without (a b : StatusMask) : StatusMask := ⟨a.bits &&& ~~~b.bits⟩

end StatusMask

abbrev ConditionId := Nat

inductive Hook
  | waitSet (key : Nat)
  | signal (key id : Nat)
  deriving DecidableEq, Repr

inductive Trigger
  | status (enabled active : StatusMask)
  | guard (raised : Bool)
  deriving DecidableEq, Repr

def Trigger.value : Trigger → Bool
  | status enabled active => enabled.intersects active
  | guard raised => raised

structure Condition where
  trigger : Trigger
  hooks : List Hook := []
  held : Bool := true
  deriving DecidableEq, Repr

namespace Condition

def newStatus : Condition := ⟨.status .none .none, [], true⟩
def newGuard : Condition := ⟨.guard false, [], true⟩

def value (c : Condition) : Bool := c.trigger.value

def isGuard (c : Condition) : Bool :=
  match c.trigger with
  | .guard _ => true
  | .status _ _ => false

end Condition
end Databus
