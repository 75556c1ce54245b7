import Databus.Octets

/-!
Instance handles, and the samples readers hold: a payload or a bare life-cycle notice.
-/
namespace Databus

/-- Identity of an entity or data instance; one number space for all kinds. -/
abbrev InstanceHandle := Nat

namespace InstanceHandle

def nil : InstanceHandle := 0

def isNil (h : InstanceHandle) : Bool := h == nil

def display (h : InstanceHandle) : String := "0x" ++ String.ofList (Nat.toDigits 16 h)

end InstanceHandle

inductive View
  | new
  | notNew
  deriving DecidableEq, Repr

inductive Liveness
  | alive
  | disposed
  | noWriters
  deriving DecidableEq, Repr

def Liveness.isGone : Liveness → Bool
  | alive => false
  | disposed | noWriters => true

structure Sample where
  subject : InstanceHandle
  publication : InstanceHandle
  view : View
  state : Liveness
  payload : Option Octets
  deriving DecidableEq, Repr

def Sample.isValid (s : Sample) : Bool := s.payload.isSome

end Databus
