import Databus.Bus.Waiting

/-!
Callers blocked on wait sets. A signal wakes all who block on the wait set, one after another: the first to wake
lowers the flag as it scans, so those behind it block again, and who finds nothing blocks again behind these.
-/
namespace Databus

/-- A caller that blocks, with what it found when it was woken. -/
structure Sleeper where
  caller : Nat
  waitSet : WaitSetId
  found : Option (List ConditionId) := none
  deriving DecidableEq, Repr

namespace Bus

def wakeUp (b : Bus) : List Sleeper → List Sleeper × Bus
  | [] => ([], b)
  | s :: rest =>
    if s.found.isNone ∧ b.isPending s.waitSet then
      match b.poll s.waitSet with
      | (.ok found, b) =>
        let (rest, b) := b.wakeUp rest
        ({ s with found := some found } :: rest, b)
      | (.error _, b) =>
        let (rest, b) := b.wakeUp rest
        (rest ++ [s], b)
    else
      let (rest, b) := b.wakeUp rest
      (s :: rest, b)

end Bus
end Databus
