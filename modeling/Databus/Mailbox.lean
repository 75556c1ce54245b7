import Databus.History
import Databus.Sample

/-!
A reader's queue: samples wait in delivery order, the oldest is lost when the history is full.
The queue also remembers which instances are known and alive, whatever was taken or lost.
-/
namespace Databus

structure Arrival where
  subject : InstanceHandle
  publication : InstanceHandle
  state : Liveness
  payload : Option Octets
  deriving DecidableEq, Repr

structure Mailbox where
  samples : List Sample := []
  known : List InstanceHandle := []
  lost : Nat := 0
  deriving DecidableEq, Repr

namespace Mailbox

def viewOf (m : Mailbox) (subject : InstanceHandle) : View :=
  if subject ∈ m.known then .notNew else .new

def stamp (m : Mailbox) (a : Arrival) : Sample :=
  ⟨a.subject, a.publication, m.viewOf a.subject, a.state, a.payload⟩

def remember (known : List InstanceHandle) (a : Arrival) : List InstanceHandle :=
  let seen := if a.subject ∈ known then known else a.subject :: known
  if a.state.isGone then seen.filter (· ≠ a.subject) else seen

def overflow (history : History) (m : Mailbox) : Nat :=
  match history.limit with
  | some limit => m.samples.length + 1 - limit
  | none => 0

def push (history : History) (m : Mailbox) (a : Arrival) : Mailbox where
  samples := m.samples.drop (m.overflow history) ++ [m.stamp a]
  known := remember m.known a
  lost := m.lost + m.overflow history

def take? (m : Mailbox) : Option (Sample × Mailbox) :=
  match m.samples with
  | [] => none
  | s :: rest => some (s, { m with samples := rest })

def empty (m : Mailbox) : Mailbox := { m with samples := [] }

def unread (m : Mailbox) : Nat := m.samples.length

end Mailbox
end Databus
