import Databus.Endpoint
import Databus.Mailbox
import Databus.Table

/-!
The topic graph: which remote endpoints are alive, tallied by topic and by type under it.
A removal undoes exactly the addition under the same side and handle; the version counts changes.
-/
namespace Databus

structure GraphRecord where
  handle : InstanceHandle
  side : Side
  topic : String
  type : String
  deriving DecidableEq, Repr

structure Tally where
  types : Table String Nat := .empty
  publishers : Nat := 0
  subscribers : Nat := 0
  deriving DecidableEq, Repr

structure Graph where
  version : Nat := 0
  publications : Table InstanceHandle GraphRecord := .empty
  subscriptions : Table InstanceHandle GraphRecord := .empty
  topics : Table String Tally := .empty
  deriving DecidableEq, Repr

namespace Tally

def count (t : Tally) : Side → Nat
  | .publication => t.publishers
  | .subscription => t.subscribers

def setCount (t : Tally) (side : Side) (n : Nat) : Tally :=
  match side with
  | .publication => { t with publishers := n }
  | .subscription => { t with subscribers := n }

def more (t : Tally) (side : Side) (type : String) : Tally :=
  { t.setCount side (t.count side + 1) with
    types := t.types.insert type ((t.types.get? type).getD 0 + 1) }

def fewer (t : Tally) (side : Side) (type : String) : Tally :=
  { t.setCount side (t.count side - 1) with
    types := match t.types.get? type with
      | some n => if n - 1 = 0 then t.types.erase type else t.types.insert type (n - 1)
      | none => t.types }

end Tally

namespace Graph

def records (g : Graph) : Side → Table InstanceHandle GraphRecord
  | .publication => g.publications
  | .subscription => g.subscriptions

def setRecords (g : Graph) (side : Side) (t : Table InstanceHandle GraphRecord) : Graph :=
  match side with
  | .publication => { g with publications := t }
  | .subscription => { g with subscriptions := t }

def contains (g : Graph) (side : Side) (handle : InstanceHandle) : Bool :=
  (g.records side).contains handle

def add (g : Graph) (r : GraphRecord) : Graph × Bool :=
  if g.contains r.side r.handle then (g, false)
  else
    let tally := ((g.topics.get? r.topic).getD {}).more r.side r.type
    ({ g.setRecords r.side ((g.records r.side).insert r.handle r) with
        version := g.version + 1, topics := g.topics.insert r.topic tally }, true)

def dropTally (topics : Table String Tally) (r : GraphRecord) : Table String Tally :=
  match topics.get? r.topic with
  | none => topics
  | some t =>
    let t := t.fewer r.side r.type
    if t.types.size = 0 then topics.erase r.topic else topics.insert r.topic t

def remove (g : Graph) (side : Side) (handle : InstanceHandle) : Graph × Option GraphRecord :=
  match (g.records side).get? handle with
  | none => (g, none)
  | some r =>
    ({ g.setRecords side ((g.records side).erase handle) with
        version := g.version + 1, topics := dropTally g.topics r }, some r)

def snapshot (g : Graph) : List (String × List String) :=
  g.topics.entries.map fun e => (e.1, e.2.types.keys)

def count (g : Graph) (side : Side) (topic : String) : Nat :=
  ((g.topics.get? topic).map (·.count side)).getD 0

def size (g : Graph) : Nat := g.publications.size + g.subscriptions.size

/-- What one discovery sample says: gone, or alive with a readable announcement; all else is silent. -/
def apply (side : Side) (g : Graph) (s : Sample) : Graph × Bool :=
  if s.state.isGone then
    let (g, removed) := g.remove side s.subject
    (g, removed.isSome)
  else
    match s.payload.map Announcement.decode with
    | some (.ok a) => g.add ⟨s.subject, side, a.topic, a.type⟩
    | some (.error _) | none => (g, false)

def absorb (side : Side) (g : Graph) : List Sample → Graph × Nat
  | [] => (g, 0)
  | s :: rest =>
    let (g, changed) := g.apply side s
    let (g, n) := g.absorb side rest
    (g, n + if changed then 1 else 0)

end Graph
end Databus
