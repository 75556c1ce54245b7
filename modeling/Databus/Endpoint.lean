import Databus.Announcement
import Databus.Sample

/-!
Endpoints as a domain knows them: a writer or reader, its participant, and the topic and type by which
the two sides match.
-/
namespace Databus

inductive Side
  | publication
  | subscription
  deriving DecidableEq, Repr

def Side.name : Side → String
  | publication => "Publisher"
  | subscription => "Subscriber"

structure Endpoint where
  side : Side
  domain : DomainId
  owner : InstanceHandle
  topic : String
  type : String
  deriving DecidableEq, Repr

namespace Endpoint

def announcement (e : Endpoint) (key : InstanceHandle) : Announcement :=
  ⟨UInt64.ofNat key, UInt64.ofNat e.owner, e.topic, e.type⟩

def matchesTopic (e : Endpoint) (topic type : String) : Bool :=
  e.topic = topic && e.type = type

end Endpoint
end Databus
