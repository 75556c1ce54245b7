import Databus.Bus.Membership
import Databus.Text.Record

/-!
One-line descriptions of entities, as diagnostics show them.
-/
namespace Databus

open Text

def InstanceHandle.describe (h : InstanceHandle) : String := s!"InstanceHandle({h})"

def Graph.describe (g : Graph) : String :=
  record "TopicGraphCache"
    [("version", toString g.version), ("endpoints", toString g.size),
      ("topics", toString g.topics.size)]

namespace Bus

def describeDomain (b : Bus) (domain : DomainId) : String :=
  record "DomainState"
    [("domain_id", toString domain), ("participants", toString (b.memberCount domain)),
      ("endpoints", toString (b.endpointCount domain))]

def describeParticipant (b : Bus) (p : InstanceHandle) (x : Participant) : String :=
  record "Participant" [("handle", p.describe), ("domain", b.describeDomain x.domain)]

def describeGroup (g : InstanceHandle) (x : Group) : String :=
  let children := match x.side with
    | .publication => "writers"
    | .subscription => "readers"
  record x.side.name [("handle", g.describe), (children, toString x.endpoints.length)]

def describeWriter (w : InstanceHandle) (x : Writer) : String :=
  record "DataWriter" [("handle", w.describe), ("topic", quote x.topic), ("type", quote x.type)]

def describeReader (r : InstanceHandle) (x : Reader) : String :=
  record "DataReader" [("handle", r.describe), ("topic", quote x.topic), ("type", quote x.type)]

def describeDiscovery (b : Bus) (side : Side) (graph : GraphId) : String :=
  record "DiscoveryListener"
    [("kind", side.name), ("cache", ((b.graphs.get? graph).getD {}).describe)]

end Bus
end Databus
