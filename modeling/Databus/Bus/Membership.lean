import Databus.Bus.Settling

/-!
Domains: who has joined, which endpoints are registered, and the discovery samples that tell every other
member of a domain what came and went. News is drawn up first and delivered once the tables are changed.
-/
namespace Databus.Bus

def peers (b : Bus) (domain : DomainId) (owner : InstanceHandle) : List Member :=
  (b.members.filter fun h m => m.domain = domain && h ≠ owner).values

def announce (targets : List Member) (key : InstanceHandle) (e : Endpoint) (state : Liveness) :
    List Notice :=
  let payload := if state.isGone then none else some (e.announcement key).encode
  targets.map fun m => ⟨m.inbox e.side, key, key, state, payload⟩

def deliver (b : Bus) (news : List Notice) : Bus := b.settle (news.map .deliver)

def enroll (b : Bus) (key : InstanceHandle) (e : Endpoint) : Bus :=
  let news := announce (b.peers e.domain e.owner) key e .alive
  { b with endpoints := b.endpoints.insert key e }.deliver news

def withdraw (b : Bus) (key : InstanceHandle) : Bool × Bus :=
  match b.endpoints.get? key with
  | none => (false, b)
  | some e =>
    let news := announce (b.peers e.domain e.owner) key e .disposed
    (true, { b with endpoints := b.endpoints.erase key }.deliver news)

def replay (b : Bus) (m : Member) : List Notice :=
  (b.endpoints.filter fun _ e => e.domain = m.domain).entries.flatMap fun (key, e) =>
    announce [m] key e .alive

def join (b : Bus) (domain : DomainId) : Except Fault (InstanceHandle × Bus) :=
  if maxDomainId < domain then .error (.invalidDomain domain)
  else
    let (p, b) := b.takeHandle
    let (publications, b) :=
      b.newReader p Announcement.publicationTopic Announcement.typeName .keepAll
    let (subscriptions, b) :=
      b.newReader p Announcement.subscriptionTopic Announcement.typeName .keepAll
    let m : Member := ⟨domain, publications, subscriptions⟩
    let news := b.replay m
    let b := { b with
      members := b.members.insert p m
      participants := b.participants.insert p { domain, publications, subscriptions } }
    .ok (p, b.deliver news)

def farewell (b : Bus) (p : InstanceHandle) (domain : DomainId) : List Notice :=
  (b.endpoints.filter fun _ e => e.owner = p).entries.flatMap fun (key, e) =>
    announce (b.peers domain p) key e .noWriters

def markDeleted (b : Bus) (g : InstanceHandle) : Bus :=
  { b with groups := b.groups.modify g ({ · with deleted := true }) }

def leave (b : Bus) (p : InstanceHandle) : Bus :=
  match b.participants.get? p with
  | none => b
  | some x =>
    let b := x.groups.foldl markDeleted b
    let b := (b.setListener x.publications none).setListener x.subscriptions none
    let news := b.farewell p x.domain
    { b with
      participants := b.participants.erase p
      members := b.members.erase p
      endpoints := b.endpoints.filter fun _ e => e.owner ≠ p }.deliver news

def memberCount (b : Bus) (domain : DomainId) : Nat :=
  (b.members.filter fun _ m => m.domain = domain).size

def endpointCount (b : Bus) (domain : DomainId) : Nat :=
  (b.endpoints.filter fun _ e => e.domain = domain).size

end Databus.Bus
