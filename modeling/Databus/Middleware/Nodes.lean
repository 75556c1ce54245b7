import Databus.Middleware.System

/-!
Nodes: each joins its context's domain as a participant of its own, feeds a topic graph from discovery and
has a guard condition that its graph raises. A node goes only when its last endpoint has gone.
-/
namespace Databus.Middleware.Site

variable {K : Type}

def endpointsLeft (n : NodeRecord) : Failure :=
  .invalidArgument s!"node '{n.name}' still owns {n.endpoints} publishers/subscriptions"

def node (s : Site K) (h : Handle .node) : Except Failure NodeRecord := s.context.nodes.get h

/-- Join the domain, attach both listeners, then apply what was announced before they were there. -/
def joinNode (b : Bus) (name : String) (domain : DomainId) : Except Fault (NodeRecord × Bus) :=
  match b.join domain with
  | .error f => .error f
  | .ok (participant, b) =>
    let (graph, b) := b.newGraph
    let (guard, b) := b.newCondition .newGuard
    let (publicationListener, b) := b.newListener (.discovery .publication graph guard)
    let (subscriptionListener, b) := b.newListener (.discovery .subscription graph guard)
    let n : NodeRecord :=
      { name, participant, graph, guard, publicationListener, subscriptionListener }
    match b.participants.get? participant with
    | none => .ok (n, b)
    | some p =>
      let b := b.setListener p.publications (some publicationListener)
      let b := b.setListener p.subscriptions (some subscriptionListener)
      let b := (b.drain .publication graph guard p.publications).2
      let b := (b.drain .subscription graph guard p.subscriptions).2
      .ok (n, b)

def createNode (s : Site K) (name : String) : Site K × Except Failure (Handle .node) :=
  if name = "" then (s, .error (.invalidArgument "node name must not be empty"))
  else
    match joinNode s.bus name s.context.settings.domain with
    | .error f =>
      (s, .error (.resourceExhausted s!"failed to create participant: {f.message}"))
    | .ok (n, b) =>
      match s.context.nodes.insert n with
      | .error f => ({ s with bus := b.leave n.participant }, .error f)
      | .ok (h, nodes) =>
        match s.context.guards.insert ⟨n.guard, .node h⟩ with
        | .ok (g, guards) =>
          ({ s with
              bus := b
              context := { s.context with
                nodes := nodes
                guards := guards
                graphGuards := (h, g) :: s.context.graphGuards } }, .ok h)
        | .error f =>
          let nodes := match nodes.remove h with
            | .ok (_, nodes) => nodes
            | .error _ => nodes
          let b := (System.detachListeners b n).leave n.participant
          ({ s with bus := b, context := { s.context with nodes := nodes } }, .error f)

def graphGuard? (s : Site K) (h : Handle .node) : Option (Handle .guardCondition) :=
  (s.context.graphGuards.find? (·.1 = h)).map (·.2)

def removeGraphGuard (s : Site K) (h : Handle .node) : Context K :=
  match s.graphGuard? h with
  | none => s.context
  | some g =>
    let graphGuards := s.context.graphGuards.filter (·.1 ≠ h)
    match s.context.guards.remove g with
    | .ok (_, guards) => { s.context with guards := guards, graphGuards := graphGuards }
    | .error _ => { s.context with graphGuards := graphGuards }

def destroyNode (s : Site K) (h : Option (Handle .node)) : Site K × Except Failure Unit :=
  match Handle.require h with
  | .error f => (s, .error f)
  | .ok h =>
    match s.node h with
    | .error f => (s, .error f)
    | .ok n =>
      if 0 < n.endpoints then (s, .error (endpointsLeft n))
      else
        match s.context.nodes.remove h with
        | .error f => (s, .error f)
        | .ok (_, nodes) =>
          let context := { s.removeGraphGuard h with nodes := nodes }
          let b := (System.detachListeners s.bus n).leave n.participant
          ({ s with bus := b, context := context }, .ok ())

def graphGuard (s : Site K) (h : Handle .node) :
    Site K × Except Failure (Handle .guardCondition) :=
  match s.node h with
  | .error f => (s, .error f)
  | .ok _ =>
    match s.graphGuard? h with
    | some g => (s, .ok g)
    | none => (s, .error (.invalidArgument s!"{h.text} has no graph guard"))

/-! ### The graph a node sees -/

def graphOf (s : Site K) (n : NodeRecord) : Graph := (s.bus.graphs.get? n.graph).getD {}

def topicNamesAndTypes (s : Site K) (h : Handle .node) :
    Site K × Except Failure (List (String × List String)) :=
  (s, (s.node h).map fun n => (s.graphOf n).snapshot)

def countEndpoints (side : Side) (topic : String) (s : Site K) (h : Handle .node) :
    Site K × Except Failure Nat :=
  (s, (s.node h).map fun n => (s.graphOf n).count side topic)

end Databus.Middleware.Site
