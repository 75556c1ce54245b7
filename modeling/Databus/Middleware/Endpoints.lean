import Databus.Middleware.Nodes

/-!
Publishers and subscriptions of nodes. Each stands for a parent and one endpoint on the bus; creation that
fails on the way takes down again what it has put up, and the node counts what it has.
-/
namespace Databus.Middleware.Site

variable {K : Type}

def validateTopicName (name : String) : Except Failure Unit :=
  if name = "" then .error (.invalidArgument "topic name must not be empty")
  else if name.toList.contains '/' then
    .error (.invalidArgument
      s!"topic name '{name}' must not contain '/', it is reserved for namespaces")
  else .ok ()

def checkSupport (ts : TypeSupport K) : Except Failure Unit :=
  if ts.identifier = typeSupportIdentifier then .ok ()
  else .error (.implementationMismatch typeSupportIdentifier ts.identifier)

def checkRequest (node : Handle .node) (ts : TypeSupport K) (topic : String) :
    Except Failure Unit := do
  node.check
  validateTopicName topic
  checkSupport ts

def countEndpoint (c : Context K) (h : Handle .node) (f : Nat → Nat) : Context K :=
  { c with nodes := c.nodes.modify h fun n => { n with endpoints := f n.endpoints } }

def releaseEndpoint (remove : Except Fault Bus) (b : Bus) (p g : InstanceHandle) : Bus :=
  let b := match remove with
    | .ok b => b
    | .error _ => b
  match b.deleteGroup p g with
  | .ok b => b
  | .error _ => b

def releaseWriter (b : Bus) (p g w : InstanceHandle) : Bus :=
  releaseEndpoint (b.deleteWriter g w) b p g

def releaseReader (b : Bus) (p g r : InstanceHandle) : Bus :=
  releaseEndpoint (b.deleteReader g r) b p g

variable [Catalog K]

/-- Make the type known to the participant and bind the topic to it. What is registered stays registered
when the topic cannot be bound. -/
def bindTopic (b : Bus) (p : InstanceHandle) (ts : TypeSupport K) (topic : String) :
    Bus × Except Failure Topic :=
  let type := qualifiedName ts.package ts.message
  match ts.register b p type with
  | .error f => (b, .error f)
  | .ok b =>
    match b.createTopic p topic type .standard with
    | .ok (t, b) => (b, .ok t)
    | .error f => (b, .error (.ofFault f))

def prepare (s : Site K) (node : Handle .node) (ts : TypeSupport K) (topic : String) :
    Site K × Except Failure (InstanceHandle × Topic) :=
  match checkRequest node ts topic with
  | .error f => (s, .error f)
  | .ok () =>
    match s.node node with
    | .error f => (s, .error f)
    | .ok n =>
      let (b, bound) := bindTopic s.bus n.participant ts topic
      ({ s with bus := b }, bound.map (n.participant, ·))

/-! ### Publishers -/

def openWriter (b : Bus) (p : InstanceHandle) (topic : Topic) :
    Bus × Except Failure (InstanceHandle × InstanceHandle) :=
  match b.createGroup .publication p with
  | .error f => (b, .error (.resourceExhausted s!"failed to create publisher: {f.message}"))
  | .ok (g, b) =>
    match b.createWriter g topic standardPayloadLimit with
    | .ok (w, b) => (b, .ok (g, w))
    | .error f =>
      (releaseEndpoint (.ok b) b p g,
        .error (.resourceExhausted s!"failed to create writer: {f.message}"))

def createPublisher (s : Site K) (node : Handle .node) (ts : TypeSupport K) (topic : String) :
    Site K × Except Failure (Handle .publisher) :=
  match s.prepare node ts topic with
  | (s, .error f) => (s, .error f)
  | (s, .ok (p, t)) =>
    match openWriter s.bus p t with
    | (b, .error f) => ({ s with bus := b }, .error f)
    | (b, .ok (g, w)) =>
      match s.context.publishers.insert ⟨node, ts, t, g, w⟩ with
      | .error f => ({ s with bus := releaseWriter b p g w }, .error f)
      | .ok (h, publishers) =>
        let context := countEndpoint { s.context with publishers := publishers } node (· + 1)
        ({ s with bus := b, context := context }, .ok h)

def destroyPublisher (s : Site K) (h : Option (Handle .publisher)) : Site K × Except Failure Unit :=
  match Handle.require h with
  | .error f => (s, .error f)
  | .ok h =>
    match s.context.publishers.remove h with
    | .error f => (s, .error f)
    | .ok (r, publishers) =>
      let s := { s with context := { s.context with publishers := publishers } }
      match s.node r.node with
      | .error _ => (s, .ok ())
      | .ok n =>
        ({ s with
            bus := releaseWriter s.bus n.participant r.publisher r.writer
            context := countEndpoint s.context r.node (· - 1) }, .ok ())

def publisherGid (s : Site K) (h : Handle .publisher) : Site K × Except Failure Gid :=
  (s, (s.context.publishers.get h).map fun r => Gid.ofPublication r.writer)

def compareGids (a b : Gid) (s : Site K) : Site K × Except Failure Bool := (s, a.equal b)

/-! ### Subscriptions -/

def queueHistory (size : Nat) : History :=
  if size = 0 then .standard else .keepLast (min size (UInt32.size - 1))

def openReader (b : Bus) (p : InstanceHandle) (topic : Topic) (history : History) :
    Bus × Except Failure (InstanceHandle × InstanceHandle) :=
  match b.createGroup .subscription p with
  | .error f => (b, .error (.resourceExhausted s!"failed to create subscriber: {f.message}"))
  | .ok (g, b) =>
    match b.createReader g topic history with
    | .ok (r, b) => (b, .ok (g, r))
    | .error f =>
      (releaseEndpoint (.ok b) b p g,
        .error (.resourceExhausted s!"failed to create reader: {f.message}"))

def conditionOf (b : Bus) (r : InstanceHandle) : ConditionId :=
  ((b.readers.get? r).map (·.condition)).getD 0

def createSubscription (s : Site K) (node : Handle .node) (ts : TypeSupport K) (topic : String)
    (queueSize : Nat) : Site K × Except Failure (Handle .subscription) :=
  match s.prepare node ts topic with
  | (s, .error f) => (s, .error f)
  | (s, .ok (p, t)) =>
    match openReader s.bus p t (queueHistory queueSize) with
    | (b, .error f) => ({ s with bus := b }, .error f)
    | (b, .ok (g, r)) =>
      match s.context.subscriptions.insert ⟨node, ts, t, g, r, conditionOf b r⟩ with
      | .error f => ({ s with bus := releaseReader b p g r }, .error f)
      | .ok (h, subscriptions) =>
        let context :=
          countEndpoint { s.context with subscriptions := subscriptions } node (· + 1)
        ({ s with bus := b, context := context }, .ok h)

def destroySubscription (s : Site K) (h : Option (Handle .subscription)) :
    Site K × Except Failure Unit :=
  match Handle.require h with
  | .error f => (s, .error f)
  | .ok h =>
    match s.context.subscriptions.remove h with
    | .error f => (s, .error f)
    | .ok (r, subscriptions) =>
      let s := { s with context := { s.context with subscriptions := subscriptions } }
      match s.node r.node with
      | .error _ => (s, .ok ())
      | .ok n =>
        ({ s with
            bus := releaseReader s.bus n.participant r.subscriber r.reader
            context := countEndpoint s.context r.node (· - 1) }, .ok ())

/-! ### Messages -/

variable [DecidableEq K]

def publish (s : Site K) (h : Handle .publisher) (m : Message K) : Site K × Except Failure Unit :=
  match s.context.publishers.get h with
  | .error f => (s, .error f)
  | .ok r =>
    match r.support.publish s.bus r.writer m with
    | .error f => (s, .error f)
    | .ok b => ({ s with bus := b }, .ok ())

def take (s : Site K) (h : Handle .subscription) (slot : Option K) :
    Site K × Except Failure (Option (Message K)) :=
  match s.context.subscriptions.get h with
  | .error f => (s, .error f)
  | .ok r =>
    let (b, taken) := r.support.take s.bus r.reader slot
    ({ s with bus := b }, taken.map fun v => v.map (.of r.support.carrier))

end Databus.Middleware.Site
