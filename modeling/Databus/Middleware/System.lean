import Databus.Middleware.Arena
import Databus.Middleware.Gid
import Databus.Middleware.Message
import Databus.Middleware.Timeout

/-!
The middleware: contexts with their resource tables over one bus. Every call runs on one context, may change
the bus beside it, and a failing call leaves its message behind as the last error.
-/
namespace Databus.Middleware

structure NodeRecord where
  name : String
  participant : InstanceHandle
  graph : GraphId
  guard : ConditionId
  publicationListener : ListenerId
  subscriptionListener : ListenerId
  endpoints : Nat := 0
  deriving DecidableEq, Repr

structure PublisherRecord (K : Type) where
  node : Handle .node
  support : TypeSupport K
  topic : Topic
  publisher : InstanceHandle
  writer : InstanceHandle
  deriving DecidableEq, Repr

structure SubscriptionRecord (K : Type) where
  node : Handle .node
  support : TypeSupport K
  topic : Topic
  subscriber : InstanceHandle
  reader : InstanceHandle
  condition : ConditionId
  deriving DecidableEq, Repr

inductive GuardOwner
  | caller
  | node (node : Handle .node)
  deriving DecidableEq, Repr

structure GuardRecord where
  condition : ConditionId
  owner : GuardOwner
  deriving DecidableEq, Repr

structure Context (K : Type) where
  id : ContextId
  settings : Settings
  nodes : Arena .node NodeRecord
  publishers : Arena .publisher (PublisherRecord K)
  subscriptions : Arena .subscription (SubscriptionRecord K)
  guards : Arena .guardCondition GuardRecord
  graphGuards : List (Handle .node × Handle .guardCondition) := []
  deriving DecidableEq, Repr

structure System (K : Type) where
  bus : Bus := {}
  contexts : Table ContextId (Context K) := .empty
  nextContext : Nat := 1
  observed : List ConditionId := []
  lastError : Option String := none
  deriving DecidableEq, Repr

structure Site (K : Type) where
  bus : Bus
  observed : List ConditionId
  context : Context K
  deriving DecidableEq, Repr

namespace System

variable {K : Type} {α : Type}

def setError (s : System K) (text : String) : System K := { s with lastError := some text }

def resetError (s : System K) : System K := { s with lastError := none }

def report (s : System K) (operation : String) : Except Failure α → System K × Except Failure α
  | .ok a => (s, .ok a)
  | .error f => (s.setError s!"{operation}: {f.message}", .error f)

def perform (s : System K) (ctx : ContextId) (operation : String)
    (call : Site K → Site K × Except Failure α) : System K × Except Failure α :=
  match s.contexts.get? ctx with
  | none => s.report operation (.error (.invalidArgument "context is shut down"))
  | some c =>
    let (site, result) := call ⟨s.bus, s.observed, c⟩
    { s with
      bus := site.bus
      observed := site.observed
      contexts := s.contexts.insert ctx site.context }.report operation result

/-! ### Contexts -/

def validate (settings : Settings) : Except Failure Unit :=
  if maxDomainId < settings.domain then
    .error (.invalidArgument s!"domain id {settings.domain} out of range (0-{maxDomainId})")
  else if settings.pollInterval = 0 then
    .error (.invalidArgument "wait poll interval must be positive")
  else if settings.maxHandles = 0 then
    .error (.invalidArgument "max_handles must be positive")
  else .ok ()

def init (s : System K) (settings : Settings) : System K × Except Failure ContextId :=
  match validate settings with
  | .error f => s.report "init" (.error f)
  | .ok () =>
    let id := s.nextContext
    let c : Context K := {
      id, settings
      nodes := { context := id, capacity := settings.maxHandles }
      publishers := { context := id, capacity := settings.maxHandles }
      subscriptions := { context := id, capacity := settings.maxHandles }
      guards := { context := id, capacity := settings.maxHandles } }
    ({ s with nextContext := id + 1, contexts := s.contexts.insert id c }, .ok id)

def initFromEnvironment (s : System K) (env : Environment) :
    System K × Environment × Except Failure ContextId :=
  let settings := Settings.ofEnvironment env
  let (s, result) := s.init settings
  (s, settings.applyLogLevel env, result)

def detachListeners (b : Bus) (n : NodeRecord) : Bus :=
  match b.participants.get? n.participant with
  | some p => (b.setListener p.publications none).setListener p.subscriptions none
  | none => b

def close (s : System K) (ctx : ContextId) : System K :=
  match s.contexts.get? ctx with
  | none => s
  | some c =>
    let b := c.nodes.values.foldl detachListeners s.bus
    let b := c.nodes.values.foldl (fun b n => b.leave n.participant) b
    { s with bus := b, contexts := s.contexts.erase ctx }

end System
end Databus.Middleware
