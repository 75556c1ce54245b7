import Databus.Middleware.System

/-!
Guard conditions: flags that callers create and raise themselves. A node's graph guard goes with its node.
-/
namespace Databus.Middleware.Site

variable {K : Type}

def createGuard (s : Site K) : Site K × Except Failure (Handle .guardCondition) :=
  let (c, b) := s.bus.newCondition .newGuard
  match s.context.guards.insert ⟨c, .caller⟩ with
  | .error f => ({ s with bus := b }, .error f)
  | .ok (h, guards) => ({ s with bus := b, context := { s.context with guards := guards } }, .ok h)

def triggerGuard (s : Site K) (h : Handle .guardCondition) : Site K × Except Failure Unit :=
  match s.context.guards.get h with
  | .error f => (s, .error f)
  | .ok r => ({ s with bus := s.bus.setGuard r.condition true }, .ok ())

def destroyGuard (s : Site K) (h : Option (Handle .guardCondition)) : Site K × Except Failure Unit :=
  match Handle.require h with
  | .error f => (s, .error f)
  | .ok h =>
    match s.context.guards.get h with
    | .error f => (s, .error f)
    | .ok ⟨_, .node n⟩ =>
      (s, .error (.invalidArgument s!"{h.text} is the graph guard of {n.text}"))
    | .ok ⟨_, .caller⟩ =>
      match s.context.guards.remove h with
      | .error f => (s, .error f)
      | .ok (_, guards) => ({ s with context := { s.context with guards := guards } }, .ok ())

end Databus.Middleware.Site
