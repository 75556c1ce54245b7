import Databus.Bus.Waiting
import Databus.Middleware.System

/-!
Waiting on subscriptions and guard conditions. A wait claims every listed resource, blocks in slices on a wait
set of its own, then collects what is ready; other callers may run between any two of these steps.
-/
namespace Databus.Middleware

inductive Waitable
  | subscription
  | guardCondition
  deriving DecidableEq, Repr

def Waitable.name : Waitable → String
  | subscription => "Subscription"
  | guardCondition => "GuardCondition"

abbrev Slots (kind : Kind) := List (Option (Handle kind × ConditionId))

structure Ticket where
  pace : Pace
  waitSet : WaitSetId
  subscriptions : Slots .subscription
  guards : Slots .guardCondition
  deriving DecidableEq, Repr

structure Report where
  readySubscriptions : Nat := 0
  readyGuards : Nat := 0
  timedOut : Bool := false
  deriving DecidableEq, Repr

def Report.returnCode (r : Report) : ReturnCode := if r.timedOut then .timeout else .ok

structure Outcome where
  report : Report
  subscriptions : List (Option (Handle .subscription))
  guards : List (Option (Handle .guardCondition))
  deriving DecidableEq, Repr

def inUse (w : Waitable) : Failure := .invalidArgument s!"{w.name} is already part of a wait"

def Slots.conditions {kind : Kind} (slots : Slots kind) : List ConditionId :=
  slots.filterMap fun slot => slot.map (·.2)

def Ticket.conditions (t : Ticket) : List ConditionId :=
  t.subscriptions.conditions ++ t.guards.conditions

def Ticket.claims (t : Ticket) : List (Waitable × ConditionId) :=
  t.subscriptions.conditions.map (.subscription, ·) ++ t.guards.conditions.map (.guardCondition, ·)

namespace Site

variable {K : Type}

/-! ### Starting -/

def resolve {kind : Kind} {α : Type} (arena : Arena kind α) (condition : α → ConditionId) :
    List (Option (Handle kind)) → Except Failure (Slots kind)
  | [] => .ok []
  | none :: rest => (resolve arena condition rest).map (none :: ·)
  | some h :: rest =>
    match arena.get h with
    | .error f => .error f
    | .ok a => (resolve arena condition rest).map (some (h, condition a) :: ·)

def claim (observed : List ConditionId) :
    List (Waitable × ConditionId) → Except Failure (List ConditionId)
  | [] => .ok observed
  | (w, c) :: rest => if c ∈ observed then .error (inUse w) else claim (c :: observed) rest

def attachAll (b : Bus) (ws : WaitSetId) : List (Waitable × ConditionId) → Bus × Except Failure Unit
  | [] => (b, .ok ())
  | (w, c) :: rest =>
    let b := match w with
      | .subscription => b.setEnabled c .dataAvailable
      | .guardCondition => b
    match b.attach ws c with
    | .error f => (b, .error (.transportFailure s!"failed to attach condition: {f.message}"))
    | .ok b => attachAll b ws rest

def beginWait (clock : Clock) (timeout : Timeout)
    (subscriptions : List (Option (Handle .subscription)))
    (guards : List (Option (Handle .guardCondition))) (s : Site K) :
    Site K × Except Failure Ticket :=
  match resolve s.context.subscriptions (·.condition) subscriptions with
  | .error f => (s, .error f)
  | .ok subscriptions =>
    match resolve s.context.guards (·.condition) guards with
    | .error f => (s, .error f)
    | .ok guards =>
      let (ws, b) := s.bus.newWaitSet
      let pace := Pace.start clock timeout s.context.settings.pollInterval
      let t : Ticket := ⟨pace, ws, subscriptions, guards⟩
      match claim s.observed t.claims with
      | .error f => (s, .error f)
      | .ok observed =>
        match attachAll b ws t.claims with
        | (b, .error f) => ({ s with bus := b.dropWaitSet ws }, .error f)
        | (b, .ok ()) => ({ s with bus := b, observed := observed }, .ok t)

end Site

namespace System

variable {K : Type}

def beginWait (s : System K) (ctx : ContextId) (clock : Clock) (timeout : Timeout)
    (subscriptions : List (Option (Handle .subscription)))
    (guards : List (Option (Handle .guardCondition))) : System K × Except Failure Ticket :=
  s.perform ctx "wait" (Site.beginWait clock timeout subscriptions guards)

/-! ### Blocking -/

inductive Turn
  | again
  | over (expired : Bool)
  deriving DecidableEq, Repr

def turn (s : System K) (t : Ticket) (now : Nat) : Turn × System K :=
  match s.bus.poll t.waitSet with
  | (.ok _, b) => (.over false, { s with bus := b })
  | (.error _, b) => (if t.pace.isOver now then .over true else .again, { s with bus := b })

def block (s : System K) (t : Ticket) (now limit : Nat) : Option Bool × System K :=
  match s.turn t now with
  | (.over expired, s) => (some expired, s)
  | (.again, s) =>
    if now < min (now + t.pace.slice now) limit then
      s.block t (min (now + t.pace.slice now) limit) limit
    else (none, s)
termination_by limit - now
decreasing_by omega

/-! ### Finishing -/

def collect {kind : Kind} (ready : Bus → ConditionId → Bool × Bus) (b : Bus) :
    Slots kind → List (Option (Handle kind)) × Bus
  | [] => ([], b)
  | none :: rest =>
    let (kept, b) := collect ready b rest
    (none :: kept, b)
  | some (h, c) :: rest =>
    let (isReady, b) := ready b c
    let (kept, b) := collect ready b rest
    ((if isReady then some h else none) :: kept, b)

def countReady {kind : Kind} (kept : List (Option (Handle kind))) : Nat :=
  (kept.filter (·.isSome)).length

/-- A guard's readiness is its trigger, which is reset; a subscription's trigger stays. A trigger that came
with the deadline still counts. -/
def endWait (s : System K) (t : Ticket) (expired : Bool) : Outcome × System K :=
  let (subscriptions, b) := collect (fun b c => (b.conditionValue c, b)) s.bus t.subscriptions
  let (guards, b) := collect Bus.takeGuard b t.guards
  let ready : Report := ⟨countReady subscriptions, countReady guards, false⟩
  let timedOut := expired && ready.readySubscriptions + ready.readyGuards == 0
  (⟨{ ready with timedOut := timedOut }, subscriptions, guards⟩,
    { s with
      bus := b.dropWaitSet t.waitSet
      observed := s.observed.filter (· ∉ t.conditions) })

end System
end Databus.Middleware
