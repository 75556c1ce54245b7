import Databus.Bus.State

/-!
Raising and lowering conditions. Whatever may turn a trigger value true wakes every live hook of the
condition; lowering one wakes nobody. Dead hooks are dropped when a hook is added or called.
-/
namespace Databus.Bus

def isLive (b : Bus) : Hook → Bool
  | .waitSet key => b.waitSets.contains key
  | .signal key _ => b.signals.contains key

def wake (b : Bus) : Hook → Bus
  | .waitSet key => { b with waitSets := b.waitSets.modify key ({ · with pending := true }) }
  | .signal key _ => { b with signals := b.signals.modify key (· + 1) }

def conditionValue (b : Bus) (c : ConditionId) : Bool :=
  match b.conditions.get? c with
  | some x => x.value
  | none => false

def setTrigger (b : Bus) (c : ConditionId) (t : Trigger) : Bus :=
  { b with conditions := b.conditions.modify c ({ · with trigger := t }) }

def setHooks (b : Bus) (c : ConditionId) (hooks : List Hook) : Bus :=
  { b with conditions := b.conditions.modify c ({ · with hooks }) }

def liveHooks (b : Bus) (c : ConditionId) : List Hook :=
  match b.conditions.get? c with
  | some x => x.hooks.filter b.isLive
  | none => []

def notify (b : Bus) (c : ConditionId) : Bus :=
  (b.liveHooks c).foldl wake (b.setHooks c (b.liveHooks c))

def addHook (b : Bus) (c : ConditionId) (h : Hook) : Bus :=
  let b := b.setHooks c (b.liveHooks c ++ [h])
  if b.conditionValue c then b.wake h else b

def removeHooks (b : Bus) (c : ConditionId) (p : Hook → Bool) : Bus :=
  { b with conditions := b.conditions.modify c fun x => { x with hooks := x.hooks.filter (!p ·) } }

/-! ### Statuses -/

def setEnabled (b : Bus) (c : ConditionId) (mask : StatusMask) : Bus :=
  match b.conditions.get? c with
  | some ⟨.status _ active, _, _⟩ =>
    let b := b.setTrigger c (.status mask active)
    if mask.intersects active then b.notify c else b
  | _ => b

def activate (b : Bus) (c : ConditionId) (mask : StatusMask) : Bus :=
  match b.conditions.get? c with
  | some ⟨.status enabled active, _, _⟩ =>
    let b := b.setTrigger c (.status enabled (active ||| mask))
    if enabled.intersects mask then b.notify c else b
  | _ => b

def deactivate (b : Bus) (c : ConditionId) (mask : StatusMask) : Bus :=
  match b.conditions.get? c with
  | some ⟨.status enabled active, _, _⟩ => b.setTrigger c (.status enabled (active.without mask))
  | _ => b

/-! ### Guards -/

def setGuard (b : Bus) (c : ConditionId) (value : Bool) : Bus :=
  match b.conditions.get? c with
  | some ⟨.guard _, _, _⟩ =>
    let b := b.setTrigger c (.guard value)
    if value then b.notify c else b
  | _ => b

def takeGuard (b : Bus) (c : ConditionId) : Bool × Bus :=
  match b.conditions.get? c with
  | some ⟨.guard raised, _, _⟩ => (raised, b.setTrigger c (.guard false))
  | _ => (false, b)

def release (b : Bus) (c : ConditionId) : Bus :=
  { b with conditions := b.conditions.modify c ({ · with held := false }) }

/-- A condition lives while its owner holds it or a wait set has it attached. -/
def isReachable (b : Bus) (c : ConditionId) : Bool :=
  match b.conditions.get? c with
  | some x => x.held || b.waitSets.values.any (c ∈ ·.conditions)
  | none => false

/-! ### Signals of the application -/

def newSignal (b : Bus) : SignalId × Bus :=
  (b.nextKey, { b with nextKey := b.nextKey + 1, signals := b.signals.insert b.nextKey 0 })

def dropSignal (b : Bus) (key : SignalId) : Bus := { b with signals := b.signals.erase key }

def addSignal (b : Bus) (key : SignalId) (id : Nat) (c : ConditionId) : Bus :=
  b.addHook c (.signal key id)

def removeSignal (b : Bus) (c : ConditionId) (id : Nat) : Bus :=
  b.removeHooks c fun
    | .signal _ id' => id' == id
    | .waitSet _ => false

/-! ### What signalling leaves alone -/

def OnlySignals (b b' : Bus) : Prop :=
  { b' with conditions := b.conditions, waitSets := b.waitSets, signals := b.signals } = b

namespace OnlySignals

theorem refl (b : Bus) : OnlySignals b b := rfl

theorem same {b b' : Bus} (h : OnlySignals b b') :
    { b' with conditions := b.conditions, waitSets := b.waitSets, signals := b.signals } = b := h

theorem trans {a b c : Bus} (h : OnlySignals a b) (h' : OnlySignals b c) : OnlySignals a c := by
  unfold OnlySignals at *
  rw [← h]
  rw [← h']

theorem readers {b b' : Bus} (h : OnlySignals b b') : b'.readers = b.readers := by
  have e := congrArg Bus.readers h.same
  exact e

theorem listeners {b b' : Bus} (h : OnlySignals b b') : b'.listeners = b.listeners := by
  have e := congrArg Bus.listeners h.same
  exact e

theorem graphs {b b' : Bus} (h : OnlySignals b b') : b'.graphs = b.graphs := by
  have e := congrArg Bus.graphs h.same
  exact e

end OnlySignals

theorem wakeFrame (b : Bus) (h : Hook) : OnlySignals b (b.wake h) := by
  cases h <;> rfl

theorem setTriggerFrame (b : Bus) (c : ConditionId) (t : Trigger) :
    OnlySignals b (b.setTrigger c t) := rfl

theorem wakesFrame (hooks : List Hook) (b : Bus) : OnlySignals b (hooks.foldl wake b) := by
  induction hooks generalizing b with
  | nil => exact .refl b
  | cons h rest ih => exact (wakeFrame b h).trans (ih _)

theorem notifyFrame (b : Bus) (c : ConditionId) : OnlySignals b (b.notify c) :=
  OnlySignals.trans (b := b.setHooks c (b.liveHooks c)) rfl (wakesFrame _ _)

theorem addHookFrame (b : Bus) (c : ConditionId) (h : Hook) : OnlySignals b (b.addHook c h) := by
  unfold addHook
  dsimp only
  split
  · exact OnlySignals.trans (b := b.setHooks c (b.liveHooks c ++ [h])) rfl (wakeFrame _ h)
  · rfl

theorem setEnabledFrame (b : Bus) (c : ConditionId) (mask : StatusMask) :
    OnlySignals b (b.setEnabled c mask) := by
  unfold setEnabled
  split
  · dsimp only
    split
    · exact (setTriggerFrame b c _).trans (notifyFrame _ c)
    · exact setTriggerFrame b c _
  · exact .refl b

theorem activateFrame (b : Bus) (c : ConditionId) (mask : StatusMask) :
    OnlySignals b (b.activate c mask) := by
  unfold activate
  split
  · dsimp only
    split
    · exact (setTriggerFrame b c _).trans (notifyFrame _ c)
    · exact setTriggerFrame b c _
  · exact .refl b

theorem deactivateFrame (b : Bus) (c : ConditionId) (mask : StatusMask) :
    OnlySignals b (b.deactivate c mask) := by
  unfold deactivate
  split
  · exact setTriggerFrame b c _
  · exact .refl b

theorem setGuardFrame (b : Bus) (c : ConditionId) (value : Bool) :
    OnlySignals b (b.setGuard c value) := by
  unfold setGuard
  split
  · dsimp only
    split
    · exact (setTriggerFrame b c _).trans (notifyFrame _ c)
    · exact setTriggerFrame b c _
  · exact .refl b

end Databus.Bus
