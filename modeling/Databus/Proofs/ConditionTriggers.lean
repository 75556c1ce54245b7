import Databus.Bus.Waiting

/-! Triggers under signalling: each operation maps the trigger of one condition and leaves all others, hooks and
wait sets touch none. What a status condition shows of its reader is one bit of its active statuses. -/
namespace Databus

namespace StatusMask

theorem orAnd (n m k : UInt32) : (n ||| m) &&& k = (n &&& k) ||| (m &&& k) :=
  UInt32.toBitVec_inj.1 BitVec.and_or_distrib_right

theorem lowBit (n : UInt32) : n &&& 1 = 0 ∨ n &&& 1 = 1 := by
  have value : (n &&& 1).toNat = n.toNat % 2 := by
    rw [UInt32.toNat_and]
    exact Nat.and_one_is_mod _
  rcases Nat.mod_two_eq_zero_or_one n.toNat with even | odd
  · exact .inl (UInt32.toNat_inj.1 (value.trans even))
  · exact .inr (UInt32.toNat_inj.1 (value.trans odd))

theorem containsBit (a : StatusMask) : a.contains dataAvailable = true ↔ a.bits &&& 1 = 1 := by
  simp only [contains, beq_iff_eq]
  exact ⟨congrArg bits, congrArg mk⟩

theorem containsAdded (a : StatusMask) : (a ||| dataAvailable).contains dataAvailable = true := by
  have added : (a.bits ||| 1) &&& 1 = 1 := by
    rw [orAnd]
    rcases lowBit a.bits with clear | set
    · rw [clear]
      rfl
    · rw [set]
      rfl
  exact (containsBit _).2 added

theorem containsLost (a : StatusMask) :
    (a ||| sampleLost).contains dataAvailable = a.contains dataAvailable := by
  have same : (a.bits ||| 2) &&& 1 = a.bits &&& 1 := (orAnd ..).trans (UInt32.or_zero ..)
  have bits : (a ||| sampleLost) &&& dataAvailable = a &&& dataAvailable := congrArg mk same
  rw [contains, bits, contains]

theorem containsWithout (a : StatusMask) : (a.without dataAvailable).contains dataAvailable = false := by
  have cleared : a.bits &&& ~~~1 &&& 1 = 0 := (UInt32.and_assoc ..).trans (UInt32.and_zero ..)
  rw [← Bool.not_eq_true, containsBit]
  intro set
  cases cleared.symm.trans set

theorem intersectsExact (a : StatusMask) : dataAvailable.intersects a = a.contains dataAvailable := by
  have bits : dataAvailable &&& a = ⟨a.bits &&& 1⟩ := congrArg mk (UInt32.and_comm ..)
  have bits' : a &&& dataAvailable = ⟨a.bits &&& 1⟩ := rfl
  rw [intersects, contains, bits, bits']
  rcases lowBit a.bits with clear | set
  · rw [clear]
    rfl
  · rw [set]
    rfl

end StatusMask

namespace Trigger

def shows : Trigger → Option Bool
  | .status _ active => some (active.contains .dataAvailable)
  | .guard _ => none

def setting : Trigger → Option StatusMask
  | .status enabled _ => some enabled
  | .guard _ => none

def enable (mask : StatusMask) : Trigger → Trigger
  | .status _ active => .status mask active
  | t => t

def activate (mask : StatusMask) : Trigger → Trigger
  | .status enabled active => .status enabled (active ||| mask)
  | t => t

def deactivate (mask : StatusMask) : Trigger → Trigger
  | .status enabled active => .status enabled (active.without mask)
  | t => t

def assign (value : Bool) : Trigger → Trigger
  | .guard _ => .guard value
  | t => t

def listening (l : List ConditionId) (k : ConditionId) : Trigger → Trigger :=
  if k ∈ l then enable .dataAvailable else id

def lowering (l : List ConditionId) (k : ConditionId) : Trigger → Trigger :=
  if k ∈ l then assign false else id

theorem listeningMap (l : List ConditionId) (k : ConditionId) (t : Option Trigger) :
    t.map (listening l k) = if k ∈ l then t.map (enable .dataAvailable) else t := by
  rw [listening]
  split
  · rfl
  · rw [Option.map_id_fun, id]

theorem valueShown {t : Trigger} {shown : Bool} (listens : t.setting = some .dataAvailable)
    (shows : t.shows = some shown) : t.value = shown := by
  cases t with
  | guard raised => cases listens
  | status enabled active =>
    cases Option.some.inj listens
    exact (StatusMask.intersectsExact active).trans (Option.some.inj shows)

theorem showsFed {t : Trigger} {shown : Bool} (shows : t.shows = some shown) :
    (t.activate .dataAvailable).shows = some true := by
  cases t with
  | guard raised => cases shows
  | status enabled active => exact congrArg some (StatusMask.containsAdded active)

theorem showsLost (t : Trigger) : (t.activate .sampleLost).shows = t.shows := by
  cases t with
  | guard raised => rfl
  | status enabled active => exact congrArg some (StatusMask.containsLost active)

theorem showsEmptied {t : Trigger} {shown : Bool} (shows : t.shows = some shown) :
    (t.deactivate .dataAvailable).shows = some false := by
  cases t with
  | guard raised => cases shows
  | status enabled active => exact congrArg some (StatusMask.containsWithout active)

theorem showsEnabled (mask : StatusMask) (t : Trigger) : (t.enable mask).shows = t.shows := by
  cases t <;> rfl

theorem showsAssigned (value : Bool) (t : Trigger) : (t.assign value).shows = t.shows := by
  cases t <;> rfl

def Tends (t t' : Trigger) : Prop :=
  t'.setting = t.setting ∨ t.setting.isSome ∧ t'.setting = some .dataAvailable

namespace Tends

theorem refl (t : Trigger) : Tends t t := .inl rfl

theorem trans {t u v : Trigger} (h : Tends t u) (h' : Tends u v) : Tends t v := by
  rcases h' with same | ⟨status, data⟩
  · rcases h with same' | ⟨status, data⟩
    · exact .inl (same.trans same')
    · exact .inr ⟨status, same.trans data⟩
  · rcases h with same' | ⟨status', _⟩
    · exact .inr ⟨same' ▸ status, data⟩
    · exact .inr ⟨status', data⟩

theorem enable (t : Trigger) : Tends t (t.enable .dataAvailable) := by
  cases t with
  | guard raised => exact .refl _
  | status enabled active => exact .inr ⟨rfl, rfl⟩

theorem activate (mask : StatusMask) (t : Trigger) : Tends t (t.activate mask) := by
  cases t <;> exact .inl rfl

theorem deactivate (mask : StatusMask) (t : Trigger) : Tends t (t.deactivate mask) := by
  cases t <;> exact .inl rfl

theorem assign (value : Bool) (t : Trigger) : Tends t (t.assign value) := by
  cases t <;> exact .inl rfl

theorem listens {t t' : Trigger} (h : Tends t t') (listens : t.setting = some .dataAvailable) :
    t'.setting = some .dataAvailable := by
  rcases h with same | ⟨_, data⟩
  · exact same.trans listens
  · exact data

theorem guard {t' : Trigger} {raised : Bool} (h : Tends (.guard raised) t') : ∃ now, t' = .guard now := by
  cases t' with
  | guard now => exact ⟨now, rfl⟩
  | status enabled active =>
    rcases h with same | ⟨status, _⟩
    · cases same
    · cases status

end Tends

end Trigger

namespace Bus

def trigger? (b : Bus) (c : ConditionId) : Option Trigger := (b.conditions.get? c).map (·.trigger)

def held? (b : Bus) (c : ConditionId) : Option Bool := (b.conditions.get? c).map (·.held)

theorem conditionTrigger (b : Bus) (c : ConditionId) :
    b.conditionValue c = (b.trigger? c).any Trigger.value := by
  unfold conditionValue trigger?
  cases b.conditions.get? c <;> rfl

theorem triggerSame {b b' : Bus} (h : b'.conditions = b.conditions) (c : ConditionId) :
    b'.trigger? c = b.trigger? c := by
  rw [trigger?, h, trigger?]

theorem OnlySignals.nextHandle {b b' : Bus} (h : OnlySignals b b') : b'.nextHandle = b.nextHandle := by
  have e := congrArg Bus.nextHandle h.same
  exact e

theorem OnlySignals.nextCondition {b b' : Bus} (h : OnlySignals b b') :
    b'.nextCondition = b.nextCondition := by
  have e := congrArg Bus.nextCondition h.same
  exact e

/-! ### Hooks -/

structure Quiet (b b' : Bus) : Prop where
  signals : OnlySignals b b'
  triggers : ∀ c, b'.trigger? c = b.trigger? c
  held : ∀ c, b'.held? c = b.held? c

namespace Quiet

theorem refl (b : Bus) : Quiet b b := ⟨.refl b, fun _ => rfl, fun _ => rfl⟩

theorem trans {a b c : Bus} (h : Quiet a b) (h' : Quiet b c) : Quiet a c :=
  ⟨h.1.trans h'.1, fun k => (h'.2 k).trans (h.2 k), fun k => (h'.3 k).trans (h.3 k)⟩

end Quiet

theorem modifyHooksQuiet (b : Bus) (c : ConditionId) (f : List Hook → List Hook) :
    Quiet b { b with conditions := b.conditions.modify c fun x => { x with hooks := f x.hooks } } :=
  ⟨rfl, fun _ => Table.modifySame _ _ _ fun _ => rfl, fun _ => Table.modifySame _ _ _ fun _ => rfl⟩

theorem setHooksQuiet (b : Bus) (c : ConditionId) (hooks : List Hook) : Quiet b (b.setHooks c hooks) :=
  modifyHooksQuiet b c fun _ => hooks

theorem removeHooksQuiet (b : Bus) (c : ConditionId) (p : Hook → Bool) : Quiet b (b.removeHooks c p) :=
  modifyHooksQuiet b c fun hooks => hooks.filter (!p ·)

theorem wakeQuiet (b : Bus) (h : Hook) : Quiet b (b.wake h) := by
  refine ⟨wakeFrame b h, fun _ => ?_, fun _ => ?_⟩ <;>
    · cases h <;> rfl

theorem wakesQuiet (hooks : List Hook) (b : Bus) : Quiet b (hooks.foldl wake b) :=
  List.foldlRecOn (motive := Quiet b) hooks wake (.refl b) fun b' quiet h _ => quiet.trans (wakeQuiet b' h)

theorem notifyQuiet (b : Bus) (c : ConditionId) : Quiet b (b.notify c) :=
  (setHooksQuiet b c _).trans (wakesQuiet _ _)

theorem addHookQuiet (b : Bus) (c : ConditionId) (h : Hook) : Quiet b (b.addHook c h) := by
  have hooked := setHooksQuiet b c (b.liveHooks c ++ [h])
  unfold addHook
  dsimp only
  split
  · exact hooked.trans (wakeQuiet _ h)
  · exact hooked

/-! ### One condition's trigger -/

structure Adjusts (c : ConditionId) (f : Trigger → Trigger) (b b' : Bus) : Prop where
  signals : OnlySignals b b'
  triggers : ∀ k, b'.trigger? k = if k = c then (b.trigger? c).map f else b.trigger? k
  held : ∀ k, b'.held? k = b.held? k

theorem Adjusts.quiet {a b b' : Bus} {c : ConditionId} {f : Trigger → Trigger} (h : Adjusts c f a b)
    (q : Quiet b b') : Adjusts c f a b' :=
  ⟨h.1.trans q.1, fun k => (q.2 k).trans (h.2 k), fun k => (q.3 k).trans (h.3 k)⟩

theorem Adjusts.then {a b b' : Bus} {c : ConditionId} {f g : Trigger → Trigger} (h : Adjusts c f a b)
    (h' : Adjusts c g b b') : Adjusts c (g ∘ f) a b' := by
  refine ⟨h.1.trans h'.1, fun k => ?_, fun k => (h'.3 k).trans (h.3 k)⟩
  rw [h'.2, h.2, h.2]
  split
  · rw [if_pos rfl, Option.map_map]
  · rfl

theorem adjustsNothing {b : Bus} {c : ConditionId} {f : Trigger → Trigger}
    (fixed : (b.trigger? c).map f = b.trigger? c) : Adjusts c f b b := by
  refine ⟨.refl b, fun k => ?_, fun _ => rfl⟩
  rw [fixed]
  split
  · rename_i same
    rw [same]
  · rfl

theorem guardUntouched {b : Bus} {c : ConditionId} {f : Trigger → Trigger}
    (other : ∀ enabled active hooks held,
      b.conditions.get? c = some ⟨.status enabled active, hooks, held⟩ → False)
    (fixed : ∀ raised, f (.guard raised) = .guard raised) : Adjusts c f b b := by
  refine adjustsNothing ?_
  unfold trigger?
  cases found : b.conditions.get? c with
  | none => rfl
  | some x =>
    obtain ⟨_ | raised, _, _⟩ := x
    · exact (other _ _ _ _ found).elim
    · exact congrArg some (fixed raised)

theorem statusUntouched {b : Bus} {c : ConditionId} {f : Trigger → Trigger}
    (other : ∀ raised hooks held, b.conditions.get? c = some ⟨.guard raised, hooks, held⟩ → False)
    (fixed : ∀ enabled active, f (.status enabled active) = .status enabled active) :
    Adjusts c f b b := by
  refine adjustsNothing ?_
  unfold trigger?
  cases found : b.conditions.get? c with
  | none => rfl
  | some x =>
    obtain ⟨⟨enabled, active⟩ | _, _, _⟩ := x
    · exact congrArg some (fixed enabled active)
    · exact (other _ _ _ found).elim

theorem setTriggerAdjusts {b : Bus} {c : ConditionId} {x : Condition} (found : b.conditions.get? c = some x)
    {t : Trigger} {f : Trigger → Trigger} (becomes : f x.trigger = t) : Adjusts c f b (b.setTrigger c t) := by
  refine ⟨setTriggerFrame b c t, fun k => ?_, fun _ => Table.modifySame _ _ _ fun _ => rfl⟩
  simp only [trigger?, setTrigger, Table.getModify, found, Option.map_some, becomes]
  split <;> rfl

theorem setEnabledAdjusts (b : Bus) (c : ConditionId) (mask : StatusMask) :
    Adjusts c (Trigger.enable mask) b (b.setEnabled c mask) := by
  unfold setEnabled
  split
  · rename_i found
    dsimp only
    split
    · exact (setTriggerAdjusts found rfl).quiet (notifyQuiet _ c)
    · exact setTriggerAdjusts found rfl
  · rename_i other
    exact guardUntouched other fun _ => rfl

theorem activateAdjusts (b : Bus) (c : ConditionId) (mask : StatusMask) :
    Adjusts c (Trigger.activate mask) b (b.activate c mask) := by
  unfold activate
  split
  · rename_i found
    dsimp only
    split
    · exact (setTriggerAdjusts found rfl).quiet (notifyQuiet _ c)
    · exact setTriggerAdjusts found rfl
  · rename_i other
    exact guardUntouched other fun _ => rfl

theorem deactivateAdjusts (b : Bus) (c : ConditionId) (mask : StatusMask) :
    Adjusts c (Trigger.deactivate mask) b (b.deactivate c mask) := by
  unfold deactivate
  split
  · rename_i found
    exact setTriggerAdjusts found rfl
  · rename_i other
    exact guardUntouched other fun _ => rfl

theorem setGuardAdjusts (b : Bus) (c : ConditionId) (value : Bool) :
    Adjusts c (Trigger.assign value) b (b.setGuard c value) := by
  unfold setGuard
  split
  · rename_i found
    dsimp only
    split
    · exact (setTriggerAdjusts found rfl).quiet (notifyQuiet _ c)
    · exact setTriggerAdjusts found rfl
  · rename_i other
    exact statusUntouched other fun _ _ => rfl

theorem takeGuardAdjusts (b : Bus) (c : ConditionId) :
    Adjusts c (Trigger.assign false) b (b.takeGuard c).2 := by
  unfold takeGuard
  split
  · rename_i found
    exact setTriggerAdjusts found rfl
  · rename_i other
    exact statusUntouched other fun _ _ => rfl

theorem takeGuardValue {b : Bus} {c : ConditionId} {raised : Bool} (guard : b.trigger? c = some (.guard raised)) :
    (b.takeGuard c).1 = raised := by
  obtain ⟨x, found, trigger⟩ := Option.map_eq_some_iff.1 guard
  obtain ⟨_ | now, _, _⟩ := x
  · cases trigger
  · cases trigger
    simp only [takeGuard, found]

/-! ### Wait sets -/

theorem newAttached (b : Bus) : b.newWaitSet.2.attachedTo b.nextKey = [] := by
  simp only [attachedTo, newWaitSet, Table.getInsert, if_true]

theorem attachQuiet {b b' : Bus} {ws : WaitSetId} {c : ConditionId} (ok : b.attach ws c = .ok b') :
    Quiet b b' := by
  unfold attach at ok
  split at ok <;> try contradiction
  cases Except.ok.inj ok
  exact (addHookQuiet b c (.waitSet ws)).trans ⟨rfl, fun _ => rfl, fun _ => rfl⟩

theorem dropWaitSetQuiet (b : Bus) (ws : WaitSetId) : Quiet b (b.dropWaitSet ws) := by
  have unhooked : Quiet b ((b.attachedTo ws).foldl (fun b c => b.removeHooks c (isWaitSet ws)) b) :=
    List.foldlRecOn (motive := Quiet b) _ _ (.refl b) fun b' quiet c _ =>
      quiet.trans (removeHooksQuiet b' c _)
  exact unhooked.trans ⟨rfl, fun _ => rfl, fun _ => rfl⟩

theorem pollQuiet (b : Bus) (ws : WaitSetId) : Quiet b (b.poll ws).2 := by
  have scanned : Quiet b (b.scan ws).2 := ⟨rfl, fun _ => rfl, fun _ => rfl⟩
  unfold poll
  split <;> rename_i eq <;> rw [eq] at scanned <;> exact scanned

end Bus
end Databus
