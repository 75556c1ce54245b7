import Databus.Proofs.WaitSetCallers

/-! Signals of the application and the conditions they are registered at. What is done to a condition is stored first;
then the live signals registered there are called, each time the value turns true and never while it is false. -/
namespace Databus

namespace Table

variable {κ α : Type} [LT κ] [DecidableEq κ]

theorem containsModify (t : Table κ α) (k k' : κ) (f : α → α) : (t.modify k f).contains k' = t.contains k' := by
  rw [contains, getModify]
  split
  · rename_i own
    rw [own, Option.isSome_map, contains]
  · rfl

theorem absent {t : Table κ α} {k : κ} (absent : t.contains k = false) : t.get? k = none :=
  Option.isNone_iff_eq_none.1 (Option.isSome_eq_false_iff.1 absent)

variable [Std.Irrefl (· < · : κ → κ → Prop)]

theorem containsErase (t : Table κ α) (k k' : κ) : (t.erase k).contains k' = (k' != k && t.contains k') := by
  rw [contains, getErase]
  by_cases own : k' = k <;> simp [own, contains]

variable [Trans (· < · : κ → κ → Prop) (· < · : κ → κ → Prop) (· < · : κ → κ → Prop)]
    [Std.Trichotomous (· < · : κ → κ → Prop)]

omit [Std.Irrefl (· < · : κ → κ → Prop)] in
theorem containsInsert [DecidableLT κ] (t : Table κ α) (k k' : κ) (a : α) :
    (t.insert k a).contains k' = (k' == k || t.contains k') := by
  rw [contains, getInsert]
  by_cases own : k' = k <;> simp [own, contains]

end Table

namespace StatusMask

theorem intersectsMore {e a m : StatusMask} (some : e.intersects m = true) : e.intersects (a ||| m) = true := by
  rw [intersectsBits] at some ⊢
  change e.bits &&& (a.bits ||| m.bits) ≠ 0
  rw [UInt32.and_comm, orAnd, UInt32.and_comm m.bits]
  exact fun none => some (UInt32.or_eq_zero_iff.1 none).2

end StatusMask

theorem TriggerStep.toldTrue {p : TriggerStep} {t : Trigger} (told : p.tells t = true) : (p.apply t).value = true := by
  cases t with
  | status enabled active =>
    cases p with
    | setEnabled mask => exact told
    | activate mask => exact StatusMask.intersectsMore told
    | deactivate | setGuard | takeGuard => cases told
  | guard raised =>
    cases p with
    | setGuard value => exact told
    | setEnabled | activate | deactivate | takeGuard => cases told

namespace Bus

variable {b b' : Bus} {c k : ConditionId}

/-! ### Hooks of one condition -/

def hooksAt (b : Bus) (c : ConditionId) : List Hook := ((b.conditions.get? c).map Condition.hooks).getD []

theorem liveHooksAt (b : Bus) (c : ConditionId) : b.liveHooks c = (b.hooksAt c).filter b.isLive := by
  unfold liveHooks hooksAt
  cases b.conditions.get? c <;> rfl

theorem hooksSame (same : b'.conditions = b.conditions) (c : ConditionId) : b'.hooksAt c = b.hooksAt c := by
  rw [hooksAt, same, hooksAt]

theorem liveAgain (b : Bus) (c : ConditionId) : (b.liveHooks c).filter b.isLive = b.liveHooks c := by
  rw [liveHooksAt, List.filter_filter]
  exact List.filter_congr fun x _ => Bool.and_self _

theorem absentHooks (absent : b.conditions.contains c = false) : b.hooksAt c = [] := by
  rw [hooksAt, Table.absent absent]
  rfl

theorem setHooksAt (there : b.conditions.contains k = true) (hooks : List Hook) (c : ConditionId) :
    (b.setHooks k hooks).hooksAt c = if c = k then hooks else b.hooksAt c := by
  obtain ⟨x, found⟩ := Option.isSome_iff_exists.1 there
  simp only [hooksAt, setHooks, Table.getModify]
  split
  · rw [found]
    rfl
  · rfl

theorem setHooksAbsent (absent : b.conditions.contains k = false) (hooks : List Hook) : b.setHooks k hooks = b := by
  refine congrArg (fun conditions => { b with conditions }) (Table.sameLookup fun c => ?_)
  rw [Table.getModify, Table.absent absent]
  split
  · rename_i own
    rw [own, Table.absent absent]
    rfl
  · rfl

theorem notifyHooks (b : Bus) (k c : ConditionId) :
    (b.notify k).hooksAt c = if c = k then b.liveHooks k else b.hooksAt c := by
  rw [hooksSame (notifyConditions b k)]
  cases there : b.conditions.contains k with
  | true => exact setHooksAt there _ c
  | false =>
    rw [setHooksAbsent there, liveHooksAt]
    split
    · rename_i own
      rw [own, absentHooks there, List.filter_nil]
    · rfl

theorem addHookAt (there : b.conditions.contains k = true) (h : Hook) (c : ConditionId) :
    (b.addHook k h).hooksAt c = if c = k then b.liveHooks k ++ [h] else b.hooksAt c := by
  rw [hooksSame (addHookConditions b k h), setHooksAt there]

theorem removeHooksAt (b : Bus) (k : ConditionId) (p : Hook → Bool) (c : ConditionId) :
    (b.removeHooks k p).hooksAt c = if c = k then (b.hooksAt k).filter (!p ·) else b.hooksAt c := by
  simp only [hooksAt, removeHooks, Table.getModify]
  split
  · cases b.conditions.get? k <;> rfl
  · rfl

theorem storeHooks (b : Bus) (k : ConditionId) (p : TriggerStep) (c : ConditionId) :
    (b.store k p).hooksAt c = b.hooksAt c := by
  have same : ((b.store k p).conditions.get? c).map Condition.hooks = (b.conditions.get? c).map Condition.hooks :=
    Table.modifySame _ _ _ fun _ => rfl
  rw [hooksAt, same, hooksAt]

theorem liveSame (waitSets : ∀ ws, b'.waitSets.contains ws = b.waitSets.contains ws)
    (signals : ∀ key, b'.signals.contains key = b.signals.contains key) : b'.isLive = b.isLive := by
  funext h
  cases h with
  | waitSet ws => exact waitSets ws
  | signal key id => exact signals key

theorem wakeLive (b : Bus) (h : Hook) : (b.wake h).isLive = b.isLive := by
  refine liveSame (wakeContains b h) fun key => ?_
  cases h with
  | waitSet ws => rfl
  | signal key' id => exact Table.containsModify ..

theorem wakesConditions (hooks : List Hook) (b : Bus) : (hooks.foldl wake b).conditions = b.conditions :=
  List.foldlRecOn (motive := fun b' : Bus => b'.conditions = b.conditions) _ _ rfl fun b' same h _ => by
    cases h <;> exact same

theorem wakesLive (hooks : List Hook) (b : Bus) : (hooks.foldl wake b).isLive = b.isLive :=
  List.foldlRecOn (motive := fun b' : Bus => b'.isLive = b.isLive) _ _ rfl fun b' same h _ =>
    (wakeLive b' h).trans same

theorem addHookLive (b : Bus) (k : ConditionId) (h : Hook) : (b.addHook k h).isLive = b.isLive := by
  unfold addHook
  dsimp only
  split
  · exact wakeLive (b.setHooks k (b.liveHooks k ++ [h])) h
  · rfl

theorem newValue {x : Condition} (low : x.value = false) (fresh : b.conditions.contains b.nextCondition = false)
    (c : ConditionId) : (b.newCondition x).2.conditionValue c = b.conditionValue c := by
  simp only [conditionTrigger, trigger?, newCondition, Table.getInsert]
  split
  · rename_i own
    rw [own, Table.absent fresh]
    exact low
  · rfl

theorem newHooks {x : Condition} (bare : x.hooks = []) (fresh : b.conditions.contains b.nextCondition = false)
    (c : ConditionId) : (b.newCondition x).2.hooksAt c = b.hooksAt c := by
  simp only [hooksAt, newCondition, Table.getInsert]
  split
  · rename_i new
    rw [Option.map_some, bare, new, Table.absent fresh]
    rfl
  · rfl

/-! ### What is done to a trigger -/

theorem containsTrigger (b : Bus) (c : ConditionId) : b.conditions.contains c = (b.trigger? c).isSome := by
  rw [trigger?, Option.isSome_map, Table.contains]

theorem Quiet.contains (h : Quiet b b') (c : ConditionId) : b'.conditions.contains c = b.conditions.contains c := by
  rw [containsTrigger, h.triggers, containsTrigger]

theorem storeContains (b : Bus) (k : ConditionId) (p : TriggerStep) (c : ConditionId) :
    (b.store k p).conditions.contains c = b.conditions.contains c := Table.containsModify ..

theorem storeLiveHooks (b : Bus) (k : ConditionId) (p : TriggerStep) (c : ConditionId) :
    (b.store k p).liveHooks c = b.liveHooks c := by
  rw [liveHooksAt, storeHooks, liveHooksAt]
  rfl

theorem performFrame (b : Bus) (k : ConditionId) (p : TriggerStep) : OnlySignals b (p.perform b k) := by
  rw [performSteps]
  split
  · exact OnlySignals.trans (b := b.store k p) rfl (notifyFrame _ k)
  · rfl

theorem performContains (b : Bus) (k : ConditionId) (p : TriggerStep) (c : ConditionId) :
    (p.perform b k).conditions.contains c = b.conditions.contains c := by
  rw [performSteps]
  split
  · exact ((notifyQuiet _ k).contains c).trans (storeContains b k p c)
  · exact storeContains b k p c

theorem performLive (b : Bus) (k : ConditionId) (p : TriggerStep) : (p.perform b k).isLive = b.isLive := by
  rw [performSteps]
  split
  · exact wakesLive (b := (b.store k p).setHooks k _) _
  · rfl

theorem performHooks (b : Bus) (k : ConditionId) (p : TriggerStep) (c : ConditionId) :
    (p.perform b k).hooksAt c = b.hooksAt c ∨ (p.perform b k).hooksAt c = b.liveHooks c := by
  rw [performSteps]
  split
  · rw [notifyHooks, storeHooks, storeLiveHooks]
    split
    · rename_i own
      exact .inr (own ▸ rfl)
    · exact .inl rfl
  · exact .inl (storeHooks b k p c)

theorem performRises {p : TriggerStep} (low : b.conditionValue c = false)
    (high : (p.perform b k).conditionValue c = true) :
    c = k ∧ b.tells k p = true := by
  have stored : (b.store k p).conditionValue c = true := by
    rw [performSteps] at high
    split at high
    · exact ((notifyQuiet _ k).values c).symm.trans high
    · exact high
  have own : c = k := Decidable.not_not.1 fun other => by
    rw [conditionTrigger, storeValue, if_neg other, ← conditionTrigger, low] at stored
    contradiction
  rw [own] at low stored
  refine ⟨own, eq_true_of_ne_false fun quiet => ?_⟩
  cases low.symm.trans (storeTold stored quiet)

theorem toldStored {p : TriggerStep} (told : b.tells k p = true) : (b.store k p).conditionValue k = true := by
  rw [conditionTrigger, storeValue, if_pos rfl]
  unfold tells at told
  cases found : b.trigger? k with
  | none =>
    rw [found] at told
    contradiction
  | some t =>
    rw [found] at told
    exact TriggerStep.toldTrue (t := t) told

end Bus

def Hook.isSignal (key : SignalId) : Hook → Bool
  | .signal key' _ => key' == key
  | .waitSet _ => false

theorem Bus.wakesSignals (hooks : List Hook) (b : Bus) (key : SignalId) : (hooks.foldl wake b).signals.get? key =
    (b.signals.get? key).map (· + hooks.countP (Hook.isSignal key)) := by
  induction hooks generalizing b with
  | nil => simp
  | cons h rest ih =>
    rw [List.foldl_cons, ih]
    cases h with
    | waitSet ws => rfl
    | signal key' id =>
      simp only [wake, Table.getModify, List.countP_cons, Hook.isSignal]
      by_cases own : key = key'
      · rw [if_pos own, own, Option.map_map]
        refine congrArg (Option.map · _) (funext fun n => ?_)
        simp only [Function.comp_apply, beq_self_eq_true, if_true]
        omega
      · have other : (key' == key) = false := beq_eq_false_iff_ne.2 (Ne.symm own)
        simp [own, other]

/-! ### Towers -/

inductive SignalStep
  | newStatus
  | newGuard
  | newSignal
  | adjust (c : ConditionId) (p : TriggerStep)
  | add (key : SignalId) (id : Nat) (c : ConditionId)
  | remove (c : ConditionId) (id : Nat)
  | drop (key : SignalId)
  deriving DecidableEq, Repr

def SignalStep.condition? : SignalStep → Option ConditionId
  | adjust c _ | add _ _ c | remove c _ => some c
  | _ => none

structure SignalRegistry where
  bus : Bus := {}
  registered : List (ConditionId × Hook) := []
  deriving DecidableEq, Repr

def Hook.hasId (id : Nat) : Hook → Bool
  | .signal _ id' => id' == id
  | .waitSet _ => false

namespace SignalRegistry

def registeredAt (t : SignalRegistry) (c : ConditionId) : List Hook := (t.registered.filter (·.1 = c)).map Prod.snd

def step (t : SignalRegistry) : SignalStep → SignalRegistry
  | .newStatus => { t with bus := (t.bus.newCondition .newStatus).2 }
  | .newGuard => { t with bus := (t.bus.newCondition .newGuard).2 }
  | .newSignal => { t with bus := t.bus.newSignal.2 }
  | .adjust c p => { t with bus := p.perform t.bus c }
  | .add key id c =>
    if t.bus.conditions.contains c ∧ t.bus.signals.contains key then
      { bus := t.bus.addSignal key id c, registered := t.registered ++ [(c, .signal key id)] }
    else t
  | .remove c id =>
    { bus := t.bus.removeSignal c id, registered := t.registered.filter fun r => !(r.1 == c && r.2.hasId id) }
  | .drop key => { t with bus := t.bus.dropSignal key }

def run (t : SignalRegistry) (steps : List SignalStep) : SignalRegistry := steps.foldl step t

structure Sound (t : SignalRegistry) : Prop where
  keys : ∀ key, t.bus.signals.contains key = true → key < t.bus.nextKey
  conditions : ∀ c, t.bus.conditions.contains c = true → c < t.bus.nextCondition
  entries : ∀ c h, h ∈ t.registeredAt c → t.bus.conditions.contains c = true ∧
    ∃ key id, h = .signal key id ∧ key < t.bus.nextKey
  hooks : ∀ c, t.bus.hooksAt c ⊆ t.registeredAt c
  live : ∀ c, t.bus.liveHooks c = (t.registeredAt c).filter t.bus.isLive

variable {t : SignalRegistry} {b : Bus} {c : ConditionId} {s : SignalStep}

theorem addRegistered (bus : Bus) (l : List (ConditionId × Hook)) (k : ConditionId) (h : Hook) (c : ConditionId) :
    registeredAt ⟨bus, l ++ [(k, h)]⟩ c = if c =
      k then registeredAt ⟨bus, l⟩ k ++ [h] else registeredAt ⟨bus, l⟩ c := by
  simp only [registeredAt, List.filter_append, List.map_append]
  split
  · rename_i own
    rw [own]
    simp
  · rename_i other
    simp [Ne.symm other]

theorem removeRegistered (bus : Bus) (l : List (ConditionId × Hook)) (k : ConditionId) (id : Nat) (c : ConditionId) :
    registeredAt ⟨bus, l.filter fun r => !(r.1 == k && r.2.hasId id)⟩ c =
      if c = k then (registeredAt ⟨bus, l⟩ k).filter (!Hook.hasId id ·) else registeredAt ⟨bus, l⟩ c := by
  simp only [registeredAt]
  split
  · rename_i own
    rw [own, List.filter_map, List.filter_filter, List.filter_filter]
    refine congrArg (List.map Prod.snd) (List.filter_congr fun r _ => ?_)
    by_cases here : r.1 = k <;> simp [here]
  · rename_i other
    rw [List.filter_filter]
    refine congrArg (List.map Prod.snd) (List.filter_congr fun r _ => ?_)
    by_cases here : r.1 = c <;> simp [here, other]

theorem soundEmpty : Sound {} where
  keys _ there := nomatch there
  conditions _ there := nomatch there
  entries _ _ mem := nomatch mem
  hooks _ _ mem := nomatch mem
  live _ := rfl

namespace Sound

theorem fresh (h : t.Sound) : t.bus.conditions.contains t.bus.nextCondition = false :=
  Bool.eq_false_iff.2 fun there => Nat.lt_irrefl _ (h.conditions _ there)

theorem newCondition (h : t.Sound) {x : Condition} (bare : x.hooks = []) :
    Sound { t with bus := (t.bus.newCondition x).2 } := by
  have there (c : ConditionId) : (t.bus.newCondition x).2.conditions.contains c =
      (c == t.bus.nextCondition || t.bus.conditions.contains c) := Table.containsInsert ..
  have hooks := Bus.newHooks bare h.fresh
  refine ⟨h.keys, fun c known => ?_, fun c x mem => ?_, fun c => ?_, fun c => ?_⟩
  · rw [there, Bool.or_eq_true, beq_iff_eq] at known
    rcases known with new | old
    · exact new ▸ Nat.lt_succ_self _
    · exact Nat.lt_succ_of_lt (h.conditions c old)
  · obtain ⟨known, signal⟩ := h.entries c x mem
    exact ⟨(there c).trans (by rw [known, Bool.or_true]), signal⟩
  · rw [hooks]
    exact h.hooks c
  · rw [Bus.liveHooksAt, hooks]
    exact (Bus.liveHooksAt t.bus c).symm.trans (h.live c)

theorem newSignal (h : t.Sound) : Sound { t with bus := t.bus.newSignal.2 } := by
  have there (key : SignalId) : t.bus.newSignal.2.signals.contains key =
      (key == t.bus.nextKey || t.bus.signals.contains key) := Table.containsInsert ..
  -- what is registered has its key already
  have live (c : ConditionId) (x : Hook) (mem : x ∈ t.registeredAt c) :
    t.bus.newSignal.2.isLive x = t.bus.isLive x := by
    obtain ⟨_, key, id, rfl, old⟩ := h.entries c x mem
    rw [Bus.isLive, there, beq_eq_false_iff_ne.2 (Nat.ne_of_lt old), Bool.false_or, Bus.isLive]
  refine ⟨fun key known => ?_, h.conditions, fun c x mem => ?_, h.hooks, fun c => ?_⟩
  · rw [there, Bool.or_eq_true, beq_iff_eq] at known
    rcases known with new | old
    · exact new ▸ Nat.lt_succ_self _
    · exact Nat.lt_succ_of_lt (h.keys key old)
  · obtain ⟨known, key, id, same, old⟩ := h.entries c x mem
    exact ⟨known, key, id, same, Nat.lt_succ_of_lt old⟩
  · have kept : t.bus.newSignal.2.liveHooks c = t.bus.liveHooks c := by
      rw [Bus.liveHooksAt, Bus.liveHooksAt]
      exact List.filter_congr fun x mem => live c x (h.hooks c mem)
    exact kept.trans ((h.live c).trans (List.filter_congr fun x mem => (live c x mem).symm))

theorem adjust (h : t.Sound) (k : ConditionId) (p : TriggerStep) : Sound { t with bus := p.perform t.bus k } := by
  have frame := Bus.performFrame t.bus k p
  have live := Bus.performLive t.bus k p
  have key : (p.perform t.bus k).nextKey = t.bus.nextKey := (Bus.OnlyTraffic.ofSignals frame).nextKey
  refine ⟨fun key' known => ?_, fun c known => ?_, fun c x mem => ?_, fun c => ?_, fun c => ?_⟩
  · rw [key]
    exact h.keys key' ((congrFun live (.signal key' 0)).symm.trans known)
  · rw [frame.nextCondition]
    exact h.conditions c ((Bus.performContains t.bus k p c).symm.trans known)
  · rw [Bus.performContains, key]
    exact h.entries c x mem
  · rcases Bus.performHooks t.bus k p c with same | live
    · rw [same]
      exact h.hooks c
    · rw [live, Bus.liveHooksAt]
      exact fun x mem => h.hooks c (List.mem_filter.1 mem).1
  · have kept : (p.perform t.bus k).liveHooks c = t.bus.liveHooks c := by
      rw [Bus.liveHooksAt, live]
      rcases Bus.performHooks t.bus k p c with same | live
      · rw [same, Bus.liveHooksAt]
      · rw [live, Bus.liveAgain]
    exact kept.trans ((h.live c).trans (congrArg (List.filter · _) live.symm))

theorem add (h : t.Sound) {key : SignalId} (id : Nat) {k : ConditionId} (there : t.bus.conditions.contains k = true)
    (alive : t.bus.signals.contains key = true) :
    Sound ⟨t.bus.addSignal key id k, t.registered ++ [(k, .signal key id)]⟩ := by
  have quiet : Bus.Quiet t.bus (t.bus.addSignal key id k) := Bus.addHookQuiet _ _ _
  have live : (t.bus.addSignal key id k).isLive = t.bus.isLive := Bus.addHookLive _ _ _
  have key' : (t.bus.addSignal key id k).nextKey = t.bus.nextKey := (Bus.OnlyTraffic.ofSignals quiet.signals).nextKey
  have hooks (c : ConditionId) : (t.bus.addSignal key id k).hooksAt c =
      if c = k then t.bus.liveHooks k ++ [.signal key id] else t.bus.hooksAt c := Bus.addHookAt there _ c
  refine ⟨fun key known => ?_, fun c known => ?_, fun c x mem => ?_, fun c => ?_, fun c => ?_⟩
  · rw [key']
    exact h.keys key ((congrFun live (.signal key 0)).symm.trans known)
  · rw [quiet.signals.nextCondition]
    exact h.conditions c ((quiet.contains c).symm.trans known)
  · rw [quiet.contains, key']
    rw [addRegistered] at mem
    split at mem
    · rename_i own
      rcases List.mem_append.1 mem with old | new
      · exact own ▸ h.entries k x old
      · exact ⟨own ▸ there, key, id, List.mem_singleton.1 new, h.keys key alive⟩
    · exact h.entries c x mem
  · rw [hooks, addRegistered]
    split
    · rw [h.live]
      exact List.append_subset.2 ⟨fun x mem => List.mem_append_left _ (List.mem_filter.1 mem).1,
        fun x mem => List.mem_append_right _ mem⟩
    · exact h.hooks c
  · rw [Bus.liveHooksAt, live, hooks, addRegistered]
    split
    · have new : [Hook.signal key id].filter t.bus.isLive = [.signal key id] := List.filter_eq_self.2 fun x mem =>
        List.mem_singleton.1 mem ▸ alive
      rw [List.filter_append, List.filter_append, new, Bus.liveAgain, h.live]
      rfl
    · exact (Bus.liveHooksAt t.bus c).symm.trans (h.live c)

theorem remove (h : t.Sound) (k : ConditionId) (id : Nat) :
    Sound ⟨t.bus.removeSignal k id, t.registered.filter fun r => !(r.1 == k && r.2.hasId id)⟩ := by
  have quiet : Bus.Quiet t.bus (t.bus.removeSignal k id) := Bus.removeHooksQuiet _ _ _
  have hooks (c : ConditionId) : (t.bus.removeSignal k id).hooksAt c =
      if c = k then (t.bus.hooksAt k).filter (!Hook.hasId id ·) else t.bus.hooksAt c := Bus.removeHooksAt _ _ _ c
  refine ⟨h.keys, fun c known => ?_, fun c x mem => ?_, fun c => ?_, fun c => ?_⟩
  · exact h.conditions c ((quiet.contains c).symm.trans known)
  · rw [quiet.contains]
    rw [removeRegistered] at mem
    split at mem
    · rename_i own
      exact own ▸ h.entries k x (List.mem_filter.1 mem).1
    · exact h.entries c x mem
  · rw [hooks, removeRegistered]
    split
    · exact List.filter_subset _ (h.hooks k)
    · exact h.hooks c
  · rw [Bus.liveHooksAt, hooks, removeRegistered]
    split
    · have swap (l : List Hook) : (l.filter (!Hook.hasId id ·)).filter t.bus.isLive =
          (l.filter t.bus.isLive).filter (!Hook.hasId id ·) := by
        rw [List.filter_filter, List.filter_filter]
        exact List.filter_congr fun x _ => Bool.and_comm ..
      have live := (Bus.liveHooksAt t.bus k).symm.trans (h.live k)
      exact (swap _).trans ((congrArg (List.filter _) live).trans (swap _).symm)
    · exact (Bus.liveHooksAt t.bus c).symm.trans (h.live c)

theorem drop (h : t.Sound) (key : SignalId) : Sound { t with bus := t.bus.dropSignal key } := by
  have live (x : Hook) : (t.bus.dropSignal key).isLive x = (!x.isSignal key && t.bus.isLive x) := by
    cases x with
    | waitSet ws => rfl
    | signal key' id => exact Table.containsErase ..
  refine ⟨fun key' known => ?_, h.conditions, h.entries, h.hooks, fun c => ?_⟩
  · have old : (t.bus.dropSignal key).isLive (.signal key' 0) = true := known
    rw [live, Bool.and_eq_true] at old
    exact h.keys key' old.2
  · have both (l : List Hook) : l.filter (t.bus.dropSignal key).isLive =
        (l.filter t.bus.isLive).filter (!Hook.isSignal key ·) := by
      rw [List.filter_filter]
      exact List.filter_congr fun x _ => live x
    rw [Bus.liveHooksAt, both, both]
    exact congrArg (List.filter _) ((Bus.liveHooksAt t.bus c).symm.trans (h.live c))

end Sound

theorem soundStep (h : t.Sound) (s : SignalStep) : (t.step s).Sound := by
  cases s with
  | newStatus | newGuard => exact h.newCondition rfl
  | newSignal => exact h.newSignal
  | adjust c p => exact h.adjust c p
  | add key id c =>
    rw [step]
    split
    · rename_i both
      exact h.add id both.1 both.2
    · exact h
  | remove c id => exact h.remove c id
  | drop key => exact h.drop key

theorem soundRun (h : t.Sound) (steps : List SignalStep) : (t.run steps).Sound :=
  List.foldlRecOn (motive := Sound) steps step h fun _ sound s _ => soundStep sound s

/-! ### Who is called -/

structure SignalCalls (t : SignalRegistry) (s : SignalStep) (stored : Bus) (called : List Hook) : Prop where
  after : (t.step s).bus = called.foldl Bus.wake stored
  settled : stored.conditions = (t.step s).bus.conditions
  rise : ∀ c, t.bus.conditionValue c = false → (t.step s).bus.conditionValue c = true →
    called = (t.registeredAt c).filter t.bus.isLive
  joined : ∀ key id c, s = .add key id c → t.bus.conditions.contains c = true → t.bus.signals.contains key = true →
    t.bus.conditionValue c = true → called = [.signal key id]
  high : ∀ h ∈ called, ∃ c, s.condition? = some c ∧ stored.conditionValue c = true ∧
    h ∈ (t.step s).registeredAt c ∧ (t.step s).bus.isLive h = true
  hits : ∀ key n, t.bus.signals.get? key = some n → s ≠ .drop key →
    (t.step s).bus.signals.get? key = some (n + called.countP (Hook.isSignal key))

theorem callsSilent (same : ∀ c, (t.step s).bus.conditionValue c = t.bus.conditionValue c)
    (idle : ∀ key id c, s = .add key id c → t.bus.conditions.contains c = true → t.bus.signals.contains key = true →
      t.bus.conditionValue c ≠ true)
    (signals : ∀ key n, t.bus.signals.get? key = some n → s ≠ .drop key → (t.step s).bus.signals.get? key = some n) :
    t.SignalCalls s (t.step s).bus [] where
  after := rfl
  settled := rfl
  rise c low high := by
    rw [same, low] at high
    contradiction
  joined key id c own there alive high := absurd high (idle key id c own there alive)
  high h mem := nomatch mem
  hits := signals

theorem callsAdjust (h : t.Sound) (c : ConditionId) (p : TriggerStep) :
    ∃ stored called, t.SignalCalls (.adjust c p) stored called := by
  have after := Bus.performSteps t.bus c p
  cases told : t.bus.tells c p with
  | false =>
    rw [told, if_neg Bool.false_ne_true] at after
    refine ⟨t.bus.store c p, [], after, congrArg Bus.conditions after.symm, fun k low high => ?_, nofun, nofun,
      fun key n found _ => ?_⟩
    · rw [(Bus.performRises low high).2] at told
      contradiction
    · rw [step, after]
      exact found
  | true =>
    rw [told, if_pos rfl, Bus.notify, Bus.storeLiveHooks] at after
    have value : ((t.bus.store c p).setHooks c (t.bus.liveHooks c)).conditionValue c = true :=
      ((Bus.setHooksQuiet _ c _).values c).trans (Bus.toldStored told)
    refine ⟨(t.bus.store c p).setHooks c (t.bus.liveHooks c), t.bus.liveHooks c, after, ?_, fun k low high => ?_, nofun,
      fun x mem => ⟨c, rfl, value, ?_⟩, fun key n found _ => ?_⟩
    · rw [step, after, Bus.wakesConditions]
    · rw [(Bus.performRises low high).1]
      exact h.live c
    · rw [h.live, List.mem_filter] at mem
      exact ⟨mem.1, (congrFun (Bus.performLive t.bus c p) x).trans mem.2⟩
    · rw [step, after, Bus.wakesSignals]
      exact congrArg (Option.map _) found

theorem callsAdd (t : SignalRegistry) (key : SignalId) (id : Nat) (c : ConditionId) :
    ∃ stored called, t.SignalCalls (.add key id c) stored called := by
  by_cases both : t.bus.conditions.contains c = true ∧ t.bus.signals.contains key = true
  · have stepped : t.step (.add key id c) = ⟨t.bus.addSignal key id c, t.registered ++ [(c, .signal key id)]⟩ :=
      if_pos both
    have quiet : Bus.Quiet t.bus (t.bus.addSignal key id c) := Bus.addHookQuiet _ _ _
    have values (k : ConditionId) : (t.step (.add key id c)).bus.conditionValue k = t.bus.conditionValue k := by
      rw [stepped]
      exact quiet.values k
    cases value : t.bus.conditionValue c with
    | false =>
      have after : (t.step (.add key id c)).bus = t.bus.setHooks c (t.bus.liveHooks c ++ [.signal key id]) := by
        rw [stepped]
        exact if_neg (by rw [(Bus.setHooksQuiet _ _ _).values, value]; exact Bool.false_ne_true)
      refine ⟨_, [], callsSilent values (fun key' id' c' own _ _ high => ?_) fun key' n found _ => ?_⟩
      · cases own
        rw [value] at high
        contradiction
      · rw [after]
        exact found
    | true =>
      have after : (t.step (.add key id c)).bus =
          (t.bus.setHooks c (t.bus.liveHooks c ++ [.signal key id])).wake (.signal key id) := by
        rw [stepped]
        exact if_pos (by rw [(Bus.setHooksQuiet _ _ _).values, value])
      refine ⟨_, [.signal key id], after, ?_, fun k low high => ?_, fun key' id' c' own _ _ _ => ?_, fun x mem => ?_,
        fun key' n found _ => ?_⟩
      · rw [after]
        rfl
      · rw [values, low] at high
        contradiction
      · cases own
        rfl
      · refine ⟨c, rfl, ((Bus.setHooksQuiet _ _ _).values c).trans value, ?_⟩
        rw [List.mem_singleton.1 mem, stepped, addRegistered, if_pos rfl]
        exact ⟨List.mem_append_right _ (List.mem_singleton.2 rfl),
          (congrFun (Bus.addHookLive t.bus c (.signal key id)) _).trans both.2⟩
      · rw [after]
        exact (Bus.wakesSignals [.signal key id] _ key').trans (congrArg (Option.map _) found)
  · have stepped : t.step (.add key id c) = t := if_neg both
    refine ⟨_, [], callsSilent (fun k => by rw [stepped]) (fun key' id' c' own there alive _ => ?_) fun key' n found
      _ => ?_⟩
    · cases own
      exact both ⟨there, alive⟩
    · rw [stepped]
      exact found

theorem peals (h : t.Sound) (s : SignalStep) : ∃ stored called, t.SignalCalls s stored called := by
  cases s with
  | newStatus | newGuard =>
    exact ⟨_, [], callsSilent (fun c => Bus.newValue rfl h.fresh c) nofun fun key n found _ => found⟩
  | newSignal =>
    refine ⟨_, [], callsSilent (fun _ => rfl) nofun fun key n found _ => ?_⟩
    have old := h.keys key (Option.isSome_of_mem found)
    simp only [step, Bus.newSignal, Table.getInsert, if_neg (Nat.ne_of_lt old)]
    exact found
  | adjust c p => exact callsAdjust h c p
  | add key id c => exact callsAdd t key id c
  | remove c id =>
    exact ⟨_, [], callsSilent (Bus.removeHooksQuiet _ _ _).values nofun fun key n found _ => found⟩
  | drop key =>
    refine ⟨_, [], callsSilent (fun _ => rfl) nofun fun key' n found other => ?_⟩
    have apart : key' ≠ key := fun same => other (same ▸ rfl)
    simp only [step, Bus.dropSignal, Table.getErase, if_neg apart]
    exact found

/-! ### Who is not called again -/

theorem stepRegistered {x : Hook} (mem : x ∈ (t.step s).registeredAt c) :
    x ∈ t.registeredAt c ∨ ∃ key id, s = .add key id c ∧ x = .signal key id := by
  cases s with
  | add key id k =>
    rw [step] at mem
    split at mem
    · rw [addRegistered] at mem
      split at mem
      · rename_i own
        rcases List.mem_append.1 mem with old | new
        · exact .inl (own ▸ old)
        · exact .inr ⟨key, id, own ▸ rfl, List.mem_singleton.1 new⟩
      · exact .inl mem
    · exact .inl mem
  | remove k id =>
    rw [step, removeRegistered] at mem
    split at mem
    · rename_i own
      exact .inl (own ▸ (List.mem_filter.1 mem).1)
    · exact .inl mem
  | _ => exact .inl mem

theorem runRegistered (steps : List SignalStep) {key : SignalId} {id : Nat} (gone : .signal key id ∉ t.registeredAt c)
    (never : .add key id c ∉ steps) : .signal key id ∉ (t.run steps).registeredAt c := by
  induction steps generalizing t with
  | nil => exact gone
  | cons s rest ih =>
    refine ih (fun mem => ?_) fun later => never (List.mem_cons_of_mem _ later)
    obtain old | ⟨key', id', own, same⟩ := stepRegistered mem
    · exact gone old
    · cases same
      exact never (own ▸ List.mem_cons_self)

theorem removedGone (t : SignalRegistry) (c : ConditionId) (id : Nat) (key : SignalId) :
    .signal key id ∉ (t.step (.remove c id)).registeredAt c := by
  rw [step, removeRegistered, if_pos rfl]
  intro mem
  have other := (List.mem_filter.1 mem).2
  simp [Hook.hasId] at other

def Lost (t : SignalRegistry) (key : SignalId) : Prop := t.bus.signals.contains key = false ∧ key < t.bus.nextKey

theorem stepLost {key : SignalId} (lost : t.Lost key) (s : SignalStep) : (t.step s).Lost key := by
  obtain ⟨gone, given⟩ := lost
  cases s with
  | newStatus | newGuard | remove => exact ⟨gone, given⟩
  | newSignal =>
    refine ⟨?_, Nat.lt_succ_of_lt given⟩
    rw [step, Bus.newSignal, Table.containsInsert, gone, beq_eq_false_iff_ne.2 (Nat.ne_of_lt given)]
    rfl
  | adjust c p =>
    refine ⟨(congrFun (Bus.performLive t.bus c p) (.signal key 0)).trans gone, ?_⟩
    rw [step, (Bus.OnlyTraffic.ofSignals (Bus.performFrame t.bus c p)).nextKey]
    exact given
  | add key' id c =>
    rw [step]
    split
    · refine ⟨(congrFun (Bus.addHookLive t.bus c (.signal key' id)) (.signal key 0)).trans gone, ?_⟩
      rw [Bus.addSignal, (Bus.OnlyTraffic.ofSignals (Bus.addHookFrame t.bus c (.signal key' id))).nextKey]
      exact given
    · exact ⟨gone, given⟩
  | drop key' =>
    refine ⟨?_, given⟩
    rw [step, Bus.dropSignal, Table.containsErase, gone, Bool.and_false]

theorem runLost {key : SignalId} (lost : t.Lost key) (steps : List SignalStep) : (t.run steps).Lost key :=
  List.foldlRecOn (motive := fun t : SignalRegistry => t.Lost key) steps step lost fun _ lost s _ => stepLost lost s

theorem droppedLost (h : t.Sound) {key : SignalId} (there : t.bus.signals.contains key = true) :
    (t.step (.drop key)).Lost key := by
  refine ⟨?_, h.keys key there⟩
  rw [step, Bus.dropSignal, Table.containsErase, bne_self_eq_false, Bool.false_and]

theorem runSplit (t : SignalRegistry) (before : List SignalStep) (s : SignalStep) (after : List SignalStep) :
    t.run (before ++ s :: after) = ((t.run before).step s).run after := by
  rw [run, List.foldl_append, List.foldl_cons, ← run, ← run]

/-- However conditions are enabled, raised and lowered, and signals registered, removed and dropped: what turns a value
true then calls every signal that is registered there and alive, and a signal registered while it is true is called at
once; whoever is called is registered and alive, and finds the value true. Signals removed or dropped are not called
again, but those that are registered again; live hooks are never lost. -/
theorem signalsRing (steps : List SignalStep) (s : SignalStep) :
    let t := ({} : SignalRegistry).run steps
    ∃ stored called, t.SignalCalls s stored called ∧
      (∀ c, (t.step s).bus.liveHooks c = ((t.step s).registeredAt c).filter (t.step s).bus.isLive) ∧
      (∀ before c id after key, steps = before ++ .remove c id :: after → .add key id c ∉ after →
        s ≠ .add key id c → s.condition? = some c → .signal key id ∉ called) ∧
      ∀ before key after id, steps = before ++ .drop key :: after →
        (({} : SignalRegistry).run before).bus.signals.contains key = true → .signal key id ∉ called := by
  intro t
  have sound : t.Sound := soundRun soundEmpty steps
  obtain ⟨stored, called, calls⟩ := peals sound s
  refine ⟨stored, called, calls, (soundStep sound s).live, fun before c id after key eq never other here mem => ?_,
    fun before key after id eq there mem => ?_⟩
  · obtain ⟨k, own, _, registered, _⟩ := calls.high _ mem
    cases here.symm.trans own
    have gone : .signal key id ∉ t.registeredAt c := by
      change _ ∉ (({} : SignalRegistry).run steps).registeredAt c
      rw [eq, runSplit]
      exact runRegistered after (removedGone _ c id key) never
    obtain old | ⟨key', id', own, same⟩ := stepRegistered registered
    · exact gone old
    · cases same
      exact other own
  · obtain ⟨_, _, _, _, alive⟩ := calls.high _ mem
    have lost : t.Lost key := by
      change (({} : SignalRegistry).run steps).Lost key
      rw [eq, runSplit]
      exact runLost (droppedLost (soundRun soundEmpty before) there) after
    cases alive.symm.trans (stepLost lost s).1

example : (({} : SignalRegistry).run [.newGuard, .newSignal, .add 1 7 1, .adjust 1 (.setGuard true), .remove 1 7,
    .adjust 1 .takeGuard, .adjust 1 (.setGuard true)]).bus.signals.get? 1 = some 1 := by
  decide

end SignalRegistry
end Databus
