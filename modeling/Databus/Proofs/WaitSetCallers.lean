import Databus.Bus.Sleeping
import Databus.Proofs.WaitBeginning

/-! Callers that share a wait set, step by step: each lowers the flag, scans, tests the flag and blocks on it, while
triggers are stored and hooks called in steps of their own. What the bus does at once is such steps in a row. -/
namespace Databus

/-! ### Storing and telling -/

namespace StatusMask

variable {e a m : StatusMask}

theorem intersectsBits : e.intersects a = true ↔ e.bits &&& a.bits ≠ 0 :=
  bne_iff_ne.trans (not_congr ⟨congrArg bits, congrArg mk⟩)

theorem intersectsAdded (either : e.intersects (a ||| m) = true) (low : e.intersects a = false) :
    e.intersects m = true := by
  rw [← Bool.not_eq_true, intersectsBits, Classical.not_not] at low
  rw [intersectsBits] at either ⊢
  change e.bits &&& (a.bits ||| m.bits) ≠ 0 at either
  rwa [UInt32.and_comm, orAnd, UInt32.and_comm a.bits, low, UInt32.zero_or, UInt32.and_comm] at either

theorem intersectsLess (rest : e.intersects (a.without m) = true) : e.intersects a = true := by
  rw [intersectsBits] at rest ⊢
  intro low
  change e.bits &&& (a.bits &&& ~~~m.bits) ≠ 0 at rest
  rw [← UInt32.and_assoc, low, UInt32.zero_and] at rest
  exact rest rfl

end StatusMask

inductive TriggerStep
  | setEnabled (mask : StatusMask)
  | activate (mask : StatusMask)
  | deactivate (mask : StatusMask)
  | setGuard (value : Bool)
  | takeGuard
  deriving DecidableEq, Repr

namespace TriggerStep

def apply : TriggerStep → Trigger → Trigger
  | setEnabled mask => .enable mask
  | activate mask => .activate mask
  | deactivate mask => .deactivate mask
  | setGuard value => .assign value
  | takeGuard => .assign false

def tells : TriggerStep → Trigger → Bool
  | setEnabled mask, .status _ active => mask.intersects active
  | activate mask, .status enabled _ => enabled.intersects mask
  | setGuard value, .guard _ => value
  | _, _ => false

def perform (b : Bus) (k : ConditionId) : TriggerStep → Bus
  | setEnabled mask => b.setEnabled k mask
  | activate mask => b.activate k mask
  | deactivate mask => b.deactivate k mask
  | setGuard value => b.setGuard k value
  | takeGuard => (b.takeGuard k).2

theorem raisesTold {p : TriggerStep} {t : Trigger} (low : t.value = false) (high : (p.apply t).value = true) :
    p.tells t = true := by
  cases t with
  | status enabled active =>
    cases p with
    | setEnabled mask => exact high
    | activate mask => exact StatusMask.intersectsAdded high low
    | deactivate mask => cases low.symm.trans (StatusMask.intersectsLess high)
    | setGuard value => cases low.symm.trans high
    | takeGuard => cases low.symm.trans high
  | guard raised =>
    cases p with
    | setGuard value => exact high
    | takeGuard => cases high
    | setEnabled mask => cases low.symm.trans high
    | activate mask => cases low.symm.trans high
    | deactivate mask => cases low.symm.trans high

end TriggerStep

namespace Bus

variable {b b' : Bus} {k : ConditionId} {ws : WaitSetId}

def store (b : Bus) (k : ConditionId) (p : TriggerStep) : Bus :=
  { b with conditions := b.conditions.modify k fun x => { x with trigger := p.apply x.trigger } }

def tells (b : Bus) (k : ConditionId) (p : TriggerStep) : Bool := (b.trigger? k).any p.tells

def lower (b : Bus) (ws : WaitSetId) : Bus :=
  { b with waitSets := b.waitSets.modify ws ({ · with pending := false }) }

theorem scanLowers (b : Bus) (ws : WaitSetId) : b.scan ws = ((b.lower ws).triggered ws, b.lower ws) := rfl

theorem storeTrigger {x : Condition} (found : b.conditions.get? k = some x) (p : TriggerStep) :
    b.setTrigger k (p.apply x.trigger) = b.store k p := by
  refine congrArg (fun conditions => { b with conditions }) (Table.sameLookup fun k' => ?_)
  rw [Table.getModify, Table.getModify, found]
  rfl

theorem storeNothing {p : TriggerStep} (fixed : ∀ x, b.conditions.get? k = some x → p.apply x.trigger = x.trigger) :
    b.store k p = b := by
  refine congrArg (fun conditions => { b with conditions }) (Table.sameLookup fun k' => ?_)
  rw [Table.getModify]
  split
  · rename_i own
    rw [own]
    cases found : b.conditions.get? k with
    | none => rfl
    | some x => rw [Option.map_some, fixed x found]
  · rfl

theorem performSteps (b : Bus) (k : ConditionId) (p : TriggerStep) :
    p.perform b k = if b.tells k p then (b.store k p).notify k else b.store k p := by
  unfold tells trigger?
  cases found : b.conditions.get? k with
  | none =>
    rw [storeNothing fun x found' => by cases found.symm.trans found']
    cases p <;> simp only [TriggerStep.perform, setEnabled, activate, deactivate, setGuard, takeGuard, found] <;> rfl
  | some x =>
    have stored := storeTrigger found
    have fixed (p : TriggerStep) (same : p.apply x.trigger = x.trigger) : b.store k p = b :=
      storeNothing fun x' found' => Option.some.inj (found.symm.trans found') ▸ same
    obtain ⟨⟨enabled, active⟩ | raised, hooks, held⟩ := x
    · cases p with
      | setEnabled mask | activate mask | deactivate mask =>
        simp only [TriggerStep.perform, setEnabled, activate, deactivate, found, ← stored]
        rfl
      | setGuard value | takeGuard =>
        rw [fixed _ rfl]
        simp only [TriggerStep.perform, setGuard, takeGuard, found]
        rfl
    · cases p with
      | setEnabled mask | activate mask | deactivate mask =>
        rw [fixed _ rfl]
        simp only [TriggerStep.perform, setEnabled, activate, deactivate, found]
        rfl
      | setGuard value | takeGuard =>
        simp only [TriggerStep.perform, setGuard, takeGuard, found, ← stored]
        rfl

/-! ### What the steps do to the flag, the values and the hooks -/

theorem storeValue (b : Bus) (k : ConditionId) (p : TriggerStep) (k' : ConditionId) :
    (b.store k p).trigger? k' = if k' = k then (b.trigger? k).map p.apply else b.trigger? k' := by
  simp only [trigger?, store, Table.getModify]
  split
  · rw [Option.map_map, Option.map_map]
    rfl
  · rfl

theorem storeTold {p : TriggerStep} (high : (b.store k p).conditionValue k = true) (quiet : b.tells k p = false) :
    b.conditionValue k = true := by
  rw [conditionTrigger, storeValue, if_pos rfl] at high
  rw [conditionTrigger, ← Bool.not_eq_false]
  intro low
  unfold tells at quiet
  cases found : b.trigger? k with
  | none =>
    rw [found] at high
    cases high
  | some t =>
    rw [found] at high low quiet
    cases quiet.symm.trans (TriggerStep.raisesTold low high)

theorem Quiet.values (h : Quiet b b') (k : ConditionId) : b'.conditionValue k = b.conditionValue k := by
  rw [conditionTrigger, h.triggers, conditionTrigger]

theorem lowerPending (b : Bus) (ws : WaitSetId) : (b.lower ws).isPending ws = false := by
  simp only [isPending, lower, Table.getModify, if_true]
  cases b.waitSets.get? ws <;> rfl

theorem wakeContains (b : Bus) (h : Hook) (ws : WaitSetId) :
    (b.wake h).waitSets.contains ws = b.waitSets.contains ws := by
  cases h with
  | signal key id => rfl
  | waitSet key =>
    simp only [wake, Table.contains, Table.getModify]
    split
    · rename_i own
      rw [own, Option.isSome_map]
    · rfl

theorem wakePending (there : b.waitSets.contains ws = true) (h : Hook) :
    (b.wake h).isPending ws = (b.isPending ws || h == .waitSet ws) := by
  cases h with
  | signal key id => simp [isPending, wake]
  | waitSet key =>
    simp only [isPending, wake, Table.getModify]
    by_cases own : ws = key
    · obtain ⟨x, found⟩ := Option.isSome_iff_exists.1 there
      rw [own] at found
      simp [own, found]
    · have other : (Hook.waitSet key == .waitSet ws) = false :=
        beq_eq_false_iff_ne.2 fun same => own (Hook.waitSet.inj same).symm
      rw [if_neg own, other, Bool.or_false]

theorem wakesPending (there : b.waitSets.contains ws = true) (hooks : List Hook) :
    (hooks.foldl wake b).isPending ws = (b.isPending ws || decide (.waitSet ws ∈ hooks)) := by
  induction hooks generalizing b with
  | nil => simp
  | cons h rest ih =>
    rw [List.foldl_cons, ih ((wakeContains b h ws).trans there), wakePending there, Bool.or_assoc]
    refine congrArg _ ?_
    rw [Bool.eq_iff_iff, Bool.or_eq_true, beq_iff_eq, decide_eq_true_iff, decide_eq_true_iff, List.mem_cons]
    exact or_congr_left ⟨Eq.symm, Eq.symm⟩

theorem notifyPending (there : b.waitSets.contains ws = true) (k : ConditionId) :
    (b.notify k).isPending ws = (b.isPending ws || decide (.waitSet ws ∈ b.liveHooks k)) :=
  wakesPending (b := b.setHooks k _) there _

/-! ### Hooks of what is attached -/

structure Hooked (b : Bus) (ws : WaitSetId) : Prop where
  there : b.waitSets.contains ws = true
  hooked : ∀ k ∈ b.attachedTo ws, ∀ x, b.conditions.get? k = some x → .waitSet ws ∈ x.hooks

theorem notifyConditions (b : Bus) (k : ConditionId) :
    (b.notify k).conditions = (b.setHooks k (b.liveHooks k)).conditions :=
  List.foldlRecOn (motive := fun b' : Bus => b'.conditions = (b.setHooks k (b.liveHooks k)).conditions) _ _ rfl
    fun b' same h _ => by cases h <;> exact same

theorem addHookConditions (b : Bus) (k : ConditionId) (h : Hook) :
    (b.addHook k h).conditions = (b.setHooks k (b.liveHooks k ++ [h])).conditions := by
  unfold addHook
  dsimp only
  split
  · cases h <;> rfl
  · rfl

theorem wakesContains (hooks : List Hook) (b : Bus) (ws : WaitSetId) :
    (hooks.foldl wake b).waitSets.contains ws = b.waitSets.contains ws :=
  List.foldlRecOn (motive := fun b' : Bus => b'.waitSets.contains ws = b.waitSets.contains ws) _ _ rfl
    fun b' same h _ => (wakeContains b' h ws).trans same

namespace Hooked

theorem rehook (h : Hooked b ws) {hooks : List Hook} (there : b'.waitSets.contains ws = true)
    (attached : ∀ k' ∈ b'.attachedTo ws, k' ∈ b.attachedTo ws ∨ k' = k)
    (conditions : b'.conditions = (b.setHooks k hooks).conditions)
    (keeps : k ∈ b'.attachedTo ws → ∀ x, b.conditions.get? k = some x → .waitSet ws ∈ hooks) : Hooked b' ws := by
  refine ⟨there, fun k' mem x found => ?_⟩
  rw [conditions, setHooks, Table.getModify] at found
  split at found
  · rename_i own
    obtain ⟨x', found', rfl⟩ := Option.map_eq_some_iff.1 found
    exact keeps (own ▸ mem) x' found'
  · rename_i other
    exact h.hooked k' ((attached k' mem).resolve_right other) x found

theorem live (h : Hooked b ws) (mem : k ∈ b.attachedTo ws) {x : Condition}
    (found : b.conditions.get? k = some x) : .waitSet ws ∈ b.liveHooks k := by
  simp only [liveHooks, found]
  exact List.mem_filter.2 ⟨h.hooked k mem x found, h.there⟩

theorem raised (h : Hooked b ws) (mem : k ∈ b.attachedTo ws) (high : b.conditionValue k = true) :
    .waitSet ws ∈ b.liveHooks k := by
  unfold conditionValue at high
  split at high
  · rename_i found
    exact h.live mem found
  · cases high

theorem fresh (b : Bus) : Hooked b.newWaitSet.2 b.nextKey := by
  refine ⟨by simp only [newWaitSet, Table.contains, Table.getInsert, if_true, Option.isSome_some], fun k mem => ?_⟩
  rw [newAttached] at mem
  cases mem

theorem lower (h : Hooked b ws) : Hooked (b.lower ws) ws := by
  have attached : (b.lower ws).attachedTo ws = b.attachedTo ws := by
    simp only [attachedTo, Bus.lower, Table.getModify, if_true]
    cases b.waitSets.get? ws <;> rfl
  refine ⟨?_, attached.symm ▸ h.hooked⟩
  simp only [Bus.lower, Table.contains, Table.getModify, if_true, Option.isSome_map]
  exact h.there

theorem store (h : Hooked b ws) (k : ConditionId) (p : TriggerStep) : Hooked (b.store k p) ws := by
  refine ⟨h.there, fun k' mem x found => ?_⟩
  simp only [Bus.store, Table.getModify] at found
  split at found
  · rename_i own
    obtain ⟨x', found', rfl⟩ := Option.map_eq_some_iff.1 found
    exact h.hooked k' mem x' (own ▸ found')
  · exact h.hooked k' mem x found

theorem notify (h : Hooked b ws) (k : ConditionId) : Hooked (b.notify k) ws := by
  have attached := Middleware.Site.notifyAttached b k ws
  refine h.rehook ((wakesContains _ _ ws).trans h.there) (fun k' mem => .inl (attached ▸ mem)) (notifyConditions b k)
    fun mem x found => h.live (attached ▸ mem) found

theorem attach (h : Hooked b ws) (ok : b.attach ws k = .ok b') : Hooked b' ws := by
  have attached (k' : ConditionId) (mem : k' ∈ b'.attachedTo ws) : k' ∈ b.attachedTo ws ∨ k' = k :=
    Middleware.Site.attachAttached ok mem
  unfold Bus.attach at ok
  split at ok
  · cases ok
  · cases ok
    refine h.rehook ?_ attached (addHookConditions b k (.waitSet ws)) fun _ x found =>
      List.mem_append_right _ (List.mem_singleton.2 rfl)
    have there : (b.addHook k (.waitSet ws)).waitSets.contains ws = true := by
      unfold addHook
      dsimp only
      split
      · exact (wakeContains _ _ ws).trans h.there
      · exact h.there
    simp only [Table.contains, Table.getModify, if_true, Option.isSome_map]
    exact there

end Hooked

theorem attachPending (there : b.waitSets.contains ws = true) (ok : b.attach ws k = .ok b') :
    b'.isPending ws = (b.isPending ws || b.conditionValue k) := by
  have hooked := setHooksQuiet b k (b.liveHooks k ++ [.waitSet ws])
  have joins (b : Bus) : isPending { b with waitSets := b.waitSets.modify ws fun x =>
      { x with conditions := x.conditions ++ [k] } } ws = b.isPending ws := by
    simp only [isPending, Table.getModify, if_true]
    cases b.waitSets.get? ws <;> rfl
  unfold attach at ok
  split at ok
  · cases ok
  · cases ok
    refine (joins _).trans ?_
    unfold addHook
    dsimp only
    rw [hooked.values]
    split
    · rename_i high
      rw [wakePending (b := b.setHooks k _) there, high, beq_self_eq_true, Bool.or_true, Bool.or_true]
    · rename_i low
      rw [Bool.eq_false_iff.2 low, Bool.or_false]
      rfl

end Bus

/-! ### Callers -/

inductive CallerPhase
  | clearing
  | scanning
  | testing (expired : Bool)
  | blocked
  | done (found : List ConditionId)
  deriving DecidableEq, Repr

def CallerPhase.rouse : CallerPhase → CallerPhase
  | blocked => testing false
  | p => p

def Sleeper.phase (s : Sleeper) (idle : CallerPhase) : CallerPhase :=
  match s.found with
  | none => idle
  | some found => .done found

inductive CallerStep
  | arrive
  | clear (i : Nat)
  | scan (i : Nat)
  | test (i : Nat)
  | expire (i : Nat)
  | store (k : ConditionId) (p : TriggerStep)
  | notify (k : ConditionId)
  | attach (k : ConditionId)
  deriving DecidableEq, Repr

/-- The callers of one wait set; to `owed` conditions something was stored whose hooks are still to be called. -/
structure WaitSetCallers where
  bus : Bus
  waitSet : WaitSetId
  callers : List CallerPhase := []
  owed : List ConditionId := []
  deriving DecidableEq, Repr

namespace WaitSetCallers

def opened (b : Bus) : WaitSetCallers := { bus := b.newWaitSet.2, waitSet := b.newWaitSet.1 }

def roused (c : WaitSetCallers) (signalled : Bool) : List CallerPhase :=
  if signalled then c.callers.map CallerPhase.rouse else c.callers

def step (c : WaitSetCallers) : CallerStep → WaitSetCallers
  | .arrive => { c with callers := c.callers ++ [.clearing] }
  | .clear i =>
    if c.callers[i]? = some .clearing then
      { c with bus := c.bus.lower c.waitSet, callers := c.callers.set i .scanning }
    else c
  | .scan i =>
    if c.callers[i]? = some .scanning then
      let found := c.bus.triggered c.waitSet
      { c with callers := c.callers.set i (if found = [] then .testing false else .done found) }
    else c
  | .test i =>
    match c.callers[i]? with
    | some (.testing expired) =>
      let phase := if c.bus.isPending c.waitSet then .clearing else if expired then .done [] else .blocked
      { c with callers := c.callers.set i phase }
    | _ => c
  | .expire i =>
    if c.callers[i]? = some .blocked then { c with callers := c.callers.set i (.testing true) } else c
  | .store k p => { c with bus := c.bus.store k p, owed := if c.bus.tells k p then k :: c.owed else c.owed }
  | .notify k =>
    if k ∈ c.owed then
      { c with
        bus := c.bus.notify k
        callers := c.roused (decide (.waitSet c.waitSet ∈ c.bus.liveHooks k))
        owed := c.owed.erase k }
    else c
  | .attach k =>
    match c.bus.attach c.waitSet k with
    | .ok bus => { c with bus, callers := c.roused (c.bus.conditionValue k) }
    | .error _ => c

def run (c : WaitSetCallers) (acts : List CallerStep) : WaitSetCallers := acts.foldl step c

variable {c : WaitSetCallers} {i : Nat}

theorem runAppend (c : WaitSetCallers) (acts acts' : List CallerStep) :
    c.run (acts ++ acts') = (c.run acts).run acts' :=
  List.foldl_append

theorem runNext (c : WaitSetCallers) (acts : List CallerStep) (a : CallerStep) :
    c.run (acts ++ [a]) = (c.run acts).step a :=
  runAppend c acts [a]

/-! ### Waking up in turn -/

theorem pollRuns (there : c.callers[i]? = some (.testing false)) (up : c.bus.isPending c.waitSet = true) :
    c.run [.test i, .clear i, .scan i] =
      { c with
        bus := (c.bus.scan c.waitSet).2
        callers := c.callers.set i
          (if (c.bus.scan c.waitSet).1 = [] then .testing false else .done (c.bus.scan c.waitSet).1) } := by
  have inside : i < c.callers.length := (List.getElem?_eq_some_iff.1 there).1
  simp only [run, List.foldl_cons, List.foldl_nil, step, there, up, if_true, List.getElem?_set_self inside,
    List.set_set, Bus.scanLowers]
  rfl

theorem blockRuns (there : c.callers[i]? = some (.testing false)) (down : c.bus.isPending c.waitSet = false) :
    c.run [.test i] = { c with callers := c.callers.set i .blocked } := by
  simp [run, step, there, down]

theorem wakeUpFirst {s : Sleeper} (own : s.waitSet = c.waitSet)
    (there : c.callers[s.caller]? = some (s.phase (.testing false))) (rest : List Sleeper) :
    ∃ acts b s', c.run acts = { c with bus := b, callers := c.callers.set s.caller (s'.phase .blocked) } ∧
      s'.caller = s.caller ∧ (c.bus.wakeUp (s :: rest)).2 = (b.wakeUp rest).2 ∧
      ∀ x ∈ (c.bus.wakeUp (s :: rest)).1, x = s' ∨ x ∈ (b.wakeUp rest).1 := by
  obtain ⟨i, ws, found⟩ := s
  cases own
  cases found with
  | some found =>
    obtain ⟨inside, done⟩ := List.getElem?_eq_some_iff.1 there
    have same : c.callers.set i (.done found) = c.callers := by
      rw [← show c.callers[i] = .done found from done, List.set_getElem_self]
    refine ⟨[], c.bus, ⟨i, c.waitSet, some found⟩, ?_, rfl, ?_, fun x mem => ?_⟩
    · exact congrArg (fun callers => { c with callers }) same.symm
    · simp [Bus.wakeUp]
    · simpa [Bus.wakeUp] using mem
  | none =>
    cases up : c.bus.isPending c.waitSet with
    | false =>
      refine ⟨[.test i], c.bus, ⟨i, c.waitSet, none⟩, blockRuns there up, rfl, ?_, fun x mem => ?_⟩
      · simp [Bus.wakeUp, up]
      · simpa [Bus.wakeUp, up] using mem
    | true =>
      have polls := pollRuns there up
      have down : (c.bus.scan c.waitSet).2.isPending c.waitSet = false := Bus.lowerPending c.bus c.waitSet
      generalize scanned : c.bus.scan c.waitSet = result at polls down
      obtain ⟨found, b⟩ := result
      cases found with
      | nil =>
        have inside := (List.getElem?_eq_some_iff.1 there).1
        refine ⟨[.test i, .clear i, .scan i] ++ [.test i], b, ⟨i, c.waitSet, none⟩, ?_, rfl, ?_, fun x mem => ?_⟩
        · rw [runAppend, polls, blockRuns (List.getElem?_set_self inside) down, List.set_set]
          rfl
        · simp [Bus.wakeUp, up, Bus.poll, scanned]
        · simpa [Bus.wakeUp, up, Bus.poll, scanned, or_comm] using mem
      | cons k found =>
        refine ⟨_, b, ⟨i, c.waitSet, some (k :: found)⟩, polls, rfl, ?_, fun x mem => ?_⟩
        · simp [Bus.wakeUp, up, Bus.poll, scanned]
        · simpa [Bus.wakeUp, up, Bus.poll, scanned] using mem

theorem wakeUpRuns {sleepers : List Sleeper} (own : ∀ s ∈ sleepers, s.waitSet = c.waitSet)
    (nodup : (sleepers.map Sleeper.caller).Nodup)
    (there : ∀ s ∈ sleepers, c.callers[s.caller]? = some (s.phase (.testing false))) :
    ∃ acts, (c.run acts).bus = (c.bus.wakeUp sleepers).2 ∧
      (∀ s ∈ (c.bus.wakeUp sleepers).1, (c.run acts).callers[s.caller]? = some (s.phase .blocked)) ∧
      ∀ i, i ∉ sleepers.map Sleeper.caller → (c.run acts).callers[i]? = c.callers[i]? := by
  induction sleepers generalizing c with
  | nil => exact ⟨[], rfl, fun s mem => absurd mem List.not_mem_nil, fun _ _ => rfl⟩
  | cons s rest ih =>
    obtain ⟨first, b, s', runs, caller, bus, found⟩ :=
      wakeUpFirst (own s List.mem_cons_self) (there s List.mem_cons_self) rest
    obtain ⟨new, nodup⟩ := List.nodup_cons.1 nodup
    have apart (i : Nat) (other : i ≠ s.caller) : (c.run first).callers[i]? = c.callers[i]? := by
      rw [runs]
      exact List.getElem?_set_ne other.symm
    have inside : s.caller < c.callers.length :=
      (List.getElem?_eq_some_iff.1 (there s List.mem_cons_self)).1
    have here : (c.run first).callers[s.caller]? = some (s'.phase .blocked) := by
      rw [runs]
      exact List.getElem?_set_self inside
    have others (x : Sleeper) (mem : x ∈ rest) : x.caller ≠ s.caller := fun same =>
      new (same ▸ List.mem_map_of_mem mem)
    obtain ⟨acts, bus', phases, frame⟩ := ih (c := c.run first)
      (fun x mem => by rw [runs]; exact own x (List.mem_cons_of_mem _ mem)) nodup
      (fun x mem => (apart _ (others x mem)).trans (there x (List.mem_cons_of_mem _ mem)))
    have same : (c.run first).bus = b := by rw [runs]
    rw [same] at bus' phases
    refine ⟨first ++ acts, ?_, fun x mem => ?_, fun i out => ?_⟩
    · rw [runAppend, bus', bus]
    · rw [runAppend]
      rcases found x mem with rfl | mem
      · rw [caller, frame _ new, here]
      · exact phases x mem
    · obtain ⟨other, out⟩ := not_or.1 (mt List.mem_cons.2 out)
      rw [runAppend, frame i out, apart i other]

end WaitSetCallers
end Databus
