import Databus.Proofs.ConditionSignals
import Databus.Proofs.ListenerDraining

/-! Readers that share nothing do not notice in which order they are told: what a notice changes is drawn up from its
reader alone, and what is drawn up for two independent notices can be done in either order. -/
namespace Databus

/-! ### Triggers pulled in either order -/

def Hook.flag (t : Table WaitSetId WaitSet) : Hook → Table WaitSetId WaitSet
  | .waitSet key => t.modify key ({ · with pending := true })
  | .signal _ _ => t

def Hook.count (t : Table SignalId Nat) : Hook → Table SignalId Nat
  | .waitSet _ => t
  | .signal key _ => t.modify key (· + 1)

theorem Hook.flagSwap (t : Table WaitSetId WaitSet) (h h' : Hook) : (h.flag t |> h'.flag) = (h'.flag t |> h.flag) := by
  cases h <;> cases h' <;> simp only [flag]
  exact t.modifySwap (.inr fun _ => rfl)

theorem Hook.countSwap (t : Table SignalId Nat) (h h' : Hook) : (h.count t |> h'.count) = (h'.count t |> h.count) := by
  cases h <;> cases h' <;> simp only [count]
  exact t.modifySwap (.inr fun _ => rfl)

def Condition.adjusted (live : Hook → Bool) (p : TriggerStep) (x : Condition) : Condition :=
  { x with trigger := p.apply x.trigger, hooks := if p.tells x.trigger then x.hooks.filter live else x.hooks }

def TriggerStep.Free (p q : TriggerStep) : Prop :=
  ∀ t, p.apply (q.apply t) = q.apply (p.apply t) ∧ p.tells (q.apply t) = p.tells t ∧ q.tells (p.apply t) = q.tells t

theorem TriggerStep.Free.symm {p q : TriggerStep} (free : p.Free q) : q.Free p := fun t =>
  ⟨(free t).1.symm, (free t).2.2, (free t).2.1⟩

theorem TriggerStep.Free.adjusted {p q : TriggerStep} (free : p.Free q) (live : Hook → Bool) (x : Condition) :
    (x.adjusted live p).adjusted live q = (x.adjusted live q).adjusted live p := by
  obtain ⟨swap, here, there⟩ := free x.trigger
  simp only [Condition.adjusted, swap, here, there]
  cases p.tells x.trigger <;> cases q.tells x.trigger <;> rfl

namespace Bus

variable {b b' : Bus} {j k : ConditionId} {p q : TriggerStep}

theorem wakesTables (hooks : List Hook) (b : Bus) : hooks.foldl wake b =
    { b with waitSets := hooks.foldl Hook.flag b.waitSets, signals := hooks.foldl Hook.count b.signals } := by
  induction hooks generalizing b with
  | nil => rfl
  | cons h rest ih =>
    rw [List.foldl_cons, ih]
    cases h <;> rfl

def calledHooks (b : Bus) (k : ConditionId) (p : TriggerStep) : List Hook :=
  match b.conditions.get? k with
  | some x => if p.tells x.trigger then x.hooks.filter b.isLive else []
  | none => []

theorem performTables (b : Bus) (k : ConditionId) (p : TriggerStep) : p.perform b k =
    { b with
      conditions := b.conditions.modify k (Condition.adjusted b.isLive p)
      waitSets := (b.calledHooks k p).foldl Hook.flag b.waitSets
      signals := (b.calledHooks k p).foldl Hook.count b.signals } := by
  have hooks : (b.store k p).liveHooks k = b.liveHooks k := storeLiveHooks b k p k
  rw [performSteps, notify, wakesTables, hooks]
  unfold tells trigger? calledHooks liveHooks
  cases found : b.conditions.get? k with
  | none =>
    refine congrArg (fun conditions => { b with conditions }) (Table.sameLookup fun k' => ?_)
    simp only [Table.getModify, found, Option.map_none]
  | some x =>
    simp only [Option.map_some, Option.any_some]
    cases told : p.tells x.trigger with
    | false =>
      refine congrArg (fun conditions => { b with conditions }) (Table.sameLookup fun k' => ?_)
      simp only [Table.getModify, found, Option.map_some, Condition.adjusted, told, Bool.false_eq_true, if_false]
    | true =>
      have same : (b.conditions.modify k fun x => { x with trigger := p.apply x.trigger }).modify k
          (fun y => { y with hooks := x.hooks.filter b.isLive }) =
            b.conditions.modify k (Condition.adjusted b.isLive p) := Table.sameLookup fun k' => by
        simp only [Table.getModify, found, Option.map_some, Condition.adjusted, told, if_true]
        split <;> rfl
      simp only [if_true, setHooks, store, same]

theorem calledHooksAfter (apart : j ≠ k ∨ p.Free q) : (q.perform b j).calledHooks k p = b.calledHooks k p := by
  have live := performLive b j q
  unfold calledHooks
  rw [live, performTables, Table.getModify]
  by_cases same : j = k
  · subst same
    rw [if_pos rfl]
    cases b.conditions.get? j with
    | none => rfl
    | some x =>
      obtain ⟨_, here, _⟩ := (apart.resolve_left fun other => other rfl) x.trigger
      simp only [Option.map_some, Condition.adjusted, here]
      split
      · split
        · rw [List.filter_filter]
          exact List.filter_congr fun h _ => Bool.and_self _
        · rfl
      · rfl
  · rw [if_neg (Ne.symm same)]

theorem performSwap (apart : j ≠ k ∨ p.Free q) :
    p.perform (q.perform b j) k = q.perform (p.perform b k) j := by
  have apart' : k ≠ j ∨ q.Free p := apart.imp Ne.symm .symm
  rw [performTables (q.perform b j), performTables (p.perform b k), calledHooksAfter apart, calledHooksAfter apart',
    performLive, performLive, performTables b j q, performTables b k p]
  have swap {α : Type} (f : α → Hook → α) (comm : ∀ t h h', f (f t h) h' = f (f t h') h) (t : α) :
      (b.calledHooks k p).foldl f ((b.calledHooks j q).foldl f t) =
        (b.calledHooks j q).foldl f ((b.calledHooks k p).foldl f t) := by
    rw [← List.foldl_append, ← List.foldl_append]
    exact List.perm_append_comm.foldl_eq' (fun h _ h' _ t => comm t h h') t
  congr 1
  · exact Table.modifySwap _ (apart.imp id fun free x => free.adjusted b.isLive x)
  · exact swap Hook.flag Hook.flagSwap b.waitSets
  · exact swap Hook.count Hook.countSwap b.signals

end Bus

/-! ### What a notice changes -/

inductive StateChange
  | mail (reader : InstanceHandle) (box : Mailbox)
  | adjust (c : ConditionId) (p : TriggerStep)
  | draw (graph : GraphId) (g : Graph)
  deriving DecidableEq, Repr

namespace StateChange

def act (b : Bus) : StateChange → Bus
  | mail reader box => b.modifyReader reader ({ · with mailbox := box })
  | adjust c p => p.perform b c
  | draw graph g => b.setGraph graph g

def Apart : StateChange → StateChange → Prop
  | mail r _, mail r' _ => r ≠ r'
  | adjust c p, adjust c' p' => c ≠ c' ∨ p'.Free p
  | draw γ _, draw γ' _ => γ ≠ γ'
  | _, _ => True

theorem performMail (b : Bus) (c : ConditionId) (p : TriggerStep) (r : InstanceHandle) (f : Reader → Reader) :
    p.perform (b.modifyReader r f) c = (p.perform b c).modifyReader r f := by
  rw [Bus.performTables, Bus.performTables b c p]
  rfl

theorem performDraw (b : Bus) (c : ConditionId) (p : TriggerStep) (γ : GraphId) (g : Graph) :
    p.perform (b.setGraph γ g) c = (p.perform b c).setGraph γ g := by
  rw [Bus.performTables, Bus.performTables b c p]
  rfl

theorem actSwap {t t' : StateChange} (apart : t.Apart t') (b : Bus) : t'.act (t.act b) = t.act (t'.act b) := by
  cases t with
  | mail r box =>
    cases t' with
    | mail r' box' =>
      have swap := Table.modifySwap b.readers (f := ({ · with mailbox := box })) (g := ({ · with mailbox := box' }))
        (.inl apart)
      exact congrArg (fun readers => { b with readers }) swap
    | adjust c p => exact performMail b c p r _
    | draw γ g => rfl
  | adjust c p =>
    cases t' with
    | mail r' box' => exact (performMail b c p r' _).symm
    | adjust c' p' => exact Bus.performSwap apart
    | draw γ g => exact (performDraw b c p γ g).symm
  | draw γ g =>
    cases t' with
    | mail r' box' => rfl
    | adjust c p => exact performDraw b c p γ g
    | draw γ' g' => exact congrArg (fun graphs => { b with graphs }) (b.graphs.insertSwap apart g g')

theorem actsSwap {l l' : List StateChange} (apart : ∀ t ∈ l, ∀ t' ∈ l', t.Apart t') (b : Bus) :
    l'.foldl act (l.foldl act b) = l.foldl act (l'.foldl act b) := by
  have past {t' : StateChange} (l : List StateChange) (apart : ∀ t ∈ l, t.Apart t') (b : Bus) :
      t'.act (l.foldl act b) = l.foldl act (t'.act b) := by
    induction l generalizing b with
    | nil => rfl
    | cons t rest ih =>
      rw [List.foldl_cons, ih (fun u mem => apart u (List.mem_cons_of_mem _ mem)),
        actSwap (apart t List.mem_cons_self), List.foldl_cons]
  induction l' generalizing b with
  | nil => rfl
  | cons t' rest ih =>
    rw [List.foldl_cons, past l fun t mem => apart t mem t' List.mem_cons_self,
      ih fun t mem u mem' => apart t mem u (List.mem_cons_of_mem _ mem'), List.foldl_cons]

end StateChange

namespace Bus

variable {b b' : Bus} {n n' : Notice}

/-! ### What no change affects -/

theorem flagsListed (c : ConditionId) (hooks : List Hook) (t : Table WaitSetId WaitSet) :
    (hooks.foldl Hook.flag t).values.any (c ∈ ·.conditions) = t.values.any (c ∈ ·.conditions) := by
  induction hooks generalizing t with
  | nil => rfl
  | cons h rest ih =>
    rw [List.foldl_cons, ih]
    cases h with
    | signal key id => rfl
    | waitSet key =>
      simp only [Hook.flag, Table.values, Table.modify, List.map_map, List.any_map]
      refine congrArg (List.any t.entries) (funext fun e => ?_)
      simp only [Function.comp_apply]
      split <;> rfl

theorem reachableHeld (b : Bus) (k : ConditionId) :
    b.isReachable k = (b.held? k).any fun held => held || b.waitSets.values.any (k ∈ ·.conditions) := by
  unfold isReachable held?
  cases b.conditions.get? k <;> rfl

theorem actReachable (b : Bus) (t : StateChange) (k : ConditionId) : (t.act b).isReachable k = b.isReachable k := by
  cases t with
  | mail r box => rfl
  | draw γ g => rfl
  | adjust c p =>
    have held : (p.perform b c).held? k = b.held? k := by
      rw [performTables]
      exact Table.modifySame _ _ _ fun _ => rfl
    rw [reachableHeld, reachableHeld, StateChange.act, held, performTables]
    exact congrArg (Option.any · _) (funext fun held => congrArg (held || ·) (flagsListed k _ _))

theorem actsReachable (b : Bus) (l : List StateChange) (k : ConditionId) :
    (l.foldl StateChange.act b).isReachable k = b.isReachable k :=
  List.foldlRecOn (motive := fun b' : Bus => b'.isReachable k = b.isReachable k) l _ rfl fun b' same t _ =>
    (actReachable b' t k).trans same

def wiring (b : Bus) (r : InstanceHandle) : Option (ConditionId × Option Listener) :=
  (b.readers.get? r).map fun x => (x.condition, x.listener.bind b.listeners.get?)

def listenerChanges (b : Bus) (r : InstanceHandle) (c : ConditionId) (box : Mailbox) :
    Option Listener → List StateChange
  | some (.discovery side graph guard) =>
    [.mail r box.empty, .adjust c (.deactivate .dataAvailable)] ++
      match b.graphs.get? graph with
      | none => []
      | some g =>
        .draw graph (g.heard side box.samples) ::
          if 0 < (g.absorb side box.samples).2 ∧ b.isReachable guard then [.adjust guard (.setGuard true)] else []
  | some (.scripted _) | none => []

def noticeChanges (b : Bus) (n : Notice) : List StateChange :=
  match b.readers.get? n.reader with
  | none => []
  | some x =>
    let box := x.mailbox.push x.history n.arrival
    .mail n.reader box :: List.replicate (x.mailbox.overflow x.history) (.adjust x.condition (.activate .sampleLost)) ++
      .adjust x.condition (.activate .dataAvailable) ::
        b.listenerChanges n.reader x.condition box (x.listener.bind b.listeners.get?)

def ScriptFree (b : Bus) (n : Notice) : Prop := ∀ c s, b.wiring n.reader ≠ some (c, some (.scripted s))

theorem mailExact {r : InstanceHandle} {x : Reader} (found : b.readers.get? r = some x)
    (f : History → Mailbox → Mailbox) : (b.modifyReader r fun x => { x with mailbox := f x.history x.mailbox }) =
      (StateChange.mail r (f x.history x.mailbox)).act b := by
  refine congrArg (fun readers => { b with readers }) (Table.sameLookup fun k => ?_)
  simp only [Table.getModify, found]
  split <;> rfl

theorem lostTouches (c : ConditionId) (count : Nat) (b : Bus) :
    (List.replicate count ()).foldl (fun b _ => b.activate c .sampleLost) b =
      (List.replicate count (StateChange.adjust c (.activate .sampleLost))).foldl StateChange.act b := by
  induction count generalizing b with
  | zero => rfl
  | succ count ih => exact ih _

theorem enqueueTouches {x : Reader} (found : b.readers.get? n.reader = some x) :
    b.enqueue n = (StateChange.mail n.reader (x.mailbox.push x.history n.arrival) ::
      List.replicate (x.mailbox.overflow x.history) (StateChange.adjust x.condition (.activate .sampleLost)) ++
        [StateChange.adjust x.condition (.activate .dataAvailable)]).foldl StateChange.act b := by
  have pushed := mailExact found fun history box => box.push history n.arrival
  simp only [enqueue, found, pushed, lostTouches]
  rw [List.cons_append, List.foldl_cons, List.foldl_append]
  rfl

theorem ringTouches (b : Bus) (guard : ConditionId) (changes : Nat) : b.ring guard changes =
    (if 0 < changes ∧ b.isReachable guard then [StateChange.adjust guard (.setGuard true)] else []).foldl
      StateChange.act b := by
  unfold ring
  split <;> rfl

theorem drainTouches {r : InstanceHandle} {x : Reader} (found : b.readers.get? r = some x) (side : Side)
    (γ : GraphId) (guard : ConditionId) : (b.drain side γ guard r).2 =
      (b.listenerChanges r x.condition x.mailbox (some (.discovery side γ guard))).foldl StateChange.act b := by
  have taken : ((b.modifyReader r fun x => { x with mailbox := x.mailbox.empty }).store x.condition
      (.deactivate .dataAvailable)) =
        [StateChange.mail r x.mailbox.empty, .adjust x.condition (.deactivate .dataAvailable)].foldl StateChange.act
          b := by
    rw [mailExact found fun _ => Mailbox.empty, ← deactivateStores]
    rfl
  rw [listenerChanges, List.foldl_append, ← taken]
  cases there : b.graphs.get? γ with
  | none =>
    have gone : (b.takeAll r).2.graphs.get? γ = none := by
      rw [takeAllFound found]
      exact there
    rw [drain]
    dsimp only
    rw [gone, takeAllFound found]
    rfl
  | some g =>
    have drawn : b.silence γ r x (g.heard side x.mailbox.samples) =
        [StateChange.mail r x.mailbox.empty, .adjust x.condition (.deactivate .dataAvailable),
          .draw γ (g.heard side x.mailbox.samples)].foldl StateChange.act b := congrArg (setGraph · γ _) taken
    rw [drainSilence found there, ringTouches, drawn, actsReachable, ← drawn]
    rfl

theorem listenerChangesKept {l : Option Listener}
    (graphs : ∀ side γ guard, l = some (.discovery side γ guard) → b'.graphs.get? γ = b.graphs.get? γ)
    (reachable : ∀ guard, b'.isReachable guard = b.isReachable guard) (r : InstanceHandle) (c : ConditionId)
    (box : Mailbox) : b'.listenerChanges r c box l = b.listenerChanges r c box l := by
  unfold listenerChanges
  split
  · rename_i side γ guard
    rw [graphs side γ guard rfl, reachable]
  · rfl
  · rfl

theorem callTouches {r : InstanceHandle} {x : Reader} (found : b.readers.get? r = some x)
    (scriptFree : ∀ s, x.listener.bind b.listeners.get? ≠ some (.scripted s)) :
    b.settle (x.listener.toList.map (.call r)) =
      (b.listenerChanges r x.condition x.mailbox (x.listener.bind b.listeners.get?)).foldl StateChange.act b := by
  cases listens : x.listener with
  | none =>
    simp only [Option.toList_none, List.map_nil, settle]
    rfl
  | some l =>
    rw [listens, Option.bind_some] at scriptFree
    simp only [Option.toList_some, List.map_cons, List.map_nil, settle, Task.step, Option.bind_some]
    cases there : b.listeners.get? l with
    | none =>
      simp only [List.append_nil, settle]
      rfl
    | some listener =>
      cases listener with
      | scripted s => exact absurd there (scriptFree s)
      | discovery side γ guard =>
        simp only [List.append_nil, settle]
        exact drainTouches found side γ guard

theorem hears (scriptFree : b.ScriptFree n) : b.deliver [n] = (b.noticeChanges n).foldl StateChange.act b := by
  cases found : b.readers.get? n.reader with
  | none =>
    have kept : b.enqueue n = b := by simp only [enqueue, found]
    simp only [deliver, List.map_cons, List.map_nil, settle, Task.step, kept, noticeChanges, found, List.append_nil,
      List.foldl_nil]
  | some x =>
    have queued := enqueueTouches found
    have signals := enqueueReaders b n
    have found' : (b.enqueue n).readers.get? n.reader =
        some { x with mailbox := x.mailbox.push x.history n.arrival } := by
      rw [signals.readers]
      exact (modifyReaderReaders _ found n.reader).trans (if_pos rfl)
    have listeners : (b.enqueue n).listeners = b.listeners := signals.listeners
    have graphs : (b.enqueue n).graphs = b.graphs := signals.graphs
    have scriptFree' (s : Script) : x.listener.bind (b.enqueue n).listeners.get? ≠ some (.scripted s) :=
      fun script => by
      rw [listeners] at script
      exact scriptFree x.condition s (by rw [wiring, found, Option.map_some, script])
    calc b.deliver [n] = (b.enqueue n).settle (x.listener.toList.map (.call n.reader)) := by
          simp only [deliver, List.map_cons, List.map_nil, settle, Task.step, found', List.append_nil]
          cases x.listener <;> rfl
      _ = ((b.enqueue n).listenerChanges n.reader x.condition (x.mailbox.push x.history n.arrival)
            (x.listener.bind (b.enqueue n).listeners.get?)).foldl StateChange.act (b.enqueue n) :=
              callTouches found' scriptFree'
      _ = (b.listenerChanges n.reader x.condition (x.mailbox.push x.history n.arrival)
            (x.listener.bind b.listeners.get?)).foldl StateChange.act (b.enqueue n) := by
          rw [listeners, listenerChangesKept (b := b) (fun _ _ _ _ => by rw [graphs]) fun guard => by
            rw [queued, actsReachable]]
      _ = (b.noticeChanges n).foldl StateChange.act b := by
          simp only [noticeChanges, found]
          rw [queued, ← List.foldl_append, List.append_assoc]
          rfl

/-! ### What hearing leaves of others -/

theorem actWiring (b : Bus) (t : StateChange) (r : InstanceHandle) : (t.act b).wiring r = b.wiring r := by
  cases t with
  | mail r' box => exact Table.modifySame _ _ _ fun _ => rfl
  | draw γ g => rfl
  | adjust c p =>
    have frame := performFrame b c p
    rw [wiring, StateChange.act, frame.readers, frame.listeners, wiring]

theorem actsWiring (b : Bus) (l : List StateChange) (r : InstanceHandle) :
    (l.foldl StateChange.act b).wiring r = b.wiring r :=
  List.foldlRecOn (motive := fun b' : Bus => b'.wiring r = b.wiring r) l _ rfl fun b' same t _ =>
    (actWiring b' t r).trans same

def Draws (b : Bus) (n : Notice) : StateChange → Prop
  | .mail r _ => r = n.reader
  | .adjust c p => p = .setGuard true ∨ (∃ l, b.wiring n.reader = some (c, l)) ∧ ∀ value, p.Free (.setGuard value)
  | .draw γ _ => ∃ c side guard, b.wiring n.reader = some (c, some (.discovery side γ guard))

theorem activateFree (mask : StatusMask) (value : Bool) : (TriggerStep.activate mask).Free (.setGuard value) := by
  rintro (_ | _) <;> exact ⟨rfl, rfl, rfl⟩

theorem deactivateFree (mask : StatusMask) (value : Bool) : (TriggerStep.deactivate mask).Free (.setGuard value) := by
  rintro (_ | _) <;> exact ⟨rfl, rfl, rfl⟩

theorem guardsFree (value : Bool) : (TriggerStep.setGuard value).Free (.setGuard value) := by
  rintro (_ | _) <;> exact ⟨rfl, rfl, rfl⟩

theorem listenerChangesDraws {x : Reader} (found : b.readers.get? n.reader = some x) {box : Mailbox} {t : StateChange}
    (mem : t ∈ b.listenerChanges n.reader x.condition box (x.listener.bind b.listeners.get?)) : b.Draws n t := by
  have wired : b.wiring n.reader = some (x.condition, x.listener.bind b.listeners.get?) := by
    rw [wiring, found]
    rfl
  unfold listenerChanges at mem
  split at mem
  · rename_i side γ guard listens
    rw [listens] at wired
    rcases List.mem_append.1 mem with taken | drawn
    · rcases List.mem_cons.1 taken with rfl | lowered
      · rfl
      · cases List.mem_singleton.1 lowered
        exact .inr ⟨⟨_, wired⟩, deactivateFree _⟩
    · split at drawn
      · cases drawn
      · rcases List.mem_cons.1 drawn with rfl | raisesGuards
        · exact ⟨_, side, guard, wired⟩
        · split at raisesGuards
          · cases List.mem_singleton.1 raisesGuards
            exact .inl rfl
          · cases raisesGuards
  · cases mem
  · cases mem

theorem noticeChangesDraws {t : StateChange} (mem : t ∈ b.noticeChanges n) : b.Draws n t := by
  unfold noticeChanges at mem
  split at mem
  · cases mem
  · rename_i x found
    have wired : ∃ l, b.wiring n.reader = some (x.condition, l) := ⟨_, by rw [wiring, found]; rfl⟩
    rcases List.mem_append.1 mem with queued | heeded
    · rcases List.mem_cons.1 queued with rfl | lost
      · rfl
      · cases List.eq_of_mem_replicate lost
        exact .inr ⟨wired, activateFree _⟩
    · rcases List.mem_cons.1 heeded with rfl | heeded
      · exact .inr ⟨wired, activateFree _⟩
      · exact listenerChangesDraws found heeded

structure Independent (b : Bus) (n n' : Notice) : Prop where
  readers : n.reader ≠ n'.reader
  conditions : ∀ c l l', b.wiring n.reader = some (c, l) → b.wiring n'.reader ≠ some (c, l')
  graphs : ∀ γ c side guard c' side' guard', b.wiring n.reader = some (c, some (.discovery side γ guard)) →
    b.wiring n'.reader ≠ some (c', some (.discovery side' γ guard'))

theorem Independent.symm (h : b.Independent n n') : b.Independent n' n where
  readers := h.readers.symm
  conditions c l l' here there := h.conditions c l' l there here
  graphs γ c side guard c' side' guard' here there := h.graphs γ c' side' guard' c side guard there here

def Mutes (b b' : Bus) : Prop :=
  ∀ r, b'.wiring r = b.wiring r ∨ b'.wiring r = (b.wiring r).map fun wired => (wired.1, none)

theorem Mutes.listens (mutes : b.Mutes b') {r : InstanceHandle} {c : ConditionId} {l : Listener}
    (wired : b'.wiring r = some (c, some l)) : b.wiring r = some (c, some l) := by
  rcases mutes r with same | leavesGuards
  · rw [← same, wired]
  · rw [leavesGuards] at wired
    cases found : b.wiring r <;> simp [found] at wired

theorem Mutes.condition (mutes : b.Mutes b') {r : InstanceHandle} {c : ConditionId} {l : Option Listener}
    (wired : b'.wiring r = some (c, l)) : ∃ l, b.wiring r = some (c, l) := by
  rcases mutes r with same | leavesGuards
  · exact ⟨l, by rw [← same, wired]⟩
  · rw [leavesGuards] at wired
    obtain ⟨w, found, eq⟩ := Option.map_eq_some_iff.1 wired
    exact ⟨w.2, by rw [found, ← (Prod.mk.inj eq).1]⟩

theorem Independent.leavesGuards (h : b.Independent n n') (mutes : b.Mutes b') : b'.Independent n n' where
  readers := h.readers
  conditions c l l' here there := by
    obtain ⟨k, here⟩ := mutes.condition here
    obtain ⟨k', there⟩ := mutes.condition there
    exact h.conditions c k k' here there
  graphs γ c side guard c' side' guard' here there :=
    h.graphs γ c side guard c' side' guard' (mutes.listens here) (mutes.listens there)

theorem ScriptFree.leavesGuards (h : b.ScriptFree n) (mutes : b.Mutes b') : b'.ScriptFree n := fun c s wired =>
  h c s (mutes.listens wired)

theorem actMutes (b : Bus) (t : StateChange) : b.Mutes (t.act b) := fun r => .inl (actWiring b t r)

theorem hearsMutes (scriptFree : b.ScriptFree n) : b.Mutes (b.deliver [n]) :=
  fun r => .inl (by rw [hears scriptFree, actsWiring])

theorem Independent.apart (h : b.Independent n n') {t t' : StateChange} (draws : b.Draws n t) (draws' : b.Draws n' t') :
    t.Apart t' := by
  cases t with
  | mail r box =>
    cases t' with
    | mail r' box' =>
      cases draws
      cases draws'
      exact h.readers
    | adjust | draw => trivial
  | adjust c p =>
    cases t' with
    | adjust c' p' =>
      rcases draws with rfl | ⟨⟨l, wired⟩, free⟩
      · rcases draws' with rfl | ⟨_, free'⟩
        · exact .inr (guardsFree true)
        · exact .inr (free' true)
      · rcases draws' with rfl | ⟨⟨l', wired'⟩, _⟩
        · exact .inr (free true).symm
        · refine .inl fun same => ?_
          subst same
          exact h.conditions c l l' wired wired'
    | mail | draw => trivial
  | draw γ g =>
    cases t' with
    | draw γ' g' =>
      obtain ⟨c, side, guard, wired⟩ := draws
      obtain ⟨c', side', guard', wired'⟩ := draws'
      intro same
      subst same
      exact h.graphs γ c side guard c' side' guard' wired wired'
    | mail | adjust => trivial

theorem noticeChangesKept {t : StateChange} (h : b.Independent n n') (draws : b.Draws n t) :
    (t.act b).noticeChanges n' = b.noticeChanges n' := by
  have reachable := actReachable b t
  have reader : (t.act b).readers.get? n'.reader = b.readers.get? n'.reader := by
    cases t with
    | mail r box =>
      cases draws
      exact (Table.getModify ..).trans (if_neg h.readers.symm)
    | adjust c p => rw [StateChange.act, (performFrame b c p).readers]
    | draw γ g => rfl
  have listeners : (t.act b).listeners = b.listeners := by
    cases t with
    | adjust c p => exact (performFrame b c p).listeners
    | mail | draw => rfl
  have graph : ∀ c γ side guard, b.wiring n'.reader = some (c, some (.discovery side γ guard)) →
      (t.act b).graphs.get? γ = b.graphs.get? γ := fun c γ side guard wired => by
    cases t with
    | mail r box => rfl
    | adjust c p => rw [StateChange.act, (performFrame b c p).graphs]
    | draw γ' g =>
      obtain ⟨c', side', guard', wired'⟩ := draws
      refine (Table.getInsert ..).trans (if_neg fun same => ?_)
      subst same
      exact h.graphs γ c' side' guard' c side guard wired' wired
  unfold noticeChanges
  rw [reader, listeners]
  cases found : b.readers.get? n'.reader with
  | none => rfl
  | some x =>
    have heeded (box : Mailbox) :
      (t.act b).listenerChanges n'.reader x.condition box (x.listener.bind b.listeners.get?) =
        b.listenerChanges n'.reader x.condition box (x.listener.bind b.listeners.get?) := by
      refine listenerChangesKept (fun side γ guard listens => graph x.condition γ side guard ?_) reachable _ _ box
      rw [wiring, found, Option.map_some, listens]
    simp only [heeded]

theorem hearingsKept {l : List StateChange} (h : b.Independent n n') (draws : ∀ t ∈ l, b.Draws n t) :
    (l.foldl StateChange.act b).noticeChanges n' = b.noticeChanges n' := by
  induction l generalizing b with
  | nil => rfl
  | cons t rest ih =>
    rw [List.foldl_cons, ih (h.leavesGuards (actMutes b t)) fun u mem => ?_,
      noticeChangesKept h (draws t List.mem_cons_self)]
    have drawn := draws u (List.mem_cons_of_mem _ mem)
    unfold Draws at drawn ⊢
    simp only [actWiring]
    exact drawn

theorem independentSwap (h : b.Independent n n') (scriptFree : b.ScriptFree n) (scriptFree' : b.ScriptFree n') :
    (b.deliver [n]).deliver [n'] = (b.deliver [n']).deliver [n] := by
  rw [hears (scriptFree'.leavesGuards (hearsMutes scriptFree)),
    hears (scriptFree.leavesGuards (hearsMutes scriptFree')), hears scriptFree, hears scriptFree',
    hearingsKept h fun _ => noticeChangesDraws, hearingsKept h.symm fun _ => noticeChangesDraws]
  exact StateChange.actsSwap (fun t mem t' mem' => h.apart (noticeChangesDraws mem) (noticeChangesDraws mem')) b

theorem independentPermute {news news' : List Notice} (perm : news.Perm news') (scriptFree : ∀ n ∈ news, b.ScriptFree n)
    (apart : news.Pairwise b.Independent) : b.deliver news = b.deliver news' := by
  have first (b : Bus) (n : Notice) (rest : List Notice) : b.deliver (n :: rest) = (b.deliver [n]).deliver rest :=
    deliverAppend b [n] rest
  induction perm generalizing b with
  | nil => rfl
  | @cons n rest rest' perm ih =>
    have own := scriptFree n List.mem_cons_self
    obtain ⟨_, later⟩ := List.pairwise_cons.1 apart
    rw [first b n rest, first b n rest']
    exact ih (fun u mem => (scriptFree u (List.mem_cons_of_mem _ mem)).leavesGuards (hearsMutes own))
      (later.imp (·.leavesGuards (hearsMutes own)))
  | swap n n' rest =>
    obtain ⟨others, _⟩ := List.pairwise_cons.1 apart
    rw [first b n', first _ n rest, first b n, first _ n' rest, independentSwap (others n List.mem_cons_self)
      (scriptFree n' List.mem_cons_self) (scriptFree n (List.mem_cons_of_mem _ List.mem_cons_self))]
  | trans perm perm' ih ih' =>
    rw [ih scriptFree apart, ih' (fun u mem => scriptFree u (perm.mem_iff.2 mem)) (apart.perm perm fun h => h.symm)]

theorem Mutes.trans {c : Bus} (h : b.Mutes b') (h' : b'.Mutes c) : b.Mutes c := fun r => by
  rcases h r with same | leavesGuards <;> rcases h' r with same' | leavesGuards'
  · exact .inl (same'.trans same)
  · exact .inr (leavesGuards'.trans (same ▸ rfl))
  · exact .inr (same'.trans leavesGuards)
  · refine .inr (leavesGuards'.trans ?_)
    rw [leavesGuards, Option.map_map]
    rfl

theorem deliverMutes {news : List Notice} (scriptFree : ∀ n ∈ news, b.ScriptFree n) : b.Mutes (b.deliver news) := by
  induction news generalizing b with
  | nil => exact fun r => .inl (by rw [deliverNothing])
  | cons n rest ih =>
    have own := hearsMutes (scriptFree n List.mem_cons_self)
    have later := ih fun u mem => (scriptFree u (List.mem_cons_of_mem _ mem)).leavesGuards own
    rw [← deliverAppend] at later
    exact own.trans later

end Bus
end Databus
