import Databus.Proofs.GraphReflection
import Databus.Proofs.ReaderConditions

/-! Guards of graphs: while discovery listeners feed graphs, a guard is raised exactly as a graph it is wired to
takes a change, and nothing else raises or lowers it. Every request keeps to this, whoever asks. -/
namespace Databus

def Trigger.flag : Trigger → Option Bool
  | .guard raised => some raised
  | .status _ _ => none

namespace Graph

theorem absorbVersion (g : Graph) (side : Side) (samples : List Sample) :
    (g.absorb side samples).1.version = g.version + (g.absorb side samples).2 := by
  induction samples generalizing g with
  | nil => rfl
  | cons s rest ih =>
    have first := applyVersion g side s
    have later := ih (g.apply side s).1
    simp only [absorb]
    lia

end Graph

namespace Bus

def version (b : Bus) (graph : GraphId) : Nat := ((b.graphs.get? graph).map Graph.version).getD 0

def Feeds (b : Bus) (graph : GraphId) (guard : ConditionId) : Prop :=
  ∃ l side, b.listeners.get? l = some (.discovery side graph guard)

def IsGuard (b : Bus) (k : ConditionId) : Prop := ∃ raised, b.trigger? k = some (.guard raised)

def Raised (b : Bus) (k : ConditionId) : Prop := b.trigger? k = some (.guard true)

structure Wired (b : Bus) : Prop where
  graphs : ∀ γ g, b.graphs.get? γ = some g → γ < b.nextKey
  listeners : ∀ l x, b.listeners.get? l = some x → l < b.nextKey
  conditions : ∀ k t, b.trigger? k = some t → k < b.nextCondition
  held : ∀ k h, b.held? k = some h → h = true
  drawn : ∀ γ k, b.Feeds γ k → γ < b.nextKey
  guards : ∀ γ k, b.Feeds γ k → b.IsGuard k
  apart : ∀ γ k γ' k', b.Feeds γ k → b.Feeds γ' k' → (γ = γ' ↔ k = k')

structure GraphsGrow (b b' : Bus) : Prop where
  versions : ∀ γ, b.version γ ≤ b'.version γ
  feeds : ∀ γ k, b.Feeds γ k → b'.Feeds γ k
  fresh : ∀ γ k, b'.Feeds γ k → b.Feeds γ k ∨ b.version γ = 0

structure RaisesGuards (b b' : Bus) : Prop extends GraphsGrow b b' where
  raised : ∀ k, b'.Raised k ↔ b.Raised k ∨ ∃ γ, b'.Feeds γ k ∧ b.version γ < b'.version γ

def KeepsGuards (b b' : Bus) : Prop := Wired b → Wired b' ∧ RaisesGuards b b'

variable {a b b' c : Bus}

theorem wiredEmpty : Wired {} := by
  constructor
  case drawn => exact fun _ _ ⟨_, _, found⟩ => nomatch found
  case guards => exact fun _ _ ⟨_, _, found⟩ => nomatch found
  case apart => exact fun _ _ _ _ ⟨_, _, found⟩ => nomatch found
  all_goals intros; contradiction

namespace GraphsGrow

theorem same (graphs : b'.graphs = b.graphs) (listeners : b'.listeners = b.listeners) : GraphsGrow b b' := by
  have versions (γ : GraphId) : b'.version γ = b.version γ := by rw [version, graphs, version]
  have feeds {γ k} : b'.Feeds γ k ↔ b.Feeds γ k := by rw [Feeds, listeners, Feeds]
  exact ⟨fun γ => Nat.le_of_eq (versions γ).symm, fun _ _ => feeds.2, fun _ _ fed => .inl (feeds.1 fed)⟩

theorem refl (b : Bus) : GraphsGrow b b := .same rfl rfl

theorem trans (h : GraphsGrow a b) (h' : GraphsGrow b c) : GraphsGrow a c := by
  refine ⟨fun γ => Nat.le_trans (h.versions γ) (h'.versions γ), fun γ k fed => h'.feeds γ k (h.feeds γ k fed),
    fun γ k fed => ?_⟩
  rcases h'.fresh γ k fed with old | new
  · exact h.fresh γ k old
  · exact .inr (Nat.le_zero.1 (new ▸ h.versions γ))

theorem fed (h : GraphsGrow a b) {γ : GraphId} {k : ConditionId} (feeds : b.Feeds γ k) (grown : 0 < a.version γ) :
    a.Feeds γ k :=
  (h.fresh γ k feeds).resolve_right (Nat.ne_of_gt grown)

end GraphsGrow

namespace RaisesGuards

theorem refl (b : Bus) : RaisesGuards b b :=
  ⟨.refl b, fun _ => ⟨.inl, fun h => h.resolve_right fun ⟨_, _, less⟩ => Nat.lt_irrefl _ less⟩⟩

theorem trans (h : RaisesGuards a b) (h' : RaisesGuards b c) : RaisesGuards a c := by
  refine ⟨h.toGraphsGrow.trans h'.toGraphsGrow, fun k => ?_⟩
  rw [h'.raised, h.raised]
  constructor
  · rintro ((up | ⟨γ, fed, less⟩) | ⟨γ, fed, less⟩)
    · exact .inl up
    · exact .inr ⟨γ, h'.feeds γ k fed, Nat.lt_of_lt_of_le less (h'.versions γ)⟩
    · exact .inr ⟨γ, fed, Nat.lt_of_le_of_lt (h.versions γ) less⟩
  · rintro (up | ⟨γ, fed, less⟩)
    · exact .inl (.inl up)
    · by_cases later : b.version γ < c.version γ
      · exact .inr ⟨γ, fed, later⟩
      · have first : a.version γ < b.version γ := Nat.lt_of_lt_of_le less (Nat.le_of_not_lt later)
        exact .inl (.inr ⟨γ, h'.fed fed (Nat.zero_lt_of_lt first), first⟩)

theorem still (h : RaisesGuards b b') {k : ConditionId} (guard : b.IsGuard k) (guard' : b'.IsGuard k)
    (free : ∀ γ, ¬ b'.Feeds γ k) : b'.trigger? k = b.trigger? k := by
  obtain ⟨raised, there⟩ := guard
  obtain ⟨raised', there'⟩ := guard'
  have same : b'.Raised k ↔ b.Raised k := by
    rw [h.raised, or_iff_left]
    rintro ⟨γ, fed, _⟩
    exact free γ fed
  simp only [Raised, there, there', Option.some.injEq, Trigger.guard.injEq] at same
  rw [there, there', Bool.eq_iff_iff.2 same]

end RaisesGuards

/-! ### What no guard notices -/

structure LeavesGuards (b b' : Bus) : Prop where
  flags : ∀ k, (b'.trigger? k).map Trigger.flag = (b.trigger? k).map Trigger.flag
  held : ∀ k, b'.held? k = b.held? k
  listeners : ∀ l, (b'.listeners.get? l).map Listener.face = (b.listeners.get? l).map Listener.face
  graphs : b'.graphs = b.graphs
  keys : b.nextKey ≤ b'.nextKey
  conditions : b.nextCondition ≤ b'.nextCondition

theorem flagExact {t : Option Trigger} {raised : Bool} :
    t = some (.guard raised) ↔ t.map Trigger.flag = some (some raised) := by
  rcases t with _ | _ | now <;> simp [Trigger.flag]

theorem feedsSame (same : ∀ l, (b'.listeners.get? l).map Listener.face = (b.listeners.get? l).map Listener.face)
    {γ : GraphId} {k : ConditionId} : b'.Feeds γ k ↔ b.Feeds γ k := by
  have face (x : Option Listener) (side : Side) : x = some (.discovery side γ k) ↔
      x.map Listener.face = some (.discovery side γ k) := by
    cases x with
    | none => simp
    | some y => simp [faceDiscovery]
  refine exists_congr fun l => exists_congr fun side => ?_
  rw [face, same, ← face]

namespace LeavesGuards

theorem raised (h : LeavesGuards b b') (k : ConditionId) : b'.Raised k ↔ b.Raised k := by
  rw [Raised, flagExact, h.flags, ← flagExact, Raised]

theorem version (h : LeavesGuards b b') (γ : GraphId) : b'.version γ = b.version γ := by
  rw [Bus.version, h.graphs, Bus.version]

theorem wired (h : LeavesGuards b b') (wired : Wired b) : Wired b' := by
  have feeds {γ k} : b'.Feeds γ k ↔ b.Feeds γ k := feedsSame h.listeners
  refine ⟨fun γ g found => ?_, fun l x found => ?_, fun k t found => ?_, fun k x found => ?_,
    fun γ k fed => Nat.lt_of_lt_of_le (wired.drawn γ k (feeds.1 fed)) h.keys, fun γ k fed => ?_,
    fun γ k γ' k' fed fed' => wired.apart γ k γ' k' (feeds.1 fed) (feeds.1 fed')⟩
  · exact Nat.lt_of_lt_of_le (wired.graphs γ g (h.graphs ▸ found)) h.keys
  · have same := h.listeners l
    rw [found] at same
    obtain ⟨y, there, _⟩ := Option.map_eq_some_iff.1 same.symm
    exact Nat.lt_of_lt_of_le (wired.listeners l y there) h.keys
  · have same := h.flags k
    rw [found] at same
    obtain ⟨u, there, _⟩ := Option.map_eq_some_iff.1 same.symm
    exact Nat.lt_of_lt_of_le (wired.conditions k u there) h.conditions
  · exact wired.held k x (h.held k ▸ found)
  · obtain ⟨raised, there⟩ := wired.guards γ k (feeds.1 fed)
    exact ⟨raised, flagExact.2 ((h.flags k).trans (flagExact.1 there))⟩

theorem keepsGuards (h : LeavesGuards b b') : KeepsGuards b b' := fun wired => by
  refine ⟨h.wired wired, ⟨fun γ => Nat.le_of_eq (h.version γ).symm, fun γ k => (feedsSame h.listeners).2,
    fun γ k fed => .inl ((feedsSame h.listeners).1 fed)⟩, fun k => (h.raised k).trans ⟨.inl, ?_⟩⟩
  rintro (up | ⟨γ, _, less⟩)
  · exact up
  · exact absurd (h.version γ ▸ less) (Nat.lt_irrefl _)

theorem refl (b : Bus) : LeavesGuards b b :=
  ⟨fun _ => rfl, fun _ => rfl, fun _ => rfl, rfl, Nat.le_refl _, Nat.le_refl _⟩

theorem trans (h : LeavesGuards a b) (h' : LeavesGuards b c) : LeavesGuards a c :=
  ⟨fun k => (h'.flags k).trans (h.flags k), fun k => (h'.held k).trans (h.held k),
    fun l => (h'.listeners l).trans (h.listeners l), h'.graphs.trans h.graphs, Nat.le_trans h.keys h'.keys,
    Nat.le_trans h.conditions h'.conditions⟩

theorem same (conditions : b'.conditions = b.conditions) (listeners : b'.listeners = b.listeners)
    (graphs : b'.graphs = b.graphs) (keys : b.nextKey ≤ b'.nextKey)
    (next : b'.nextCondition = b.nextCondition) : LeavesGuards b b' := by
  refine ⟨fun k => ?_, fun k => ?_, fun l => ?_, graphs, keys, Nat.le_of_eq next.symm⟩
  · rw [triggerSame conditions]
  · rw [held?, conditions, held?]
  · rw [listeners]

theorem ofSignals (h : OnlySignals b b')
    (flags : ∀ k, (b'.trigger? k).map Trigger.flag = (b.trigger? k).map Trigger.flag)
    (held : ∀ k, b'.held? k = b.held? k) : LeavesGuards b b' :=
  ⟨flags, held, fun l => by rw [h.listeners], h.graphs,
    Nat.le_of_eq (OnlyTraffic.ofSignals h).nextKey.symm, Nat.le_of_eq h.nextCondition.symm⟩

theorem quiet (h : Quiet b b') : LeavesGuards b b' :=
  .ofSignals h.signals (fun k => by rw [h.triggers]) h.held

theorem adjust {k : ConditionId} {f : Trigger → Trigger} (h : Adjusts k f b b')
    (silent : ∀ t, (f t).flag = t.flag) : LeavesGuards b b' := by
  refine .ofSignals h.signals (fun k' => ?_) h.held
  rw [h.triggers]
  split
  · rename_i own
    rw [own, Option.map_map]
    exact congrArg (Option.map · _) (funext silent)
  · rfl

theorem activate (b : Bus) (k : ConditionId) (mask : StatusMask) : LeavesGuards b (b.activate k mask) :=
  .adjust (activateAdjusts b k mask) fun t => by cases t <;> rfl

theorem deactivate (b : Bus) (k : ConditionId) (mask : StatusMask) : LeavesGuards b (b.deactivate k mask) :=
  .adjust (deactivateAdjusts b k mask) fun t => by cases t <;> rfl

theorem setEnabled (b : Bus) (k : ConditionId) (mask : StatusMask) : LeavesGuards b (b.setEnabled k mask) :=
  .adjust (setEnabledAdjusts b k mask) fun t => by cases t <;> rfl

theorem modifyReader (b : Bus) (r : InstanceHandle) (f : Reader → Reader) : LeavesGuards b (b.modifyReader r f) :=
  .same rfl rfl rfl (Nat.le_refl _) rfl

theorem modifyScript (b : Bus) (l : ListenerId) (f : Script → Script) : LeavesGuards b (b.modifyScript l f) :=
  ⟨fun _ => rfl, fun _ => rfl, Steady.modifyScript.listeners, rfl, Nat.le_refl _, Nat.le_refl _⟩

theorem tables (h : OnlyTables b b') : LeavesGuards b b' :=
  .same h.conditions h.listeners h.graphs (Nat.le_of_eq h.nextKey.symm) h.nextCondition

theorem take (b : Bus) (r : InstanceHandle) : LeavesGuards b (b.take r).2 := by
  unfold Bus.take
  split
  · exact .refl b
  · split
    · exact .deactivate b _ _
    · dsimp only
      split
      · exact (modifyReader b r _).trans (.deactivate _ _ _)
      · exact modifyReader b r _

theorem takeAll (b : Bus) (r : InstanceHandle) : LeavesGuards b (b.takeAll r).2 := by
  unfold Bus.takeAll
  split
  · exact .refl b
  · exact (modifyReader b r _).trans (.deactivate _ _ _)

theorem enqueue (b : Bus) (n : Notice) : LeavesGuards b (b.enqueue n) := by
  unfold Bus.enqueue
  split
  · exact .refl b
  · rename_i x found
    have queued := modifyReader b n.reader fun r => { r with mailbox := r.mailbox.push r.history n.arrival }
    have lost := List.foldlRecOn (motive := LeavesGuards b)
      (List.replicate (x.mailbox.overflow x.history) ()) (fun b _ => b.activate x.condition .sampleLost)
      queued fun b' leavesGuards _ _ => leavesGuards.trans (.activate b' _ _)
    exact lost.trans (.activate _ _ _)

end LeavesGuards

/-! ### What a drain does -/

theorem setGuardRaised {k : ConditionId} (guard : b.IsGuard k) (value : Bool) (j : ConditionId) :
    (b.setGuard k value).Raised j ↔ if j = k then value = true else b.Raised j := by
  obtain ⟨raised, there⟩ := guard
  rw [Raised, (setGuardAdjusts b k value).triggers, there]
  split
  · simp [Trigger.assign]
  · rfl

theorem Wired.adjust {k : ConditionId} {f : Trigger → Trigger} (wired : Wired b) (h : Adjusts k f b b')
    (kind : ∀ raised, ∃ now, f (.guard raised) = .guard now) : Wired b' := by
  have feeds {γ j} : b'.Feeds γ j ↔ b.Feeds γ j := by rw [Feeds, h.signals.listeners, Feeds]
  have key : b'.nextKey = b.nextKey := (OnlyTraffic.ofSignals h.signals).nextKey
  refine ⟨fun γ g found => ?_, fun l x found => ?_, fun j t found => ?_, fun j x found => ?_,
    fun γ j fed => key ▸ wired.drawn γ j (feeds.1 fed), fun γ j fed => ?_,
    fun γ j γ' j' fed fed' => wired.apart γ j γ' j' (feeds.1 fed) (feeds.1 fed')⟩
  · exact key ▸ wired.graphs γ g (h.signals.graphs ▸ found)
  · exact key ▸ wired.listeners l x (h.signals.listeners ▸ found)
  · rw [h.triggers] at found
    rw [h.signals.nextCondition]
    split at found
    · rename_i own
      obtain ⟨u, there, _⟩ := Option.map_eq_some_iff.1 found
      exact own ▸ wired.conditions k u there
    · exact wired.conditions j t found
  · exact wired.held j x (h.held j ▸ found)
  · obtain ⟨raised, there⟩ := wired.guards γ j (feeds.1 fed)
    rw [IsGuard, h.triggers]
    split
    · rename_i own
      obtain ⟨now, becomes⟩ := kind raised
      rw [← own, there]
      exact ⟨now, congrArg some becomes⟩
    · exact ⟨raised, there⟩

theorem Wired.reachable (wired : Wired b) {k : ConditionId} (guard : b.IsGuard k) : b.isReachable k = true := by
  obtain ⟨raised, there⟩ := guard
  obtain ⟨x, found, _⟩ := Option.map_eq_some_iff.1 there
  have held : x.held = true := wired.held k x.held (by rw [held?, found]; rfl)
  simp only [isReachable, found, held, Bool.true_or]

theorem setGraphVersion (γ γ' : GraphId) (g : Graph) :
    (b.setGraph γ g).version γ' = if γ' = γ then g.version else b.version γ' := by
  simp only [version, setGraph, Table.getInsert]
  split <;> rfl

theorem Wired.setGraph (wired : Wired b) {γ : GraphId} {g : Graph} (found : b.graphs.get? γ = some g)
    (g' : Graph) : Wired (b.setGraph γ g') := by
  refine { wired with graphs := fun γ' x known => ?_ }
  simp only [Bus.setGraph, Table.getInsert] at known
  split at known
  · rename_i own
    exact own ▸ wired.graphs γ g found
  · exact wired.graphs γ' x known

theorem changesRouse {γ : GraphId} {k : ConditionId} {g g' : Graph} {changes : Nat} (fed : b.Feeds γ k)
    (found : b.graphs.get? γ = some g) (grown : g'.version = g.version + changes) :
    KeepsGuards b (if 0 < changes ∧ (b.setGraph γ g').isReachable k then (b.setGraph γ g').setGuard k true
      else b.setGraph γ g') := fun wired => by
  have before : b.version γ = g.version := by rw [version, found]; rfl
  have drawn := wired.setGraph found g'
  have guard : (b.setGraph γ g').IsGuard k := wired.guards γ k fed
  have versions (γ' : GraphId) : b.version γ' ≤ (b.setGraph γ g').version γ' := by
    rw [setGraphVersion]
    split
    · rename_i own
      subst own
      lia
    · exact Nat.le_refl _
  -- the guard is wired to this graph and to no other
  have grows {j : ConditionId} : (∃ γ', b.Feeds γ' j ∧ b.version γ' < (b.setGraph γ g').version γ') ↔
      j = k ∧ 0 < changes := by
    constructor
    · rintro ⟨γ', feeds, less⟩
      rw [setGraphVersion] at less
      split at less
      · rename_i own
        subst own
        exact ⟨(wired.apart γ' j γ' k feeds fed).1 rfl, by lia⟩
      · exact absurd less (Nat.lt_irrefl _)
    · rintro ⟨rfl, grew⟩
      refine ⟨γ, fed, ?_⟩
      rw [setGraphVersion, if_pos rfl]
      lia
  by_cases grew : 0 < changes
  · rw [if_pos ⟨grew, drawn.reachable guard⟩]
    have raises := setGuardAdjusts (b.setGraph γ g') k true
    have graphs (γ' : GraphId) : ((b.setGraph γ g').setGuard k true).version γ' =
        (b.setGraph γ g').version γ' := by
      rw [version, raises.signals.graphs, version]
    have feeds {γ' j} : ((b.setGraph γ g').setGuard k true).Feeds γ' j ↔ b.Feeds γ' j := by
      rw [Feeds, raises.signals.listeners]
      rfl
    refine ⟨drawn.adjust raises fun _ => ⟨true, rfl⟩, ⟨fun γ' => graphs γ' ▸ versions γ',
      fun γ' j => feeds.2, fun γ' j fed => .inl (feeds.1 fed)⟩, fun j => ?_⟩
    rw [setGuardRaised guard]
    simp only [feeds, graphs, grows]
    split
    · rename_i own
      exact iff_of_true trivial (.inr ⟨own, grew⟩)
    · rename_i other
      exact (or_iff_left fun both => other both.1).symm
  · rw [if_neg fun both => grew both.1]
    exact ⟨drawn, ⟨versions, fun _ _ fed => fed, fun _ _ fed => .inl fed⟩,
      fun j => (or_iff_left fun up => grew (grows.1 up).2).symm⟩

theorem KeepsGuards.refl (b : Bus) : KeepsGuards b b := (LeavesGuards.refl b).keepsGuards

theorem KeepsGuards.trans (h : KeepsGuards a b) (h' : KeepsGuards b c) : KeepsGuards a c := fun wired => by
  obtain ⟨wired', raisesGuards⟩ := h wired
  obtain ⟨wired'', raisesGuards'⟩ := h' wired'
  exact ⟨wired'', raisesGuards.trans raisesGuards'⟩

theorem drainKeepsGuards {γ : GraphId} {k : ConditionId} (fed : b.Feeds γ k) (side : Side) (r : InstanceHandle) :
    KeepsGuards b (b.drain side γ k r).2 := by
  have taken := LeavesGuards.takeAll b r
  have fed' : (b.takeAll r).2.Feeds γ k := (feedsSame taken.listeners).2 fed
  unfold drain
  dsimp only
  split
  · exact taken.keepsGuards
  · exact taken.keepsGuards.trans (changesRouse fed' ‹_› (Graph.absorbVersion ..))

/-! ### Births -/

theorem newConditionKeepsGuards (b : Bus) {c : Condition} (down : c.trigger ≠ .guard true) (held : c.held = true) :
    KeepsGuards b (b.newCondition c).2 := fun wired => by
  have triggers (k : ConditionId) : (b.newCondition c).2.trigger? k =
      if k = b.nextCondition then some c.trigger else b.trigger? k := by
    simp only [trigger?, newCondition, Table.getInsert]
    split <;> rfl
  have older {k : ConditionId} {t : Trigger} (found : b.trigger? k = some t) : k ≠ b.nextCondition :=
    Nat.ne_of_lt (wired.conditions k t found)
  refine ⟨⟨wired.graphs, wired.listeners, fun k t found => ?_, fun k x found => ?_, wired.drawn,
    fun γ k fed => ?_, wired.apart⟩, .same rfl rfl, fun k => ?_⟩
  · change k < b.nextCondition + 1
    rw [triggers] at found
    split at found
    · lia
    · exact Nat.lt_succ_of_lt (wired.conditions k t found)
  · simp only [held?, newCondition, Table.getInsert] at found
    split at found
    · cases Option.some.inj found
      exact held
    · exact wired.held k x found
  · obtain ⟨raised, there⟩ := wired.guards γ k fed
    exact ⟨raised, by rw [triggers, if_neg (older there), there]⟩
  · have same : (b.newCondition c).2.Raised k ↔ b.Raised k := by
      rw [Raised, triggers]
      split
      · rename_i own
        exact iff_of_false (fun up => down (Option.some.inj up)) fun up => older up own
      · rfl
    refine same.trans (or_iff_left ?_).symm
    rintro ⟨_, _, less⟩
    exact Nat.lt_irrefl _ less

theorem newReaderKeepsGuards (b : Bus) (p : InstanceHandle) (topic type : String) (history : History) :
    KeepsGuards b (b.newReader p topic type history).2 := by
  have handle : LeavesGuards b b.takeHandle.2 := .same rfl rfl rfl (Nat.le_refl _) rfl
  have condition := handle.keepsGuards.trans (newConditionKeepsGuards b.takeHandle.2 (c := .newStatus) (by decide) rfl)
  have reader : LeavesGuards (b.takeHandle.2.newCondition .newStatus).2 (b.newReader p topic type history).2 :=
    .same rfl rfl rfl (Nat.le_refl _) rfl
  exact condition.trans reader.keepsGuards

theorem newGraphKeepsGuards (b : Bus) : KeepsGuards b b.newGraph.2 := fun wired => by
  have versions (γ : GraphId) : b.newGraph.2.version γ = b.version γ := by
    simp only [version, newGraph, Table.getInsert]
    split
    · rename_i own
      have none : b.graphs.get? γ = none := Option.eq_none_iff_forall_ne_some.2 fun g found =>
        absurd own (Nat.ne_of_lt (wired.graphs γ g found))
      rw [none]
      rfl
    · rfl
  refine ⟨⟨fun γ g found => ?_, fun l x found => ?_, wired.conditions, wired.held,
    fun γ k fed => Nat.lt_succ_of_lt (wired.drawn γ k fed), wired.guards, wired.apart⟩,
    ⟨fun γ => Nat.le_of_eq (versions γ).symm, fun _ _ fed => fed, fun _ _ fed => .inl fed⟩, fun k => ?_⟩
  · change γ < b.nextKey + 1
    simp only [newGraph, Table.getInsert] at found
    split at found
    · lia
    · exact Nat.lt_succ_of_lt (wired.graphs γ g found)
  · exact Nat.lt_succ_of_lt (wired.listeners l x found)
  · refine (or_iff_left ?_).symm
    rintro ⟨γ, _, less⟩
    exact absurd (versions γ ▸ less) (Nat.lt_irrefl _)

end Bus

def Request.Apt (b : Bus) : Request → Prop
  | .newListener (.discovery _ γ k) => γ < b.nextKey ∧ b.version γ = 0 ∧ b.IsGuard k ∧
    ∀ γ' k', b.Feeds γ' k' → (γ' = γ ↔ k' = k)
  | .drain _ γ k _ => b.Feeds γ k
  | _ => True

def Request.isCommon : Request → Bool
  | .newListener (.discovery _ _ _) | .drain _ _ _ _ => false
  | _ => true

def Request.isGentle : Request → Bool
  | .join _ | .leave _ | .take _ | .setListener _ _ | .newListener _ | .drain _ _ _ _ => false
  | _ => true

theorem Request.gentleCommon {q : Request} (gentle : q.isGentle) : q.isCommon := by
  cases q <;> first | rfl | cases gentle

namespace Bus

variable {a b b' c : Bus}

theorem newListenerFeeds (wired : Wired b) {l : Listener} {γ : GraphId} {k : ConditionId} :
    (b.newListener l).2.Feeds γ k ↔ b.Feeds γ k ∨ ∃ side, l = .discovery side γ k := by
  have listeners (i : ListenerId) : (b.newListener l).2.listeners.get? i =
      if i = b.nextKey then some l else b.listeners.get? i := by
    simp only [newListener, Table.getInsert]
  constructor
  · rintro ⟨i, side, found⟩
    rw [listeners] at found
    split at found
    · exact .inr ⟨side, Option.some.inj found⟩
    · exact .inl ⟨i, side, found⟩
  · rintro (⟨i, side, found⟩ | ⟨side, rfl⟩)
    · exact ⟨i, side, by rw [listeners, if_neg (Nat.ne_of_lt (wired.listeners i _ found)), found]⟩
    · exact ⟨b.nextKey, side, by rw [listeners, if_pos rfl]⟩

theorem newListenerKeepsGuards {l : Listener} (apt : (Request.newListener l).Apt b) :
    KeepsGuards b (b.newListener l).2 := fun wired => by
  have feeds {γ k} := newListenerFeeds wired (l := l) (γ := γ) (k := k)
  refine ⟨⟨fun γ g found => ?_, fun i x found => ?_, wired.conditions, wired.held, fun γ k fed => ?_,
    fun γ k fed => ?_, fun γ k γ' k' fed fed' => ?_⟩, ⟨fun _ => Nat.le_refl _, fun _ _ fed => feeds.2 (.inl fed),
    fun γ k fed => ?_⟩, fun _ => (or_iff_left fun ⟨_, _, less⟩ => Nat.lt_irrefl _ less).symm⟩
  · exact Nat.lt_succ_of_lt (wired.graphs γ g found)
  · change i < b.nextKey + 1
    simp only [newListener, Table.getInsert] at found
    split at found
    · lia
    · exact Nat.lt_succ_of_lt (wired.listeners i x found)
  · rcases feeds.1 fed with old | ⟨side, rfl⟩
    · exact Nat.lt_succ_of_lt (wired.drawn γ k old)
    · exact Nat.lt_succ_of_lt apt.1
  · rcases feeds.1 fed with old | ⟨side, rfl⟩
    · exact wired.guards γ k old
    · exact apt.2.2.1
  · rcases feeds.1 fed with old | ⟨side, own⟩ <;> rcases feeds.1 fed' with old' | ⟨side', own'⟩
    · exact wired.apart γ k γ' k' old old'
    · subst own'
      exact apt.2.2.2 γ k old
    · subst own
      exact eq_comm.trans ((apt.2.2.2 γ' k' old').trans eq_comm)
    · rw [own] at own'
      cases own'
      exact iff_of_true rfl rfl
  · rcases feeds.1 fed with old | ⟨side, rfl⟩
    · exact .inl old
    · exact .inr apt.2.1

/-! ### Every request -/

theorem keepsGuardsCarries : Carries KeepsGuards where
  refl := .refl
  trans := .trans
  tables h := (LeavesGuards.tables h).keepsGuards
  enqueue b n := (LeavesGuards.enqueue b n).keepsGuards
  take b r := (LeavesGuards.take b r).keepsGuards
  takeAll b r := (LeavesGuards.takeAll b r).keepsGuards
  script b l f := (LeavesGuards.modifyScript b l f).keepsGuards
  install b r _ := (LeavesGuards.modifyReader b r _).keepsGuards
  drain r found := drainKeepsGuards ⟨_, _, found⟩ _ r
  newReader := newReaderKeepsGuards
  newGuard b := newConditionKeepsGuards b (by decide) rfl
  newGraph := newGraphKeepsGuards

theorem commonApt {q : Request} (common : q.isCommon) : q.Apt b := by
  cases q with
  | newListener l =>
    cases l with
    | discovery => cases common
    | scripted => trivial
  | drain => cases common
  | _ => trivial

theorem requestKeepsGuards {q : Request} (apt : q.Apt b) : KeepsGuards b (b.request q) :=
  keepsGuardsCarries.request (fun _ own => newListenerKeepsGuards (own ▸ apt)) fun side _ _ r own =>
    drainKeepsGuards (by rw [own] at apt; exact apt) side r

end Bus
end Databus
