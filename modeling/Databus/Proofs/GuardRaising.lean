import Databus.Proofs.GraphAgreement
import Databus.Proofs.CallRequests
import Databus.Proofs.WaitReadiness

/-! What raises a guard and what lowers it, act by act: a guard is raised by its handle or as a graph that it is wired
to takes changes, and only collecting a wait that has claimed it lowers it. -/
namespace Databus.Middleware

open Bus (LeavesGuards OnlySignals KeepsGuards GraphsGrow Wired)

variable {K : Type}

/-! ### Claims -/

namespace Site

theorem createNodeObserved (s : Site K) (name : String) : (s.createNode name).1.observed = s.observed := by
  unfold createNode
  split
  · rfl
  · split
    · rfl
    · split
      · rfl
      · split <;> rfl

theorem destroyNodeObserved (s : Site K) (h : Option (Handle .node)) :
    (s.destroyNode h).1.observed = s.observed := by
  unfold destroyNode
  split
  · rfl
  · split
    · rfl
    · split
      · rfl
      · split <;> rfl

theorem createGuardObserved (s : Site K) : s.createGuard.1.observed = s.observed := by
  unfold createGuard
  dsimp only
  split <;> rfl

theorem triggerGuardObserved (s : Site K) (h : Handle .guardCondition) :
    (s.triggerGuard h).1.observed = s.observed := by
  unfold triggerGuard
  split <;> rfl

theorem destroyGuardObserved (s : Site K) (h : Option (Handle .guardCondition)) :
    (s.destroyGuard h).1.observed = s.observed := by
  unfold destroyGuard
  split
  · rfl
  · split
    · rfl
    · rfl
    · split <;> rfl

theorem destroyPublisherObserved (s : Site K) (h : Option (Handle .publisher)) :
    (s.destroyPublisher h).1.observed = s.observed := by
  unfold destroyPublisher
  split
  · rfl
  · split
    · rfl
    · dsimp only
      split <;> rfl

theorem destroySubscriptionObserved (s : Site K) (h : Option (Handle .subscription)) :
    (s.destroySubscription h).1.observed = s.observed := by
  unfold destroySubscription
  split
  · rfl
  · split
    · rfl
    · dsimp only
      split <;> rfl

theorem prepareObserved (s : Site K) (node : Handle .node) (ts : TypeSupport K) (topic : String) :
    (s.prepare node ts topic).1.observed = s.observed := by
  unfold prepare
  split
  · rfl
  · split <;> rfl

theorem createPublisherObserved (s : Site K) (node : Handle .node) (ts : TypeSupport K) (topic : String) :
    (s.createPublisher node ts topic).1.observed = s.observed := by
  have prepared := prepareObserved s node ts topic
  unfold createPublisher
  split <;> rename_i eq <;> rw [eq] at prepared
  · exact prepared
  · split
    · exact prepared
    · split <;> exact prepared

theorem createSubscriptionObserved (s : Site K) (node : Handle .node) (ts : TypeSupport K) (topic : String)
    (size : Nat) : (s.createSubscription node ts topic size).1.observed = s.observed := by
  have prepared := prepareObserved s node ts topic
  unfold createSubscription
  split <;> rename_i eq <;> rw [eq] at prepared
  · exact prepared
  · split
    · exact prepared
    · split <;> exact prepared

variable [Catalog K] [DecidableEq K]

theorem publishObserved (s : Site K) (h : Handle .publisher) (m : Message K) :
    (s.publish h m).1.observed = s.observed := by
  unfold publish
  split
  · rfl
  · split <;> rfl

theorem takeObserved (s : Site K) (h : Handle .subscription) (slot : Option K) :
    (s.take h slot).1.observed = s.observed := by
  unfold take
  split <;> rfl

end Site

namespace System

theorem performObserved {α : Type} {s : System K} {ctx : ContextId} {operation : String}
    {call : Site K → Site K × Except Failure α} (same : ∀ site, (call site).1.observed = site.observed) :
    (s.perform ctx operation call).1.observed = s.observed := by
  unfold perform
  split
  · rfl
  · rename_i c _
    refine Eq.trans ?_ (same ⟨s.bus, s.observed, c⟩)
    dsimp only
    cases (call ⟨s.bus, s.observed, c⟩).2 <;> rfl

variable [Catalog K] [DecidableEq K]

theorem serveObserved (s : System K) {call : Call K}
    (begins : ∀ ctx clock timeout subscriptions guards, call ≠ .beginWait ctx clock timeout subscriptions guards)
    (ends : ∀ t expired, call ≠ .endWait t expired) : (s.serve call).observed = s.observed := by
  cases call with
  | init settings =>
    simp only [serve, System.init]
    split <;> rfl
  | close ctx =>
    simp only [serve, System.close]
    split <;> rfl
  | createNode ctx name => exact performObserved fun site => site.createNodeObserved name
  | destroyNode ctx h => exact performObserved fun site => site.destroyNodeObserved h
  | graphGuard ctx node => exact performObserved fun site => by rw [Site.graphGuardSame]
  | topicNamesAndTypes | countPublishers | countSubscribers | publisherGid | compareGids =>
    exact performObserved fun _ => rfl
  | createGuard ctx => exact performObserved fun site => site.createGuardObserved
  | triggerGuard ctx h => exact performObserved fun site => site.triggerGuardObserved h
  | destroyGuard ctx h => exact performObserved fun site => site.destroyGuardObserved h
  | createPublisher ctx node ts topic => exact performObserved fun site => site.createPublisherObserved node ts topic
  | destroyPublisher ctx h => exact performObserved fun site => site.destroyPublisherObserved h
  | createSubscription ctx node ts topic size =>
    exact performObserved fun site => site.createSubscriptionObserved node ts topic size
  | destroySubscription ctx h => exact performObserved fun site => site.destroySubscriptionObserved h
  | publish ctx h m => exact performObserved fun site => site.publishObserved h m
  | take ctx h slot => exact performObserved fun site => site.takeObserved h slot
  | turn t now => exact (turnTouches s t now).2
  | beginWait ctx clock timeout subscriptions guards =>
    exact absurd rfl (begins ctx clock timeout subscriptions guards)
  | endWait t expired => exact absurd rfl (ends t expired)
  | setError text => rfl
  | resetError => rfl

end System

/-! ### Raising and lowering -/

namespace World

def guard? (w : World K) (ctx : ContextId) (h : Handle .guardCondition) : Option ConditionId :=
  (w.system.contexts.get? ctx).bind fun c => (c.guards.find? h).map (·.condition)

def Raised (w : World K) (k : ConditionId) : Prop := w.system.bus.Raised k

def Changes (w w' : World K) (k : ConditionId) : Prop :=
  ∃ γ, w'.system.bus.Feeds γ k ∧ w.system.bus.version γ < w'.system.bus.version γ

variable [Catalog K] [DecidableEq K]

def Raises (w : World K) (a : Act K) (k : ConditionId) : Prop :=
  (∃ ctx h, a = .call (.triggerGuard ctx h) ∧ w.guard? ctx h = some k) ∨ w.Changes (w.act a) k

def Admits (w : World K) : Act K → Prop
  | .ask q => q.isCommon
  | .call (.endWait t _) => t.guards.conditions.Nodup ∧ ∀ k ∈ t.guards.conditions, w.system.bus.IsGuard k
  | .call _ => True

structure Kept (w : World K) : Prop where
  sound : w.system.Sound
  conditionsAgree : ConditionsAgree w.system.bus w.system.contexts
  wired : Wired w.system.bus

end World

def Act.Lowers [Catalog K] (a : Act K) (k : ConditionId) : Prop :=
  ∃ t expired, a = .call (.endWait t expired) ∧ k ∈ t.guards.conditions

namespace World

theorem keptFresh : ({} : World K).Kept := ⟨System.soundFresh, .fresh, Bus.wiredEmpty⟩

theorem changesNothing {w w' : World K} (same : w'.system.bus.graphs = w.system.bus.graphs) (k : ConditionId) :
    ¬ w.Changes w' k := fun ⟨γ, _, less⟩ => by
  rw [Bus.version, Bus.version, same] at less
  exact Nat.lt_irrefl _ less

variable [Catalog K] [DecidableEq K] {w : World K}

structure Follows (w : World K) (a : Act K) : Prop where
  kept : (w.act a).Kept
  evolves : w.system.bus.Evolves (w.act a).system.bus
  graphsGrow : GraphsGrow w.system.bus (w.act a).system.bus
  raised : ∀ k, (w.act a).Raised k ↔ w.Raised k ∧ ¬ a.Lowers k ∨ w.Raises a k

theorem ringFollows (kept : w.Kept) {a : Act K} (sound : (w.act a).system.Sound)
    (conditionsAgree : ConditionsAgree (w.act a).system.bus (w.act a).system.contexts)
    (evolves : w.system.bus.Evolves (w.act a).system.bus) (keepsGuards : KeepsGuards w.system.bus (w.act a).system.bus)
    (presses : ∀ ctx h, a ≠ .call (.triggerGuard ctx h)) (lowers : ∀ t expired, a ≠ .call (.endWait t expired)) :
    w.Follows a := by
  obtain ⟨wired, raisesGuards⟩ := keepsGuards kept.wired
  refine ⟨⟨sound, conditionsAgree, wired⟩, evolves, raisesGuards.toGraphsGrow, fun k =>
    (raisesGuards.raised k).trans (or_congr ?_ ?_)⟩
  · exact (and_iff_left fun ⟨t, expired, own, _⟩ => lowers t expired own).symm
  · exact (or_iff_right fun ⟨ctx, h, own, _⟩ => presses ctx h own).symm

theorem askFollows (kept : w.Kept) {q : Request} (common : q.isCommon) : w.Follows (.ask q) := by
  obtain ⟨conditionsAgree, evolves⟩ := kept.conditionsAgree.leads (Bus.requestLeads w.system.bus q)
  exact ringFollows kept ⟨kept.sound.opened, kept.sound.tables⟩ conditionsAgree evolves
    (Bus.requestKeepsGuards (Bus.commonApt common)) (fun _ _ own => nomatch own) fun _ _ own => nomatch own

omit [Catalog K] [DecidableEq K] in
theorem pressedBus (kept : w.Kept) (ctx : ContextId) (h : Handle .guardCondition) :
    Wired (w.system.triggerGuard ctx h).1.bus ∧
      OnlySignals w.system.bus (w.system.triggerGuard ctx h).1.bus ∧
      ∀ k, (w.system.triggerGuard ctx h).1.bus.Raised k ↔ w.Raised k ∨ w.guard? ctx h = some k := by
  unfold System.triggerGuard
  rcases performSplit w.system ctx "trigger_guard_condition" (Site.triggerGuard · h) with
    ⟨absent, bus, _⟩ | ⟨c, known, bus, _⟩
  · have none : w.guard? ctx h = none := by rw [guard?, absent]; rfl
    rw [bus, none]
    exact ⟨kept.wired, .refl _, fun k => (or_iff_left nofun).symm⟩
  · have own : w.guard? ctx h = (c.guards.find? h).map (·.condition) := by rw [guard?, known]; rfl
    rw [bus, own]
    unfold Site.triggerGuard
    cases found : c.guards.find? h with
    | none =>
      obtain ⟨f, got⟩ := Arena.getNone found
      rw [got]
      exact ⟨kept.wired, .refl _, fun k => (or_iff_left nofun).symm⟩
    | some g =>
      rw [Arena.getExact.2 found]
      have raises := Bus.setGuardAdjusts w.system.bus g.condition true
      refine ⟨kept.wired.adjust raises fun _ => ⟨true, rfl⟩, raises.signals, fun k => ?_⟩
      rw [Bus.setGuardRaised (kept.conditionsAgree.guards ctx c h g known found), Option.map_some, Option.some.injEq]
      by_cases own : k = g.condition
      · simp [own]
      · simp [own, Ne.symm own, Raised]

theorem pressFollows (kept : w.Kept) (ctx : ContextId) (h : Handle .guardCondition) :
    w.Follows (.call (.triggerGuard ctx h)) := by
  have sound := System.serveSound kept.sound (.triggerGuard ctx h)
  obtain ⟨conditionsAgree, evolves⟩ := kept.conditionsAgree.serve kept.sound (.triggerGuard ctx h)
  obtain ⟨wired, signals, raised⟩ := pressedBus kept ctx h
  have quiet : ∀ k, ¬ w.Changes (w.act (.call (.triggerGuard ctx h))) k := changesNothing signals.graphs
  refine ⟨⟨sound, conditionsAgree, wired⟩, evolves, .same signals.graphs signals.listeners,
    fun k => (raised k).trans (or_congr ?_ ⟨fun guard => ?_, ?_⟩)⟩
  · exact (and_iff_left fun ⟨_, _, own, _⟩ => nomatch own).symm
  · exact .inl ⟨ctx, h, rfl, guard⟩
  · rintro (⟨_, _, own, guard⟩ | changes)
    · cases own
      exact guard
    · exact absurd changes (quiet k)

theorem endFollows (kept : w.Kept) {t : Ticket} (nodup : t.guards.conditions.Nodup)
    (guards : ∀ k ∈ t.guards.conditions, w.system.bus.IsGuard k) (expired : Bool) :
    w.Follows (.call (.endWait t expired)) := by
  have sound := System.serveSound kept.sound (.endWait t expired)
  obtain ⟨conditionsAgree, evolves⟩ := kept.conditionsAgree.serve kept.sound (.endWait t expired)
  obtain ⟨_, _, touches⟩ := System.endWaitOpens expired nodup guards
  have wired := System.serveWired kept.wired (.endWait t expired)
  have lowered (k : ConditionId) : (w.act (.call (.endWait t expired))).Raised k ↔
      w.Raised k ∧ k ∉ t.guards.conditions := by
    change Bus.Raised (w.system.endWait t expired).2.bus k ↔ _
    rw [Bus.Raised, touches.triggers, Trigger.lowering, Raised, Bus.Raised]
    split
    · rename_i listed
      obtain ⟨raised, there⟩ := guards k listed
      simp [there, listed, Trigger.assign]
    · simp [*]
  have quiet : ∀ k, ¬ w.Changes (w.act (.call (.endWait t expired))) k := changesNothing touches.bus.graphs
  refine ⟨⟨sound, conditionsAgree, wired⟩, evolves, .same touches.bus.graphs touches.bus.listeners,
    fun k => (lowered k).trans ⟨fun stays => .inl ⟨stays.1, ?_⟩, ?_⟩⟩
  · rintro ⟨_, _, own, listed⟩
    cases own
    exact stays.2 listed
  · rintro (⟨up, high⟩ | ⟨_, _, own, _⟩ | changes)
    · exact ⟨up, fun listed => high ⟨t, expired, rfl, listed⟩⟩
    · cases own
    · exact absurd changes (quiet k)

theorem actFollows (kept : w.Kept) {a : Act K} (admits : w.Admits a) : w.Follows a := by
  cases a with
  | ask q => exact askFollows kept admits
  | call call =>
    have plain (presses : ∀ ctx h, call ≠ .triggerGuard ctx h) (lowers : ∀ t expired, call ≠ .endWait t expired) :
        w.Follows (.call call) := by
      obtain ⟨conditionsAgree, evolves⟩ := kept.conditionsAgree.serve kept.sound call
      refine ringFollows kept (System.serveSound kept.sound call) conditionsAgree evolves
        (System.serveKeepsGuards w.system presses lowers) (fun ctx h own => ?_) fun t expired own => ?_
      · cases own
        exact presses ctx h rfl
      · cases own
        exact lowers t expired rfl
    cases call with
    | triggerGuard ctx h => exact pressFollows kept ctx h
    | endWait t expired => exact endFollows kept admits.1 admits.2 expired
    | _ => exact plain (fun _ _ own => nomatch own) fun _ _ own => nomatch own

end World
end Databus.Middleware
