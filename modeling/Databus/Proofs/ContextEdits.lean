import Databus.Proofs.SlotGenerations
import Databus.Proofs.RefusedCalls

/-! What a call may do to the tables of its context, arena by arena. Each resource is entered or taken out by itself; a
node comes with a guard that is listed for it and goes with it. -/
namespace Databus.Middleware

variable {K : Type}

namespace Context

def empty (id : ContextId) (settings : Settings) : Context K where
  id := id
  settings := settings
  nodes := { context := id, capacity := settings.maxHandles }
  publishers := { context := id, capacity := settings.maxHandles }
  subscriptions := { context := id, capacity := settings.maxHandles }
  guards := { context := id, capacity := settings.maxHandles }

inductive Edits (c : Context K) : Context K → Prop
  | same : Edits c c
  | nodeAdded {n : NodeRecord} {h : Handle .node} {nodes : Arena .node NodeRecord} {g : Handle .guardCondition}
    {guards : Arena .guardCondition GuardRecord} (inserted : c.nodes.insert n = .ok (h, nodes))
    (guarded : c.guards.insert ⟨n.guard, .node h⟩ = .ok (g, guards)) :
    Edits c { c with nodes := nodes, guards := guards, graphGuards := (h, g) :: c.graphGuards }
  | unlodged {n n' : NodeRecord} {h : Handle .node} {nodes nodes' : Arena .node NodeRecord}
    (inserted : c.nodes.insert n = .ok (h, nodes)) (removed : nodes.remove h = .ok (n', nodes')) :
    Edits c { c with nodes := nodes' }
  | parted {s : Site K} {h : Handle .node} {n : NodeRecord} {nodes : Arena .node NodeRecord} (own : s.context = c)
    (removed : c.nodes.remove h = .ok (n, nodes)) : Edits c { s.removeGraphGuard h with nodes := nodes }
  | guarded {k : ConditionId} {g : Handle .guardCondition} {guards : Arena .guardCondition GuardRecord}
    (inserted : c.guards.insert ⟨k, .caller⟩ = .ok (g, guards)) : Edits c { c with guards := guards }
  | unguarded {g : Handle .guardCondition} {r : GuardRecord} {guards : Arena .guardCondition GuardRecord}
    (own : r.owner = .caller) (removed : c.guards.remove g = .ok (r, guards)) : Edits c { c with guards := guards }
  | published {h : Handle .publisher} {r : PublisherRecord K} {publishers : Arena .publisher (PublisherRecord K)}
    (inserted : c.publishers.insert r = .ok (h, publishers)) :
    Edits c (Site.countEndpoint { c with publishers := publishers } r.node (· + 1))
  | unpublished {h : Handle .publisher} {r : PublisherRecord K} {publishers : Arena .publisher (PublisherRecord K)}
    (removed : c.publishers.remove h = .ok (r, publishers)) :
    Edits c (Site.countEndpoint { c with publishers := publishers } r.node (· - 1))
  | subscribed {h : Handle .subscription} {r : SubscriptionRecord K}
    {subscriptions : Arena .subscription (SubscriptionRecord K)}
    (inserted : c.subscriptions.insert r = .ok (h, subscriptions)) :
    Edits c (Site.countEndpoint { c with subscriptions := subscriptions } r.node (· + 1))
  | unsubscribed {h : Handle .subscription} {r : SubscriptionRecord K}
    {subscriptions : Arena .subscription (SubscriptionRecord K)}
    (removed : c.subscriptions.remove h = .ok (r, subscriptions)) :
    Edits c (Site.countEndpoint { c with subscriptions := subscriptions } r.node (· - 1))

end Context

/-! ### Destructions that succeed -/

namespace Site

variable {s : Site K}

theorem destroyNodeRemoves {h : Handle .node} (ok : (s.destroyNode (some h)).2 = .ok ()) :
    ∃ n nodes, n.endpoints = 0 ∧ s.context.nodes.remove h = .ok (n, nodes) ∧ (s.destroyNode (some h)).1 =
      { s with bus := s.bus.leave n.participant, context := { s.removeGraphGuard h with nodes := nodes } } := by
  simp only [destroyNode, Handle.require, node] at ok ⊢
  cases got : s.context.nodes.get h with
  | error f =>
    rw [got] at ok
    cases ok
  | ok n =>
    simp only [got] at ok ⊢
    by_cases busy : 0 < n.endpoints
    · rw [if_pos busy] at ok
      cases ok
    · obtain ⟨nodes, removed⟩ := Arena.removeRuns (Arena.getExact.1 got)
      simp only [if_neg busy, removed, detachLeave]
      exact ⟨n, nodes, Nat.eq_zero_of_not_pos busy, rfl, rfl⟩

theorem destroyGuardRemoves {h : Handle .guardCondition} (ok : (s.destroyGuard (some h)).2 = .ok ()) :
    ∃ k guards, s.context.guards.remove h = .ok (⟨k, .caller⟩, guards) ∧
      (s.destroyGuard (some h)).1 = { s with context := { s.context with guards := guards } } := by
  simp only [destroyGuard, Handle.require] at ok ⊢
  cases got : s.context.guards.get h with
  | error f =>
    rw [got] at ok
    cases ok
  | ok g =>
    obtain ⟨k, owner⟩ := g
    rw [got] at ok
    cases owner with
    | node n => cases ok
    | caller =>
      obtain ⟨guards, removed⟩ := Arena.removeRuns (Arena.getExact.1 got)
      simp only [removed]
      exact ⟨k, guards, rfl, rfl⟩

def takenDown (s : Site K) (side : Side) (r : EndpointEntry K) : Bus :=
  match s.context.nodes.find? r.node with
  | some n => s.bus.takeDown side n.participant r.group r.endpoint
  | none => s.bus

theorem destroyEndpointRemoves {ref : EndpointRef} (ok : (s.destroyEndpoint ref).2 = .ok ()) :
    ∃ r c, s.context.giveUp ref = .ok (r, c) ∧ (s.destroyEndpoint ref).1 =
      { s with bus := s.takenDown ref.side r, context := countEndpoint c r.node (· - 1) } := by
  unfold destroyEndpoint at ok ⊢
  cases removed : s.context.giveUp ref with
  | error f =>
    rw [removed] at ok
    cases ok
  | ok gone =>
    obtain ⟨r, c⟩ := gone
    refine ⟨r, c, rfl, ?_⟩
    have nodes := Context.giveUpNodes removed
    simp only [takenDown]
    rw [nodes]
    cases found : s.context.nodes.find? r.node with
    | none =>
      obtain ⟨f, got⟩ := Arena.getNone found
      simp only [got]
      rw [countNobody (nodes ▸ found)]
    | some n => simp only [Arena.getExact.2 found]

theorem destroyPublisherRemoves {h : Handle .publisher} (ok : (s.destroyPublisher (some h)).2 = .ok ()) :
    ∃ r publishers, s.context.publishers.remove h = .ok (r, publishers) ∧ (s.destroyPublisher (some h)).1 =
      { s with
        bus := s.takenDown .publication r.entry
        context := countEndpoint { s.context with publishers := publishers } r.node (· - 1) } := by
  rw [destroyEndpointPublisher] at ok ⊢
  obtain ⟨_, _, gone, after⟩ := destroyEndpointRemoves ok
  obtain ⟨⟨r, publishers⟩, removed, made⟩ := mapOk gone
  cases made
  exact ⟨r, publishers, removed, after⟩

theorem destroySubscriptionRemoves {h : Handle .subscription} (ok : (s.destroySubscription (some h)).2 = .ok ()) :
    ∃ r subscriptions, s.context.subscriptions.remove h = .ok (r, subscriptions) ∧
      (s.destroySubscription (some h)).1 =
        { s with
          bus := s.takenDown .subscription r.entry
          context := countEndpoint { s.context with subscriptions := subscriptions } r.node (· - 1) } := by
  rw [destroyEndpointSubscription] at ok ⊢
  obtain ⟨_, _, gone, after⟩ := destroyEndpointRemoves ok
  obtain ⟨⟨r, subscriptions⟩, removed, made⟩ := mapOk gone
  cases made
  exact ⟨r, subscriptions, removed, after⟩

/-! ### Every call -/

theorem createNodeEdits (sound : s.context.Sound) (name : String) :
    s.context.Edits (s.createNode name).1.context := by
  unfold createNode
  split
  · exact .same
  · split
    · exact .same
    · split
      · exact .same
      · rename_i h nodes inserted
        split
        · rename_i g guards guarded
          exact .nodeAdded inserted guarded
        · obtain ⟨_, _, _, find⟩ := Arena.insertFind sound.nodes inserted
          obtain ⟨nodes', removed⟩ := Arena.removeRuns ((find h).trans (if_pos rfl))
          simp only [removed]
          exact .unlodged inserted removed

theorem destroyNodeEdits (sound : s.context.Sound) (h : Option (Handle .node)) :
    s.context.Edits (s.destroyNode h).1.context := by
  cases h with
  | none => exact .same
  | some h =>
    cases done : (s.destroyNode (some h)).2 with
    | ok =>
      obtain ⟨n, nodes, _, removed, after⟩ := destroyNodeRemoves done
      rw [after]
      exact .parted rfl removed
    | error f =>
      have removesNode := destroyNodeRemovesNode sound (some h)
      rw [done] at removesNode
      generalize (s.destroyNode (some h)).1 = s' at removesNode ⊢
      cases removesNode
      exact .same

theorem createGuardEdits (s : Site K) : s.context.Edits s.createGuard.1.context := by
  unfold createGuard
  dsimp only
  split
  · exact .same
  · rename_i inserted
    exact .guarded inserted

theorem triggerGuardContext (s : Site K) (h : Handle .guardCondition) :
    (s.triggerGuard h).1.context = s.context := by
  unfold triggerGuard
  split <;> rfl

theorem destroyGuardEdits (s : Site K) (h : Option (Handle .guardCondition)) :
    s.context.Edits (s.destroyGuard h).1.context := by
  unfold destroyGuard
  split
  · exact .same
  · split
    · exact .same
    · exact .same
    · rename_i got
      split
      · exact .same
      · rename_i gone guards removed
        have own := Arena.removeExact.1 ⟨_, removed⟩
        cases Except.ok.inj (got.symm.trans own)
        exact .unguarded rfl removed

theorem giveUpEdits {ref : EndpointRef} {r : EndpointEntry K} {c' : Context K}
    (ok : s.context.giveUp ref = .ok (r, c')) :
    s.context.Edits (countEndpoint c' r.node (· - 1)) := by
  cases ref with
  | publisher h =>
    obtain ⟨_, removed, made⟩ := mapOk ok
    cases made
    exact .unpublished removed
  | subscription h =>
    obtain ⟨_, removed, made⟩ := mapOk ok
    cases made
    exact .unsubscribed removed

theorem enterEdits {side : Side} {b : Bus} {r : EndpointEntry K} {ref : EndpointRef} {c' : Context K}
    (ok : s.context.enter b r side = .ok (ref, c')) : s.context.Edits (countEndpoint c' r.node (· + 1)) := by
  cases side with
  | publication =>
    obtain ⟨_, inserted, made⟩ := mapOk ok
    cases made
    exact .published inserted
  | subscription =>
    obtain ⟨_, inserted, made⟩ := mapOk ok
    cases made
    exact .subscribed inserted

theorem destroyEndpointEdits (sound : s.context.Sound) (ref : EndpointRef) :
    s.context.Edits (s.destroyEndpoint ref).1.context := by
  cases done : (s.destroyEndpoint ref).2 with
  | ok =>
    obtain ⟨r, c, removed, after⟩ := destroyEndpointRemoves done
    rw [after]
    exact giveUpEdits removed
  | error f =>
    have releases := destroyEndpointReleases sound ref
    rw [done] at releases
    generalize (s.destroyEndpoint ref).1 = s' at releases ⊢
    cases releases
    exact .same

theorem destroyPublisherEdits (sound : s.context.Sound) (h : Option (Handle .publisher)) :
    s.context.Edits (s.destroyPublisher h).1.context := by
  cases h with
  | none => exact .same
  | some h => exact destroyEndpointPublisher s h ▸ destroyEndpointEdits sound (.publisher h)

theorem destroySubscriptionEdits (sound : s.context.Sound) (h : Option (Handle .subscription)) :
    s.context.Edits (s.destroySubscription h).1.context := by
  cases h with
  | none => exact .same
  | some h => exact destroyEndpointSubscription s h ▸ destroyEndpointEdits sound (.subscription h)

theorem createEndpointEdits (s : Site K) (side : Side) (node : Handle .node) (ts : TypeSupport K) (topic : String)
    (history : History) : s.context.Edits (s.createEndpoint side node ts topic history).1.context := by
  have prepared := prepareContext s node ts topic
  unfold createEndpoint
  split <;> rename_i eq <;> rw [eq] at prepared
  · exact prepared ▸ .same
  · rw [← prepared]
    split
    · exact .same
    · split
      · exact .same
      · rename_i entered
        exact enterEdits entered

theorem createPublisherEdits (s : Site K) (node : Handle .node) (ts : TypeSupport K) (topic : String) :
    s.context.Edits (s.createPublisher node ts topic).1.context := by
  have edits := createEndpointEdits s .publication node ts topic .standard
  rwa [createEndpointPublisher] at edits

theorem createSubscriptionEdits (s : Site K) (node : Handle .node) (ts : TypeSupport K) (topic : String)
    (size : Nat) : s.context.Edits (s.createSubscription node ts topic size).1.context := by
  have edits := createEndpointEdits s .subscription node ts topic (queueHistory size)
  rwa [createEndpointSubscription] at edits

/-! ### Messages -/

variable [Catalog K] [DecidableEq K]

theorem publishContext (s : Site K) (h : Handle .publisher) (m : Message K) :
    (s.publish h m).1.context = s.context := by
  unfold publish
  split
  · rfl
  · split <;> rfl

theorem takeContext (s : Site K) (h : Handle .subscription) (slot : Option K) :
    (s.take h slot).1.context = s.context := by
  unfold take
  split <;> rfl

end Site

/-! ### Every system -/

namespace System

inductive Edited (s s' : System K) : Prop
  | idle (contexts : s'.contexts = s.contexts) (next : s'.nextContext = s.nextContext)
  | opened (settings : Settings)
    (contexts : s'.contexts = s.contexts.insert s.nextContext (.empty s.nextContext settings))
    (next : s'.nextContext = s.nextContext + 1)
  | closed {ctx : ContextId} (contexts : s'.contexts = s.contexts.erase ctx) (next : s'.nextContext = s.nextContext)
  | acted {ctx : ContextId} {c c' : Context K} (known : s.contexts.get? ctx = some c) (edits : c.Edits c')
    (contexts : s'.contexts = s.contexts.insert ctx c') (next : s'.nextContext = s.nextContext)

variable {s : System K}

theorem Edited.keeps {s' : System K} (edited : s.Edited s') {P : ContextId → Context K → Prop}
    (fresh : ∀ settings, P s.nextContext (.empty s.nextContext settings))
    (edits : ∀ ctx c c', s.contexts.get? ctx = some c → c.Edits c' → P ctx c → P ctx c')
    (start : ∀ ctx c, s.contexts.get? ctx = some c → P ctx c) (ctx : ContextId) (c : Context K)
    (known : s'.contexts.get? ctx = some c) : P ctx c := by
  cases edited with
  | idle contexts => exact start ctx c (contexts ▸ known)
  | opened settings contexts =>
    rw [contexts, Table.getInsert] at known
    split at known
    · rename_i own
      cases Option.some.inj known
      exact own ▸ fresh settings
    · exact start ctx c known
  | closed contexts =>
    rw [contexts, Table.getErase] at known
    split at known
    · cases known
    · exact start ctx c known
  | acted there done contexts =>
    rw [contexts, Table.getInsert] at known
    split at known
    · rename_i own
      cases Option.some.inj known
      exact own ▸ edits _ _ _ there done (start _ _ there)
    · exact start ctx c known

theorem performEdited {α : Type} (sound : s.Sound) (ctx : ContextId) (operation : String)
    {call : Site K → Site K × Except Failure α}
    (edits : ∀ site : Site K, site.context.Sound → site.context.Edits (call site).1.context) :
    s.Edited (s.perform ctx operation call).1 := by
  unfold perform
  split
  · exact .idle rfl rfl
  · rename_i c known
    have done := edits ⟨s.bus, s.observed, c⟩ (sound.tables ctx c known)
    dsimp only
    cases (call ⟨s.bus, s.observed, c⟩).2 <;> exact .acted known done rfl rfl

theorem initEdited (s : System K) (settings : Settings) : s.Edited (s.init settings).1 := by
  unfold init
  split
  · exact .idle rfl rfl
  · exact .opened settings rfl rfl

theorem closeEdited (s : System K) (ctx : ContextId) : s.Edited (s.close ctx) := by
  unfold close
  split
  · exact .idle rfl rfl
  · exact .closed rfl rfl

variable [Catalog K] [DecidableEq K]

theorem serveEdited (sound : s.Sound) (call : Call K) : s.Edited (s.serve call) := by
  have same {site site' : Site K} (eq : site'.context = site.context) : site.context.Edits site'.context :=
    eq ▸ .same
  cases call with
  | init settings => exact initEdited s settings
  | close ctx => exact closeEdited s ctx
  | createNode ctx name => exact performEdited sound ctx _ fun _ tables => Site.createNodeEdits tables name
  | destroyNode ctx h => exact performEdited sound ctx _ fun _ tables => Site.destroyNodeEdits tables h
  | graphGuard ctx node =>
    exact performEdited sound ctx _ fun site _ => same (congrArg Site.context (site.graphGuardSame node))
  | topicNamesAndTypes | countPublishers | countSubscribers | publisherGid | compareGids =>
    exact performEdited sound _ _ fun _ _ => .same
  | createGuard ctx => exact performEdited sound ctx _ fun site _ => site.createGuardEdits
  | triggerGuard ctx h => exact performEdited sound ctx _ fun site _ => same (site.triggerGuardContext h)
  | destroyGuard ctx h => exact performEdited sound ctx _ fun site _ => site.destroyGuardEdits h
  | createPublisher ctx node ts topic =>
    exact performEdited sound ctx _ fun site _ => site.createPublisherEdits node ts topic
  | destroyPublisher ctx h =>
    exact performEdited sound ctx _ fun _ tables => Site.destroyPublisherEdits tables h
  | createSubscription ctx node ts topic size =>
    exact performEdited sound ctx _ fun site _ => site.createSubscriptionEdits node ts topic size
  | destroySubscription ctx h =>
    exact performEdited sound ctx _ fun _ tables => Site.destroySubscriptionEdits tables h
  | publish ctx h m => exact performEdited sound ctx _ fun site _ => same (site.publishContext h m)
  | take ctx h slot => exact performEdited sound ctx _ fun site _ => same (site.takeContext h slot)
  | beginWait ctx clock timeout subscriptions guards =>
    exact performEdited sound ctx _ fun site _ =>
      same (site.beginWaitWaits clock timeout subscriptions guards).2
  | turn t now => exact .idle (turnWaits s t now).2.1 (turnWaits s t now).2.2
  | endWait t expired => exact .idle rfl rfl
  | setError text => exact .idle rfl rfl
  | resetError => exact .idle rfl rfl

end System
end Databus.Middleware
