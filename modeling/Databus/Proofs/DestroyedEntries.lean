import Databus.Proofs.AnnouncementFrame
import Databus.Proofs.NodeGuardListing
import Databus.Proofs.HandleExpiry

/-! What a destruction takes away: one entry of one table, with a node the guard that is listed for it, and what stood
for the entry on the bus. Whatever else the context has resolves as before. -/
namespace Databus.Middleware

open Bus (Misses OwnsEndpoint)

variable {K : Type}

namespace Arena

variable {kind : Kind} {α : Type} {a a' : Arena kind α} {h : Handle kind}

theorem getSame (context : a'.context = a.context) (find : a'.find? h = a.find? h) : a'.get h = a.get h := by
  simp only [get, stale, context, find]

theorem removeGet (sound : a.Sound) {v : α} (ok : a.remove h = .ok (v, a')) :
    a'.find? h = none ∧ ∀ h', h' ≠ h → a'.get h' = a.get h' := by
  obtain ⟨_, context, _, find⟩ := removeFind sound ok
  exact ⟨(find h).trans (if_pos rfl), fun h' other => getSame context ((find h').trans (if_neg other))⟩

end Arena

def Entity.ref? : Entity → Option EndpointRef
  | publisher h => some (.publisher h)
  | subscription h => some (.subscription h)
  | _ => none

namespace Context

def home? (c : Context K) (d : Entity) : Option (Handle .node) := (d.ref?.bind c.findEntry).map (·.node)

def endpoint? (c : Context K) (d : Entity) : Option InstanceHandle := (d.ref?.bind c.findEntry).map (·.endpoint)

theorem refPublisher {d : Entity} {h : Handle .publisher} : d.ref? = some (.publisher h) ↔ .publisher h = d := by
  cases d <;> simp [Entity.ref?, eq_comm]

theorem refSubscription {d : Entity} {h : Handle .subscription} :
    d.ref? = some (.subscription h) ↔ .subscription h = d := by
  cases d <;> simp [Entity.ref?, eq_comm]

section Held

variable {c : Context K} {d : Entity} {ref : EndpointRef} {r : EndpointEntry K}

theorem homeHeld (own : d.ref? = some ref) (held : c.findEntry ref = some r) : c.home? d = some r.node := by
  rw [home?, own, Option.bind_some, held, Option.map_some]

theorem endpointHeld (own : d.ref? = some ref) (held : c.findEntry ref = some r) :
    c.endpoint? d = some r.endpoint := by
  rw [endpoint?, own, Option.bind_some, held, Option.map_some]

theorem heldPublisher {h : Handle .publisher} {r : PublisherRecord K} (found : c.publishers.find? h = some r) :
    c.findEntry (.publisher h) = some r.entry := by
  rw [findEntry, found, Option.map_some]

theorem heldSubscription {h : Handle .subscription} {r : SubscriptionRecord K}
    (found : c.subscriptions.find? h = some r) : c.findEntry (.subscription h) = some r.entry := by
  rw [findEntry, found, Option.map_some]

end Held

theorem entryPlaced {c : Context K} {ctx : ContextId} {d : Entity} {ref : EndpointRef} {r : EndpointEntry K}
    (placed : c.Placed ctx) (own : d.ref? = some ref) (held : c.findEntry ref = some r) : d.context = ctx := by
  cases ref with
  | publisher h =>
    obtain ⟨_, found, _⟩ := Option.map_eq_some_iff.1 held
    obtain rfl := refPublisher.1 own
    exact (Arena.findExact.1 found).2.1.trans placed.publishers
  | subscription h =>
    obtain ⟨_, found, _⟩ := Option.map_eq_some_iff.1 held
    obtain rfl := refSubscription.1 own
    exact (Arena.findExact.1 found).2.1.trans placed.subscriptions

def without (c : Context K) (d : Entity) (h : Handle .node) (n : NodeRecord) : NodeRecord :=
  if c.home? d = some h then { n with endpoints := n.endpoints - 1 } else n

structure Loses (c : Context K) (d : Entity) (c' : Context K) : Prop where
  settings : c'.settings = c.settings
  gone : c'.Lacks d
  nodes : ∀ h, .node h ≠ d → c'.nodes.get h = (c.nodes.get h).map (c.without d h)
  publishers : ∀ h, .publisher h ≠ d → c'.publishers.get h = c.publishers.get h
  subscriptions : ∀ h, .subscription h ≠ d → c'.subscriptions.get h = c.subscriptions.get h
  guards : ∀ h, .guard h ≠ d → (∀ n, d = .node n → (n, h) ∉ c.graphGuards) → c'.guards.get h = c.guards.get h
  escorts : ∀ n h, d = .node n → (n, h) ∈ c.graphGuards → c'.Lacks (.guard h)
  graphGuards : ∀ e, e ∈ c'.graphGuards ↔ e ∈ c.graphGuards ∧ .node e.1 ≠ d

theorem withoutNothing {c : Context K} {d : Entity} (nowhere : c.home? d = none) (h : Handle .node) :
    (c.nodes.get h).map (c.without d h) = c.nodes.get h := by
  have same (n : NodeRecord) : c.without d h n = n := by simp only [without, nowhere, reduceCtorEq, if_false]
  cases c.nodes.get h with
  | error f => rfl
  | ok n => exact congrArg Except.ok (same n)

theorem withoutCounted {c c' : Context K} {d : Entity} {k : Handle .node} (sound : c'.Sound)
    (nodes : c'.nodes = c.nodes) (home : c.home? d = some k) (h : Handle .node) :
    (Site.countEndpoint c' k (· - 1)).nodes.get h = (c.nodes.get h).map (c.without d h) := by
  have context : (Site.countEndpoint c' k (· - 1)).nodes.context = c.nodes.context :=
    (Arena.modifyFind sound.nodes k _).2.1.trans (congrArg Arena.context nodes)
  simp only [Arena.get, Arena.stale, context, countNodes sound, nodes]
  cases h.check with
  | error f => rfl
  | ok =>
    by_cases own : h = k
    · subst own
      have less (n : NodeRecord) : c.without d h n = { n with endpoints := n.endpoints - 1 } := if_pos home
      simp only [if_true]
      cases c.nodes.find? h with
      | none => rfl
      | some n => exact congrArg Except.ok (less n).symm
    · have same (n : NodeRecord) : c.without d h n = n :=
        if_neg fun here => own (Option.some.inj (here.symm.trans home))
      simp only [own, if_false]
      cases c.nodes.find? h with
      | none => rfl
      | some n => exact congrArg Except.ok (same n).symm

end Context

namespace Site

inductive Destroys (s : Site K) : Entity → Site K → Prop
  | node {h : Handle .node} {n : NodeRecord} {nodes : Arena .node NodeRecord} (idle : n.endpoints = 0)
    (removed : s.context.nodes.remove h = .ok (n, nodes)) : Destroys s (.node h)
      { s with bus := s.bus.leave n.participant, context := { s.removeGraphGuard h with nodes := nodes } }
  | guard {h : Handle .guardCondition} {k : ConditionId} {guards : Arena .guardCondition GuardRecord}
    (removed : s.context.guards.remove h = .ok (⟨k, .caller⟩, guards)) :
    Destroys s (.guard h) { s with context := { s.context with guards := guards } }
  | publisher {h : Handle .publisher} {r : PublisherRecord K} {publishers : Arena .publisher (PublisherRecord K)}
    (removed : s.context.publishers.remove h = .ok (r, publishers)) : Destroys s (.publisher h)
      { s with
        bus := s.takenDown .publication r.entry
        context := countEndpoint { s.context with publishers := publishers } r.node (· - 1) }
  | subscription {h : Handle .subscription} {r : SubscriptionRecord K}
    {subscriptions : Arena .subscription (SubscriptionRecord K)}
    (removed : s.context.subscriptions.remove h = .ok (r, subscriptions)) : Destroys s (.subscription h)
      { s with
        bus := s.takenDown .subscription r.entry
        context := countEndpoint { s.context with subscriptions := subscriptions } r.node (· - 1) }

namespace Destroys

variable {s s' : Site K} {d : Entity}

/-! ### Tables -/

theorem loses (h : s.Destroys d s') (sound : s.context.Sound) (guardsListed : s.context.GuardsListed) :
    s.context.Loses d s'.context := by
  have apart {kind : Kind} {k k' : Handle kind} {name : Handle kind → Entity} (other : name k' ≠ name k) : k' ≠ k :=
    fun same => other (congrArg name same)
  cases h with
  | @node k n nodes idle removed =>
    obtain ⟨gone, others⟩ := Arena.removeGet sound.nodes removed
    obtain ⟨_, context, guards, listed⟩ := guardsListed.released sound k
    obtain ⟨_, settings, publishers, subscriptions⟩ := removeGraphGuardSame sound k
    refine ⟨settings, gone, fun k' other => ?_, fun k' _ => congrArg (·.get k') publishers,
      fun k' _ => congrArg (·.get k') subscriptions, fun g _ free => Arena.getSame context ((guards g).trans ?_),
      fun k' g own mem => (guards g).trans (if_pos ?_), fun e => (listed e).trans (and_congr_right fun _ => ?_)⟩
    · exact (others k' (apart other)).trans (Context.withoutNothing (c := s.context) rfl k').symm
    · exact if_neg (free k rfl)
    · cases own
      exact mem
    · exact not_congr ⟨congrArg Entity.node, Entity.node.inj⟩
  | @guard k κ guards removed =>
    obtain ⟨gone, others⟩ := Arena.removeGet sound.guards removed
    refine ⟨rfl, gone, fun k' _ => (Context.withoutNothing (c := s.context) rfl k').symm, fun _ _ => rfl,
      fun _ _ => rfl, fun k' other _ => others k' (apart other), fun _ _ own => ?_,
      fun _ => (and_iff_left fun own => ?_).symm⟩ <;> cases own
  | @publisher k r publishers removed =>
    obtain ⟨sound', _, found, _⟩ := Arena.removeFind sound.publishers removed
    obtain ⟨gone, others⟩ := Arena.removeGet sound.publishers removed
    have home : s.context.home? (.publisher k) = some r.node := Context.homeHeld rfl (Context.heldPublisher found)
    have left : Context.Sound { s.context with publishers := publishers } := { sound with publishers := sound' }
    refine ⟨rfl, gone, fun k' _ => Context.withoutCounted (c := s.context) left rfl home k',
      fun k' other => others k' (apart other), fun _ _ => rfl, fun _ _ _ => rfl, fun _ _ own => ?_,
      fun _ => (and_iff_left fun own => ?_).symm⟩ <;> cases own
  | @subscription k r subscriptions removed =>
    obtain ⟨sound', _, found, _⟩ := Arena.removeFind sound.subscriptions removed
    obtain ⟨gone, others⟩ := Arena.removeGet sound.subscriptions removed
    have home : s.context.home? (.subscription k) = some r.node :=
      Context.homeHeld rfl (Context.heldSubscription found)
    have left : Context.Sound { s.context with subscriptions := subscriptions } :=
      { sound with subscriptions := sound' }
    refine ⟨rfl, gone, fun k' _ => Context.withoutCounted (c := s.context) left rfl home k', fun _ _ => rfl,
      fun k' other => others k' (apart other), fun _ _ _ => rfl, fun _ _ own => ?_,
      fun _ => (and_iff_left fun own => ?_).symm⟩ <;> cases own

theorem own (h : s.Destroys d s') : d.implementation = implementationIdentifier ∧
    ∀ ctx, s.context.Placed ctx → d.context = ctx := by
  have held {kind : Kind} {α : Type} {a a' : Arena kind α} {v : α} {k : Handle kind}
      (removed : a.remove k = .ok (v, a')) : k.implementation = implementationIdentifier ∧ k.context = a.context := by
    obtain ⟨implementation, context, _⟩ := Arena.findExact.1 (Arena.getExact.1 (Arena.removeExact.1 ⟨_, removed⟩))
    exact ⟨implementation, context⟩
  cases h with
  | node idle removed => exact ⟨(held removed).1, fun _ placed => (held removed).2.trans placed.nodes⟩
  | guard removed => exact ⟨(held removed).1, fun _ placed => (held removed).2.trans placed.guards⟩
  | publisher removed => exact ⟨(held removed).1, fun _ placed => (held removed).2.trans placed.publishers⟩
  | subscription removed => exact ⟨(held removed).1, fun _ placed => (held removed).2.trans placed.subscriptions⟩

theorem worn (h : s.Destroys d s') : s'.context.age d = some (d.generation + 1) := by
  cases h with
  | node idle removed => exact (Arena.removeSlotsAge removed).2
  | guard removed => exact (Arena.removeSlotsAge removed).2
  | publisher removed => exact (Arena.removeSlotsAge removed).2
  | subscription removed => exact (Arena.removeSlotsAge removed).2

/-! ### The bus -/

variable {t : Table ContextId (Context K)} {ctx : ContextId}

theorem bare (linked : Linked s.bus (.of t)) (known : t.get? ctx = some s.context) {k : Handle .node} {n : NodeRecord}
    (found : s.context.nodes.find? k = some n) (idle : n.endpoints = 0) (e : InstanceHandle) (x : Endpoint)
    (there : s.bus.endpoints.get? e = some x) : x.owner ≠ n.participant := by
  obtain ⟨ctx', ref, r, entry, rfl⟩ := linked.owned e x there
  obtain ⟨n', _, _, _, _, ownsEndpoint⟩ := linked.ownsEndpoint ctx' ref r entry
  cases Option.some.inj (there.symm.trans ownsEndpoint.endpoint)
  intro same
  obtain ⟨y, listed, _, mem⟩ := ownsEndpoint.listed
  obtain ⟨z, listed', _, _, count⟩ := linked.nodeAdded ctx k n (((Directory.ofKnown known).2.1 k).trans found)
  cases Option.some.inj (listed.symm.trans (same ▸ listed'))
  rw [idle, List.length_eq_zero_iff] at count
  rw [count] at mem
  cases mem

inductive Retreats (s : Site K) (d : Entity) (b : Bus) : Prop
  | guard (alone : d.ref? = none) (same : b = s.bus)
  | node {k : Handle .node} {n : NodeRecord} (alone : d.ref? = none) (found : s.context.nodes.find? k = some n)
    (idle : n.endpoints = 0) (left : b = s.bus.leave n.participant)
  | endpoint {ref : EndpointRef} {r : EndpointEntry K} {n : NodeRecord} {domain : DomainId} (own : d.ref? = some ref)
    (held : s.context.findEntry ref = some r) (found : s.context.nodes.find? r.node = some n)
    (ownsEndpoint : OwnsEndpoint s.bus ref.side n.participant domain r.topic r.group r.endpoint)
    (down : b = s.bus.takeDown ref.side n.participant r.group r.endpoint)

theorem retreats (h : s.Destroys d s') (linked : Linked s.bus (.of t)) (known : t.get? ctx = some s.context) :
    Retreats s d s'.bus := by
  have endpoint {ref : EndpointRef} {r : EndpointEntry K} (own : d.ref? = some ref)
    (held : s.context.findEntry ref = some r)
      (down : s'.bus = s.takenDown ref.side r) : Retreats s d s'.bus := by
    obtain ⟨_, nodes, entries⟩ := Directory.ofKnown known
    obtain ⟨n, domain, node, _, _, ownsEndpoint⟩ := linked.ownsEndpoint ctx ref r ((entries ref).trans held)
    have found := (nodes r.node).symm.trans node
    exact .endpoint own held found ownsEndpoint (down.trans (by simp only [takenDown, found]))
  cases h with
  | node idle removed => exact .node rfl (Arena.getExact.1 (Arena.removeExact.1 ⟨_, removed⟩)) idle rfl
  | guard removed => exact .guard rfl rfl
  | @publisher k r _ removed =>
    have found := Arena.getExact.1 (Arena.removeExact.1 ⟨_, removed⟩)
    exact endpoint rfl (Context.heldPublisher found) rfl
  | @subscription k r _ removed =>
    have found := Arena.getExact.1 (Arena.removeExact.1 ⟨_, removed⟩)
    exact endpoint rfl (Context.heldSubscription found) rfl

theorem Retreats.misses {b : Bus} (h : Retreats s d b) (linked : Linked s.bus (.of t)) (silent : s.bus.Silent)
    (known : t.get? ctx = some s.context) : s.bus.Misses (s.context.endpoint? d = some ·) b := by
  cases h with
  | guard alone same =>
    rw [same, Context.endpoint?, alone]
    exact .nothing silent nofun
  | node alone found idle left =>
    rw [left, Context.endpoint?, alone]
    exact Bus.leaveMisses linked.membersAgree silent (bare linked known found idle) nofun
  | endpoint own held found ownsEndpoint down =>
    rw [down, Context.endpointHeld own held]
    simpa only [Option.some.injEq] using Bus.takeDownMisses ownsEndpoint linked.membersAgree silent

theorem Retreats.still {b : Bus} (h : Retreats s d b) (linked : Linked s.bus (.of t)) (silent : s.bus.Silent)
    (known : t.get? ctx = some s.context) {k : ConditionId} (dedicated : s.bus.Dedicated k)
    (ownReadersOnly : ∀ h n, s.context.home? d = some h → s.context.nodes.find? h = some n →
      s.bus.OwnReadersOnly n.participant k) :
    b.trigger? k = s.bus.trigger? k := by
  cases h with
  | guard alone same => rw [same]
  | node alone found idle left =>
    rw [left]
    exact Bus.leaveStill (bare linked known found idle)
  | @endpoint ref r n domain own held found ownsEndpoint down =>
    rw [down]
    exact Bus.takeDownStill ownsEndpoint silent dedicated (ownReadersOnly r.node n (Context.homeHeld own held) found)

end Destroys
end Site

namespace System

variable {s : System K}

theorem performOk {α : Type} {ctx : ContextId} {operation : String} {call : Site K → Site K × Except Failure α}
    (granted : refused (s.perform ctx operation call).2 = none) : ∃ c a, s.contexts.get? ctx = some c ∧
      (call ⟨s.bus, s.observed, c⟩).2 = .ok a ∧
      (s.perform ctx operation call).1.bus = (call ⟨s.bus, s.observed, c⟩).1.bus ∧
      (s.perform ctx operation call).1.contexts = s.contexts.insert ctx (call ⟨s.bus, s.observed, c⟩).1.context := by
  generalize done : (s.perform ctx operation call).2 = outcome at granted
  cases outcome with
  | error f => cases granted
  | ok a =>
    rcases performSplit s ctx operation call with ⟨_, _, _, none⟩ | ⟨c, known, bus, contexts, same⟩
    · rw [done] at none
      cases none
    · exact ⟨c, a, known, same.symm.trans done, bus, contexts⟩

structure Drops (s : System K) (ctx : ContextId) (d : Entity) (c : Context K) (site : Site K) (s' : System K) :
    Prop where
  known : s.contexts.get? ctx = some c
  destroys : Site.Destroys ⟨s.bus, s.observed, c⟩ d site
  bus : s'.bus = site.bus
  contexts : s'.contexts = s.contexts.insert ctx site.context

variable [Catalog K] [DecidableEq K]

theorem destroyDrops {ctx : ContextId} {d : Entity} (granted : s.refusal (d.destroy ctx) = none) :
    ∃ c site, s.Drops ctx d c site (s.serve (d.destroy ctx)) := by
  cases d with
  | node h =>
    obtain ⟨c, _, known, ok, bus, contexts⟩ := performOk granted
    obtain ⟨n, nodes, idle, removed, after⟩ := Site.destroyNodeRemoves ok
    exact ⟨c, _, known, after ▸ .node idle removed, bus, contexts⟩
  | publisher h =>
    obtain ⟨c, _, known, ok, bus, contexts⟩ := performOk granted
    obtain ⟨r, publishers, removed, after⟩ := Site.destroyPublisherRemoves ok
    exact ⟨c, _, known, after ▸ .publisher removed, bus, contexts⟩
  | subscription h =>
    obtain ⟨c, _, known, ok, bus, contexts⟩ := performOk granted
    obtain ⟨r, subscriptions, removed, after⟩ := Site.destroySubscriptionRemoves ok
    exact ⟨c, _, known, after ▸ .subscription removed, bus, contexts⟩
  | guard h =>
    obtain ⟨c, _, known, ok, bus, contexts⟩ := performOk granted
    obtain ⟨k, guards, removed, after⟩ := Site.destroyGuardRemoves ok
    exact ⟨c, _, known, after ▸ .guard removed, bus, contexts⟩

end System
end Databus.Middleware
