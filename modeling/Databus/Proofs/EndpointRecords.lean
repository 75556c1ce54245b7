import Databus.Middleware.Endpoints
import Databus.Proofs.HandleTables

/-! What a publisher and a subscription have in common: a node, a topic, and a parent with one endpoint on the
bus. A context holds each under one handle; what is entered or given up there is one of them at a time. -/
namespace Databus.Middleware

inductive EndpointRef
  | publisher (h : Handle .publisher)
  | subscription (h : Handle .subscription)
  deriving DecidableEq, Repr

def EndpointRef.side : EndpointRef → Side
  | .publisher _ => .publication
  | .subscription _ => .subscription

structure EndpointEntry (K : Type) where
  node : Handle .node
  support : TypeSupport K
  topic : Topic
  group : InstanceHandle
  endpoint : InstanceHandle
  deriving DecidableEq, Repr

theorem mapOk {α β : Type} {e : Except Failure α} {f : α → β} {b : β} (ok : e.map f = .ok b) :
    ∃ a, e = .ok a ∧ f a = b := by
  cases e with
  | error f => cases ok
  | ok a => exact ⟨a, rfl, Except.ok.inj ok⟩

variable {K : Type}

def PublisherRecord.entry (r : PublisherRecord K) : EndpointEntry K :=
  ⟨r.node, r.support, r.topic, r.publisher, r.writer⟩

def SubscriptionRecord.entry (r : SubscriptionRecord K) : EndpointEntry K :=
  ⟨r.node, r.support, r.topic, r.subscriber, r.reader⟩

namespace Context

def findEntry (c : Context K) : EndpointRef → Option (EndpointEntry K)
  | .publisher h => (c.publishers.find? h).map (·.entry)
  | .subscription h => (c.subscriptions.find? h).map (·.entry)

structure Sound (c : Context K) : Prop where
  nodes : c.nodes.Sound
  publishers : c.publishers.Sound
  subscriptions : c.subscriptions.Sound
  guards : c.guards.Sound

structure SameTables (c c' : Context K) : Prop where
  settings : c'.settings = c.settings
  nodes : ∀ h, c'.nodes.find? h = c.nodes.find? h
  publishers : c'.publishers = c.publishers
  subscriptions : c'.subscriptions = c.subscriptions

theorem SameTables.refl (c : Context K) : SameTables c c := ⟨rfl, fun _ => rfl, rfl, rfl⟩

theorem SameTables.entries {c c' : Context K} (h : SameTables c c') (ref : EndpointRef) :
    c'.findEntry ref = c.findEntry ref := by
  cases ref
  · rw [findEntry, h.publishers]
    rfl
  · rw [findEntry, h.subscriptions]
    rfl

structure Enters (c : Context K) (ref : EndpointRef) (r : EndpointEntry K) (c' : Context K) : Prop where
  settings : c'.settings = c.settings
  fresh : c.findEntry ref = none
  entries : ∀ ref', c'.findEntry ref' = if ref' = ref then some r else c.findEntry ref'
  nodes : ∀ h, c'.nodes.find? h = if h = r.node then
    (c.nodes.find? h).map fun n => { n with endpoints := n.endpoints + 1 } else c.nodes.find? h

structure GivesUp (c : Context K) (ref : EndpointRef) (r : EndpointEntry K) (c' : Context K) : Prop where
  settings : c'.settings = c.settings
  held : c.findEntry ref = some r
  entries : ∀ ref', c'.findEntry ref' = if ref' = ref then none else c.findEntry ref'
  nodes : ∀ h, c'.nodes.find? h = if h = r.node then
    (c.nodes.find? h).map fun n => { n with endpoints := n.endpoints - 1 } else c.nodes.find? h

variable {c : Context K}

theorem soundNew (id : ContextId) (settings : Settings) (capacity : Nat) : Sound
    { id, settings, nodes := { context := id, capacity }, publishers := { context := id, capacity },
      subscriptions := { context := id, capacity }, guards := { context := id, capacity } : Context K } :=
  ⟨Arena.soundEmpty id capacity, Arena.soundEmpty id capacity, Arena.soundEmpty id capacity,
    Arena.soundEmpty id capacity⟩

theorem Sound.countEndpoint (sound : c.Sound) (h : Handle .node) (f : Nat → Nat) :
    (Site.countEndpoint c h f).Sound :=
  { sound with nodes := (Arena.modifyFind sound.nodes h _).1 }

theorem countNodes (sound : c.Sound) (h h' : Handle .node) (f : Nat → Nat) :
    (Site.countEndpoint c h f).nodes.find? h' = if h' = h then
      (c.nodes.find? h').map fun n => { n with endpoints := f n.endpoints } else c.nodes.find? h' := by
  rw [Site.countEndpoint, (Arena.modifyFind sound.nodes h _).2.2]
  split
  · rename_i own
    rw [own]
  · rfl

/-! ### One record more, one record less -/

def enter (c : Context K) (b : Bus) (r : EndpointEntry K) : Side → Except Failure (EndpointRef × Context K)
  | .publication => (c.publishers.insert ⟨r.node, r.support, r.topic, r.group, r.endpoint⟩).map
      fun x => (.publisher x.1, { c with publishers := x.2 })
  | .subscription => (c.subscriptions.insert
      ⟨r.node, r.support, r.topic, r.group, r.endpoint, Site.conditionOf b r.endpoint⟩).map
      fun x => (.subscription x.1, { c with subscriptions := x.2 })

def giveUp (c : Context K) : EndpointRef → Except Failure (EndpointEntry K × Context K)
  | .publisher h => (c.publishers.remove h).map fun x => (x.1.entry, { c with publishers := x.2 })
  | .subscription h => (c.subscriptions.remove h).map fun x => (x.1.entry, { c with subscriptions := x.2 })

theorem publisherEntries {publishers : Arena .publisher (PublisherRecord K)} {h : Handle .publisher}
    {x : Option (PublisherRecord K)}
    (find : ∀ h', publishers.find? h' = if h' = h then x else c.publishers.find? h') (ref : EndpointRef) :
    findEntry { c with publishers := publishers } ref = if ref =
      .publisher h then x.map (·.entry) else c.findEntry ref := by
  cases ref with
  | publisher h' =>
    simp only [findEntry, find, EndpointRef.publisher.injEq]
    split <;> rfl
  | subscription h' => exact (if_neg fun same => nomatch same).symm

theorem subscriptionEntries {subscriptions : Arena .subscription (SubscriptionRecord K)} {h : Handle .subscription}
    {x : Option (SubscriptionRecord K)}
    (find : ∀ h', subscriptions.find? h' = if h' = h then x else c.subscriptions.find? h') (ref : EndpointRef) :
    findEntry { c with subscriptions := subscriptions } ref =
      if ref = .subscription h then x.map (·.entry) else c.findEntry ref := by
  cases ref with
  | subscription h' =>
    simp only [findEntry, find, EndpointRef.subscription.injEq]
    split <;> rfl
  | publisher h' => exact (if_neg fun same => nomatch same).symm

theorem enterFinds (sound : c.Sound) {b : Bus} {r : EndpointEntry K} {side : Side} {ref : EndpointRef} {c' : Context K}
    (ok : c.enter b r side = .ok (ref, c')) : ref.side = side ∧ c'.Sound ∧ c'.settings = c.settings ∧
      c'.nodes = c.nodes ∧ c.findEntry ref = none ∧ ∀ ref',
        c'.findEntry ref' = if ref' = ref then some r else c.findEntry ref' := by
  cases side with
  | publication =>
    obtain ⟨⟨h, publishers⟩, inserted, made⟩ := mapOk ok
    cases made
    obtain ⟨sound', _, fresh, find⟩ := Arena.insertFind sound.publishers inserted
    exact ⟨rfl, { sound with publishers := sound' }, rfl, rfl, by rw [findEntry, fresh]; rfl, publisherEntries find⟩
  | subscription =>
    obtain ⟨⟨h, subscriptions⟩, inserted, made⟩ := mapOk ok
    cases made
    obtain ⟨sound', _, fresh, find⟩ := Arena.insertFind sound.subscriptions inserted
    exact ⟨rfl, { sound with subscriptions := sound' }, rfl, rfl, by rw [findEntry, fresh]; rfl,
      subscriptionEntries find⟩

theorem giveUpNodes {ref : EndpointRef} {r : EndpointEntry K} {c' : Context K} (ok : c.giveUp ref = .ok (r, c')) :
    c'.nodes = c.nodes := by
  cases ref <;> obtain ⟨_, _, made⟩ := mapOk ok <;> cases made <;> rfl

theorem giveUpFinds (sound : c.Sound) {ref : EndpointRef} {r : EndpointEntry K} {c' : Context K}
    (ok : c.giveUp ref = .ok (r, c')) : c'.Sound ∧ c'.settings = c.settings ∧ c.findEntry ref = some r ∧
      ∀ ref', c'.findEntry ref' = if ref' = ref then none else c.findEntry ref' := by
  cases ref with
  | publisher h =>
    obtain ⟨⟨record, publishers⟩, removed, made⟩ := mapOk ok
    cases made
    obtain ⟨sound', _, held, find⟩ := Arena.removeFind sound.publishers removed
    exact ⟨{ sound with publishers := sound' }, rfl, by rw [findEntry, held]; rfl, publisherEntries find⟩
  | subscription h =>
    obtain ⟨⟨record, subscriptions⟩, removed, made⟩ := mapOk ok
    cases made
    obtain ⟨sound', _, held, find⟩ := Arena.removeFind sound.subscriptions removed
    exact ⟨{ sound with subscriptions := sound' }, rfl, by rw [findEntry, held]; rfl, subscriptionEntries find⟩

theorem giveUpNone {ref : EndpointRef} (absent : c.findEntry ref = none) : ∃ f, c.giveUp ref = .error f := by
  cases ref with
  | publisher h =>
    obtain ⟨f, got⟩ := Arena.getNone (Option.map_eq_none_iff.1 absent)
    exact ⟨f, by simp only [giveUp, Arena.remove, got, Except.map]⟩
  | subscription h =>
    obtain ⟨f, got⟩ := Arena.getNone (Option.map_eq_none_iff.1 absent)
    exact ⟨f, by simp only [giveUp, Arena.remove, got, Except.map]⟩

theorem giveUpHeld {ref : EndpointRef} {r : EndpointEntry K} (held : c.findEntry ref = some r) :
    ∃ c', c.giveUp ref = .ok (r, c') := by
  cases ref with
  | publisher h =>
    obtain ⟨record, found, rfl⟩ := Option.map_eq_some_iff.1 held
    obtain ⟨publishers, removed⟩ := Arena.removeRuns found
    exact ⟨{ c with publishers := publishers }, by simp only [giveUp, removed, Except.map]⟩
  | subscription h =>
    obtain ⟨record, found, rfl⟩ := Option.map_eq_some_iff.1 held
    obtain ⟨subscriptions, removed⟩ := Arena.removeRuns found
    exact ⟨{ c with subscriptions := subscriptions }, by simp only [giveUp, removed, Except.map]⟩

theorem enterCounts (sound : c.Sound) {b : Bus} {r : EndpointEntry K} {side : Side} {ref : EndpointRef} {c' : Context K}
    (ok : c.enter b r side = .ok (ref, c')) : ref.side = side ∧ (Site.countEndpoint c' r.node (· + 1)).Sound ∧
      c.Enters ref r (Site.countEndpoint c' r.node (· + 1)) := by
  obtain ⟨own, entered, settings, nodes, fresh, entries⟩ := enterFinds sound ok
  exact ⟨own, entered.countEndpoint r.node _, settings, fresh, entries,
    fun h => nodes ▸ countNodes entered r.node h _⟩

theorem giveUpCounts (sound : c.Sound) {ref : EndpointRef} {r : EndpointEntry K} {c' : Context K}
    (ok : c.giveUp ref = .ok (r, c')) :
    (Site.countEndpoint c' r.node (· - 1)).Sound ∧ c.GivesUp ref r (Site.countEndpoint c' r.node (· - 1)) := by
  obtain ⟨left, settings, held, entries⟩ := giveUpFinds sound ok
  have nodes := giveUpNodes ok
  exact ⟨left.countEndpoint r.node _, settings, held, entries, fun h => nodes ▸ countNodes left r.node h _⟩

end Context
end Databus.Middleware
