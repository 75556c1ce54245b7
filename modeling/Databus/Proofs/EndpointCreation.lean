import Databus.Proofs.DiscoveryReaders
import Databus.Proofs.EndpointRecords

/-! What the middleware asks of the bus when it makes and destroys publishers and subscriptions, as runs of
requests: each creation either stops before its endpoint is there or has both its parent and its endpoint. -/
namespace Databus

def Request.child (g : InstanceHandle) (t : Topic) (history : History) : Side → Request
  | .publication => .createWriter g t standardPayloadLimit
  | .subscription => .createReader g t history

def Request.unchild (g k : InstanceHandle) : Side → Request
  | .publication => .deleteWriter g k
  | .subscription => .deleteReader g k

namespace Bus

def putUp (b : Bus) (side : Side) (p : InstanceHandle) (t : Topic) (history : History) : Bus :=
  b.run [.createGroup side p, .child b.nextHandle t history side]

def takeDown (b : Bus) (side : Side) (p g k : InstanceHandle) : Bus :=
  b.run [.unchild g k side, .deleteGroup p g]

theorem afterMade {α : Type} {b b' : Bus} {a : α} {made : Except Fault (α × Bus)}
    (ok : made = .ok (a, b')) : b.after (made.map (·.2)) = b' := by
  rw [ok]
  rfl

theorem createGroupMakes {b : Bus} (side : Side) {p : InstanceHandle} {x : Participant}
    (found : b.participants.get? p = some x) :
    b.createGroup side p = .ok (b.nextHandle, b.request (.createGroup side p)) ∧
      (b.request (.createGroup side p)).openGroup side b.nextHandle =
        .ok { side, participant := p, domain := x.domain } ∧
      (b.request (.createGroup side p)).nextHandle = b.nextHandle + 1 := by
  have made : b.createGroup side p = .ok (b.nextHandle, { b.takeHandle.2 with
      groups := b.groups.insert b.nextHandle { side, participant := p, domain := x.domain }
      participants := b.participants.modify p fun x =>
        { x with groups := x.groups ++ [b.nextHandle] } }) := by
    simp only [createGroup, found]
    rfl
  have requested : b.request (.createGroup side p) = { b.takeHandle.2 with
      groups := b.groups.insert b.nextHandle { side, participant := p, domain := x.domain }
      participants := b.participants.modify p fun x =>
        { x with groups := x.groups ++ [b.nextHandle] } } := by
    rw [request, made]
    rfl
  refine ⟨by rw [made, requested], openGroupExact.2 ⟨?_, rfl, rfl⟩, by rw [requested]; rfl⟩
  rw [requested]
  exact (Table.getInsert ..).trans (if_pos rfl)

def createChild (b : Bus) (g : InstanceHandle) (t : Topic) (history : History) :
    Side → Except Fault (InstanceHandle × Bus)
  | .publication => b.createWriter g t standardPayloadLimit
  | .subscription => b.createReader g t history

theorem createChildMakes {b : Bus} {side : Side} {g : InstanceHandle} {x : Group} (t : Topic) (history : History)
    (isOpen : b.openGroup side g = .ok x) :
    b.createChild g t history side = .ok (b.nextHandle, b.request (.child g t history side)) := by
  have asked : b.request (.child g t history side) = b.after ((b.createChild g t history side).map (·.2)) := by
    cases side <;> rfl
  have made : ∃ b', b.createChild g t history side = .ok (b.nextHandle, b') := by
    cases side with
    | publication => exact ⟨_, createWriterOpens t isOpen (show standardPayloadLimit ≠ 0 by decide)⟩
    | subscription => exact ⟨_, createReaderOpens t history isOpen⟩
  obtain ⟨b', made⟩ := made
  rw [asked, made, afterMade rfl]

end Bus

namespace Middleware

theorem qualifiedNamed (package message : String) : qualifiedName package message ≠ "" := by
  intro empty
  have length := congrArg String.length empty
  simp [qualifiedName, String.length_append, toString] at length

namespace Site

variable {K : Type}

theorem releaseWriterRuns (b : Bus) (p g w : InstanceHandle) :
    releaseWriter b p g w = b.takeDown .publication p g w := by
  change releaseEndpoint (b.deleteWriter g w) b p g = (b.after (b.deleteWriter g w)).after
    ((b.after (b.deleteWriter g w)).deleteGroup p g)
  cases b.deleteWriter g w <;> rfl

theorem releaseReaderRuns (b : Bus) (p g r : InstanceHandle) :
    releaseReader b p g r = b.takeDown .subscription p g r := by
  change releaseEndpoint (b.deleteReader g r) b p g = (b.after (b.deleteReader g r)).after
    ((b.after (b.deleteReader g r)).deleteGroup p g)
  cases b.deleteReader g r <;> rfl

def openEndpoint (b : Bus) (p : InstanceHandle) (t : Topic) (history : History) :
    Side → Bus × Except Failure (InstanceHandle × InstanceHandle)
  | .publication => openWriter b p t
  | .subscription => openReader b p t history

theorem openEndpointOpens (b : Bus) (p : InstanceHandle) (t : Topic) (history : History) (side : Side) :
    (b.participants.get? p = none ∧ ∃ f, openEndpoint b p t history side = (b, .error f)) ∨
      (∃ x, b.participants.get? p = some x) ∧ openEndpoint b p t history side =
        (b.putUp side p t history, .ok (b.nextHandle, b.nextHandle + 1)) := by
  cases found : b.participants.get? p with
  | none =>
    have refused : b.createGroup side p = .error .alreadyDeleted := by
      simp only [Bus.createGroup, found]
    refine .inl ⟨rfl, ?_⟩
    cases side <;> simp only [openEndpoint, openWriter, openReader, refused] <;> exact ⟨_, rfl⟩
  | some x =>
    obtain ⟨made, isOpen, handle⟩ := Bus.createGroupMakes side found
    have child := Bus.createChildMakes t history isOpen
    rw [handle] at child
    refine .inr ⟨⟨x, rfl⟩, ?_⟩
    cases side <;> simp only [Bus.createChild] at child <;>
      simp only [openEndpoint, openWriter, openReader, made, child] <;> rfl

/-! ### Topics -/

def binding (p : InstanceHandle) (ts : TypeSupport K) (topic : String) : List Request :=
  (if ts.registers then [.registerType p (qualifiedName ts.package ts.message)] else []) ++
    [.createTopic p topic (qualifiedName ts.package ts.message) .standard]

theorem bindTopicRuns (b : Bus) (p : InstanceHandle) (ts : TypeSupport K) (topic : String) :
    (bindTopic b p ts topic).1 = b.run (binding p ts topic) := by
  have topics : ∀ b : Bus, b.request (.createTopic p topic (qualifiedName ts.package ts.message)
      .standard) = b.after ((b.createTopic p topic (qualifiedName ts.package ts.message)
        .standard).map (·.2)) := fun _ => rfl
  unfold bindTopic binding TypeSupport.register Bus.run
  cases ts.registers with
  | false =>
    simp only [Bool.false_eq_true, if_false, List.nil_append, List.foldl_cons, List.foldl_nil, topics]
    cases b.createTopic p topic (qualifiedName ts.package ts.message) .standard <;> rfl
  | true =>
    have granted : ∃ b', b.registerType p (qualifiedName ts.package ts.message) = .ok b' := by
      unfold Bus.registerType
      exact ⟨_, if_neg (qualifiedNamed ts.package ts.message)⟩
    obtain ⟨b', ok⟩ := granted
    have registered : b.request (.registerType p (qualifiedName ts.package ts.message)) = b' := by
      rw [Bus.request, ok, Bus.after]
    simp only [if_true, List.singleton_append, List.foldl_cons, List.foldl_nil, registered, topics,
      ok]
    cases b'.createTopic p topic (qualifiedName ts.package ts.message) .standard <;> rfl

theorem bindTopicNames {b : Bus} {p : InstanceHandle} {ts : TypeSupport K} {topic : String}
    {t : Topic} (ok : (bindTopic b p ts topic).2 = .ok t) :
    t.name = topic ∧ t.type = qualifiedName ts.package ts.message := by
  unfold bindTopic at ok
  dsimp only at ok
  split at ok
  · contradiction
  · rename_i b' registered
    split at ok
    · rename_i t' b'' created
      cases Except.ok.inj ok
      rcases Bus.createTopicOpens created with ⟨_, found, type⟩ | ⟨_, new, _⟩
      · refine ⟨?_, type⟩
        unfold Bus.findTopic at found
        split at found
        · simpa using List.find?_some found
        · cases found
      · rw [new]
        exact ⟨rfl, rfl⟩
    · contradiction

theorem prepareOpens (s : Site K) (node : Handle .node) (ts : TypeSupport K) (topic : String) :
    (∃ f, s.prepare node ts topic = (s, .error f)) ∨
      ∃ n, s.context.nodes.find? node = some n ∧ s.prepare node ts topic =
        ({ s with bus := s.bus.run (binding n.participant ts topic) },
          (bindTopic s.bus n.participant ts topic).2.map (n.participant, ·)) := by
  unfold prepare
  cases checkRequest node ts topic with
  | error f => exact .inl ⟨f, rfl⟩
  | ok _ =>
    cases got : s.node node with
    | error f => exact .inl ⟨f, rfl⟩
    | ok n =>
      refine .inr ⟨n, Arena.getExact.1 got, ?_⟩
      rw [← bindTopicRuns]

/-! ### Calls -/

inductive Grants (s : Site K) (side : Side) (node : Handle .node) (ts : TypeSupport K)
    (topic : String) (history : History) : Site K → Option EndpointRef → Prop
  | refused : Grants s side node ts topic history s none
  | bound {n : NodeRecord} (found : s.context.nodes.find? node = some n) :
    Grants s side node ts topic history
      { s with bus := s.bus.run (binding n.participant ts topic) } none
  | full {n : NodeRecord} {b : Bus} {t : Topic} {x : Participant}
    (found : s.context.nodes.find? node = some n)
    (binds : b = s.bus.run (binding n.participant ts topic))
    (named : t.name = topic ∧ t.type = qualifiedName ts.package ts.message)
    (there : b.participants.get? n.participant = some x) :
    Grants s side node ts topic history
      { s with
        bus := (b.putUp side n.participant t history).takeDown side n.participant b.nextHandle
          (b.nextHandle + 1) } none
  | granted {n : NodeRecord} {b : Bus} {t : Topic} {x : Participant} {ref : EndpointRef} {c : Context K}
    (found : s.context.nodes.find? node = some n)
    (binds : b = s.bus.run (binding n.participant ts topic))
    (named : t.name = topic ∧ t.type = qualifiedName ts.package ts.message)
    (there : b.participants.get? n.participant = some x) (own : ref.side = side) (sound : c.Sound)
    (enters : s.context.Enters ref ⟨node, ts, t, b.nextHandle, b.nextHandle + 1⟩ c) :
    Grants s side node ts topic history
      { s with bus := b.putUp side n.participant t history, context := c } (some ref)

def createEndpoint (s : Site K) (side : Side) (node : Handle .node) (ts : TypeSupport K) (topic : String)
    (history : History) : Site K × Except Failure EndpointRef :=
  match s.prepare node ts topic with
  | (s, .error f) => (s, .error f)
  | (s, .ok (p, t)) =>
    match openEndpoint s.bus p t history side with
    | (b, .error f) => ({ s with bus := b }, .error f)
    | (b, .ok (g, k)) =>
      match s.context.enter b ⟨node, ts, t, g, k⟩ side with
      | .error f => ({ s with bus := b.takeDown side p g k }, .error f)
      | .ok (ref, c) => ({ s with bus := b, context := countEndpoint c node (· + 1) }, .ok ref)

theorem createEndpointPublisher (s : Site K) (node : Handle .node) (ts : TypeSupport K) (topic : String)
    (history : History) : s.createEndpoint .publication node ts topic history =
      ((s.createPublisher node ts topic).1, (s.createPublisher node ts topic).2.map .publisher) := by
  unfold createEndpoint createPublisher
  generalize s.prepare node ts topic = prepared
  rcases prepared with ⟨a, f | ⟨p, t⟩⟩
  · rfl
  · simp only [openEndpoint]
    generalize openWriter a.bus p t = opened
    rcases opened with ⟨b, f | ⟨g, w⟩⟩
    · rfl
    · simp only [Context.enter, releaseWriterRuns]
      cases a.context.publishers.insert ⟨node, ts, t, g, w⟩ <;> rfl

theorem createEndpointSubscription (s : Site K) (node : Handle .node) (ts : TypeSupport K) (topic : String)
    (size : Nat) : s.createEndpoint .subscription node ts topic (queueHistory size) =
      ((s.createSubscription node ts topic size).1,
        (s.createSubscription node ts topic size).2.map .subscription) := by
  unfold createEndpoint createSubscription
  generalize s.prepare node ts topic = prepared
  rcases prepared with ⟨a, f | ⟨p, t⟩⟩
  · rfl
  · simp only [openEndpoint]
    generalize openReader a.bus p t (queueHistory size) = opened
    rcases opened with ⟨b, f | ⟨g, r⟩⟩
    · rfl
    · simp only [Context.enter, releaseReaderRuns]
      cases a.context.subscriptions.insert ⟨node, ts, t, g, r, conditionOf b r⟩ <;> rfl

theorem createEndpointGrants {s : Site K} (sound : s.context.Sound) (side : Side) (node : Handle .node)
    (ts : TypeSupport K) (topic : String) (history : History) :
    s.Grants side node ts topic history (s.createEndpoint side node ts topic history).1
      (s.createEndpoint side node ts topic history).2.toOption := by
  unfold createEndpoint
  rcases prepareOpens s node ts topic with ⟨f, refused⟩ | ⟨n, found, prepared⟩
  · rw [refused]
    exact .refused
  · rw [prepared]
    cases named : (bindTopic s.bus n.participant ts topic).2 with
    | error f => exact .bound found
    | ok t =>
      simp only [Except.map]
      rcases openEndpointOpens (s.bus.run (binding n.participant ts topic)) n.participant t history side
        with ⟨_, f, refused⟩ | ⟨⟨x, there⟩, opened⟩
      · rw [refused]
        exact .bound found
      · rw [opened]
        dsimp only
        split
        · exact .full found rfl (bindTopicNames named) there
        · rename_i ref c entered
          obtain ⟨own, sound', enters⟩ := Context.enterCounts sound entered
          exact .granted found rfl (bindTopicNames named) there own sound' enters

theorem optionMap {α β : Type} (result : Except Failure α) (f : α → β) :
    (result.map f).toOption = result.toOption.map f := by
  cases result <;> rfl

theorem createPublisherGrants {s : Site K} (sound : s.context.Sound) (node : Handle .node)
    (ts : TypeSupport K) (topic : String) (history : History) :
    s.Grants .publication node ts topic history (s.createPublisher node ts topic).1
      ((s.createPublisher node ts topic).2.toOption.map .publisher) := by
  have grants := createEndpointGrants sound .publication node ts topic history
  rwa [createEndpointPublisher, optionMap] at grants

theorem createSubscriptionGrants {s : Site K} (sound : s.context.Sound) (node : Handle .node)
    (ts : TypeSupport K) (topic : String) (size : Nat) :
    s.Grants .subscription node ts topic (queueHistory size)
      (s.createSubscription node ts topic size).1
      ((s.createSubscription node ts topic size).2.toOption.map .subscription) := by
  have grants := createEndpointGrants sound .subscription node ts topic (queueHistory size)
  rwa [createEndpointSubscription, optionMap] at grants

inductive Releases (s : Site K) (side : Side) : Option EndpointRef → Site K → Prop
  | refused : Releases s side none s
  | orphaned (ref : EndpointRef) {r : EndpointEntry K} {c : Context K} (own : ref.side = side)
    (absent : s.context.nodes.find? r.node = none) (sound : c.Sound)
    (givesUp : s.context.GivesUp ref r c) : Releases s side (some ref) { s with context := c }
  | released (ref : EndpointRef) {r : EndpointEntry K} {n : NodeRecord} {c : Context K} (own : ref.side = side)
    (found : s.context.nodes.find? r.node = some n) (sound : c.Sound)
    (givesUp : s.context.GivesUp ref r c) :
    Releases s side (some ref)
      { s with bus := s.bus.takeDown side n.participant r.group r.endpoint, context := c }

theorem countNobody {c : Context K} {h : Handle .node} (absent : c.nodes.find? h = none)
    (f : Nat → Nat) : countEndpoint c h f = c := by
  rw [countEndpoint, Arena.modify, absent]

def destroyEndpoint (s : Site K) (ref : EndpointRef) : Site K × Except Failure Unit :=
  match s.context.giveUp ref with
  | .error f => (s, .error f)
  | .ok (r, c) =>
    match c.nodes.get r.node with
    | .error _ => ({ s with context := c }, .ok ())
    | .ok n =>
      ({ s with
          bus := s.bus.takeDown ref.side n.participant r.group r.endpoint
          context := countEndpoint c r.node (· - 1) }, .ok ())

theorem destroyEndpointPublisher (s : Site K) (h : Handle .publisher) :
    s.destroyPublisher (some h) = s.destroyEndpoint (.publisher h) := by
  simp only [destroyPublisher, Handle.require, destroyEndpoint, Context.giveUp, releaseWriterRuns]
  cases s.context.publishers.remove h <;> rfl

theorem destroyEndpointSubscription (s : Site K) (h : Handle .subscription) :
    s.destroySubscription (some h) = s.destroyEndpoint (.subscription h) := by
  simp only [destroySubscription, Handle.require, destroyEndpoint, Context.giveUp, releaseReaderRuns]
  cases s.context.subscriptions.remove h <;> rfl

theorem destroyEndpointReleases {s : Site K} (sound : s.context.Sound) (ref : EndpointRef) :
    s.Releases ref.side ((s.destroyEndpoint ref).2.toOption.bind fun _ => some ref) (s.destroyEndpoint ref).1 := by
  unfold destroyEndpoint
  cases removed : s.context.giveUp ref with
  | error f => exact .refused
  | ok gone =>
    obtain ⟨r, c⟩ := gone
    have nodes := Context.giveUpNodes removed
    obtain ⟨sound', givesUp⟩ := Context.giveUpCounts sound removed
    dsimp only
    cases owner : s.context.nodes.find? r.node with
    | none =>
      obtain ⟨f, got⟩ := Arena.getNone owner
      rw [countNobody (nodes ▸ owner)] at sound' givesUp
      rw [nodes, got]
      exact .orphaned ref rfl owner sound' givesUp
    | some n =>
      rw [nodes, Arena.getExact.2 owner]
      exact .released ref rfl owner sound' givesUp

theorem destroyPublisherReleases {s : Site K} (sound : s.context.Sound)
    (h : Option (Handle .publisher)) :
    s.Releases .publication
      ((s.destroyPublisher h).2.toOption.bind fun _ => h.map .publisher) (s.destroyPublisher h).1 := by
  cases h with
  | none => exact .refused
  | some h =>
    rw [destroyEndpointPublisher]
    exact destroyEndpointReleases sound (.publisher h)

theorem destroySubscriptionReleases {s : Site K} (sound : s.context.Sound)
    (h : Option (Handle .subscription)) :
    s.Releases .subscription
      ((s.destroySubscription h).2.toOption.bind fun _ => h.map .subscription)
      (s.destroySubscription h).1 := by
  cases h with
  | none => exact .refused
  | some h =>
    rw [destroyEndpointSubscription]
    exact destroyEndpointReleases sound (.subscription h)

end Site
end Middleware
end Databus
