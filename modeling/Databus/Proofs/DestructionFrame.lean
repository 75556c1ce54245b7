import Databus.Proofs.DestroyedEntries
import Databus.Proofs.FailureRollback

/-! A destruction disturbs nothing else. What other handles stand for, what waits for them and where others' messages go
is as before, and whatever names the one that is gone is refused until its slot has turned once over. -/
namespace Databus

theorem Bus.StatusesAgree.guardApart {b : Bus} (statusesAgree : b.StatusesAgree) {k : ConditionId} (guard : b.IsGuard k)
    {r : InstanceHandle} {x : Reader} (found : b.readers.get? r = some x) : x.condition ≠ k := fun same => by
  obtain ⟨raised, there⟩ := guard
  obtain ⟨t, shown, shows⟩ := statusesAgree.shown r x found
  cases Option.some.inj ((same ▸ shown).symm.trans there)
  cases shows

namespace Middleware

open Bus (Misses)

variable {K : Type}

namespace System

variable [Catalog K] [DecidableEq K] {s : System K} {ctx : ContextId} {c : Context K} {d : Entity}

omit [Catalog K] [DecidableEq K] in
def home? (s : System K) (d : Entity) : Option (Handle .node) :=
  (s.contexts.get? d.context).bind (·.home? d)

/-! ### Who hears of endpoints -/

namespace SystemInvariant

omit [Catalog K] [DecidableEq K]

theorem subscriptionOwnReadersOnly (h : s.SystemInvariant) (known : s.contexts.get? ctx = some c)
    {k : Handle .subscription}
    {r : SubscriptionRecord K} (found : c.subscriptions.find? k = some r) (p : InstanceHandle) :
    s.bus.OwnReadersOnly p r.condition := by
  intro q m side member _ x reader
  obtain ⟨y, own, condition⟩ := h.conditionsAgree.subscriptions ctx c k r known found
  have outer : s.bus.Outer r.reader := h.agrees.outer ctx _ _ (Directory.ofSubscription known found)
  refine ⟨fun same => outer.2 q m side member ?_, fun l side γ _ listens => ?_⟩
  · exact h.conditionsAgree.statusesAgree.apart _ x _ y reader own (same.trans condition.symm)
  · exact h.conditionsAgree.statusesAgree.guardApart (h.wired.guards γ _ ⟨l, side, listens⟩) own condition

theorem callerOwnReadersOnly (h : s.SystemInvariant) (known : s.contexts.get? ctx = some c) {k : Handle .guardCondition}
    {g : GuardRecord} (found : c.guards.find? k = some g) (own : g.owner = .caller) (p : InstanceHandle) :
    s.bus.OwnReadersOnly p g.condition := fun _ _ _ _ _ _ reader =>
  ⟨h.conditionsAgree.statusesAgree.guardApart (h.conditionsAgree.guards ctx c k g known found) reader,
    fun l side γ _ listens => h.reserved ctx c k g known found own γ ⟨l, side, listens⟩⟩

theorem nodeOwnReadersOnly (h : s.SystemInvariant) (known : s.contexts.get? ctx = some c) {k : Handle .node}
    {n : NodeRecord} (found : c.nodes.find? k = some n) : s.bus.OwnReadersOnly n.participant n.guard := by
  intro q m side member other x reader
  obtain ⟨m', ⟨g, fed, _⟩, _⟩ := h.agrees.watched ctx k n (((Directory.ofKnown known).2.1 k).trans found)
  have feeds : s.bus.Feeds n.graph n.guard := ⟨_, .publication, fed.listener .publication⟩
  refine ⟨h.conditionsAgree.statusesAgree.guardApart (h.wired.guards _ _ feeds) reader,
    fun l side' γ listener listens => other ?_⟩
  obtain rfl : γ = n.graph := (h.wired.apart γ n.guard n.graph n.guard ⟨l, side', listens⟩ feeds).2 rfl
  obtain ⟨side'', same⟩ := fed.sole _ x l side' _ reader listener listens
  exact (h.agrees.orderly.membersAgree.inboxOwn fed.member member same).1

end SystemInvariant

/-! ### Publishing beside -/

theorem publishBeside {s' : System K} {P : Bus → Bus → Prop} {h : Handle .publisher} (m : Message K)
    (resolves : (s'.contexts.get? ctx).map (·.publishers.get h) = (s.contexts.get? ctx).map (·.publishers.get h))
    (start : P s.bus s'.bus)
    (writes : ∀ c r, s.contexts.get? ctx = some c → c.publishers.find? h = some r → ∀ payload,
      (∃ f, s.bus.write r.writer payload = .error f ∧ s'.bus.write r.writer payload = .error f) ∨
        ∃ b b', s.bus.write r.writer payload = .ok b ∧ s'.bus.write r.writer payload = .ok b' ∧ P b b') :
    (s'.publish ctx h m).2 = (s.publish ctx h m).2 ∧
      P (s.publish ctx h m).1.bus (s'.publish ctx h m).1.bus := by
  cases known : s.contexts.get? ctx with
  | none =>
    rw [known] at resolves
    simp only [publish, perform, known, Option.map_eq_none_iff.1 resolves]
    exact ⟨rfl, start⟩
  | some c =>
    rw [known] at resolves
    obtain ⟨c', known', same⟩ := Option.map_eq_some_iff.1 resolves
    simp only [publish, perform, known, known', Site.publish, same]
    cases got : c.publishers.get h with
    | error f => exact ⟨rfl, start⟩
    | ok r =>
      simp only [TypeSupport.publish]
      cases r.support.encode m with
      | error f => exact ⟨rfl, start⟩
      | ok payload =>
        rcases writes c r known (Arena.getExact.1 got) payload with ⟨f, failed, failed'⟩ | ⟨b, b', ok, ok', both⟩
        · simp only [failed, failed']
          exact ⟨rfl, start⟩
        · simp only [ok, ok']
          exact ⟨rfl, both⟩

def Reaches (s : System K) (ctx : ContextId) (h : Handle .publisher) (m : Message K) (r : InstanceHandle) : Prop :=
  (s.publish ctx h m).1.bus.readers.get? r ≠ s.bus.readers.get? r

/-! ### What is left -/

structure Spares (s : System K) (ctx : ContextId) (d : Entity) (s' : System K) : Prop where
  own : ∃ c c', s.contexts.get? ctx = some c ∧ s'.contexts.get? ctx = some c' ∧ c.Loses d c'
  contexts : ∀ ctx', ctx' ≠ ctx → s'.contexts.get? ctx' = s.contexts.get? ctx'
  queues : ∀ ctx' c k r, s.contexts.get? ctx' = some c → c.subscriptions.find? k = some r → .subscription k ≠ d →
    ∃ y, s.bus.readers.get? r.reader = some y ∧ s'.bus.readers.get? r.reader = some y
  statuses : ∀ ctx' c k r, s.contexts.get? ctx' = some c → c.subscriptions.find? k = some r → .subscription k ≠ d →
    s'.bus.trigger? r.condition = s.bus.trigger? r.condition
  guards : ∀ ctx' c k g, s.contexts.get? ctx' = some c → c.guards.find? k = some g →
    (∀ n n', s.home? d = some n → g.owner = .node n' → n' = n) →
    s'.bus.trigger? g.condition = s.bus.trigger? g.condition
  outcomes : ∀ ctx' k m, .publisher k ≠ d → (s'.publish ctx' k m).2 = (s.publish ctx' k m).2
  received : ∀ ctx' k m ctx'' c h r, .publisher k ≠ d → s.contexts.get? ctx'' = some c →
    c.subscriptions.find? h = some r → .subscription h ≠ d →
    (s'.publish ctx' k m).1.bus.readers.get? r.reader = (s.publish ctx' k m).1.bus.readers.get? r.reader
  reaches : ∀ ctx' k m ctx'' c h r, .publisher k ≠ d → s.contexts.get? ctx'' = some c →
    c.subscriptions.find? h = some r →
    (s'.Reaches ctx' k m r.reader ↔ s.Reaches ctx' k m r.reader ∧ .subscription h ≠ d)
  refused : ∀ later, s'.removals d later < UInt32.size - 1 →
    (∀ call : Call K, d ∈ call.names → ∃ f, (s'.serveAll later).refusal call = some f) ∧
      ∀ ctx', ∃ text, (s'.serveAll later).refusal (d.destroy ctx') = some (.invalidArgument text)

namespace Drops

variable {s' : System K} {site : Site K}

omit [Catalog K] [DecidableEq K]

theorem goneExact (h : s.Drops ctx d c site s') (linked : Linked s.bus (.of s.contexts)) (placed : s.Placed)
    {ctx' : ContextId} {c' : Context K} {ref : EndpointRef} {r : EndpointEntry K}
    (known : s.contexts.get? ctx' = some c')
    (held : c'.findEntry ref = some r) : c.endpoint? d = some r.endpoint ↔ d.ref? = some ref := by
  have entry {ctx : ContextId} {c : Context K} (known : s.contexts.get? ctx = some c) {ref : EndpointRef}
    {r : EndpointEntry K}
      (held : c.findEntry ref = some r) : (Directory.of s.contexts).entry ctx ref = some r :=
    ((Directory.ofKnown known).2.2 ref).trans held
  constructor
  · intro gone
    obtain ⟨r', found, same⟩ := Option.map_eq_some_iff.1 gone
    obtain ⟨ref', own, held'⟩ := Option.bind_eq_some_iff.1 found
    exact (linked.sole _ _ _ _ _ _ (entry h.known held') (entry known held) same).2 ▸ own
  · intro own
    obtain rfl : ctx = ctx' :=
      (h.destroys.own.2 ctx (placed ctx c h.known)).symm.trans (Context.entryPlaced (placed ctx' c' known) own held)
    cases Option.some.inj (h.known.symm.trans known)
    exact Context.endpointHeld own held

/-! ### Tables -/

theorem context (h : s.Drops ctx d c site s') (ctx' : ContextId) :
    s'.contexts.get? ctx' = if ctx' = ctx then some site.context else s.contexts.get? ctx' := by
  rw [h.contexts, Table.getInsert]

theorem loses (h : s.Drops ctx d c site s') (sound : s.Sound) (guardsListed : s.GuardsListed) :
    c.Loses d site.context :=
  h.destroys.loses (sound.tables ctx c h.known) (guardsListed ctx c h.known)

theorem publisherResolves (h : s.Drops ctx d c site s') (loses : c.Loses d site.context) {k : Handle .publisher}
    (other : .publisher k ≠ d) (ctx' : ContextId) :
    (s'.contexts.get? ctx').map (·.publishers.get k) = (s.contexts.get? ctx').map (·.publishers.get k) := by
  rw [h.context]
  split
  · rename_i own
    rw [own, h.known]
    exact congrArg some (loses.publishers k other)
  · rfl

theorem retired (h : s.Drops ctx d c site s') (sound : s'.Sound) (placed : s.Placed) (placed' : s'.Placed) :
    s'.Retired d 1 where
  placed := placed'
  opened := by
    rw [h.destroys.own.2 ctx (placed ctx c h.known)]
    exact sound.opened ctx site.context ((h.context ctx).trans (if_pos rfl))
  worn c' known := by
    rw [h.destroys.own.2 ctx (placed ctx c h.known), h.context, if_pos rfl] at known
    cases Option.some.inj known
    exact h.destroys.worn

/-! ### Conditions -/

theorem still (h : s.Drops ctx d c site s') (systemInvariant : s.SystemInvariant) {k : ConditionId}
    (ownReadersOnly : ∀ h n, c.home? d = some h → c.nodes.find? h = some n → s.bus.OwnReadersOnly n.participant k) :
    s'.bus.trigger? k = s.bus.trigger? k := by
  obtain ⟨l, ledgerHolds⟩ := systemInvariant.ledgerHolds
  have retreats := h.destroys.retreats ledgerHolds.linked h.known
  exact h.bus ▸ retreats.still ledgerHolds.linked ledgerHolds.silent h.known (systemInvariant.wired.dedicated k)
    ownReadersOnly

theorem guardStill (h : s.Drops ctx d c site s') (systemInvariant : s.SystemInvariant) (guardsListed : s.GuardsListed)
    (placed : s.Placed) {ctx' : ContextId} {c' : Context K} {k : Handle .guardCondition} {g : GuardRecord}
    (known : s.contexts.get? ctx' = some c') (found : c'.guards.find? k = some g)
    (own : ∀ n n', s.home? d = some n → g.owner = .node n' → n' = n) :
    s'.bus.trigger? g.condition = s.bus.trigger? g.condition := by
  refine h.still systemInvariant fun node n home there => ?_
  cases g with | mk condition owner =>
  cases owner with
  | caller => exact systemInvariant.callerOwnReadersOnly known found rfl n.participant
  | node node' =>
    have here : s.home? d = some node := by
      rw [home?, h.destroys.own.2 ctx (placed ctx c h.known), h.known, Option.bind_some, home]
    obtain rfl : node' = node := own node node' here rfl
    have escort := guardsListed ctx' c' known
    obtain ⟨n', there', guard⟩ := escort.listed _ k (escort.owned k condition _ found)
    -- a handle is of one context, so the node is the same
    have context := (Arena.findExact.1 there).2.1.trans (placed ctx c h.known).nodes
    obtain rfl : ctx = ctx' :=
      context.symm.trans ((Arena.findExact.1 there').2.1.trans (placed ctx' c' known).nodes)
    cases Option.some.inj (h.known.symm.trans known)
    cases Option.some.inj (there.symm.trans there')
    cases Option.some.inj (found.symm.trans guard)
    exact systemInvariant.nodeOwnReadersOnly known there

theorem misses (h : s.Drops ctx d c site s') {l : QueueLedger K} (ledgerHolds : LedgerHolds s.bus (.of s.contexts) l) :
    s.bus.Misses (c.endpoint? d = some ·) s'.bus :=
  h.bus ▸ (h.destroys.retreats ledgerHolds.linked h.known).misses ledgerHolds.linked ledgerHolds.silent h.known

theorem goneSubscription (h : s.Drops ctx d c site s') (linked : Linked s.bus (.of s.contexts)) (placed : s.Placed)
    {ctx' : ContextId} {c' : Context K} {k : Handle .subscription} {r : SubscriptionRecord K}
    (known : s.contexts.get? ctx' = some c') (found : c'.subscriptions.find? k = some r) :
    c.endpoint? d = some r.reader ↔ .subscription k = d :=
  (h.goneExact linked placed known (Context.heldSubscription found)).trans Context.refSubscription

theorem reader (h : s.Drops ctx d c site s') {l : QueueLedger K} (ledgerHolds : LedgerHolds s.bus (.of s.contexts) l)
    (placed : s.Placed) {ctx' : ContextId} {c' : Context K} {k : Handle .subscription} {r : SubscriptionRecord K}
    (known : s.contexts.get? ctx' = some c') (found : c'.subscriptions.find? k = some r) (other : .subscription k ≠ d) :
    s'.bus.readers.get? r.reader = s.bus.readers.get? r.reader :=
  (h.misses ledgerHolds).readers r.reader
    (fun gone => other ((h.goneSubscription ledgerHolds.linked placed known found).1 gone))
    (ledgerHolds.linked.outer (Directory.ofSubscription known found))

/-! ### Publications -/

variable [Catalog K] [DecidableEq K]

theorem publishes (h : s.Drops ctx d c site s') (systemInvariant : s.SystemInvariant) (placed : s.Placed)
    (loses : c.Loses d site.context) {k : Handle .publisher} (other : .publisher k ≠ d) (ctx' : ContextId)
    (m : Message K) : (s'.publish ctx' k m).2 = (s.publish ctx' k m).2 ∧
      ∀ ctx'' c' k' r, s.contexts.get? ctx'' = some c' → c'.subscriptions.find? k' = some r →
        (s'.publish ctx' k m).1.bus.readers.get? r.reader = if .subscription k' = d then s'.bus.readers.get? r.reader
          else (s.publish ctx' k m).1.bus.readers.get? r.reader := by
  obtain ⟨l, ledgerHolds⟩ := systemInvariant.ledgerHolds
  refine publishBeside (P := fun b b' => ∀ ctx'' c' k' r, s.contexts.get? ctx'' = some c' →
    c'.subscriptions.find? k' = some r → b'.readers.get? r.reader =
      if .subscription k' = d then s'.bus.readers.get? r.reader else b.readers.get? r.reader) m
    (h.publisherResolves loses other ctx') (fun ctx'' c' k' r known found => ?_) fun c' r known found payload => ?_
  · split
    · rfl
    · exact h.reader ledgerHolds placed known found ‹_›
  · have held := Context.heldPublisher found
    obtain ⟨n, domain, _, _, _, ownsEndpoint⟩ :=
      ledgerHolds.linked.ownsEndpoint ctx' _ _ (((Directory.ofKnown known).2.2 _).trans held)
    have stays : ¬ c.endpoint? d = some r.writer := fun left =>
      other (Context.refPublisher.1 ((h.goneExact ledgerHolds.linked placed known held).1 left))
    rcases (h.misses ledgerHolds).write ledgerHolds.silent (ownsEndpoint.writer rfl) rfl stays payload with
      failed | ⟨b, b', ok, ok', kept, lost⟩
    · exact .inl failed
    · refine .inr ⟨b, b', ok, ok', fun ctx'' c'' k' r' known' found' => ?_⟩
      have gone := h.goneSubscription ledgerHolds.linked placed known' found'
      obtain ⟨y, reader, mirrors⟩ := ledgerHolds.queue ctx'' k' _ (Directory.ofSubscription known' found')
      split
      · exact lost r'.reader (gone.2 ‹_›)
      · rename_i apart
        exact kept r'.reader y (fun left => apart (gone.1 left))
          (ledgerHolds.linked.outer (Directory.ofSubscription known' found')) reader mirrors.unserved

end Drops

theorem SystemInvariant.spares (h : s.SystemInvariant) (guardsListed : s.GuardsListed) (placed : s.Placed)
    (granted : s.refusal (d.destroy ctx) = none) : s.Spares ctx d (s.serve (d.destroy ctx)) := by
  obtain ⟨c, site, drops⟩ := destroyDrops granted
  obtain ⟨l, ledgerHolds⟩ := h.ledgerHolds
  have sound := serveSound h.sound (d.destroy ctx)
  have loses := drops.loses h.sound guardsListed
  refine {
    own := ⟨c, site.context, drops.known, (drops.context ctx).trans (if_pos rfl), loses⟩
    contexts := fun ctx' other => (drops.context ctx').trans (if_neg other)
    queues := fun ctx' c' k r known found other => ?_
    statuses := fun ctx' c' k r known found _ =>
      drops.still h fun _ n _ _ => h.subscriptionOwnReadersOnly known found n.participant
    guards := fun ctx' c' k g known found => drops.guardStill h guardsListed placed known found
    outcomes := fun ctx' k m other => (drops.publishes h placed loses other ctx' m).1
    received := fun ctx' k m ctx'' c' k' r other known found apart => ?_
    reaches := fun ctx' k m ctx'' c' k' r other known found => ?_
    refused := fun later few => ?_ }
  · obtain ⟨y, reader, _⟩ := ledgerHolds.queue ctx' k _ (Directory.ofSubscription known found)
    exact ⟨y, reader, (drops.reader ledgerHolds placed known found other).trans reader⟩
  · exact ((drops.publishes h placed loses other ctx' m).2 ctx'' c' k' r known found).trans (if_neg apart)
  · have after := (drops.publishes h placed loses other ctx' m).2 ctx'' c' k' r known found
    by_cases own : .subscription k' = d
    · rw [if_pos own] at after
      exact iff_of_false (fun reaches => reaches after) fun reaches => reaches.2 own
    · rw [if_neg own] at after
      rw [Reaches, after, drops.reader ledgerHolds placed known found own]
      exact (and_iff_left own).symm
  · exact (drops.retired sound placed (placed.serve h.sound _)).refused sound drops.destroys.own.1 few

end System

/-- After any calls, a destruction that is granted spares everything else. -/
theorem destructionSpares [Catalog K] [DecidableEq K] (calls : List (Call K)) {ctx : ContextId} {d : Entity}
    (granted : (({} : System K).serveAll calls).refusal (d.destroy ctx) = none) :
    (({} : System K).serveAll calls).Spares ctx d ((({} : System K).serveAll calls).serve (d.destroy ctx)) :=
  (System.SystemInvariant.fresh.serveAll calls).spares (System.guardsListedFresh.serveAll System.soundFresh calls)
    (System.placedFresh.serveAll System.soundFresh calls) granted

def household : List (Call ExampleCarrier) :=
  [.init { maxHandles := 8 }, .createNode 1 "talker", .createNode 1 "listener",
    .createPublisher 1 ⟨implementationIdentifier, 1, 0, 0⟩ (.of .counter) "count",
    .createPublisher 1 ⟨implementationIdentifier, 1, 0, 0⟩ (.of .counter) "count",
    .createSubscription 1 ⟨implementationIdentifier, 1, 1, 0⟩ (.of .counter) "count" 4,
    .publish 1 ⟨implementationIdentifier, 1, 0, 0⟩ (.of .counter (7 : UInt32)),
    .publish 1 ⟨implementationIdentifier, 1, 1, 0⟩ (.of .counter (8 : UInt32))]

theorem householdSpared : (({} : System ExampleCarrier).serveAll household).Spares 1
    (.publisher ⟨implementationIdentifier, 1, 0, 0⟩) ((({} : System ExampleCarrier).serveAll household).serve
      (.destroyPublisher 1 (some ⟨implementationIdentifier, 1, 0, 0⟩))) := by
  have granted : (({} : System ExampleCarrier).serveAll household).refusal
      ((Entity.publisher ⟨implementationIdentifier, 1, 0, 0⟩).destroy 1) = none := by
    decide +kernel
  exact destructionSpares household granted

/-- A node takes its guard with it, though the guard has a handle of its own. -/
theorem nodeTakesGuard :
    let s := ({} : System ExampleCarrier).serveAll [.init { maxHandles := 8 }, .createNode 1 "talker"]
    let s' := s.serve (.destroyNode 1 (some ⟨implementationIdentifier, 1, 0, 0⟩))
    s.refusal (.destroyNode 1 (some ⟨implementationIdentifier, 1, 0, 0⟩)) = none ∧
      ((s.contexts.get? 1).bind (·.guards.find? ⟨implementationIdentifier, 1, 0, 0⟩)).isSome = true ∧
      (s'.contexts.get? 1).bind (·.guards.find? ⟨implementationIdentifier, 1, 0, 0⟩) = none := by
  decide +kernel

end Middleware
end Databus
