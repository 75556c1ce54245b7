import Databus.Middleware.Describe
import Databus.Proofs.CallerGuards
import Databus.Proofs.TableRestoration

/-! A call that fails has not happened: wherever on its way it is refused, what it had done by then is undone on every
side. Only a sample that a take could not decode is gone. -/
namespace Databus.Middleware

open Bus (Restored RaisesGuards Wired)

variable {K : Type}

structure Context.Stands (c c' : Context K) : Prop where
  counts : c'.counts = c.counts
  nodes : ∀ h, c'.nodes.get h = c.nodes.get h
  publishers : ∀ h, c'.publishers.get h = c.publishers.get h
  subscriptions : ∀ h, c'.subscriptions.get h = c.subscriptions.get h
  guards : ∀ h, c'.guards.get h = c.guards.get h
  graphGuards : c'.graphGuards = c.graphGuards

theorem Context.Stands.refl (c : Context K) : c.Stands c :=
  ⟨rfl, fun _ => rfl, fun _ => rfl, fun _ => rfl, fun _ => rfl, rfl⟩

theorem standsInsert {t : Table ContextId (Context K)} {ctx : ContextId} {c c' : Context K}
    (known : t.get? ctx = some c) (stands : c.Stands c') (ctx' : ContextId) :
    Option.Rel Context.Stands (t.get? ctx') ((t.insert ctx c').get? ctx') := by
  rw [Table.getInsert]
  split
  · rename_i own
    rw [own, known]
    exact .some stands
  · cases t.get? ctx' with
    | none => exact .none
    | some c => exact .some (.refl c)

theorem topicsAgree {names : String → String → Prop} {b b' : Bus} {d d' : Directory K} {own : List InstanceHandle}
    (agrees : Agrees names b d own) (agrees' : Agrees names b' d' own) (restored : Restored b b') {ctx : ContextId}
    {h : Handle .node} {n : NodeRecord} (found : d.node ctx h = some n) (found' : d'.node ctx h = some n) :
    ∃ g g', b.graphs.get? n.graph = some g ∧ b'.graphs.get? n.graph = some g' ∧ g'.topics = g.topics := by
  obtain ⟨m, ⟨g, fed, sound, reflects⟩, _⟩ := agrees.watched ctx h n found
  obtain ⟨m', ⟨g', fed', sound', reflects'⟩, _⟩ := agrees'.watched ctx h n found'
  have member := fed'.member
  rw [restored.members] at member
  cases Option.some.inj (fed.member.symm.trans member)
  refine ⟨g, g', fed.graph, fed'.graph, Graph.topicsSame sound.tallied sound'.tallied fun side => ?_⟩
  refine Table.sameLookup fun k => ?_
  rw [reflects', reflects, Bus.visible, Bus.visible, restored.endpoints]

variable [Catalog K] [DecidableEq K]

namespace System

structure SystemInvariant (s : System K) : Prop where
  sound : s.Sound
  agrees : Agrees Any s.bus (.of s.contexts) []
  conditionsAgree : ConditionsAgree s.bus s.contexts
  wired : Wired s.bus
  reserved : Reserved s.bus s.contexts
  ledgerHolds : ∃ l, LedgerHolds s.bus (.of s.contexts) l

structure Reverts (s : System K) (call : Call K) : Prop where
  contexts : ∀ ctx, Option.Rel Context.Stands (s.contexts.get? ctx) ((s.serve call).contexts.get? ctx)
  domains : s.bus.Restored (s.serve call).bus
  queues : ∀ ctx c h r, s.contexts.get? ctx = some c → c.subscriptions.find? h = some r → ¬ s.Undecodable call ctx h →
    ∃ y, s.bus.readers.get? r.reader = some y ∧ (s.serve call).bus.readers.get? r.reader = some y
  garbled : ∀ ctx c h r, s.contexts.get? ctx = some c → c.subscriptions.find? h = some r → s.Undecodable call ctx h →
    ∃ y sample rest, s.bus.readers.get? r.reader = some y ∧ y.mailbox.samples = sample :: rest ∧
      (s.serve call).bus.readers.get? r.reader = some { y with mailbox := { y.mailbox with samples := rest } }
  guards : ∀ ctx c h g, s.contexts.get? ctx = some c → c.guards.find? h = some g → g.owner = .caller →
    (s.serve call).bus.trigger? g.condition = s.bus.trigger? g.condition
  snapshots : ∀ ctx h, ((s.serve call).topicNamesAndTypes ctx h).2 = (s.topicNamesAndTypes ctx h).2
  publishers : ∀ ctx h topic, ((s.serve call).countPublishers ctx h topic).2 = (s.countPublishers ctx h topic).2
  subscribers : ∀ ctx h topic, ((s.serve call).countSubscribers ctx h topic).2 = (s.countSubscribers ctx h topic).2

variable {s s' : System K} {call : Call K}

namespace SystemInvariant

omit [Catalog K] [DecidableEq K] in
theorem fresh : ({} : System K).SystemInvariant :=
  ⟨soundFresh, .fresh, .fresh, Bus.wiredEmpty, .fresh, {}, .fresh⟩

theorem serve (h : s.SystemInvariant) (call : Call K) : (s.serve call).SystemInvariant := by
  obtain ⟨l, ledgerHolds⟩ := h.ledgerHolds
  exact ⟨serveSound h.sound call, h.agrees.step (fun _ _ _ => trivial) (serveSteps h.sound call).1,
    (h.conditionsAgree.serve h.sound call).1, serveWired h.wired call,
      h.reserved.serve h.sound h.conditionsAgree h.wired call,
    l.serve s call, ledgerHolds.serve h.sound call⟩

theorem serveAll (h : s.SystemInvariant) (calls : List (Call K)) : (s.serveAll calls).SystemInvariant := by
  induction calls generalizing s with
  | nil => exact h
  | cons call rest ih => exact ih (h.serve call)

end SystemInvariant

/-! ### What is left -/

omit [DecidableEq K] in
theorem leftStands (left : s.Left call s') (ctx : ContextId) :
    Option.Rel Context.Stands (s.contexts.get? ctx) (s'.contexts.get? ctx) := by
  cases left with
  | alone _ _ contexts =>
    rw [contexts]
    cases s.contexts.get? ctx with
    | none => exact .none
    | some c => exact .some (.refl c)
  | @acted _ c site _ known undone _ contexts =>
    obtain ⟨stands, same⟩ := undone.stands
    have counts : site.context.counts = c.counts := by
      rw [same]
      simp only [Context.counts, stands.live]
    rw [contexts]
    refine standsInsert known ⟨counts, stands.get, ?_, ?_, ?_, ?_⟩ ctx <;> rw [same] <;> intros <;> rfl
  | drew _ known _ _ contexts =>
    rw [contexts]
    exact standsInsert known (.refl _) ctx

omit [DecidableEq K] in
theorem leftRestored (linked : Linked s.bus (.of s.contexts)) (left : s.Left call s') : s.bus.Restored s'.bus := by
  cases left with
  | alone _ bus =>
    rw [bus]
    exact .refl linked.membersAgree
  | acted _ _ undone bus =>
    rw [bus]
    exact undone.restored linked
  | drew _ _ _ bus =>
    rw [bus]
    exact .steady linked.membersAgree (Bus.takeAffects (z := .all) trivial).steady

section Queues

variable {l : QueueLedger K} {ctx : ContextId} {c : Context K} {h : Handle .subscription} {r : SubscriptionRecord K}

omit [DecidableEq K] in
theorem leftQueues (ledgerHolds : LedgerHolds s.bus (.of s.contexts) l) (left : s.Left call s')
    (known : s.contexts.get? ctx = some c) (found : c.subscriptions.find? h = some r)
    (intact : ¬ s.Undecodable call ctx h) :
    ∃ y, s.bus.readers.get? r.reader = some y ∧ s'.bus.readers.get? r.reader = some y := by
  have held := Directory.ofSubscription known found
  have membersAgree := ledgerHolds.linked.membersAgree
  have outer : s.bus.Outer r.reader := ledgerHolds.linked.outer held
  obtain ⟨y, reader, _⟩ := ledgerHolds.queue ctx h _ held
  refine ⟨y, reader, Eq.trans ?_ reader⟩
  cases left with
  | alone _ bus => exact bus ▸ rfl
  | acted _ _ undone bus => exact bus ▸ (Bus.spareMoves undone.spares membersAgree ledgerHolds.silent).2 _ outer.1 outer
  | @drew ctx' c' h' r' garbled known' found' bus =>
    have apart : r'.reader ≠ r.reader := fun same => by
      obtain ⟨rfl, own⟩ := ledgerHolds.linked.sole _ _ _ _ _ _ (Directory.ofSubscription known' found') held same
      cases own
      exact intact garbled
    exact bus ▸ Bus.passing membersAgree ledgerHolds.silent outer (q := .take r'.reader) rfl apart

omit [DecidableEq K] in
theorem leftGarbled (left : s.Left call s') (known : s.contexts.get? ctx = some c)
    (found : c.subscriptions.find? h = some r) (garbled : s.Undecodable call ctx h) :
    ∃ y sample rest, s.bus.readers.get? r.reader = some y ∧ y.mailbox.samples = sample :: rest ∧
      s'.bus.readers.get? r.reader = some { y with mailbox := { y.mailbox with samples := rest } } := by
  cases left with
  | alone intact => exact absurd garbled (intact ctx h)
  | acted intact => exact absurd garbled (intact ctx h)
  | drew garbled' known' found' bus =>
    obtain ⟨slot, rfl⟩ := garbled.takes
    obtain ⟨slot', own⟩ := garbled'.takes
    cases own
    cases Option.some.inj (known.symm.trans known')
    cases Option.some.inj (found.symm.trans found')
    cases garbled with
    | take known'' found'' reader front =>
      cases Option.some.inj (known.symm.trans known'')
      cases Option.some.inj (found.symm.trans found'')
      exact ⟨_, _, _, reader, front, bus ▸ (Bus.takeFirst reader (by rw [Mailbox.take?, front])).2⟩

end Queues

/-! ### What is shown -/

theorem refusedRaisesGuards (wired : Wired s.bus) {f : Failure} (failed : s.refusal call = some f) :
    RaisesGuards s.bus (s.serve call).bus := by
  have plain (presses : ∀ ctx h, call ≠ .triggerGuard ctx h) (lowers : ∀ t expired, call ≠ .endWait t expired) :
      RaisesGuards s.bus (s.serve call).bus := (serveKeepsGuards s presses lowers wired).2
  cases call with
  | triggerGuard ctx h =>
    have idle : (s.serve (.triggerGuard ctx h)).bus = s.bus := by
      rcases performSplit s ctx "trigger_guard_condition" (Site.triggerGuard · h) with
        ⟨_, bus, _⟩ | ⟨c, _, bus, _, outcome⟩
      · exact bus
      · exact bus.trans (congrArg Site.bus (Site.triggerGuardRefused (outcome.symm.trans (refusedExact.1 failed))))
    exact idle ▸ .refl _
  | endWait => cases failed
  | _ => exact plain nofun nofun

omit [Catalog K] [DecidableEq K] in
theorem readSame {α : Type} (operation : String) {ctx : ContextId} {h : Handle .node} (read : Graph → α)
    (stands : Option.Rel Context.Stands (s.contexts.get? ctx) (s'.contexts.get? ctx))
    (same : ∀ c n, s.contexts.get? ctx = some c → c.nodes.find? h = some n →
      read ((s'.bus.graphs.get? n.graph).getD {}) = read ((s.bus.graphs.get? n.graph).getD {})) :
    (s'.perform ctx operation fun site => (site, (site.node h).map fun n => read (site.graphOf n))).2 =
      (s.perform ctx operation fun site => (site, (site.node h).map fun n => read (site.graphOf n))).2 := by
  generalize known : s.contexts.get? ctx = before, known' : s'.contexts.get? ctx = after at stands
  cases stands with
  | none => simp only [perform, known, known', report]
  | @some c c' stands =>
    rw [performAnswer _ known, performAnswer _ known']
    simp only [Site.node]
    rw [stands.nodes]
    cases got : c.nodes.get h with
    | error f => rfl
    | ok n => exact congrArg Except.ok (same c n known (Arena.getExact.1 got))

theorem reverts (h : s.SystemInvariant) {f : Failure} (failed : s.refusal call = some f) : s.Reverts call := by
  obtain ⟨l, ledgerHolds⟩ := h.ledgerHolds
  have next := h.serve call
  have left := serveLeft h.sound ledgerHolds failed
  have restored := leftRestored ledgerHolds.linked left
  have stands := leftStands left
  have stays {ctx : ContextId} {c : Context K} (known : s.contexts.get? ctx = some c) :
      ∃ c', (s.serve call).contexts.get? ctx = some c' ∧ c.Stands c' := by
    have related := stands ctx
    rw [known] at related
    generalize there : (s.serve call).contexts.get? ctx = after at related
    cases related with
    | some stands => exact ⟨_, rfl, stands⟩
  have graphs {α : Type} (read : Graph → α) (told : ∀ g g' : Graph, g'.topics = g.topics → read g' = read g)
      {ctx : ContextId} {k : Handle .node} (c : Context K) (n : NodeRecord) (known : s.contexts.get? ctx = some c)
      (live : c.nodes.find? k = some n) :
      read (((s.serve call).bus.graphs.get? n.graph).getD {}) = read ((s.bus.graphs.get? n.graph).getD {}) := by
    obtain ⟨c', known', same⟩ := stays known
    have live' : c'.nodes.find? k = some n := Arena.getExact.1 ((same.nodes k).trans (Arena.getExact.2 live))
    obtain ⟨g, g', there, there', topics⟩ := topicsAgree h.agrees next.agrees restored
      (((Directory.ofKnown known).2.1 k).trans live) (((Directory.ofKnown known').2.1 k).trans live')
    rw [there, there']
    exact told g g' topics
  have counted (side : Side) (topic : String) (g g' : Graph) (same : g'.topics = g.topics) :
      g'.count side topic = g.count side topic := by rw [Graph.count, same, Graph.count]
  refine ⟨stands, restored, fun ctx c k r => leftQueues ledgerHolds left, fun ctx c k r => leftGarbled left,
    fun ctx c k g known found own => ?_, fun ctx k => ?_, fun ctx k topic => ?_, fun ctx k topic => ?_⟩
  · obtain ⟨c', known', same⟩ := stays known
    have found' : c'.guards.find? k = some g := Arena.getExact.1 ((same.guards k).trans (Arena.getExact.2 found))
    exact (refusedRaisesGuards h.wired failed).still (h.conditionsAgree.guards ctx c k g known found)
      (next.conditionsAgree.guards ctx c' k g known' found') (next.reserved ctx c' k g known' found' own)
  · exact readSame "get_topic_names_and_types" Graph.snapshot (stands ctx)
      (graphs _ fun g g' same => by rw [Graph.snapshot, same, Graph.snapshot])
  · exact readSame "count_publishers" (·.count .publication topic) (stands ctx)
      (graphs _ (counted .publication topic))
  · exact readSame "count_subscribers" (·.count .subscription topic) (stands ctx)
      (graphs _ (counted .subscription topic))

end System

/-- After any calls, a call that fails reverts what it has done. -/
theorem failuresRevert (calls : List (Call K)) {call : Call K} {f : Failure}
    (failed : (({} : System K).serveAll calls).refusal call = some f) :
    (({} : System K).serveAll calls).Reverts call :=
  System.reverts (System.SystemInvariant.fresh.serveAll calls) failed

def crowded : List (Call ExampleCarrier) :=
  [.init { maxHandles := 2 }, .createNode 1 "talker", .createGuard 1,
    .createPublisher 1 ⟨implementationIdentifier, 1, 0, 0⟩ (.of .counter) "count"]

theorem crowdedReverts :
    ∃ f, (({} : System ExampleCarrier).serveAll crowded).refusal (.createNode 1 "listener") = some f ∧
    (({} : System ExampleCarrier).serveAll crowded).Reverts (.createNode 1 "listener") := by
  have refused : ((({} : System ExampleCarrier).serveAll crowded).refusal (.createNode 1 "listener")).isSome =
    true := by
    decide +kernel
  obtain ⟨f, failed⟩ := Option.isSome_iff_exists.1 refused
  exact ⟨f, failed, failuresRevert crowded failed⟩

end Databus.Middleware
