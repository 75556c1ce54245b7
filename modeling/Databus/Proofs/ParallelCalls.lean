import Databus.Proofs.WaitingSystem
import Databus.Proofs.ParallelSystems

/-! Call by call: parallel systems answer every call alike and stay parallel, as long as no creation asks otherwise for
what has drifted. -/
namespace Databus.Middleware

variable {K : Type} {δ : ContextId → Handle .node → BindingDrift} {ρ σ : Pairing} {s s' v v' : System K}

namespace System

/-! ### What the nodes know -/

theorem aliveAlike (contexts : ∀ ctx, Option.Rel (Context.Alike ρ) (v.contexts.get? ctx) (v'.contexts.get? ctx))
    (ctx : ContextId) (k : Handle .node) :
    ((Directory.of v'.contexts).node ctx k).isSome = ((Directory.of v.contexts).node ctx k).isSome := by
  rcases relOpens (contexts ctx) with ⟨unknown, unknown'⟩ | ⟨c, c', known, known', alike⟩
  · simp only [Directory.of, unknown, unknown', Option.bind_none]
  · rw [(Directory.ofKnown known).2.1, (Directory.ofKnown known').2.1]
    rcases relOpens (alike.nodes.find k) with ⟨none, none'⟩ | ⟨n, n', found, found', _⟩
    · rw [none, none']
    · rw [found, found']
      rfl

def asksAt (s : System K) (ctx : ContextId) (node : Handle .node) (ts : TypeSupport K) (topic : String)
    (ctx' : ContextId) (k : Handle .node) : Prop :=
  (ctx' = ctx ∧ k = node) ∧ (Site.checkRequest node ts topic).isOk ∧ ((Directory.of s.contexts).node ctx node).isSome

instance (s : System K) (ctx : ContextId) (node : Handle .node) (ts : TypeSupport K) (topic : String)
    (ctx' : ContextId) (k : Handle .node) : Decidable (s.asksAt ctx node ts topic ctx' k) :=
  inferInstanceAs (Decidable ((_ ∧ _) ∧ _ ∧ _))

theorem performAsks {α : Type} (systemInvariant : s.SystemInvariant) {ctx : ContextId} {node : Handle .node}
    {ts : TypeSupport K} {topic : String} {side : Side} {history : History} (operation : String)
    {call : Site K → Site K × Except Failure α}
    (grants : ∀ site : Site K, site.context.Sound → ∃ ref, site.Grants side node ts topic history (call site).1 ref)
    (same : ∀ (site : Site K) p, Bindings.of (call site).1.bus p = Bindings.of (site.prepare node ts topic).1.bus p)
    (ctx' : ContextId) (k : Handle .node) :
    (s.perform ctx operation call).1.bindings ctx' k =
      if s.asksAt ctx node ts topic ctx' k then ts.asked topic (s.bindings ctx node) else s.bindings ctx' k := by
  obtain ⟨_, ledgerHolds⟩ := systemInvariant.ledgerHolds
  unfold System.bindings
  rcases performSplit s ctx operation call with ⟨unknown, bus, contexts, _⟩ | ⟨c, known, bus, contexts, _⟩
  · rw [bus, contexts, if_neg]
    rintro ⟨_, _, live⟩
    simp only [Directory.of, unknown, Option.bind_none, Option.isSome_none, Bool.false_eq_true] at live
  · rw [bus, contexts]
    obtain ⟨ref, how⟩ := grants ⟨s.bus, s.observed, c⟩ (systemInvariant.sound.tables ctx c known)
    exact grantingBindings ledgerHolds.linked known how (same _) ctx' k

namespace Parallel

theorem askedBindings (h : Parallel δ ρ s s') {ctx : ContextId} {node : Handle .node} {ts : TypeSupport K}
    {topic : String} (matchesDrift : ts.MatchesDrift topic (δ ctx node))
    (asks : ∀ ctx' k, v.bindings ctx' k =
      if s.asksAt ctx node ts topic ctx' k then ts.asked topic (s.bindings ctx node) else s.bindings ctx' k)
    (asks' : ∀ ctx' k, v'.bindings ctx' k =
      if s'.asksAt ctx node ts topic ctx' k then ts.asked topic (s'.bindings ctx node) else s'.bindings ctx' k)
    (ctx' : ContextId) (k : Handle .node) : (v.bindings ctx' k).Within (δ ctx' k) (v'.bindings ctx' k) := by
  have same : s'.asksAt ctx node ts topic ctx' k ↔ s.asksAt ctx node ts topic ctx' k := by
    unfold asksAt
    rw [aliveAlike h.contexts]
  rw [asks, asks']
  by_cases here : s.asksAt ctx node ts topic ctx' k
  · rw [if_pos here, if_pos (same.2 here), here.1.1, here.1.2]
    exact ts.withinAsked (h.within ctx node) matchesDrift
  · rw [if_neg here, if_neg fun there => here (same.1 there)]
    exact h.within ctx' k

/-! ### Contexts -/

theorem initFollows (h : Parallel δ ρ s s') (settings : Settings) :
    Follows ρ ρ s s' (s.init settings).1 (s'.init settings).1 ∧ (s'.init settings).2 = (s.init settings).2 := by
  unfold System.init
  cases validate settings with
  | error f => exact ⟨.same h.next h.contexts, rfl⟩
  | ok _ =>
    dsimp only
    rw [h.next]
    refine ⟨.same rfl fun ctx => ?_, rfl⟩
    dsimp only
    rw [Table.getInsert, Table.getInsert]
    split
    · exact .some ⟨rfl, Arena.alikeNew .., Arena.alikeNew .., Arena.alikeNew .., Arena.alikeNew .., rfl⟩
    · exact h.contexts ctx

theorem closeFollows (h : Parallel δ ρ s s') (ctx : ContextId) : Follows ρ ρ s s' (s.close ctx) (s'.close ctx) := by
  unfold System.close
  rcases relOpens (h.contexts ctx) with ⟨unknown, unknown'⟩ | ⟨c, c', known, known', _⟩
  · rw [unknown, unknown']
    exact .same h.next h.contexts
  · rw [known, known']
    refine .same h.next fun ctx' => ?_
    dsimp only
    rw [Table.getErase, Table.getErase]
    split
    · exact .none
    · exact h.contexts ctx'

/-! ### Creations -/

theorem prepares (h : Parallel δ ρ s s') {ctx : ContextId} {node : Handle .node} {ts : TypeSupport K} {topic : String}
    (matchesDrift : ts.MatchesDrift topic (δ ctx node)) {t t' : Site K} (hosts : s.Hosts ctx t)
    (hosts' : s'.Hosts ctx t')
    (alike : t.context.Alike ρ t'.context) :
    Tied (fun _ _ => True) (t.prepare node ts topic).2 (t'.prepare node ts topic).2 := by
  obtain ⟨l, ledgerHolds, ledgerHolds'⟩ := h.books
  have nodes := (Directory.ofKnown hosts.known).2.1 node
  have nodes' := (Directory.ofKnown hosts'.known).2.1 node
  rw [← hosts.bus] at ledgerHolds
  rw [← hosts'.bus] at ledgerHolds'
  refine Site.prepareTied (δ := δ ctx node) alike (fun n found => ?_) (fun n found => ?_)
    (fun n n' found found' => ?_) matchesDrift
  · obtain ⟨x, there, _⟩ := ledgerHolds.linked.nodeAdded ctx node n (nodes.trans found)
    exact ⟨x, there⟩
  · obtain ⟨x, there, _⟩ := ledgerHolds'.linked.nodeAdded ctx node n (nodes'.trans found)
    exact ⟨x, there⟩
  · have within := h.within ctx node
    rwa [System.bindings, System.bindings, Directory.bindingsFound (nodes.trans found),
      Directory.bindingsFound (nodes'.trans found'),
      ← hosts.bus, ← hosts'.bus] at within

end Parallel

theorem SystemInvariant.present (systemInvariant : s.SystemInvariant) {ctx : ContextId} {t : Site K}
    (hosts : s.Hosts ctx t) (node : Handle .node) (ts : TypeSupport K) (topic : String) : t.Present node ts topic := by
  obtain ⟨_, ledgerHolds⟩ := systemInvariant.ledgerHolds
  rw [← hosts.bus] at ledgerHolds
  intro p found granted
  rcases Site.prepareOpens t node ts topic with ⟨f, refused⟩ | ⟨n, found, prepared⟩
  · rw [refused] at granted
    cases granted
  · rw [prepared] at granted ⊢
    obtain ⟨t', _, own⟩ := mapOk granted
    obtain ⟨x, there, _⟩ :=
      ledgerHolds.linked.nodeAdded ctx node n (((Directory.ofKnown hosts.known).2.1 node).trans found)
    obtain ⟨_, retains⟩ := bindingRetains ledgerHolds.linked.membersAgree n.participant ts topic
    obtain ⟨x', there', _⟩ := retains.participants _ x there
    cases own
    exact ⟨x', there'⟩

variable [Catalog K] [DecidableEq K]

namespace Parallel

/-! ### Every other call -/

theorem keptBindings (h : Parallel δ ρ s s') {call call' : Call K} (silent : ∀ ts topic, ¬ call.Names ts topic)
    (silent' : ∀ ts topic, ¬ call'.Names ts topic)
    (contexts : ∀ ctx, Option.Rel (Context.Alike σ) ((s.serve call).contexts.get? ctx)
      ((s'.serve call').contexts.get? ctx)) (ctx : ContextId) (k : Handle .node) :
    ((s.serve call).bindings ctx k).Within (δ ctx k) ((s'.serve call').bindings ctx k) := by
  obtain ⟨l, ledgerHolds, ledgerHolds'⟩ := h.books
  unfold System.bindings
  rw [Directory.bindingsKept fun n found =>
    ledgerHolds.linked.stepBindings (serveSteps h.systemInvariant.sound call).1 silent found,
    Directory.bindingsKept fun n found =>
      ledgerHolds'.linked.stepBindings (serveSteps h.systemInvariant'.sound call').1 silent' found,
    aliveAlike contexts]
  split
  · exact h.within ctx k
  · exact .refl _ _

end Parallel

end System

def Call.MatchesDrift [Catalog K] (δ : ContextId → Handle .node → BindingDrift) : Call K → Prop
  | .createPublisher ctx node ts topic | .createSubscription ctx node ts topic _ => ts.MatchesDrift topic (δ ctx node)
  | _ => True

def Call.creation? [Catalog K] : Call K → Option (ContextId × Handle .node × TypeSupport K × String)
  | .createPublisher ctx node ts topic | .createSubscription ctx node ts topic _ => some (ctx, node, ts, topic)
  | _ => none

theorem Site.Grants.forgets {t t' : Site K} {side : Side} {node : Handle .node} {ts : TypeSupport K} {topic : String}
    {history : History} {ref : Option EndpointRef} (how : t.Grants side node ts topic history t' ref)
    (granted : ref = none) :
    t'.context = t.context := by
  cases how with
  | granted => cases granted
  | _ => rfl

namespace System

variable [Catalog K] [DecidableEq K] {call : Call K} {ctx : ContextId} {node : Handle .node} {ts : TypeSupport K}
  {topic : String}

theorem creationBindings (systemInvariant : s.SystemInvariant) (creation : call.creation? = some (ctx, node, ts, topic))
    (ctx' : ContextId) (k : Handle .node) : (s.serve call).bindings ctx' k =
      if s.asksAt ctx node ts topic ctx' k then ts.asked topic (s.bindings ctx node) else s.bindings ctx' k := by
  cases call with
  | createPublisher =>
    cases creation
    exact performAsks systemInvariant "create_publisher"
      (fun site tables => ⟨_, Site.createPublisherGrants tables node ts topic .standard⟩)
      (fun site => site.createPublisherBindings node ts topic) ctx' k
  | createSubscription _ _ _ _ size =>
    cases creation
    exact performAsks systemInvariant "create_subscription"
      (fun site tables => ⟨_, Site.createSubscriptionGrants tables node ts topic size⟩)
      (fun site => site.createSubscriptionBindings node ts topic size) ctx' k
  | _ => cases creation

omit [Catalog K] [DecidableEq K] in
theorem performForgets {α : Type} (sound : s.Sound) {side : Side} {history : History} {operation : String}
    {entered : α → EndpointRef} {act : Site K → Site K × Except Failure α} {f : Failure}
    (failed : refused (s.perform ctx operation act).2 = some f)
    (grants : ∀ site : Site K, site.context.Sound →
      site.Grants side node ts topic history (act site).1 ((act site).2.toOption.map entered)) :
    (s.perform ctx operation act).1.contexts = s.contexts := by
  rcases performSplit s ctx operation act with ⟨_, _, contexts, _⟩ | ⟨c, known, _, contexts, answer⟩
  · exact contexts
  · have how := grants ⟨s.bus, s.observed, c⟩ (sound.tables ctx c known)
    have none : (act ⟨s.bus, s.observed, c⟩).2 = .error f := answer.symm.trans (refusedExact.1 failed)
    rw [none] at how
    rw [contexts, how.forgets rfl]
    exact Table.insertSame known

theorem creationForgets (sound : s.Sound) (creation : call.creation? = some (ctx, node, ts, topic)) {f : Failure}
    (failed : s.refusal call = some f) :
    (s.serve call).contexts = s.contexts ∧ (s.serve call).nextContext = s.nextContext ∧
      (s.serve call).observed = s.observed ∧ ∀ l : QueueLedger K, l.serve s call = l := by
  cases call with
  | createPublisher =>
    cases creation
    refine ⟨performForgets sound failed fun _ tables => Site.createPublisherGrants tables node ts topic .standard,
      performNext .., serveObserved s (by rintro _ _ _ _ _ ⟨⟩) (by rintro _ _ ⟨⟩), fun l => ?_⟩
    simp only [QueueLedger.serve, refusedExact.1 failed, Except.toOption, Option.map_none, Option.getD_none]
  | createSubscription _ _ _ _ size =>
    cases creation
    refine ⟨performForgets sound failed fun _ tables => Site.createSubscriptionGrants tables node ts topic size,
      performNext .., serveObserved s (by rintro _ _ _ _ _ ⟨⟩) (by rintro _ _ ⟨⟩), fun l => ?_⟩
    simp only [QueueLedger.serve, refusedExact.1 failed, Except.toOption, Option.map_none, Option.getD_none]
  | _ => cases creation

end System

namespace System.Parallel

variable [Catalog K] [DecidableEq K]

theorem follow (h : Parallel δ ρ s s') {call : Call K} (plain : call.waits = false)
    (matchesDrift : call.MatchesDrift δ) :
    (∃ σ, Follows ρ σ s s' (s.serve call) (s'.serve call)) ∧ s'.refusal call = s.refusal call ∧
      ∀ l : QueueLedger K, l.serve s' call = l.serve s call := by
  obtain ⟨l, ledgerHolds, ledgerHolds'⟩ := h.books
  have tables := h.systemInvariant.sound.tables
  have tables' := h.systemInvariant'.sound.tables
  cases call with
  | init settings =>
    obtain ⟨follows, answer⟩ := h.initFollows settings
    exact ⟨⟨ρ, follows⟩, by simp only [refusal, answer], fun l => by simp only [QueueLedger.serve, answer]⟩
  | close ctx => exact ⟨⟨ρ, h.closeFollows ctx⟩, rfl, fun _ => rfl⟩
  | createNode ctx name =>
    obtain ⟨follows, answer⟩ := h.perform ctx "create_node" fun _ _ known known' alike =>
      Site.createNodeParallel (tables _ _ known.known) (tables' _ _ known'.known) alike name
    exact ⟨follows, answer.refused, fun _ => rfl⟩
  | destroyNode ctx k =>
    obtain ⟨follows, answer⟩ := h.perform ctx "destroy_node" fun _ _ _ _ alike =>
      Site.destroyNodeParallel alike k
    exact ⟨follows, answer.refused, fun _ => rfl⟩
  | graphGuard ctx node =>
    obtain ⟨follows, answer⟩ := h.perform ctx "node_graph_guard_condition" fun _ _ _ _ alike =>
      Site.graphGuardParallel alike node
    exact ⟨follows, answer.refused, fun _ => rfl⟩
  | topicNamesAndTypes ctx node =>
    obtain ⟨follows, answer⟩ := h.perform ctx "get_topic_names_and_types" fun _ _ _ _ alike =>
      Site.topicNamesParallel alike node
    exact ⟨follows, answer.refused, fun _ => rfl⟩
  | countPublishers ctx node topic =>
    obtain ⟨follows, answer⟩ := h.perform ctx "count_publishers" fun _ _ _ _ alike =>
      Site.countParallel .publication topic alike node
    exact ⟨follows, answer.refused, fun _ => rfl⟩
  | countSubscribers ctx node topic =>
    obtain ⟨follows, answer⟩ := h.perform ctx "count_subscribers" fun _ _ _ _ alike =>
      Site.countParallel .subscription topic alike node
    exact ⟨follows, answer.refused, fun _ => rfl⟩
  | createGuard ctx =>
    obtain ⟨follows, answer⟩ := h.perform ctx "create_guard_condition" fun _ _ known known' alike =>
      Site.createGuardParallel (tables _ _ known.known) (tables' _ _ known'.known) alike
    exact ⟨follows, answer.refused, fun _ => rfl⟩
  | triggerGuard ctx k =>
    obtain ⟨follows, answer⟩ := h.perform ctx "trigger_guard_condition" fun _ _ _ _ alike =>
      Site.triggerGuardParallel alike k
    exact ⟨follows, answer.refused, fun _ => rfl⟩
  | destroyGuard ctx k =>
    obtain ⟨follows, answer⟩ := h.perform ctx "destroy_guard_condition" fun _ _ _ _ alike =>
      Site.destroyGuardParallel alike k
    exact ⟨follows, answer.refused, fun _ => rfl⟩
  | createPublisher ctx node ts topic =>
    obtain ⟨follows, answer⟩ := h.perform ctx "create_publisher" fun _ _ known known' alike =>
      Site.createPublisherParallel alike (h.systemInvariant.present known node ts topic)
        (h.systemInvariant'.present known' node ts topic) (h.prepares matchesDrift known known' alike)
    exact ⟨follows, answer.refused, fun l => by simp only [QueueLedger.serve, System.createPublisher, answer.same]⟩
  | destroyPublisher ctx k =>
    obtain ⟨follows, answer⟩ := h.perform ctx "destroy_publisher" fun _ _ _ _ alike =>
      Site.destroyPublisherParallel alike k
    exact ⟨follows, answer.refused, fun l => by simp only [QueueLedger.serve, System.destroyPublisher, answer.same]⟩
  | publisherGid ctx k =>
    obtain ⟨follows, answer⟩ := h.perform ctx "publisher_gid" fun _ _ _ _ alike =>
      Site.publisherGidParallel alike k
    exact ⟨follows, answer.refused, fun _ => rfl⟩
  | compareGids ctx g g' =>
    obtain ⟨follows, answer⟩ := h.perform ctx "compare_gids_equal" fun _ _ _ _ alike =>
      Site.compareGidsParallel g g' alike
    exact ⟨follows, answer.refused, fun _ => rfl⟩
  | createSubscription ctx node ts topic size =>
    obtain ⟨follows, answer⟩ := h.perform ctx "create_subscription" fun _ _ known known' alike =>
      Site.createSubscriptionParallel (tables _ _ known.known) (tables' _ _ known'.known) alike
        (h.systemInvariant.present known node ts topic) (h.systemInvariant'.present known' node ts topic)
        (h.prepares matchesDrift known known' alike) size
    exact ⟨follows, answer.refused, fun l => by simp only [QueueLedger.serve, System.createSubscription, answer.same]⟩
  | destroySubscription ctx k =>
    obtain ⟨follows, answer⟩ := h.perform ctx "destroy_subscription" fun _ _ _ _ alike =>
      Site.destroySubscriptionParallel alike k
    exact ⟨follows, answer.refused, fun l => by simp only [QueueLedger.serve, System.destroySubscription, answer.same]⟩
  | publish ctx k m =>
    obtain ⟨follows, answer⟩ := h.perform ctx "publish" fun _ _ known known' alike =>
      Site.publishParallel (known.bus ▸ ledgerHolds.linked) (known'.bus ▸ ledgerHolds'.linked) known.known known'.known
        alike k m
    exact ⟨follows, answer.refused, fun _ => rfl⟩
  | take ctx k slot =>
    obtain ⟨follows, answer⟩ := h.perform ctx "take" fun _ _ known known' alike =>
      Site.takeParallel (known.bus ▸ ledgerHolds) (known'.bus ▸ ledgerHolds') known.known known'.known alike k slot
    exact ⟨follows, answer.refused, fun _ => rfl⟩
  | beginWait | turn | endWait => cases plain
  | setError text => exact ⟨⟨ρ, .same h.next h.contexts⟩, rfl, fun _ => rfl⟩
  | resetError => exact ⟨⟨ρ, .same h.next h.contexts⟩, rfl, fun _ => rfl⟩

theorem driftMatchedBindings (h : Parallel δ ρ s s') {call : Call K} (matchesDrift : call.MatchesDrift δ)
    (follows : Follows ρ σ s s' (s.serve call) (s'.serve call)) (ctx : ContextId) (k : Handle .node) :
    ((s.serve call).bindings ctx k).Within (δ ctx k) ((s'.serve call).bindings ctx k) := by
  cases call with
  | createPublisher | createSubscription =>
    exact h.askedBindings matchesDrift (creationBindings h.systemInvariant rfl)
      (creationBindings h.systemInvariant' rfl) ctx k
  | _ => exact h.keptBindings (fun _ _ => id) (fun _ _ => id) follows.contexts ctx k

end System.Parallel
end Databus.Middleware
