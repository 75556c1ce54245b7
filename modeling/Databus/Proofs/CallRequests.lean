import Databus.Proofs.ContextConditions
import Databus.Proofs.GraphGuards

/-! What a call asks of the bus: the requests that it comes to, in their order, read off the way that it takes.
A call that neither waits nor raises a guard leaves the bus exactly as these requests do. -/
namespace Databus.Middleware

open Bus (Allowed LeavesGuards KeepsGuards Wired)

variable {K : Type}

theorem runKeepsGuards {b : Bus} {requests : List Request} (apt : Allowed (fun b q => q.Apt b) b requests) :
    KeepsGuards b (b.run requests) := by
  induction requests generalizing b with
  | nil => exact .refl b
  | cons q rest ih => exact (Bus.requestKeepsGuards apt.1).trans (ih apt.2)

theorem commonRouse {requests : List Request} (common : ∀ q ∈ requests, q.isCommon) (b : Bus) :
    KeepsGuards b (b.run requests) := by
  induction requests generalizing b with
  | nil => exact .refl b
  | cons q rest ih =>
    have first := Bus.requestKeepsGuards (b := b) (Bus.commonApt (common q List.mem_cons_self))
    exact first.trans (ih (fun q mem => common q (List.mem_cons_of_mem _ mem)) _)

namespace Site

/-! ### Entering -/

theorem equipApt {joined : Bus} (wired : Wired joined) (p : InstanceHandle) (m : Member) :
    Allowed (fun b q => q.Apt b) joined (equip (nextWatch joined p) m) := by
  have old {γ k} (fed : joined.Feeds γ k) : γ ≠ joined.nextKey ∧ k ≠ joined.nextCondition := by
    obtain ⟨raised, there⟩ := wired.guards γ k fed
    exact ⟨Nat.ne_of_lt (wired.drawn γ k fed), Nat.ne_of_lt (wired.conditions k _ there)⟩
  have bare : (joined.run [.newGraph, .newGuard]).version joined.nextKey = 0 := by
    simp [Bus.run, Bus.request, Bus.version, Bus.newGraph, Bus.newCondition, Table.getInsert]
  have guard : (joined.run [.newGraph, .newGuard]).IsGuard joined.nextCondition :=
    ⟨false, (Bus.newGuardTriggers joined.newGraph.2 _).trans (if_pos rfl)⟩
  have wired' : Wired (joined.run [.newGraph, .newGuard]) :=
    ((Bus.newGraphKeepsGuards joined).trans (Bus.newConditionKeepsGuards _ (by decide) rfl) wired).1
  have fed (side : Side) : (listening joined m).Feeds joined.nextKey joined.nextCondition := by
    refine ⟨(nextWatch joined p).listener side, side, ?_⟩
    cases side <;> simp [listening, nextWatch, NodeWatch.listener, Table.getInsert]
  refine ⟨trivial, trivial, ⟨Nat.lt_succ_self _, bare, guard, fun γ k feeds => ?_⟩,
    ⟨Nat.lt_add_of_pos_right (k := 2) (by decide), bare, guard, fun γ k feeds => ?_⟩, trivial, trivial,
    fed .publication, ?_, trivial⟩
  · exact iff_of_false (old feeds).1 (old feeds).2
  · rcases (Bus.newListenerFeeds wired').1 feeds with before | ⟨side, own⟩
    · exact iff_of_false (old before).1 (old before).2
    · cases own
      exact iff_of_true rfl rfl
  · obtain ⟨l, side, found⟩ := fed .subscription
    exact ⟨l, side, (Bus.drainListeners _ _ _ _ _).symm ▸ found⟩

/-! ### The way a call takes -/

def nodeCreationAsks (s : Site K) (name : String) : List Request :=
  if name = "" ∨ maxDomainId < s.context.settings.domain then []
  else
    .join s.context.settings.domain ::
      equip (nextWatch (s.bus.request (.join s.context.settings.domain)) s.bus.nextHandle)
        (s.bus.newMember s.context.settings.domain) ++
      match (s.createNode name).2 with
      | .ok _ => []
      | .error _ => [.leave s.bus.nextHandle]

def nodeDestructionAsks (s : Site K) (h : Option (Handle .node)) : List Request :=
  match (s.destroyNode h).2, h.bind s.context.nodes.find? with
  | .ok (), some n => [.leave n.participant]
  | _, _ => []

def grantAsks {α : Type} (s : Site K) (side : Side) (node : Handle .node) (ts : TypeSupport K)
    (topic : String) (history : History) (result : Except Failure α) : List Request :=
  match checkRequest node ts topic, s.context.nodes.find? node with
  | .ok (), some n =>
    let b := s.bus.run (binding n.participant ts topic)
    binding n.participant ts topic ++
      match (bindTopic s.bus n.participant ts topic).2, b.participants.get? n.participant with
      | .ok t, some _ =>
        [.createGroup side n.participant, .child b.nextHandle t history side] ++
          match result with
          | .ok _ => []
          | .error _ => [.unchild b.nextHandle (b.nextHandle + 1) side, .deleteGroup n.participant b.nextHandle]
      | _, _ => []
  | _, _ => []

def releaseAsks (s : Site K) (ref : Option EndpointRef) : List Request :=
  match ref with
  | none => []
  | some ref =>
    match s.context.findEntry ref with
    | none => []
    | some r =>
      match s.context.nodes.find? r.node with
      | none => []
      | some n => [.unchild r.group r.endpoint ref.side, .deleteGroup n.participant r.group]

variable [Catalog K] [DecidableEq K]

def publishAsks (s : Site K) (h : Handle .publisher) (m : Message K) : List Request :=
  match s.context.publishers.find? h with
  | none => []
  | some r =>
    match r.support.encode m with
    | .ok payload => [.write r.writer payload]
    | .error _ => []

def takeAsks (s : Site K) (h : Handle .subscription) (slot : Option K) : List Request :=
  match s.context.subscriptions.find? h with
  | none => []
  | some r =>
    List.replicate (if slot = some r.support.carrier then
      draws r.reader (TypeSupport.unread s.bus r.reader + 1) s.bus else 0) (.take r.reader)

omit [Catalog K] [DecidableEq K]

theorem joinNodeRefused {b : Bus} {name : String} {domain : DomainId} {f : Fault}
    (refused : joinNode b name domain = .error f) : maxDomainId < domain := by
  refine Decidable.byContradiction fun fits => ?_
  unfold joinNode at refused
  rw [Bus.joinOpens (Nat.not_lt.1 fits)] at refused
  dsimp only at refused
  split at refused <;> contradiction

theorem createNodeRuns (s : Site K) (name : String) :
    (s.createNode name).1.bus = s.bus.run (s.nodeCreationAsks name) := by
  unfold nodeCreationAsks createNode
  split
  · rw [if_pos (.inl ‹_›)]
    rfl
  · rename_i named
    cases joined : joinNode s.bus name s.context.settings.domain with
    | error f =>
      rw [if_pos (.inr (joinNodeRefused joined))]
      rfl
    | ok new =>
      obtain ⟨n, b⟩ := new
      obtain ⟨fits, _, _, watch, rfl⟩ := joinNodeOpens joined
      have participant : n.participant = s.bus.nextHandle := congrArg NodeWatch.participant watch
      rw [if_neg (not_or.2 ⟨named, Nat.not_lt.2 fits⟩), ← watch]
      have entered (rest : List Request) : s.bus.run (.join s.context.settings.domain ::
          equip n.watch (s.bus.newMember s.context.settings.domain) ++ rest) =
          ((s.bus.request (.join s.context.settings.domain)).run
            (equip n.watch (s.bus.newMember s.context.settings.domain))).run rest := by
        rw [List.cons_append, Bus.runFirst, Bus.runAppend]
      rw [entered]
      generalize (s.bus.request (.join s.context.settings.domain)).run
        (equip n.watch (s.bus.newMember s.context.settings.domain)) = b
      have left : b.leave n.participant = b.run [.leave s.bus.nextHandle] := congrArg b.leave participant
      dsimp only
      cases s.context.nodes.insert n with
      | error f => exact left
      | ok nodeAdded =>
        dsimp only
        cases s.context.guards.insert ⟨n.guard, .node nodeAdded.1⟩ with
        | ok guarded => rfl
        | error f =>
          dsimp only
          rw [detachLeave]
          exact left

theorem destroyNodeRuns (s : Site K) (h : Option (Handle .node)) :
    (s.destroyNode h).1.bus = s.bus.run (s.nodeDestructionAsks h) := by
  unfold nodeDestructionAsks destroyNode
  cases h with
  | none => rfl
  | some h =>
    simp only [Handle.require]
    split
    · rfl
    · rename_i n got
      split
      · rfl
      · split
        · rfl
        · dsimp only
          rw [detachLeave, Option.bind_some, Arena.getExact.1 got]
          rfl

theorem grantAsksMap {α β : Type} (s : Site K) (side : Side) (node : Handle .node) (ts : TypeSupport K)
    (topic : String) (history : History) (result : Except Failure α) (f : α → β) :
    s.grantAsks side node ts topic history (result.map f) = s.grantAsks side node ts topic history result := by
  unfold grantAsks
  cases result <;> rfl

theorem createEndpointRuns (s : Site K) (side : Side) (node : Handle .node) (ts : TypeSupport K) (topic : String)
    (history : History) : (s.createEndpoint side node ts topic history).1.bus = s.bus.run
      (s.grantAsks side node ts topic history (s.createEndpoint side node ts topic history).2) := by
  unfold grantAsks createEndpoint prepare
  cases checkRequest node ts topic with
  | error f => rfl
  | ok _ =>
    simp only [Site.node]
    cases found : s.context.nodes.find? node with
    | none =>
      obtain ⟨f, got⟩ := Arena.getNone found
      rw [got]
      rfl
    | some n =>
      rw [Arena.getExact.2 found]
      simp only [bindTopicRuns, Bus.runAppend]
      generalize s.bus.run (binding n.participant ts topic) = b
      cases (bindTopic s.bus n.participant ts topic).2 with
      | error f => rfl
      | ok t =>
        simp only [Except.map]
        rcases openEndpointOpens b n.participant t history side with ⟨absent, f, refused⟩ | ⟨⟨x, there⟩, opened⟩
        · rw [refused, absent]
          rfl
        · rw [opened, there]
          dsimp only
          cases s.context.enter (b.putUp side n.participant t history)
            ⟨node, ts, t, b.nextHandle, b.nextHandle + 1⟩ side <;> rfl

theorem createPublisherRuns (s : Site K) (node : Handle .node) (ts : TypeSupport K) (topic : String)
    (history : History) : (s.createPublisher node ts topic).1.bus =
      s.bus.run (s.grantAsks .publication node ts topic history (s.createPublisher node ts topic).2) := by
  have runs := createEndpointRuns s .publication node ts topic history
  rwa [createEndpointPublisher, grantAsksMap] at runs

theorem createSubscriptionRuns (s : Site K) (node : Handle .node) (ts : TypeSupport K) (topic : String)
    (size : Nat) : (s.createSubscription node ts topic size).1.bus = s.bus.run
      (s.grantAsks .subscription node ts topic (queueHistory size) (s.createSubscription node ts topic size).2) := by
  have runs := createEndpointRuns s .subscription node ts topic (queueHistory size)
  rwa [createEndpointSubscription, grantAsksMap] at runs

theorem destroyEndpointRuns (s : Site K) (ref : EndpointRef) :
    (s.destroyEndpoint ref).1.bus = s.bus.run (s.releaseAsks (some ref)) := by
  unfold releaseAsks destroyEndpoint
  dsimp only
  cases held : s.context.findEntry ref with
  | none =>
    obtain ⟨f, refused⟩ := Context.giveUpNone held
    rw [refused]
    rfl
  | some r =>
    obtain ⟨c, removed⟩ := Context.giveUpHeld held
    rw [removed]
    dsimp only
    rw [Context.giveUpNodes removed]
    cases owner : s.context.nodes.find? r.node with
    | none =>
      obtain ⟨f, got⟩ := Arena.getNone owner
      rw [got]
      rfl
    | some n =>
      rw [Arena.getExact.2 owner]
      rfl

theorem destroyPublisherRuns (s : Site K) (h : Option (Handle .publisher)) :
    (s.destroyPublisher h).1.bus = s.bus.run (s.releaseAsks (h.map .publisher)) := by
  cases h with
  | none => rfl
  | some h =>
    rw [destroyEndpointPublisher]
    exact destroyEndpointRuns s (.publisher h)

theorem destroySubscriptionRuns (s : Site K) (h : Option (Handle .subscription)) :
    (s.destroySubscription h).1.bus = s.bus.run (s.releaseAsks (h.map .subscription)) := by
  cases h with
  | none => rfl
  | some h =>
    rw [destroyEndpointSubscription]
    exact destroyEndpointRuns s (.subscription h)

theorem createGuardRuns (s : Site K) : s.createGuard.1.bus = s.bus.run [.newGuard] := by
  unfold createGuard
  dsimp only
  split <;> rfl

theorem destroyGuardRuns (s : Site K) (h : Option (Handle .guardCondition)) :
    (s.destroyGuard h).1.bus = s.bus := by
  unfold destroyGuard
  split
  · rfl
  · split
    · rfl
    · rfl
    · split <;> rfl

variable [Catalog K] [DecidableEq K]

theorem publishRuns (s : Site K) (h : Handle .publisher) (m : Message K) :
    (s.publish h m).1.bus = s.bus.run (s.publishAsks h m) := by
  unfold publishAsks publish TypeSupport.publish
  cases found : s.context.publishers.find? h with
  | none =>
    obtain ⟨f, got⟩ := Arena.getNone found
    rw [got]
    rfl
  | some r =>
    rw [Arena.getExact.2 found]
    dsimp only
    cases r.support.encode m with
    | error f => rfl
    | ok payload =>
      change _ = s.bus.after (s.bus.write r.writer payload)
      dsimp only
      cases s.bus.write r.writer payload <;> rfl

theorem takeRuns (s : Site K) (h : Handle .subscription) (slot : Option K) :
    (s.take h slot).1.bus = s.bus.run (s.takeAsks h slot) := by
  unfold takeAsks take
  cases found : s.context.subscriptions.find? h with
  | none =>
    obtain ⟨f, got⟩ := Arena.getNone found
    rw [got]
    rfl
  | some r =>
    rw [Arena.getExact.2 found]
    exact supportTakes r.support s.bus r.reader slot

/-! ### Who is asked for what -/

omit [Catalog K] [DecidableEq K]

theorem nodeCreationKeepsGuards (s : Site K) (name : String) :
    KeepsGuards s.bus (s.bus.run (s.nodeCreationAsks name)) := by
  unfold nodeCreationAsks
  split
  · exact .refl _
  · rw [List.cons_append, Bus.runFirst, Bus.runAppend]
    have joins : KeepsGuards s.bus (s.bus.request (.join s.context.settings.domain)) := Bus.requestKeepsGuards trivial
    have equips : KeepsGuards (s.bus.request (.join s.context.settings.domain)) _ := fun wired =>
      runKeepsGuards (equipApt wired s.bus.nextHandle (s.bus.newMember s.context.settings.domain)) wired
    refine (joins.trans equips).trans (commonRouse ?_ _)
    split <;> simp [Request.isCommon]

theorem bindingGentle (p : InstanceHandle) (ts : TypeSupport K) (topic : String) :
    ∀ q ∈ binding p ts topic, q.isGentle := by
  unfold binding
  split <;> simp [Request.isGentle]

theorem grantGentle {α : Type} (s : Site K) (side : Side) (node : Handle .node) (ts : TypeSupport K)
    (topic : String) (history : History) (result : Except Failure α) :
    ∀ q ∈ s.grantAsks side node ts topic history result, q.isGentle := by
  unfold grantAsks
  split
  · refine List.forall_mem_append.2 ⟨bindingGentle _ ts topic, ?_⟩
    split
    · cases side <;> cases result <;> simp [Request.isGentle, Request.child, Request.unchild]
    · simp
  · simp

theorem releaseGentle (s : Site K) (ref : Option EndpointRef) : ∀ q ∈ s.releaseAsks ref, q.isGentle := by
  unfold releaseAsks
  split
  · simp
  · rename_i ref
    split
    · simp
    · split
      · simp
      · cases ref <;> simp [Request.isGentle, Request.unchild, EndpointRef.side]

variable [Catalog K] [DecidableEq K]

theorem publishGentle (s : Site K) (h : Handle .publisher) (m : Message K) :
    ∀ q ∈ s.publishAsks h m, q.isGentle := by
  unfold publishAsks
  split
  · simp
  · split <;> simp [Request.isGentle]

end Site

namespace System

def detaching (b : Bus) (n : NodeRecord) : List Request :=
  match b.participants.get? n.participant with
  | some p => [.setListener p.publications none, .setListener p.subscriptions none]
  | none => []

def closingAsks (b : Bus) (nodes : List NodeRecord) : List Request :=
  nodes.flatMap (detaching b) ++ nodes.map (.leave ·.participant)

theorem dismissRuns (b : Bus) (nodes : List NodeRecord) : dismiss b nodes = b.run (closingAsks b nodes) := by
  have detached (l : List NodeRecord) (a : Bus) (same : a.participants = b.participants) :
      l.foldl detachListeners a = a.run (l.flatMap (detaching b)) := by
    induction l generalizing a with
    | nil => rfl
    | cons n rest ih =>
      have first : detachListeners a n = a.run (detaching b n) := by
        unfold detachListeners detaching
        rw [same]
        cases b.participants.get? n.participant <;> rfl
      have kept : (detachListeners a n).participants = b.participants := by
        unfold detachListeners
        split <;> exact same
      rw [List.foldl_cons, ih _ kept, List.flatMap_cons, Bus.runAppend, first]
  have left (l : List NodeRecord) (a : Bus) :
      l.foldl (fun b n => b.leave n.participant) a = a.run (l.map (.leave ·.participant)) := by
    rw [Bus.run, List.foldl_map]
    rfl
  rw [dismiss, detached nodes b rfl, left, closingAsks, Bus.runAppend]

variable [Catalog K] [DecidableEq K]

def asks (s : System K) (call : Call K) : List Request :=
  let on (ctx : ContextId) (f : Site K → List Request) : List Request :=
    match s.contexts.get? ctx with
    | some c => f ⟨s.bus, s.observed, c⟩
    | none => []
  match call with
  | .close ctx => on ctx fun site => closingAsks site.bus site.context.nodes.values
  | .createNode ctx name => on ctx (·.nodeCreationAsks name)
  | .destroyNode ctx h => on ctx (·.nodeDestructionAsks h)
  | .createGuard ctx => on ctx fun _ => [.newGuard]
  | .createPublisher ctx node ts topic => on ctx fun site =>
    site.grantAsks .publication node ts topic .standard (site.createPublisher node ts topic).2
  | .destroyPublisher ctx h => on ctx (·.releaseAsks (h.map .publisher))
  | .createSubscription ctx node ts topic size => on ctx fun site =>
    site.grantAsks .subscription node ts topic (Site.queueHistory size)
      (site.createSubscription node ts topic size).2
  | .destroySubscription ctx h => on ctx (·.releaseAsks (h.map .subscription))
  | .publish ctx h m => on ctx (·.publishAsks h m)
  | .take ctx h slot => on ctx (·.takeAsks h slot)
  | _ => []

end System

def Call.signals [Catalog K] : Call K → Bool
  | .triggerGuard _ _ | .beginWait _ _ _ _ _ | .turn _ _ | .endWait _ _ => true
  | _ => false

namespace System

theorem performRuns {α : Type} {s : System K} {ctx : ContextId} {operation : String}
    {call : Site K → Site K × Except Failure α} {asks : Site K → List Request}
    (runs : ∀ site, (call site).1.bus = site.bus.run (asks site)) :
    (s.perform ctx operation call).1.bus = s.bus.run (match s.contexts.get? ctx with
      | some c => asks ⟨s.bus, s.observed, c⟩
      | none => []) := by
  rcases performSplit s ctx operation call with ⟨absent, bus, _⟩ | ⟨c, known, bus, _⟩
  · rw [absent, bus]
    rfl
  · rw [known, bus]
    exact runs _

variable [Catalog K] [DecidableEq K]

def Ends (s : System K) (call : Call K) (n : NodeRecord) : Prop :=
  ∃ ctx c, s.contexts.get? ctx = some c ∧ ((call = .close ctx ∧ n ∈ c.nodes.values) ∨
    ∃ h, call = .destroyNode ctx (some h) ∧ c.nodes.find? h = some n ∧
      (Site.destroyNode ⟨s.bus, s.observed, c⟩ (some h)).2 = .ok ())

inductive Asked (s : System K) (call : Call K) : Request → Prop
  | gentle {q : Request} (gentle : q.isGentle) : Asked s call q
  | leaves {n : NodeRecord} (ends : s.Ends call n) : Asked s call (.leave n.participant)
  | detaches {n : NodeRecord} {x : Participant} (ends : s.Ends call n)
    (found : s.bus.participants.get? n.participant = some x) (side : Side) :
    Asked s call (.setListener (x.member.inbox side) none)
  | takes {ctx : ContextId} {c : Context K} {h : Handle .subscription} {r : SubscriptionRecord K}
    (known : s.contexts.get? ctx = some c) (found : c.subscriptions.find? h = some r) :
    Asked s call (.take r.reader)

omit [DecidableEq K] in
theorem askedClosing {s : System K} {ctx : ContextId} {c : Context K} (known : s.contexts.get? ctx = some c) :
    ∀ q ∈ closingAsks s.bus c.nodes.values, s.Asked (.close ctx) q := by
  have ends {n : NodeRecord} (listed : n ∈ c.nodes.values) : s.Ends (.close ctx) n :=
    ⟨ctx, c, known, .inl ⟨rfl, listed⟩⟩
  refine List.forall_mem_append.2 ⟨fun q mem => ?_, fun q mem => ?_⟩
  · obtain ⟨n, listed, mem⟩ := List.mem_flatMap.1 mem
    unfold detaching at mem
    split at mem
    · rename_i x found
      simp only [List.mem_cons, List.not_mem_nil, or_false] at mem
      rcases mem with rfl | rfl
      · exact .detaches (ends listed) found .publication
      · exact .detaches (ends listed) found .subscription
    · cases mem
  · obtain ⟨n, listed, rfl⟩ := List.mem_map.1 mem
    exact .leaves (ends listed)

theorem asked (s : System K) {call : Call K} (creates : ∀ ctx name, call ≠ .createNode ctx name) :
    ∀ q ∈ s.asks call, s.Asked call q := by
  have on {ctx : ContextId} {f : Site K → List Request}
      (each : ∀ c, s.contexts.get? ctx = some c → ∀ q ∈ f ⟨s.bus, s.observed, c⟩, s.Asked call q) :
      ∀ q ∈ (match s.contexts.get? ctx with
        | some c => f ⟨s.bus, s.observed, c⟩
        | none => []), s.Asked call q := by
    cases known : s.contexts.get? ctx with
    | none => exact fun _ mem => nomatch mem
    | some c => exact each c known
  cases call with
  | close ctx => exact on (f := fun site => closingAsks site.bus site.context.nodes.values) fun c => askedClosing
  | createNode ctx name => exact absurd rfl (creates ctx name)
  | destroyNode ctx h =>
    refine on (f := (·.nodeDestructionAsks h)) fun c known q mem => ?_
    unfold Site.nodeDestructionAsks at mem
    split at mem
    · rename_i n ok found
      obtain rfl := List.mem_singleton.1 mem
      obtain ⟨h, rfl, there⟩ := Option.bind_eq_some_iff.1 found
      exact .leaves ⟨ctx, c, known, .inr ⟨h, rfl, there, ok⟩⟩
    · cases mem
  | createGuard ctx =>
    refine on (f := fun _ => [.newGuard]) fun _ _ q mem => .gentle ?_
    rw [List.mem_singleton.1 mem]
    rfl
  | createPublisher ctx node ts topic =>
    exact on (f := fun site => site.grantAsks .publication node ts topic .standard
      (site.createPublisher node ts topic).2) fun _ _ _ mem => .gentle (Site.grantGentle _ _ _ _ _ _ _ _ mem)
  | destroyPublisher ctx h =>
    exact on (f := (·.releaseAsks (h.map .publisher))) fun _ _ _ mem => .gentle (Site.releaseGentle _ _ _ mem)
  | createSubscription ctx node ts topic size =>
    exact on (f := fun site => site.grantAsks .subscription node ts topic (Site.queueHistory size)
      (site.createSubscription node ts topic size).2) fun _ _ _ mem =>
        .gentle (Site.grantGentle _ _ _ _ _ _ _ _ mem)
  | destroySubscription ctx h =>
    exact on (f := (·.releaseAsks (h.map .subscription))) fun _ _ _ mem => .gentle (Site.releaseGentle _ _ _ mem)
  | publish ctx h m =>
    exact on (f := (·.publishAsks h m)) fun _ _ _ mem => .gentle (Site.publishGentle _ _ _ _ mem)
  | take ctx h slot =>
    refine on (f := (·.takeAsks h slot)) fun c known q mem => ?_
    unfold Site.takeAsks at mem
    split at mem
    · cases mem
    · rename_i r found
      rw [List.eq_of_mem_replicate mem]
      exact .takes known found
  | _ => exact fun _ mem => nomatch mem

theorem asksNodeCreation {s : System K} {ctx : ContextId} {c : Context K} (known : s.contexts.get? ctx = some c)
    (name : String) : s.asks (.createNode ctx name) = Site.nodeCreationAsks ⟨s.bus, s.observed, c⟩ name := by
  simp only [asks, known]

theorem asksRouse (s : System K) (call : Call K) : KeepsGuards s.bus (s.bus.run (s.asks call)) := by
  have common (creates : ∀ ctx name, call ≠ .createNode ctx name) : KeepsGuards s.bus (s.bus.run (s.asks call)) := by
    refine commonRouse (fun q mem => ?_) _
    cases s.asked creates q mem with
    | gentle gentle => exact Request.gentleCommon gentle
    | _ => rfl
  cases call with
  | createNode ctx name =>
    cases known : s.contexts.get? ctx with
    | none =>
      simp only [asks, known]
      exact .refl _
    | some c => exact asksNodeCreation known name ▸ Site.nodeCreationKeepsGuards ⟨s.bus, s.observed, c⟩ name
  | _ => exact common fun _ _ own => nomatch own

theorem signalsAsk {s : System K} {call : Call K} (signals : call.signals = true) : s.asks call = [] := by
  cases call with
  | triggerGuard | beginWait | turn | endWait => rfl
  | _ => cases signals

theorem serveRuns (s : System K) {call : Call K} (plain : call.signals = false) :
    (s.serve call).bus = s.bus.run (s.asks call) := by
  have still {α : Type} {ctx : ContextId} {operation : String} {f : Site K → Site K × Except Failure α}
      (same : ∀ site, (f site).1.bus = site.bus) : (s.perform ctx operation f).1.bus = s.bus := by
    rcases performSplit s ctx operation f with ⟨_, bus, _⟩ | ⟨c, _, bus, _⟩
    · exact bus
    · exact bus.trans (same _)
  cases call with
  | init settings =>
    simp only [serve, System.init]
    split <;> rfl
  | close ctx =>
    simp only [serve, System.close, asks]
    cases s.contexts.get? ctx with
    | none => rfl
    | some c => exact dismissRuns s.bus c.nodes.values
  | createNode ctx name => exact performRuns fun site => site.createNodeRuns name
  | destroyNode ctx h => exact performRuns fun site => site.destroyNodeRuns h
  | graphGuard ctx node => exact still fun site => by rw [Site.graphGuardSame]
  | topicNamesAndTypes | countPublishers | countSubscribers | publisherGid | compareGids =>
    exact still fun _ => rfl
  | createGuard ctx => exact performRuns fun site => site.createGuardRuns
  | destroyGuard ctx h => exact still fun site => site.destroyGuardRuns h
  | createPublisher ctx node ts topic =>
    exact performRuns fun site => site.createPublisherRuns node ts topic .standard
  | destroyPublisher ctx h => exact performRuns fun site => site.destroyPublisherRuns h
  | createSubscription ctx node ts topic size =>
    exact performRuns fun site => site.createSubscriptionRuns node ts topic size
  | destroySubscription ctx h => exact performRuns fun site => site.destroySubscriptionRuns h
  | publish ctx h m => exact performRuns fun site => site.publishRuns h m
  | take ctx h slot => exact performRuns fun site => site.takeRuns h slot
  | setError text => rfl
  | resetError => rfl
  | triggerGuard | beginWait | turn | endWait => cases plain

omit [Catalog K] [DecidableEq K] in
theorem beginWaitLeavesGuards (s : Site K) (clock : Clock) (timeout : Timeout)
    (subscriptions : List (Option (Handle .subscription)))
    (guards : List (Option (Handle .guardCondition))) :
    LeavesGuards s.bus (s.beginWait clock timeout subscriptions guards).1.bus :=
  (Site.beginWaitKeeps LeavesGuards.refl .trans (fun _ => .same rfl rfl rfl (Nat.le_succ _) rfl)
    (fun b c => .setEnabled b c _) (fun ok => .quiet (Bus.attachQuiet ok))
    (fun b ws => .quiet (Bus.dropWaitSetQuiet b ws)) s clock timeout subscriptions guards).1

theorem serveKeepsGuards (s : System K) {call : Call K} (presses : ∀ ctx h, call ≠ .triggerGuard ctx h)
    (lowers : ∀ t expired, call ≠ .endWait t expired) : KeepsGuards s.bus (s.serve call).bus := by
  cases signals : call.signals with
  | false => exact serveRuns s signals ▸ asksRouse s call
  | true =>
    cases call with
    | triggerGuard ctx h => exact absurd rfl (presses ctx h)
    | endWait t expired => exact absurd rfl (lowers t expired)
    | beginWait ctx clock timeout subscriptions guards =>
      rcases performSplit s ctx "wait" (Site.beginWait clock timeout subscriptions guards) with
        ⟨_, bus, _⟩ | ⟨c, _, bus, _⟩
      · exact bus.symm ▸ .refl _
      · have waits := (beginWaitLeavesGuards ⟨s.bus, s.observed, c⟩ clock timeout subscriptions guards).keepsGuards
        exact bus.symm ▸ waits
    | turn t now =>
      have polled := (LeavesGuards.quiet (Bus.pollQuiet s.bus t.waitSet)).keepsGuards
      simp only [serve]
      unfold System.turn
      split <;> rename_i b eq <;> rw [eq] at polled <;> exact polled
    | _ => cases signals

theorem serveWired {s : System K} (wired : Wired s.bus) (call : Call K) : Wired (s.serve call).bus := by
  have plain (presses : ∀ ctx h, call ≠ .triggerGuard ctx h) (lowers : ∀ t expired, call ≠ .endWait t expired) :
      Wired (s.serve call).bus := (serveKeepsGuards s presses lowers wired).1
  cases call with
  | triggerGuard ctx h =>
    rcases performSplit s ctx "trigger_guard_condition" (Site.triggerGuard · h) with ⟨_, bus, _⟩ | ⟨c, _, bus, _⟩
    · exact bus.symm ▸ wired
    · refine bus.symm ▸ ?_
      unfold Site.triggerGuard
      split
      · exact wired
      · exact wired.adjust (Bus.setGuardAdjusts _ _ true) fun _ => ⟨true, rfl⟩
  | endWait t expired =>
    exact endWaitKeeps (R := fun b b' => Wired b → Wired b') (fun _ wired => wired)
      (fun first then' wired => then' (first wired))
      (fun b c wired => wired.adjust (Bus.takeGuardAdjusts b c) fun _ => ⟨false, rfl⟩)
      (fun b ws => (LeavesGuards.quiet (Bus.dropWaitSetQuiet b ws)).wired) s t expired wired
  | _ => exact plain (fun _ _ own => nomatch own) fun _ _ own => nomatch own

end System
end Databus.Middleware
