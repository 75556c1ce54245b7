import Databus.Proofs.RecordCorrespondence
import Databus.Proofs.ParticipantBindings

/-! What each node's participant knows as calls go by: a node starts with nothing, keeps what it knows through every
call of anybody, and learns only when a publisher or a subscription is asked for on it. -/
namespace Databus.Middleware

open Bus (Allowed)

variable {K : Type}

def Directory.bindings (d : Directory K) (b : Bus) (ctx : ContextId) (h : Handle .node) : Bindings :=
  ((d.node ctx h).map (·.participant)).elim .empty (Bindings.of b)

def System.bindings (s : System K) (ctx : ContextId) (h : Handle .node) : Bindings :=
  (Directory.of s.contexts).bindings s.bus ctx h

variable {b b' : Bus} {d d' : Directory K} {t t' : Table ContextId (Context K)} {ctx ctx' : ContextId} {c : Context K}
  {k k' : Handle .node} {n : NodeRecord} {s' : Site K} {observed : List ConditionId}

theorem Directory.bindingsFound (found : d.node ctx k = some n) : d.bindings b ctx k = .of b n.participant := by
  rw [bindings, found]
  rfl

theorem Directory.bindingsAbsent (absent : d.node ctx k = none) : d.bindings b ctx k = .empty := by
  rw [bindings, absent]
  rfl

/-! ### Who joins and leaves -/

theorem joinedBindings {name : String} {domain : DomainId} (joined : Site.joinNode b name domain = .ok (n, b'))
    (p : InstanceHandle) : Bindings.of b' p = if p = n.participant then .empty else Bindings.of b p := by
  obtain ⟨fits, _, _, watch, rfl⟩ := Site.joinNodeOpens joined
  have own : n.participant = b.nextHandle := congrArg NodeWatch.participant watch
  have equipped : Bindings.of ((b.request (.join domain)).run (Site.equip n.watch (b.newMember domain))) p =
      Bindings.of (b.request (.join domain)) p := by
    refine Bus.runBindings (fun q mem => ?_) p
    simp only [Site.equip, List.mem_cons, List.not_mem_nil, or_false] at mem
    rcases mem with rfl | rfl | rfl | rfl | rfl | rfl | rfl | rfl <;> rfl
  rw [equipped, Bus.joinBindings, own]
  simp only [fits, and_true]

theorem detachBindings (nodes : List NodeRecord) (b : Bus) (p : InstanceHandle) :
    Bindings.of (nodes.foldl System.detachListeners b) p = Bindings.of b p := by
  induction nodes generalizing b with
  | nil => rfl
  | cons n rest ih => exact (ih _).trans (Bindings.ofSteady (detachSteady b n) p)

theorem dismissBindings {nodes : List NodeRecord} {p : InstanceHandle} (others : ∀ n ∈ nodes, p ≠ n.participant)
    (b : Bus) : Bindings.of (System.dismiss b nodes) p = Bindings.of b p := by
  have left : ∀ (l : List NodeRecord) (b : Bus), (∀ n ∈ l, p ≠ n.participant) →
      Bindings.of (l.foldl (fun b n => b.leave n.participant) b) p = Bindings.of b p := fun l => by
    induction l with
    | nil => exact fun _ _ => rfl
    | cons n rest ih =>
      exact fun b others => (ih _ fun n mem => others n (List.mem_cons_of_mem _ mem)).trans
        (Bus.leaveBindings (others n List.mem_cons_self))
  exact (left nodes _ others).trans (detachBindings nodes b p)

/-! ### Calls that ask for nothing -/

inductive Directory.Kept (d : Directory K) (b b' : Bus) (ctx : ContextId) (k : Handle .node) (n : NodeRecord) : Prop
  | old {n₀ : NodeRecord} (before : d.node ctx k = some n₀) (same : n₀.participant = n.participant)
    (bindings : Bindings.of b' n.participant = Bindings.of b n.participant) : Kept d b b' ctx k n
  | new (vacant : d.node ctx k = none) (bindings : Bindings.of b' n.participant = .empty) : Kept d b b' ctx k n

theorem Directory.bindingsKept (kept : ∀ n, d'.node ctx k = some n → d.Kept b b' ctx k n) :
    d'.bindings b' ctx k = if (d'.node ctx k).isSome then d.bindings b ctx k else .empty := by
  cases found : d'.node ctx k with
  | none => exact bindingsAbsent found
  | some n =>
    rw [bindingsFound found, Option.isSome_some, if_pos rfl]
    cases kept n found with
    | old before same bindings => rw [bindingsFound before, same, bindings]
    | new vacant bindings => rw [bindingsAbsent vacant, bindings]

namespace Linked

theorem nodeCreationBindings (h : Linked b (.of t)) (known : t.get? ctx = some c) {name : String}
    {new : Option (Handle .node)} (how : Site.NodeCreation ⟨b, observed, c⟩ name new s')
    (found : (Directory.of (t.insert ctx s'.context)).node ctx' k = some n) :
    (Directory.of t).Kept b s'.bus ctx' k n := by
  cases how with
  | refused =>
    rw [Directory.ofSame known (.refl c)] at found
    exact .old found rfl rfl
  | @full n' a c' joined sound same =>
    rw [Directory.ofSame known same] at found
    -- who has come and gone was nobody's participant
    have newcomer : n.participant ≠ n'.participant := by
      obtain ⟨_, _, own, _⟩ := joinRetains h.membersAgree joined
      exact own ▸ Nat.ne_of_lt (h.newcomer found)
    refine .old found rfl ((Bus.leaveBindings newcomer).trans ?_)
    rw [joinedBindings joined, if_neg newcomer]
  | @nodeAdded n' a k' c' joined sound addsNode =>
    have vacant : (Directory.of t).node ctx k' = none := ((Directory.ofKnown known).2.1 k').trans addsNode.fresh
    rw [Directory.ofAddsNode known addsNode] at found
    rcases (Directory.setNodeNode vacant).1 found with ⟨rfl, rfl, rfl⟩ | old
    · refine .new vacant ?_
      rw [joinedBindings joined, if_pos rfl]
    · have newcomer : n.participant ≠ n'.participant := by
        obtain ⟨_, _, own, _⟩ := joinRetains h.membersAgree joined
        exact own ▸ Nat.ne_of_lt (h.newcomer old)
      refine .old old rfl ?_
      rw [joinedBindings joined, if_neg newcomer]

theorem nodeDestructionBindings (h : Linked b (.of t)) (known : t.get? ctx = some c) {gone : Option (Handle .node)}
    (how : Site.NodeDestruction ⟨b, observed, c⟩ gone s')
    (found : (Directory.of (t.insert ctx s'.context)).node ctx' k = some n) :
    (Directory.of t).Kept b s'.bus ctx' k n := by
  cases how with
  | refused =>
    rw [Directory.ofSame known (.refl c)] at found
    exact .old found rfl rfl
  | @parted k' n' c' idle sound removesNode =>
    rw [Directory.ofRemovesNode known removesNode] at found
    obtain ⟨other, before⟩ := Directory.clearNode.1 found
    have held := ((Directory.ofKnown known).2.1 k').trans removesNode.held
    exact .old before rfl (Bus.leaveBindings fun same => other (h.apart _ _ _ _ _ _ before held same))

theorem releasingBindings (known : t.get? ctx = some c) {side : Side} {ref : Option EndpointRef}
    (how : Site.Releases ⟨b, observed, c⟩ side ref s')
    (found : (Directory.of (t.insert ctx s'.context)).node ctx' k = some n) :
    (Directory.of t).Kept b s'.bus ctx' k n := by
  have counted {r : EndpointEntry K} {ref : EndpointRef} {c' : Context K} (givesUp : c.GivesUp ref r c')
      (found : (Directory.of (t.insert ctx c')).node ctx' k = some n) :
      ∃ n₀, (Directory.of t).node ctx' k = some n₀ ∧ n₀.participant = n.participant := by
    rw [Directory.ofGivesUp known givesUp] at found
    obtain ⟨n₀, before, rfl⟩ := Directory.countNode.1 found
    exact ⟨n₀, before, by split <;> rfl⟩
  cases how with
  | refused =>
    rw [Directory.ofSame known (.refl c)] at found
    exact .old found rfl rfl
  | orphaned ref own absent sound givesUp =>
    obtain ⟨n₀, before, same⟩ := counted givesUp found
    exact .old before same rfl
  | released ref own live sound givesUp =>
    obtain ⟨n₀, before, same⟩ := counted givesUp found
    exact .old before same (Bus.takeDownBindings ..)

variable {asked : TypeSupport K → String → Prop}

theorem stepBindings (h : Linked b (.of t)) (step : System.Step asked b t b' t')
    (unasked : ∀ ts topic, ¬ asked ts topic)
    (found : (Directory.of t').node ctx k = some n) : (Directory.of t).Kept b b' ctx k n := by
  cases step with
  | idle waits => exact .old found rfl (Bindings.ofSame waits.participants _)
  | opened new sound bare unstaked =>
    rw [Directory.ofOpened new bare unstaked] at found
    exact .old found rfl rfl
  | @closed ctx' c known =>
    rw [Directory.ofErase] at found
    obtain ⟨other, before⟩ := Directory.shutNode.1 found
    refine .old before rfl (dismissBindings (fun n' mem same => ?_) b)
    obtain ⟨k', there⟩ := Arena.memValues.1 mem
    exact other (h.apart _ _ _ _ _ _ before (((Directory.ofKnown known).2.1 k').trans there) same).1
  | @acted ctx' c observed s' known siteStep =>
    cases siteStep with
    | aside how =>
      cases how with
      | quiet calm same sound =>
        rw [Directory.ofSame known same] at found
        exact .old found rfl (Bus.movesBindings (fun _ _ calm => by rw [calm]; rfl) calm _)
      | addsNode how => exact h.nodeCreationBindings known how found
      | removesNode how => exact h.nodeDestructionBindings known how found
    | grants names how => exact absurd names (unasked _ _)
    | releases how => exact releasingBindings known how found
    | writes w payload =>
      rw [Directory.ofSame known (.refl c)] at found
      exact .old found rfl (Bus.requestBindings rfl _)
    | takes ref own held m =>
      rw [Directory.ofSame known (.refl c)] at found
      refine .old found rfl (Bus.runBindings (fun q mem => ?_) _)
      cases List.eq_of_mem_replicate mem
      rfl

end Linked

/-! ### Calls that ask for a topic -/

def TypeSupport.asked (ts : TypeSupport K) (topic : String) (d : Bindings) : Bindings :=
  (ts.enrolled d).settle topic ts.type

namespace Site

theorem checkedNamed {node : Handle .node} {ts : TypeSupport K} {topic : String}
    (ok : checkRequest node ts topic = .ok ()) : topic ≠ "" := by
  rintro rfl
  unfold checkRequest at ok
  cases checked : node.check with
  | error f =>
    rw [checked] at ok
    cases ok
  | ok _ =>
    rw [checked] at ok
    cases ok

theorem prepareAsks (s : Site K) (node : Handle .node) (ts : TypeSupport K) (topic : String) :
    (∃ f, (checkRequest node ts topic = .error f ∨ checkRequest node ts topic = .ok () ∧ s.node node = .error f) ∧
      s.prepare node ts topic = (s, .error f)) ∨
    ∃ n, checkRequest node ts topic = .ok () ∧ s.context.nodes.find? node = some n ∧
      s.prepare node ts topic = ({ s with bus := (bindTopic s.bus n.participant ts topic).1 },
        (bindTopic s.bus n.participant ts topic).2.map (n.participant, ·)) := by
  unfold prepare
  cases checkRequest node ts topic with
  | error f => exact .inl ⟨f, .inl rfl, rfl⟩
  | ok _ =>
    cases got : s.node node with
    | error f => exact .inl ⟨f, .inr ⟨rfl, rfl⟩, rfl⟩
    | ok n => exact .inr ⟨n, rfl, Arena.getExact.1 got, rfl⟩

theorem createEndpointBindings (s : Site K) (side : Side) (node : Handle .node) (ts : TypeSupport K) (topic : String)
    (history : History) (p : InstanceHandle) : Bindings.of (s.createEndpoint side node ts topic history).1.bus p =
      Bindings.of (s.prepare node ts topic).1.bus p := by
  unfold createEndpoint
  split
  · rename_i prepared
    rw [prepared]
  · rename_i a owner t prepared
    rw [prepared]
    rcases openEndpointOpens a.bus owner t history side with ⟨_, f, refused⟩ | ⟨_, opened⟩
    · rw [refused]
    · rw [opened]
      dsimp only
      split
      · exact (Bus.takeDownBindings ..).trans (Bus.putUpBindings ..)
      · exact Bus.putUpBindings ..

theorem createPublisherBindings (s : Site K) (node : Handle .node) (ts : TypeSupport K) (topic : String)
    (p : InstanceHandle) :
    Bindings.of (s.createPublisher node ts topic).1.bus p = Bindings.of (s.prepare node ts topic).1.bus p := by
  have bindings := createEndpointBindings s .publication node ts topic .standard p
  rwa [createEndpointPublisher] at bindings

theorem createSubscriptionBindings (s : Site K) (node : Handle .node) (ts : TypeSupport K) (topic : String)
    (size : Nat) (p : InstanceHandle) :
    Bindings.of (s.createSubscription node ts topic size).1.bus p = Bindings.of (s.prepare node ts topic).1.bus p := by
  have bindings := createEndpointBindings s .subscription node ts topic (queueHistory size) p
  rwa [createEndpointSubscription] at bindings

end Site

theorem grantsParticipants (known : t.get? ctx = some c) {side : Side} {node : Handle .node} {ts : TypeSupport K}
    {topic : String} {history : History} {ref : Option EndpointRef}
    (how : Site.Grants ⟨b, observed, c⟩ side node ts topic history s' ref) (ctx' : ContextId) (k : Handle .node) :
    ((Directory.of (t.insert ctx s'.context)).node ctx' k).map (·.participant) =
      ((Directory.of t).node ctx' k).map (·.participant) := by
  cases how with
  | refused | bound | full => rw [Directory.ofSame known (.refl c)]
  | granted found binds named there own sound enters =>
    rw [Directory.ofEnters known enters]
    simp only [Directory.enter, Directory.setEntry, Directory.count]
    split
    · rename_i own
      rw [own.1, own.2, Option.map_map]
      rfl
    · rfl

theorem grantingBindings (linked : Linked b (.of t)) (known : t.get? ctx = some c) {side : Side}
    {node : Handle .node} {ts : TypeSupport K} {topic : String} {history : History} {ref : Option EndpointRef}
    (how : Site.Grants ⟨b, observed, c⟩ side node ts topic history s' ref)
    (bindings : ∀ p, Bindings.of s'.bus p = Bindings.of (Site.prepare ⟨b, observed, c⟩ node ts topic).1.bus p)
    (ctx' : ContextId) (k : Handle .node) :
    (Directory.of (t.insert ctx s'.context)).bindings s'.bus ctx' k =
      if (ctx' = ctx ∧ k = node) ∧ (Site.checkRequest node ts topic).isOk ∧
          ((Directory.of t).node ctx node).isSome then
        ts.asked topic ((Directory.of t).bindings b ctx node)
      else (Directory.of t).bindings b ctx' k := by
  rw [Directory.bindings, grantsParticipants known how, funext bindings]
  have node' := (Directory.ofKnown known).2.1 node
  rcases Site.prepareAsks ⟨b, observed, c⟩ node ts topic with ⟨f, why, prepared⟩ | ⟨n, checked, found, prepared⟩
  · rw [prepared, if_neg]
    · rfl
    · rintro ⟨_, checked, live⟩
      obtain ⟨n, there⟩ := Option.isSome_iff_exists.1 live
      rcases why with refused | ⟨_, gone⟩
      · rw [refused] at checked
        cases checked
      · cases gone.symm.trans (Arena.getExact.2 (node'.symm.trans there))
  · have own : (Directory.of t).node ctx node = some n := node'.trans found
    rw [prepared]
    dsimp only
    by_cases here : ctx' = ctx ∧ k = node
    · obtain ⟨rfl, rfl⟩ := here
      obtain ⟨x, there, _⟩ := linked.nodeAdded ctx' k n own
      rw [if_pos ⟨⟨rfl, rfl⟩, checked ▸ rfl, own ▸ rfl⟩, Directory.bindingsFound own, own]
      exact (Site.bindTopicBindings there ts (Site.checkedNamed checked)).2
    · rw [if_neg fun both => here both.1, Directory.bindings]
      cases other : (Directory.of t).node ctx' k with
      | none => rfl
      | some n' =>
        have apart : n'.participant ≠ n.participant := fun same => here (linked.apart _ _ _ _ _ _ other own same)
        exact (congrArg (Bindings.of · _) (Site.bindTopicRuns ..)).trans (Site.bindTopicOther apart ts topic)

end Databus.Middleware
