import Databus.Proofs.NodeEntry
import Databus.Proofs.RecordLinks

/-! Every call keeps records and the bus linked, whether it is granted, refused or undone half-way. So after any
calls each record has its own parent and endpoint, nothing else is there, and releasing never fails. -/
namespace Databus

def Bus.Releasable (b : Bus) (side : Side) (p g k : InstanceHandle) : Prop :=
  ∃ b' b'', b.deleteChild g k side = .ok b' ∧ b'.deleteGroup p g = .ok b''

namespace Middleware

open Bus (Departed Retains Steady)

variable {K : Type}

theorem detachSteady (b : Bus) (n : NodeRecord) : Steady b (System.detachListeners b n) := by
  unfold System.detachListeners
  split
  · rename_i x found
    exact (Steady.setListener b x.publications none).trans (.setListener _ x.subscriptions none)
  · exact .refl b

theorem dismissDeparted {b : Bus} (membersAgree : b.MembersAgree) (nodes : List NodeRecord) :
    (System.dismiss b nodes).MembersAgree ∧
      Departed b (fun p => ∃ n ∈ nodes, n.participant = p) (System.dismiss b nodes) := by
  have detached : ∀ (l : List NodeRecord) (b : Bus), Steady b (l.foldl System.detachListeners b) :=
    fun l => by
      induction l with
      | nil => exact .refl
      | cons n rest ih => exact fun b => (detachSteady b n).trans (ih _)
  have left : ∀ (l : List NodeRecord) (b : Bus), b.MembersAgree →
      (l.foldl (fun b n => b.leave n.participant) b).MembersAgree ∧
        Departed b (fun p => ∃ n ∈ l, n.participant = p)
          (l.foldl (fun b n => b.leave n.participant) b) := fun l => by
    induction l with
    | nil => exact fun b h => ⟨h, .weaken (.steady (.refl b)) (by simp)⟩
    | cons n rest ih =>
      intro b h
      obtain ⟨membersAgree, departed⟩ := ih _ (Bus.membersAgreeRequest h (.leave n.participant))
      refine ⟨membersAgree, .weaken (.trans (Departed.leave h n.participant) departed) fun p => ?_⟩
      simp only [List.mem_cons, or_and_right, exists_or, exists_eq_left, eq_comm (a := p)]
  -- all stop listening before the first one leaves
  have silent := detached nodes b
  obtain ⟨membersAgree', departed⟩ := left nodes _ (membersAgree.steady silent)
  exact ⟨membersAgree', .weaken (.trans (.steady silent) departed) fun p => iff_of_eq (false_or _)⟩

theorem bindingRetains {b : Bus} (membersAgree : b.MembersAgree) (p : InstanceHandle) (ts : TypeSupport K)
    (topic : String) : (b.run (Site.binding p ts topic)).MembersAgree ∧
      Retains b (b.run (Site.binding p ts topic)) := by
  refine Retains.moves membersAgree (Bus.movesRun ?_)
  unfold Site.binding
  split
  · exact ⟨rfl, rfl, trivial⟩
  · exact ⟨rfl, trivial⟩

theorem joinRetains {b b' : Bus} (membersAgree : b.MembersAgree) {name : String} {domain : DomainId}
    {n : NodeRecord} (joined : Site.joinNode b name domain = .ok (n, b')) :
    b'.MembersAgree ∧ Retains b b' ∧ n.participant = b.nextHandle ∧ n.endpoints = 0 ∧
      ∃ x, b'.participants.get? n.participant = some x ∧ x.domain = domain ∧ x.groups = [] := by
  obtain ⟨fits, _, idle, watch, rfl⟩ := Site.joinNodeOpens joined
  have participant : n.participant = b.nextHandle := congrArg NodeWatch.participant watch
  have join : Retains b (b.request (.join domain)) := .request membersAgree rfl
  have arrived : (b.request (.join domain)).participants.get? n.participant = some
      { domain, publications := b.nextHandle + 1, subscriptions := b.nextHandle + 2 } := by
    rw [(Bus.requestSteady b (.join domain)).traffic.participants, Request.openingJoin b fits,
      participant]
    exact (Bus.welcomeParticipants b domain b.nextHandle).trans (if_pos rfl)
  have mild : Bus.Allowed (fun _ q => q.isMild) (b.request (.join domain))
      (Site.equip n.watch (b.newMember domain)) := ⟨rfl, rfl, rfl, rfl, rfl, rfl, rfl, rfl, trivial⟩
  obtain ⟨membersAgree', equipped⟩ := Retains.moves (Bus.membersAgreeRequest membersAgree (.join domain))
    (Bus.movesRun mild)
  obtain ⟨x, there, domain', groups⟩ := equipped.participants _ _ arrived
  exact ⟨membersAgree', join.trans equipped, participant, idle, x, there, domain', groups⟩

namespace Linked

variable {b b' : Bus} {t t' : Table ContextId (Context K)} {ctx : ContextId} {c : Context K}
  {s' : Site K} {observed : List ConditionId} {names : TypeSupport K → String → Prop}

theorem put (h : Linked b (.of t)) (known : t.get? ctx = some c) :
    Linked b (.of (t.insert ctx c)) := by
  rw [Directory.ofSame known (.refl c)]
  exact h

theorem newcomer (h : Linked b (.of t)) {ctx' : ContextId} {k : Handle .node} {n : NodeRecord}
    (found : (Directory.of t).node ctx' k = some n) : n.participant < b.nextHandle := by
  obtain ⟨x, there, _⟩ := h.nodeAdded ctx' k n found
  refine Nat.not_le.1 fun new => ?_
  exact nomatch (h.membersAgree.fresh new).2.1.symm.trans there

theorem nodeCreation (h : Linked b (.of t)) (known : t.get? ctx = some c) {name : String}
    {k : Option (Handle .node)} (how : Site.NodeCreation ⟨b, observed, c⟩ name k s') :
    Linked s'.bus (.of (t.insert ctx s'.context)) := by
  cases how with
  | refused => exact h.put known
  | @full n b' c' joined sound same =>
    obtain ⟨membersAgree, retains, participant, _⟩ := joinRetains h.membersAgree joined
    rw [Directory.ofSame known same]
    refine (h.retain membersAgree retains).bereave (Bus.membersAgreeRequest membersAgree (.leave n.participant))
      (Departed.leave membersAgree n.participant) ⟨fun _ _ _ _ => rfl, fun ctx' k' n' => ?_, fun ctx' ref r => ?_⟩
    · exact ⟨fun found => ⟨found, participant ▸ Nat.ne_of_lt (h.newcomer found)⟩, And.left⟩
    · exact ⟨fun found => ⟨found, fun n' node => participant ▸ Nat.ne_of_lt (h.newcomer node)⟩, And.left⟩
  | @nodeAdded n b' k c' joined sound addsNode =>
    obtain ⟨membersAgree, retains, participant, idle, x, there, domain, bare⟩ := joinRetains h.membersAgree joined
    obtain ⟨domain', node, _⟩ := Directory.ofKnown known
    rw [Directory.ofAddsNode known addsNode]
    refine (h.retain membersAgree retains).lodge ((node k).trans addsNode.fresh) there (domain ▸ domain') bare idle
      fun ctx' k' n' found => ?_
    exact participant ▸ Nat.ne_of_lt (h.newcomer found)

theorem nodeDestruction (h : Linked b (.of t)) (known : t.get? ctx = some c) {k : Option (Handle .node)}
    (how : Site.NodeDestruction ⟨b, observed, c⟩ k s') : Linked s'.bus (.of (t.insert ctx s'.context)) := by
  cases how with
  | refused => exact h.put known
  | @parted k n _ idle _ removesNode =>
    rw [Directory.ofRemovesNode known removesNode]
    have own : (Directory.of t).node ctx k = some n :=
      ((Directory.ofKnown known).2.1 k).trans removesNode.held
    have alone : ∀ {ctx' k' n'}, (Directory.of t).node ctx' k' = some n' →
        n'.participant = n.participant → ctx' = ctx ∧ k' = k :=
      fun found same => h.apart _ _ _ _ _ _ found own same
    refine h.bereave (Bus.membersAgreeRequest h.membersAgree (.leave n.participant))
      (Departed.leave h.membersAgree n.participant) ⟨fun _ _ _ _ => rfl, fun ctx' k' n' => ?_, fun ctx' ref r => ?_⟩
    · rw [Directory.clearNode, and_comm]
      refine and_congr_right fun found => not_congr ⟨fun here => ?_, alone found⟩
      rw [here.1, here.2, own] at found
      exact (congrArg NodeRecord.participant (Option.some.inj found)).symm
    · refine ⟨fun found => ⟨found, fun n' node same => ?_⟩, And.left⟩
      -- a node that counts no endpoints has no parent in its participant's list
      obtain ⟨rfl, here⟩ := alone node same
      obtain ⟨n'', _, node', _, _, ownsEndpoint⟩ := h.ownsEndpoint ctx' ref r found
      rw [here] at node'
      cases Option.some.inj (own.symm.trans node')
      obtain ⟨x, there, _, _, count⟩ := h.nodeAdded ctx' k n own
      obtain ⟨y, there', _, mem⟩ := ownsEndpoint.listed
      cases Option.some.inj (there.symm.trans there')
      rw [idle, List.length_eq_zero_iff] at count
      rw [count] at mem
      cases mem

theorem aside (h : Linked b (.of t)) (known : t.get? ctx = some c)
    (how : Site.Aside ⟨b, observed, c⟩ s') : Linked s'.bus (.of (t.insert ctx s'.context)) := by
  cases how with
  | quiet calm same sound =>
    obtain ⟨membersAgree, retains⟩ := Retains.moves h.membersAgree
      (Bus.movesWeaken (fun _ _ calm => by rw [calm]; rfl) calm)
    rw [Directory.ofSame known same]
    exact h.retain membersAgree retains
  | addsNode how => exact h.nodeCreation known how
  | removesNode how => exact h.nodeDestruction known how

theorem granting (h : Linked b (.of t)) (known : t.get? ctx = some c) {side : Side}
    {node : Handle .node} {ts : TypeSupport K} {topic : String} {history : History}
    {ref : Option EndpointRef} (how : Site.Grants ⟨b, observed, c⟩ side node ts topic history s' ref) :
    Linked s'.bus (.of (t.insert ctx s'.context)) := by
  have bound : ∀ n : NodeRecord, Linked (b.run (Site.binding n.participant ts topic)) (.of t) :=
    fun n => by
      obtain ⟨membersAgree, retains⟩ := bindingRetains h.membersAgree n.participant ts topic
      exact h.retain membersAgree retains
  cases how with
  | refused => exact h.put known
  | bound found => exact (bound _).put known
  | @full n _ t' x found binds named there =>
    subst binds
    have bound := bound n
    have up := Bus.putUpMakes side there t' history
    obtain ⟨_, _, _, down⟩ := Bus.takeDownRuns (up.ownsEndpoint there)
    refine (bound.retain (Bus.membersAgreeRun (Bus.membersAgreeRun bound.membersAgree _) _) ?_).put known
    exact Bus.retainsUndone bound.membersAgree there (bound.groupsOld there) up down
  | @granted n _ t' x ref _ found binds named there own sound enters =>
    subst binds own
    obtain ⟨_, nodes, entries⟩ := Directory.ofKnown known
    rw [Directory.ofEnters known enters]
    have entry : Entry (b.run (Site.binding n.participant ts topic)) _ (.of t) ctx ref
        ⟨node, ts, t', _, _⟩ n x history :=
      { node := (nodes node).trans found
        found := there
        puts := Bus.putUpMakes ref.side there t' history
        vacant := (entries ref).trans enters.fresh
        group := rfl
        endpoint := rfl }
    exact entry.linked (bound n) (Bus.membersAgreeRun (bound n).membersAgree _) named.2

theorem releasing (h : Linked b (.of t)) (known : t.get? ctx = some c) {side : Side}
    {ref : Option EndpointRef} (how : Site.Releases ⟨b, observed, c⟩ side ref s') :
    Linked s'.bus (.of (t.insert ctx s'.context)) := by
  obtain ⟨_, nodes, entries⟩ := Directory.ofKnown known
  cases how with
  | refused => exact h.put known
  | orphaned ref own absent sound givesUp =>
    obtain ⟨_, _, node, _⟩ := h.ownsEndpoint ctx ref _ ((entries ref).trans givesUp.held)
    exact nomatch absent.symm.trans ((nodes _).symm.trans node)
  | @released ref r n _ own found sound givesUp =>
    subst own
    have held := (entries ref).trans givesUp.held
    obtain ⟨n', _, node, _, _, ownsEndpoint⟩ := h.ownsEndpoint ctx ref r held
    cases Option.some.inj (found.symm.trans ((nodes _).symm.trans node))
    obtain ⟨_, _, _, down⟩ := Bus.takeDownRuns ownsEndpoint
    rw [Directory.ofGivesUp known givesUp]
    exact Removal.linked ⟨held, node, down⟩ h (Bus.membersAgreeRun h.membersAgree _)

theorem siteStep (h : Linked b (.of t)) (known : t.get? ctx = some c)
    (siteStep : Site.SiteStep names ⟨b, observed, c⟩ s') : Linked s'.bus (.of (t.insert ctx s'.context)) := by
  cases siteStep with
  | aside how => exact h.aside known how
  | grants asked how => exact h.granting known how
  | releases how => exact h.releasing known how
  | writes w payload =>
    exact (h.retain (Bus.membersAgreeRequest h.membersAgree (.write w payload)) (.request h.membersAgree rfl)).put known
  | @takes ref r own held n =>
    have steady : ∀ (n : Nat) (b : Bus), Steady b (b.run (List.replicate n (.take r.endpoint))) :=
        fun n => by
      induction n with
      | zero => exact .refl
      | succ n ih => exact fun b => (Bus.takeAffects (z := .all) trivial).steady.trans (ih _)
    exact (h.retain (h.membersAgree.steady (steady n b)) (.steady (steady n b))).put known

theorem step (h : Linked b (.of t)) (step : System.Step names b t b' t') : Linked b' (.of t') := by
  cases step with
  | idle waits => exact h.retain (h.membersAgree.waits waits) (.waits waits)
  | @opened ctx c new sound bare unstaked =>
    rw [Directory.ofOpened new bare unstaked]
    refine h.bereave h.membersAgree (.steady (.refl b)) ⟨fun ctx' k n found => if_neg fun own => ?_,
      fun _ _ _ => ⟨fun found => ⟨found, id⟩, And.left⟩,
      fun _ _ _ => ⟨fun found => ⟨found, fun _ _ => id⟩, And.left⟩⟩
    subst own
    simp only [Directory.setDomain, Directory.of, new] at found
    cases found
  | @closed ctx c known =>
    rw [Directory.ofErase]
    obtain ⟨membersAgree, departed⟩ := dismissDeparted h.membersAgree c.nodes.values
    have node := (Directory.ofKnown known).2.1
    have leaves : ∀ {ctx' k n}, (Directory.of t).node ctx' k = some n →
        ((∃ n' ∈ c.nodes.values, n'.participant = n.participant) ↔ ctx' = ctx) :=
        fun {ctx' k n} found => by
      constructor
      · rintro ⟨n', mem, same⟩
        obtain ⟨k', there⟩ := Arena.memValues.1 mem
        exact (h.apart _ _ _ _ _ _ ((node k').trans there) found same).1.symm
      · rintro rfl
        exact ⟨n, Arena.memValues.2 ⟨k, (node k).symm.trans found⟩, rfl⟩
    refine h.bereave membersAgree departed ⟨fun ctx' k n found => if_neg fun own => ?_, fun ctx' k n => ?_,
      fun ctx' ref r => ?_⟩
    · exact absurd own (Directory.shutNode.1 found).1
    · rw [Directory.shutNode, and_comm]
      exact and_congr_right fun found => not_congr (leaves found).symm
    · rw [Directory.shutEntry, and_comm]
      refine and_congr_right fun found => ⟨fun other n node away => other ((leaves node).1 away), ?_⟩
      intro stays own
      obtain ⟨n, _, node, _⟩ := h.ownsEndpoint ctx' ref r found
      exact stays n node ((leaves node).2 own)
  | acted known siteStep => exact h.siteStep known siteStep

variable [Catalog K] [DecidableEq K]

theorem serveAll {s : System K} (sound : s.Sound) (h : Linked s.bus (.of s.contexts))
    (calls : List (Call K)) : Linked (s.serveAll calls).bus (.of (s.serveAll calls).contexts) := by
  induction calls generalizing s with
  | nil => exact h
  | cons call rest ih =>
    exact ih (System.serveSound sound call) (h.step (System.serveSteps sound call).1)

end Linked

/-! ### Records -/

structure Upheld (b : Bus) (c : Context K) (ref : EndpointRef) (r : EndpointEntry K) (n : NodeRecord) : Prop where
  node : c.nodes.find? r.node = some n
  type : r.topic.type = qualifiedName r.support.package r.support.message
  registered : b.endpoints.get? r.endpoint =
    some ⟨ref.side, c.settings.domain, n.participant, r.topic.name, r.topic.type⟩
  parent : b.groups.get? r.group =
    some ⟨ref.side, n.participant, c.settings.domain, [r.endpoint], false⟩
  listed : ∃ x, b.participants.get? n.participant = some x ∧ x.domain = c.settings.domain ∧
    r.group ∈ x.groups
  releasable : b.Releasable ref.side n.participant r.group r.endpoint

def System.Holds (s : System K) (ctx : ContextId) (ref : EndpointRef) (r : EndpointEntry K) : Prop :=
  ∃ c, s.contexts.get? ctx = some c ∧ c.findEntry ref = some r

structure Corresponds (s : System K) : Prop where
  records : ∀ ctx c ref r, s.contexts.get? ctx = some c → c.findEntry ref = some r →
    ∃ n, Upheld s.bus c ref r n
  endpoints : ∀ k e, s.bus.endpoints.get? k = some e →
    ∃ ctx ref, (∃ r, s.Holds ctx ref r ∧ r.endpoint = k) ∧
      ∀ ctx' ref' r', s.Holds ctx' ref' r' → r'.endpoint = k → ctx' = ctx ∧ ref' = ref
  parents : ∀ ctx c h n x g, s.contexts.get? ctx = some c → c.nodes.find? h = some n →
    s.bus.participants.get? n.participant = some x → g ∈ x.groups →
    ∃ ref, (∃ r, s.Holds ctx ref r ∧ r.group = g ∧ r.node = h) ∧
      ∀ ctx' ref' r', s.Holds ctx' ref' r' → r'.group = g → ctx' = ctx ∧ ref' = ref
  contained : ∀ ctx c h n, s.contexts.get? ctx = some c → c.nodes.find? h = some n →
    (s.bus.hasContained n.participant = true ↔ ∃ ref r, c.findEntry ref = some r ∧ r.node = h)
  undone : ∀ ctx c h n, s.contexts.get? ctx = some c → c.nodes.find? h = some n →
    ∀ (ts : TypeSupport K) (topic : String) (t : Topic) (history : History) (b : Bus)
      (g k : InstanceHandle),
      (Site.openWriter (Site.bindTopic s.bus n.participant ts topic).1 n.participant t =
        (b, .ok (g, k)) → b.Releasable .publication n.participant g k) ∧
      (Site.openReader (Site.bindTopic s.bus n.participant ts topic).1 n.participant t history =
        (b, .ok (g, k)) → b.Releasable .subscription n.participant g k)

theorem ownsEndpointReleasable {b : Bus} {side : Side} {p g k : InstanceHandle} {d : DomainId} {t : Topic}
    (h : b.OwnsEndpoint side p d t g k) : b.Releasable side p g k := by
  obtain ⟨b', deleted, deleted', _⟩ := Bus.takeDownRuns h
  exact ⟨b', _, deleted, deleted'⟩

theorem putUpReleasable {b : Bus} {side : Side} {p : InstanceHandle} {x : Participant}
    (found : b.participants.get? p = some x) (t : Topic) (history : History) :
    (b.putUp side p t history).Releasable side p b.nextHandle (b.nextHandle + 1) :=
  ownsEndpointReleasable ((Bus.putUpMakes side found t history).ownsEndpoint found)

theorem holdsEntry {s : System K} {ctx : ContextId} {ref : EndpointRef} {r : EndpointEntry K} :
    s.Holds ctx ref r ↔ (Directory.of s.contexts).entry ctx ref = some r :=
  Option.bind_eq_some_iff.symm

theorem linkedCorresponds {s : System K} (h : Linked s.bus (.of s.contexts)) : Corresponds s where
  records ctx c ref r known held := by
    obtain ⟨own, nodes, entries⟩ := Directory.ofKnown known
    have entry := (entries ref).trans held
    obtain ⟨n, domain, node, domain', _, ownsEndpoint⟩ := h.ownsEndpoint ctx ref r entry
    cases Option.some.inj (domain'.symm.trans own)
    exact ⟨n, (nodes _).symm.trans node, h.typed ctx ref r entry, ownsEndpoint.endpoint, ownsEndpoint.group,
      ownsEndpoint.listed, ownsEndpointReleasable ownsEndpoint⟩
  endpoints k e found := by
    obtain ⟨ctx, ref, r, entry, own⟩ := h.owned k e found
    refine ⟨ctx, ref, ⟨r, holdsEntry.2 entry, own⟩, fun ctx' ref' r' holds own' => ?_⟩
    exact h.sole _ _ _ _ _ _ (holdsEntry.1 holds) entry (own'.trans own.symm)
  parents ctx c k n x g known live found mem := by
    have node := ((Directory.ofKnown known).2.1 k).trans live
    obtain ⟨ctx', ref, r, n', entry, group, node', same⟩ := h.listed _ x g found mem
    obtain ⟨rfl, rfl⟩ := h.apart _ _ _ _ _ _ node' node same
    refine ⟨ref, ⟨r, holdsEntry.2 entry, group, rfl⟩, fun ctx'' ref' r' holds group' => ?_⟩
    exact h.soleGroup (holdsEntry.1 holds) entry (group'.trans group.symm)
  contained ctx c k n known live := by
    obtain ⟨_, nodes, entries⟩ := Directory.ofKnown known
    have node := (nodes k).trans live
    obtain ⟨x, found, _⟩ := h.nodeAdded ctx k n node
    simp only [Bus.hasContained, found]
    constructor
    · intro some
      obtain ⟨g, mem⟩ := List.exists_mem_of_ne_nil x.groups (by simpa using some)
      obtain ⟨ctx', ref, r, n', entry, _, node', same⟩ := h.listed _ x g found mem
      obtain ⟨rfl, rfl⟩ := h.apart _ _ _ _ _ _ node' node same
      exact ⟨ref, r, (entries ref).symm.trans entry, rfl⟩
    · rintro ⟨ref, r, held, rfl⟩
      obtain ⟨n', _, node', _, _, ownsEndpoint⟩ := h.ownsEndpoint ctx ref r ((entries ref).trans held)
      cases Option.some.inj (node'.symm.trans node)
      obtain ⟨y, found', _, mem⟩ := ownsEndpoint.listed
      cases Option.some.inj (found'.symm.trans found)
      simpa using List.ne_nil_of_mem mem
  undone ctx c k n known live ts topic t history b g k' := by
    rw [Site.bindTopicRuns]
    have releasable (side : Side) (ok : Site.openEndpoint (s.bus.run (Site.binding n.participant ts topic)) n.participant t
        history side = (b, .ok (g, k'))) : b.Releasable side n.participant g k' := by
      rcases Site.openEndpointOpens (s.bus.run (Site.binding n.participant ts topic)) n.participant t history side with
        ⟨_, f, refused⟩ | ⟨⟨x, found⟩, opened⟩
      · cases refused.symm.trans ok
      · cases opened.symm.trans ok
        exact putUpReleasable found t history
    exact ⟨releasable .publication, releasable .subscription⟩

/-- After any calls, granted or refused, records and the bus match. -/
theorem recordsCorrespond [Catalog K] [DecidableEq K] (calls : List (Call K)) :
    Corresponds (({} : System K).serveAll calls) :=
  linkedCorresponds (Linked.serveAll System.soundFresh .fresh calls)

end Middleware
end Databus
