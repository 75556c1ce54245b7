import Databus.Proofs.NodeDirectory
import Databus.Proofs.WatchFrame

/-! Every node's graph agrees with its domain after every operation: calls on any number of contexts and
requests of participants that applications hold themselves, in any order, keep each node's watch. -/
namespace Databus.Middleware

open Bus (Orderly Watched WatchesKept Moves)

variable {K : Type}

/-- Contexts beside the participants that applications hold themselves. -/
structure World (K : Type) where
  system : System K := {}
  own : List InstanceHandle := []
  deriving DecidableEq, Repr

inductive Act (K : Type) [Catalog K]
  | call (c : Call K)
  | ask (q : Request)

namespace World

def joined (w : World K) : Request → List InstanceHandle
  | .join domain =>
    match w.system.bus.join domain with
    | .ok (p, _) => p :: w.own
    | .error _ => w.own
  | _ => w.own

def ask (w : World K) (q : Request) : World K :=
  ⟨{ w.system with bus := w.system.bus.request q }, w.joined q⟩

def act [Catalog K] [DecidableEq K] (w : World K) : Act K → World K
  | .call c => { w with system := w.system.serve c }
  | .ask q => w.ask q

def run [Catalog K] [DecidableEq K] (w : World K) (acts : List (Act K)) : World K := acts.foldl act w

def Owns (w : World K) (r : InstanceHandle) : Prop :=
  ∃ x, w.system.bus.readers.get? r = some x ∧ x.participant ∈ w.own

def Short (topic type : String) : Prop := topic.utf8ByteSize < UInt32.size ∧ type.utf8ByteSize < UInt32.size

def MayAsk (w : World K) : Request → Prop
  | .leave p => p ∈ w.own
  | .createWriter _ t _ | .createReader _ t _ => Short t.name t.type
  | .take r => w.Owns r
  | .setListener r none => w.Owns r
  | .setListener r (some l) => w.Owns r ∧ ∃ s, w.system.bus.listeners.get? l = some (.scripted s)
  | .newListener (.scripted s) => s.isPlain
  | .newListener (.discovery _ _ _) | .newGraph | .drain _ _ _ _ => False
  | _ => True

def May [Catalog K] (w : World K) : Act K → Prop
  | .call c => ∀ ts topic, c.Names ts topic → Short topic (qualifiedName ts.package ts.message)
  | .ask q => w.MayAsk q

def Lawful [Catalog K] [DecidableEq K] (w : World K) : List (Act K) → Prop
  | [] => True
  | a :: rest => w.May a ∧ Lawful (w.act a) rest

def OwnRequest (w : World K) : Request → Prop
  | .createWriter _ _ _ | .createReader _ _ _ => True
  | q => w.MayAsk q

def Abides [Catalog K] (names : String → String → Prop) (w : World K) : Act K → Prop
  | .call c => ∀ ts topic, c.Names ts topic → names topic (qualifiedName ts.package ts.message)
  | .ask q => w.OwnRequest q ∧ q.Named names

theorem mayAbides [Catalog K] {w : World K} {a : Act K} (may : w.May a) : w.Abides Short a := by
  cases a with
  | call c => exact may
  | ask q => cases q <;> exact ⟨by trivial, by trivial⟩

end World

/-! ### The invariant -/

def Directory.Live (d : Directory K) (w : NodeWatch) : Prop := ∃ ctx h n, d.node ctx h = some n ∧ n.watch = w

structure Agrees (names : String → String → Prop) (b : Bus) (d : Directory K) (own : List InstanceHandle) :
    Prop where
  orderly : b.Orderly names
  watched : ∀ ctx h n, d.node ctx h = some n →
    ∃ m, b.Watched n.watch m ∧ d.domain ctx = some m.domain
  apart : ∀ ctx h n ctx' h' n', d.node ctx h = some n → d.node ctx' h' = some n' →
    n.participant = n'.participant → ctx = ctx' ∧ h = h'
  outer : ∀ ctx ref r, d.entry ctx ref = some r → b.Outer r.endpoint
  own : ∀ p ∈ own, p < b.nextHandle ∧ ∀ ctx h n, d.node ctx h = some n → n.participant ≠ p

namespace Agrees

variable {names : String → String → Prop} {b b' : Bus} {d d' : Directory K} {own : List InstanceHandle}

theorem fresh : Agrees names {} (Directory.of (.empty : Table ContextId (Context K))) [] :=
  ⟨Bus.orderlyEmpty, fun _ _ _ found => (nomatch found), fun _ _ _ _ _ _ found => (nomatch found),
    fun _ _ _ found => (nomatch found), fun _ mem => (nomatch mem)⟩

theorem member (h : Agrees names b d own) {ctx : ContextId} {k : Handle .node} {n : NodeRecord}
    (found : d.node ctx k = some n) : ∃ m, b.members.get? n.participant = some m := by
  obtain ⟨m, ⟨g, fed, _⟩, _⟩ := h.watched ctx k n found
  exact ⟨m, fed.member⟩

theorem old (h : Agrees names b d own) {ctx : ContextId} {k : Handle .node} {n : NodeRecord}
    (found : d.node ctx k = some n) : n.participant < b.nextHandle := by
  obtain ⟨m, member⟩ := h.member found
  exact h.orderly.membersAgree.old _ m member

theorem keep (h : Agrees names b d own) (peace : WatchesKept names d'.Live b b')
    (nodes : ∀ ctx k n', d'.node ctx k = some n' →
      ∃ n, d.node ctx k = some n ∧ n.watch = n'.watch ∧ d'.domain ctx = d.domain ctx)
    (entries : ∀ ctx ref r, d'.entry ctx ref = some r → b'.Outer r.endpoint) : Agrees names b' d' own where
  orderly := peace.orderly
  watched ctx k n' found := by
    obtain ⟨n, before, same, domain⟩ := nodes ctx k n' found
    obtain ⟨m, watched, own⟩ := h.watched ctx k n before
    rw [same] at watched
    exact ⟨m, peace.watched _ m ⟨ctx, k, n', found, rfl⟩ watched, domain.trans own⟩
  apart ctx k n' ctx' k' n'' found found' same := by
    obtain ⟨m, before, watch, _⟩ := nodes ctx k n' found
    obtain ⟨m', before', watch', _⟩ := nodes ctx' k' n'' found'
    refine h.apart ctx k m ctx' k' m' before before' ?_
    exact (congrArg NodeWatch.participant watch).trans (same.trans (congrArg NodeWatch.participant watch').symm)
  outer := entries
  own p mem := by
    obtain ⟨old, strange⟩ := h.own p mem
    refine ⟨Nat.lt_of_lt_of_le old peace.handles, fun ctx k n' found => ?_⟩
    obtain ⟨n, before, watch, _⟩ := nodes ctx k n' found
    exact fun same => strange ctx k n before ((congrArg NodeWatch.participant watch).trans same)

theorem same (h : Agrees names b d own) (peace : WatchesKept names d.Live b b') : Agrees names b' d own :=
  h.keep peace (fun _ _ n found => ⟨n, found, rfl, rfl⟩)
    fun ctx ref r found => peace.outer _ (h.outer ctx ref r found)

theorem lodge (h : Agrees names b d own) {ctx : ContextId} {k : Handle .node} {n : NodeRecord} {m : Member}
    (vacant : d.node ctx k = none) (watched : b.Watched n.watch m) (domain : d.domain ctx = some m.domain)
    (alone : ∀ ctx' k' n', d.node ctx' k' = some n' → n'.participant ≠ n.participant)
    (strange : ∀ p ∈ own, n.participant ≠ p) : Agrees names b (d.setNode ctx k (some n)) own := by
  have nodes : ∀ {ctx' k' n'}, (d.setNode ctx k (some n)).node ctx' k' = some n' →
      (ctx' = ctx ∧ k' = k ∧ n' = n) ∨ d.node ctx' k' = some n' := (Directory.setNodeNode vacant).1
  refine ⟨h.orderly, fun ctx' k' n' found => ?_, fun ctx' k' n' ctx'' k'' n'' found found' same => ?_,
    h.outer, fun p mem => ⟨(h.own p mem).1, fun ctx' k' n' found => ?_⟩⟩
  · rcases nodes found with ⟨rfl, _, rfl⟩ | old
    · exact ⟨m, watched, domain⟩
    · exact h.watched ctx' k' n' old
  · rcases nodes found with ⟨rfl, rfl, rfl⟩ | old <;>
      rcases nodes found' with ⟨rfl, rfl, rfl⟩ | old'
    · exact ⟨rfl, rfl⟩
    · exact absurd same.symm (alone _ _ _ old')
    · exact absurd same (alone _ _ _ old)
    · exact h.apart _ _ _ _ _ _ old old' same
  · rcases nodes found with ⟨_, _, rfl⟩ | old
    · exact strange p mem
    · exact (h.own p mem).2 ctx' k' n' old

/-! ### Calls -/

variable {t : Table ContextId (Context K)} {ctx : ContextId} {c : Context K} {s' : Site K}
  {observed : List ConditionId} {asked : TypeSupport K → String → Prop}

theorem put (h : Agrees names b (.of t) own) (known : t.get? ctx = some c) :
    Agrees names b (.of (t.insert ctx c)) own := by
  rw [Directory.ofSame known (.refl c)]
  exact h

theorem counted {d : Directory K} {k k' : Handle .node} {f : Nat → Nat} {ctx' : ContextId}
    {n' : NodeRecord} (found : (d.count ctx k f).node ctx' k' = some n') :
    ∃ n, d.node ctx' k' = some n ∧ n.watch = n'.watch := by
  obtain ⟨n, before, rfl⟩ := Directory.countNode.1 found
  exact ⟨n, before, by split <;> rfl⟩

theorem nodeCreation (h : Agrees names b (.of t) own) (known : t.get? ctx = some c) {name : String}
    {k : Option (Handle .node)} (how : Site.NodeCreation ⟨b, observed, c⟩ name k s') :
    Agrees names s'.bus (.of (t.insert ctx s'.context)) own := by
  have newcomer : ∀ {n b'}, Site.joinNode b name c.settings.domain = .ok (n, b') →
      n.participant = b.nextHandle ∧ b'.Watched n.watch (b.newMember c.settings.domain) ∧
        b.nextHandle < b'.nextHandle ∧ WatchesKept names (Directory.of t).Live b b' ∧
        ∀ ctx' k' n', (Directory.of t).node ctx' k' = some n' → n'.participant ≠ n.participant :=
      fun {n b'} joined => by
    obtain ⟨participant, watched, older, peace⟩ := joinWatchesKept h.orderly joined
    refine ⟨participant, watched, older, peace, fun ctx' k' n' found => ?_⟩
    rw [participant]
    exact Nat.ne_of_lt (h.old found)
  cases how with
  | refused => exact h.put known
  | full joined sound same =>
    obtain ⟨_, _, _, peace, alone⟩ := newcomer joined
    rw [Directory.ofSame known same]
    refine h.same (peace.trans (.leave peace.orderly ?_))
    rintro _ ⟨ctx', k', n', found, rfl⟩
    exact (alone ctx' k' n' found).symm
  | nodeAdded joined sound addsNode =>
    obtain ⟨participant, watched, _, peace, alone⟩ := newcomer joined
    obtain ⟨domain, node, _⟩ := Directory.ofKnown known
    rw [Directory.ofAddsNode known addsNode]
    refine (h.same peace).lodge ((node _).trans addsNode.fresh) watched domain alone fun p mem => ?_
    rw [participant]
    exact Nat.ne_of_gt (h.own p mem).1

theorem nodeDestruction (h : Agrees names b (.of t) own) (known : t.get? ctx = some c) {k : Option (Handle .node)}
    (how : Site.NodeDestruction ⟨b, observed, c⟩ k s') : Agrees names s'.bus (.of (t.insert ctx s'.context)) own := by
  cases how with
  | refused => exact h.put known
  | @parted k n _ _ _ removesNode =>
    rw [Directory.ofRemovesNode known removesNode]
    have own : (Directory.of t).node ctx k = some n :=
      ((Directory.ofKnown known).2.1 k).trans removesNode.held
    have stays : ∀ ctx' k' n', ((Directory.of t).setNode ctx k none).node ctx' k' = some n' →
        (Directory.of t).node ctx' k' = some n' ∧ n.participant ≠ n'.participant :=
        fun ctx' k' n' found => by
      obtain ⟨other, before⟩ := Directory.clearNode.1 found
      refine ⟨before, fun same => other ?_⟩
      obtain ⟨rfl, rfl⟩ := h.apart _ _ _ _ _ _ own before same
      exact ⟨rfl, rfl⟩
    have peace : WatchesKept names ((Directory.of t).setNode ctx k none).Live b (b.leave n.participant) := by
      refine .leave h.orderly ?_
      rintro _ ⟨ctx', k', n', found, rfl⟩
      exact (stays ctx' k' n' found).2
    exact h.keep peace (fun ctx' k' n' found => ⟨n', (stays ctx' k' n' found).1, rfl, rfl⟩)
      fun ctx' ref r found => peace.outer _ (h.outer ctx' ref r found)

theorem aside (h : Agrees names b (.of t) own) (known : t.get? ctx = some c)
    (how : Site.Aside ⟨b, observed, c⟩ s') : Agrees names s'.bus (.of (t.insert ctx s'.context)) own := by
  cases how with
  | quiet calm same sound =>
    rw [Directory.ofSame known same]
    exact h.same (calmWatchesKept h.orderly calm)
  | addsNode how => exact h.nodeCreation known how
  | removesNode how => exact h.nodeDestruction known how

theorem granting (h : Agrees names b (.of t) own) (known : t.get? ctx = some c) {side : Side}
    {node : Handle .node} {ts : TypeSupport K} {topic : String} {history : History}
    {ref : Option EndpointRef} (named : names topic (qualifiedName ts.package ts.message))
    (how : Site.Grants ⟨b, observed, c⟩ side node ts topic history s' ref) :
    Agrees names s'.bus (.of (t.insert ctx s'.context)) own := by
  have bound : ∀ live (n : NodeRecord), WatchesKept names live b (b.run (Site.binding n.participant ts topic)) :=
    fun _ n => bindingWatchesKept h.orderly n.participant ts topic
  have up : ∀ live (n : NodeRecord) {t' : Topic},
      t'.name = topic ∧ t'.type = qualifiedName ts.package ts.message → WatchesKept names live b
        ((b.run (Site.binding n.participant ts topic)).putUp side n.participant t' history) :=
    fun live n t' called => (bound live n).trans (.putUp (bound live n).orderly side _ history
      (called.1.symm ▸ called.2.symm ▸ named))
  cases how with
  | refused => exact h.put known
  | bound found => exact (h.same (bound _ _)).put known
  | full found binds named there =>
    subst binds
    exact (h.same ((up _ _ named).trans (.takeDown (up (fun _ => False) _ named).orderly side _ _ _))).put
      known
  | @granted n _ t' x ref _ found binds named there own sound enters =>
    subst binds
    rw [Directory.ofEnters known enters]
    have peace := up (fun _ => False) n named
    refine h.keep (up _ n named) (fun ctx' k' n' found => ?_) fun ctx' ref' r found => ?_
    · obtain ⟨n, before, same⟩ := counted found
      exact ⟨n, before, same, rfl⟩
    · have vacant := ((Directory.ofKnown known).2.2 ref).trans enters.fresh
      rcases (Directory.enterEntry vacant).1 found with ⟨_, _, rfl⟩ | before
      · have enrolled := (Bus.putUpMakes side there t' history).ownsEndpoint there |>.endpoint
        exact (peace.orderly.membersAgree.endpoints _ _ enrolled).1
      · exact peace.outer _ (h.outer ctx' ref' r before)

theorem releasing (h : Agrees names b (.of t) own) (known : t.get? ctx = some c) {side : Side}
    {ref : Option EndpointRef} (how : Site.Releases ⟨b, observed, c⟩ side ref s') :
    Agrees names s'.bus (.of (t.insert ctx s'.context)) own := by
  have fewer : ∀ {b' ref r}, (∀ live, WatchesKept names live b b') →
      Agrees names b' ((Directory.of t).giveUp ctx ref r) own := fun {b' ref r} peace => by
    refine h.keep (peace _) (fun ctx' k' n' found => ?_) fun ctx' ref' r' found => ?_
    · obtain ⟨n, before, same⟩ := counted found
      exact ⟨n, before, same, rfl⟩
    · exact (peace (fun _ => False)).outer _ (h.outer ctx' ref' r' (Directory.giveUpEntry.1 found).2)
  cases how with
  | refused => exact h.put known
  | orphaned ref own absent sound givesUp =>
    rw [Directory.ofGivesUp known givesUp]
    exact fewer fun _ => .refl h.orderly
  | released ref own found sound givesUp =>
    rw [Directory.ofGivesUp known givesUp]
    exact fewer fun _ => .takeDown h.orderly side _ _ _

theorem siteStep (h : Agrees names b (.of t) own) (known : t.get? ctx = some c)
    (named : ∀ ts topic, asked ts topic → names topic (qualifiedName ts.package ts.message))
    (siteStep : Site.SiteStep asked ⟨b, observed, c⟩ s') :
    Agrees names s'.bus (.of (t.insert ctx s'.context)) own := by
  cases siteStep with
  | aside how => exact h.aside known how
  | grants wanted how => exact h.granting known (named _ _ wanted) how
  | releases how => exact h.releasing known how
  | writes w payload =>
    exact (h.same (.request (q := .write w payload) h.orderly trivial fun _ _ _ _ => trivial)).put known
  | takes ref own held n =>
    have ownsEndpoint := ((Directory.ofKnown known).2.2 ref).trans held
    exact (h.same (.takes h.orderly (h.outer ctx ref _ ownsEndpoint) n)).put known

theorem step {t' : Table ContextId (Context K)} (h : Agrees names b (.of t) own)
    (named : ∀ ts topic, asked ts topic → names topic (qualifiedName ts.package ts.message))
    (step : System.Step asked b t b' t') : Agrees names b' (.of t') own := by
  cases step with
  | idle waits => exact h.same (.waits h.orderly waits)
  | @opened ctx c new sound bare unstaked =>
    rw [Directory.ofOpened new bare unstaked]
    refine h.keep (.refl h.orderly) (fun ctx' k n found => ⟨n, found, rfl, if_neg fun own => ?_⟩) h.outer
    subst own
    simp only [Directory.setDomain, Directory.of, new] at found
    cases found
  | @closed ctx c known =>
    rw [Directory.ofErase]
    have peace : WatchesKept names ((Directory.of t).shut ctx).Live b (System.dismiss b c.nodes.values) := by
      refine dismissWatchesKept h.orderly fun n mem => ?_
      rintro _ ⟨ctx', k', n', found, rfl⟩ same
      obtain ⟨other, before⟩ := Directory.shutNode.1 found
      obtain ⟨k, there⟩ := Arena.memValues.1 mem
      have own := ((Directory.ofKnown known).2.1 k).trans there
      exact other (h.apart _ _ _ _ _ _ own before same).1.symm
    refine h.keep peace (fun ctx' k n found => ?_) fun ctx' ref r found => ?_
    · obtain ⟨other, before⟩ := Directory.shutNode.1 found
      exact ⟨n, before, rfl, if_neg other⟩
    · exact peace.outer _ (h.outer ctx' ref r (Directory.shutEntry.1 found).2)
  | acted known siteStep => exact h.siteStep known named siteStep

/-! ### Requests of others -/

theorem foreign {w : World K} (h : Agrees names w.system.bus d w.own) {r : InstanceHandle} (owns : w.Owns r)
    {x : NodeWatch} (live : d.Live x) {m : Member} (watched : w.system.bus.Watched x m) (side : Side) :
    r ≠ m.inbox side := by
  obtain ⟨ctx, k, n, found, rfl⟩ := live
  obtain ⟨g, fed, _⟩ := watched
  obtain ⟨y, there, mine⟩ := owns
  obtain ⟨y', there', participant, _⟩ := h.orderly.membersAgree.inbox _ m side fed.member
  intro same
  rw [same, there'] at there
  cases Option.some.inj there
  exact (h.own _ mine).2 ctx k n found participant.symm

theorem askProper {w : World K} (h : Agrees names w.system.bus d w.own) {q : Request} (ownRequest : w.OwnRequest q)
    (named : q.Named names) : q.Proper names w.system.bus := by
  cases q with
  | createWriter | createReader => exact named
  | setListener r l =>
    cases l with
    | none => trivial
    | some l =>
      obtain ⟨_, s, known⟩ := ownRequest
      exact h.orderly.membersAgree.listeners l _ known
  | newListener l =>
    cases l with
    | scripted s => exact ownRequest
    | discovery => exact ownRequest.elim
  | _ => trivial

theorem askSpares {w : World K} (h : Agrees names w.system.bus d w.own) {q : Request} (ownRequest : w.OwnRequest q)
    {x : NodeWatch} {m : Member} (live : d.Live x) (watched : w.system.bus.Watched x m) :
    q.Spares w.system.bus x m := by
  cases q with
  | leave p =>
    obtain ⟨ctx, k, n, found, rfl⟩ := live
    exact ((h.own p ownRequest).2 ctx k n found).symm
  | take r => exact h.foreign ownRequest live watched
  | drain => exact ownRequest.elim
  | setListener r l =>
    cases l with
    | none => exact ⟨h.foreign ownRequest live watched, fun _ _ _ none => nomatch none⟩
    | some l =>
      obtain ⟨owns, s, known⟩ := ownRequest
      refine ⟨h.foreign owns live watched, fun l' side guard same found => ?_⟩
      cases same
      exact nomatch known.symm.trans found
  | newListener l =>
    cases l with
    | scripted s => exact fun _ _ same => nomatch same
    | discovery => exact ownRequest.elim
  | _ => trivial

theorem ask {w : World K} (h : Agrees names w.system.bus d w.own) {q : Request} (ownRequest : w.OwnRequest q)
    (named : q.Named names) : Agrees names (w.ask q).system.bus d (w.ask q).own := by
  have kept := h.same (.request h.orderly (h.askProper ownRequest named) fun _ _ => h.askSpares ownRequest)
  refine { kept with own := ?_ }
  simp only [World.ask, World.joined]
  split
  · rename_i domain
    split
    · rename_i p b' joined
      have fits : domain ≤ maxDomainId := Nat.not_lt.1 fun large => by
        rw [Bus.joinRefused large] at joined
        cases joined
      rw [Bus.joinOpens fits] at joined
      cases Except.ok.inj joined
      refine List.forall_mem_cons.2 ⟨⟨?_, fun ctx k n found => Nat.ne_of_lt (h.old found)⟩, kept.own⟩
      have steady := Bus.requestSteady w.system.bus (.join domain)
      rw [steady.traffic.nextHandle, Request.openingJoin _ fits]
      exact Nat.lt_add_of_pos_right (k := 3) (by decide)
    · exact kept.own
  · exact kept.own

variable [Catalog K] [DecidableEq K]

theorem act {w : World K} (sound : w.system.Sound)
    (h : Agrees names w.system.bus (.of w.system.contexts) w.own) {a : Act K}
    (abides : w.Abides names a) : (w.act a).system.Sound ∧
      Agrees names (w.act a).system.bus (.of (w.act a).system.contexts) (w.act a).own := by
  cases a with
  | call c => exact ⟨System.serveSound sound c, h.step abides (System.serveSteps sound c).1⟩
  | ask q => exact ⟨⟨sound.opened, sound.tables⟩, h.ask abides.1 abides.2⟩

theorem run {w : World K} (sound : w.system.Sound)
    (h : Agrees World.Short w.system.bus (.of w.system.contexts) w.own) {acts : List (Act K)}
    (lawful : w.Lawful acts) :
    Agrees World.Short (w.run acts).system.bus (.of (w.run acts).system.contexts) (w.run acts).own := by
  induction acts generalizing w with
  | nil => exact h
  | cons a rest ih =>
    obtain ⟨sound', next⟩ := h.act sound (World.mayAbides lawful.1)
    exact ih sound' next lawful.2

end Agrees

/-! ### What a node answers -/

def remote (b : Bus) (domain : DomainId) (p : InstanceHandle) (side : Side) :
    Table InstanceHandle Endpoint :=
  b.endpoints.filter fun _ e => e.domain = domain && e.owner ≠ p && e.side = side

structure Answers (s : System K) (ctx : ContextId) (h : Handle .node) (domain : DomainId)
    (n : NodeRecord) : Prop where
  joined : ∃ x, s.bus.participants.get? n.participant = some x ∧ x.domain = domain
  cache : ∃ g, s.bus.graphs.get? n.graph = some g ∧ ∀ side k, (g.records side).get? k =
    ((remote s.bus domain n.participant side).get? k).map fun e => ⟨k, side, e.topic, e.type⟩
  topics : ∃ listed, (s.topicNamesAndTypes ctx h).2 = .ok listed ∧
    (listed.map (·.1)).Pairwise (· < ·) ∧
    (∀ topic, topic ∈ listed.map (·.1) ↔
      ∃ side k e, (remote s.bus domain n.participant side).get? k = some e ∧ e.topic = topic) ∧
    ∀ topic types, (topic, types) ∈ listed → types.Pairwise (· < ·) ∧ ∀ type, type ∈ types ↔
      ∃ side k e, (remote s.bus domain n.participant side).get? k = some e ∧
        e.topic = topic ∧ e.type = type
  publishers : ∀ topic, (s.countPublishers ctx h topic).2 =
    .ok ((remote s.bus domain n.participant .publication).filter fun _ e => e.topic = topic).size
  subscribers : ∀ topic, (s.countSubscribers ctx h topic).2 =
    .ok ((remote s.bus domain n.participant .subscription).filter fun _ e => e.topic = topic).size

theorem sameSize {κ α β : Type} [LT κ] [DecidableEq κ] [Std.Irrefl (· < · : κ → κ → Prop)]
    {t : Table κ α} {u : Table κ β} (same : ∀ k, (t.get? k).isSome = (u.get? k).isSome) : t.size = u.size := by
  have perm : t.keys.Perm u.keys := (List.perm_ext_iff_of_nodup t.keysNodup u.keysNodup).2 fun k => by
    rw [Table.memKeys, Table.memKeys, same]
  have length := perm.length_eq
  simp only [Table.keys, List.length_map] at length
  exact length

theorem reflectsShort {side : Side} {t : Table InstanceHandle GraphRecord}
    {endpoints : Table InstanceHandle Endpoint} (reflects : Bus.Reflects side t endpoints)
    (short : ∀ k e, endpoints.get? k = some e → World.Short e.topic e.type) (k : InstanceHandle) :
    t.get? k = (endpoints.get? k).map (Bus.recordOf side k) := by
  rw [reflects]
  cases found : endpoints.get? k with
  | none => rfl
  | some e => exact Bus.readFits side k (short k e found).1 (short k e found).2

theorem numberReflects {g : Graph} {side : Side} {endpoints : Table InstanceHandle Endpoint}
    (reflects : ∀ k, (g.records side).get? k = (endpoints.get? k).map (Bus.recordOf side k)) (topic : String) :
    g.number side topic = (endpoints.filter fun _ e => e.topic = topic).size :=
  sameSize fun k => by
    rw [Table.getFilter, Table.getFilter, reflects k]
    cases endpoints.get? k with
    | none => rfl
    | some e => simp [Bus.recordOf, Option.filter]; split <;> rfl

theorem listsReflects {g : Graph} {side : Side} {endpoints : Table InstanceHandle Endpoint}
    (reflects : ∀ k, (g.records side).get? k = (endpoints.get? k).map (Bus.recordOf side k))
    {topic type : String} :
    g.Lists side topic type ↔ ∃ k e, endpoints.get? k = some e ∧ e.topic = topic ∧ e.type = type := by
  constructor
  · rintro ⟨k, r, found, name, kind⟩
    rw [reflects k] at found
    obtain ⟨e, there, rfl⟩ := Option.map_eq_some_iff.1 found
    exact ⟨k, e, there, name, kind⟩
  · rintro ⟨k, e, there, name, kind⟩
    exact ⟨k, Bus.recordOf side k e, by rw [reflects k, there]; rfl, name, kind⟩

theorem performAnswer {α : Type} {s : System K} {ctx : ContextId} {c : Context K} (operation : String)
    {call : Site K → Site K × Except Failure α} (known : s.contexts.get? ctx = some c) :
    (s.perform ctx operation call).2 = (call ⟨s.bus, s.observed, c⟩).2 := by
  unfold System.perform
  rw [known]
  dsimp only
  cases (call ⟨s.bus, s.observed, c⟩).2 <;> rfl

theorem answersOf {s : System K} {ctx : ContextId} {c : Context K} {h : Handle .node} {n : NodeRecord}
    {m : Member} (known : s.contexts.get? ctx = some c) (live : c.nodes.find? h = some n)
    (orderly : s.bus.Orderly World.Short) (watched : s.bus.Watched n.watch m)
    (domain : c.settings.domain = m.domain) : Answers s ctx h c.settings.domain n := by
  obtain ⟨g, fed, sound, reflects⟩ := watched
  have got := Arena.getExact.2 live
  have graph : Site.graphOf ⟨s.bus, s.observed, c⟩ n = g := by
    simp only [Site.graphOf]
    exact congrArg (·.getD {}) fed.graph
  have sight : ∀ side, s.bus.visible n.participant m side =
      remote s.bus c.settings.domain n.participant side := fun side => by
    rw [remote, domain]
    rfl
  have reflects : ∀ side k, (g.records side).get? k =
      ((remote s.bus c.settings.domain n.participant side).get? k).map (Bus.recordOf side k) := fun side =>
    sight side ▸ reflectsShort (reflects side) fun k e found => orderly.named k e (Bus.memVisible.1 found).1
  obtain ⟨ordered, names, types⟩ := Graph.snapshotExact sound.tallied
  refine ⟨?_, ⟨g, fed.graph, fun side k => reflects side k⟩, ⟨g.snapshot, ?_, ordered, ?_, ?_⟩, ?_, ?_⟩
  · have member := fed.member
    rw [orderly.membersAgree.members] at member
    obtain ⟨x, found, rfl⟩ := Option.map_eq_some_iff.1 member
    exact ⟨x, found, domain.symm⟩
  · rw [System.topicNamesAndTypes, performAnswer _ known]
    simp only [Site.topicNamesAndTypes, Site.node, got, Except.map, graph]
  · intro topic
    rw [names]
    constructor
    · rintro ⟨side, type, lists⟩
      obtain ⟨k, e, there, name, _⟩ := (listsReflects (reflects side)).1 lists
      exact ⟨side, k, e, there, name⟩
    · rintro ⟨side, k, e, there, name⟩
      exact ⟨side, e.type, (listsReflects (reflects side)).2 ⟨k, e, there, name, rfl⟩⟩
  · intro topic kinds mem
    obtain ⟨sorted, exactly⟩ := types topic kinds mem
    refine ⟨sorted, fun type => (exactly type).trans ?_⟩
    exact exists_congr fun side => listsReflects (reflects side)
  · intro topic
    rw [System.countPublishers, performAnswer _ known]
    simp only [Site.countEndpoints, Site.node, got, Except.map, graph]
    rw [Graph.countExact sound.tallied, numberReflects (reflects .publication)]
  · intro topic
    rw [System.countSubscribers, performAnswer _ known]
    simp only [Site.countEndpoints, Site.node, got, Except.map, graph]
    rw [Graph.countExact sound.tallied, numberReflects (reflects .subscription)]

variable [Catalog K] [DecidableEq K]

/-- After any lawful acts every live node's graph agrees with its domain. -/
theorem graphsAgree {acts : List (Act K)} (lawful : ({} : World K).Lawful acts) {ctx : ContextId}
    {c : Context K} {h : Handle .node} {n : NodeRecord}
    (known : (({} : World K).run acts).system.contexts.get? ctx = some c)
    (live : c.nodes.find? h = some n) :
    Answers (({} : World K).run acts).system ctx h c.settings.domain n := by
  have agrees := Agrees.run (w := ({} : World K)) System.soundFresh .fresh lawful
  obtain ⟨domain, node, _⟩ := Directory.ofKnown known
  obtain ⟨m, watched, own⟩ := agrees.watched ctx h n ((node h).trans live)
  exact answersOf known live agrees.orderly watched (Option.some.inj (domain.symm.trans own))

def churn : List (Act ExampleCarrier) :=
  [.call (.init {}), .call (.createNode 1 "talker"), .call (.init {}), .ask (.join 0),
    .ask (.createGroup .publication 4),
    .ask (.createWriter 7 ⟨4, "chatter", "Blob", .standard⟩ 100),
    .call (.createNode 2 "listener"),
    .call (.createPublisher 1 ⟨implementationIdentifier, 1, 0, 0⟩ (.of .counter) "count"),
    .call (.createSubscription 2 ⟨implementationIdentifier, 2, 0, 0⟩ (.of .counter) "count" 3),
    .ask (.leave 4)]

theorem churnAgrees : ({} : World ExampleCarrier).Lawful churn ∧ ∃ c n,
    (({} : World ExampleCarrier).run churn).system.contexts.get? 2 = some c ∧
      c.nodes.find? ⟨implementationIdentifier, 2, 0, 0⟩ = some n ∧
      Answers (({} : World ExampleCarrier).run churn).system 2 ⟨implementationIdentifier, 2, 0, 0⟩
        c.settings.domain n := by
  have lawful : ({} : World ExampleCarrier).Lawful churn := by
    refine ⟨fun _ _ names => names.elim, fun _ _ names => names.elim, fun _ _ names => names.elim,
      trivial, trivial, ⟨by decide, by decide⟩, fun _ _ names => names.elim, ?_, ?_, ?_, trivial⟩
    · rintro _ _ ⟨rfl, rfl⟩
      exact ⟨by decide, by decide +kernel⟩
    · rintro _ _ ⟨rfl, rfl⟩
      exact ⟨by decide, by decide +kernel⟩
    · change 4 ∈ (({} : World ExampleCarrier).run (churn.take 9)).own
      decide +kernel
  have there : (((({} : World ExampleCarrier).run churn).system.contexts.get? 2).bind
      (·.nodes.find? ⟨implementationIdentifier, 2, 0, 0⟩)).isSome = true := by decide +kernel
  obtain ⟨n, found⟩ := Option.isSome_iff_exists.1 there
  obtain ⟨c, known, live⟩ := Option.bind_eq_some_iff.1 found
  exact ⟨lawful, c, n, known, live, graphsAgree lawful known live⟩

end Databus.Middleware
