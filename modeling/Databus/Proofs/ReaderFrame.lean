import Databus.Proofs.NodeEntry
import Databus.Proofs.ContextCalls
import Databus.Proofs.EndpointParents

/-! Requests that pass a reader by. Where no listener acts on its own, only what is aimed at a reader changes its
record: announcements go to discovery readers alone, and nobody else takes its samples. -/
namespace Databus

def Request.Passes (r : InstanceHandle) : Request → Prop
  | .take r' | .drain _ _ _ r' | .setListener r' _ | .deleteReader _ r' => r' ≠ r
  | .write _ _ => False
  | _ => True

def Request.isScript : Request → Bool
  | .newListener (.scripted _) => true
  | _ => false

namespace Bus

def Silent (b : Bus) : Prop := ∀ l s, b.listeners.get? l ≠ some (.scripted s)

variable {b b' : Bus} {r : InstanceHandle}

theorem silentEmpty : Silent {} := fun _ _ found => nomatch found

theorem Silent.steady (h : b.Silent) (s : Steady b b') : b'.Silent := fun l script found => by
  have face := s.listeners l
  rw [found] at face
  obtain ⟨x, old, same⟩ := Option.map_eq_some_iff.1 face.symm
  cases x with
  | scripted script' => exact h l script' old
  | discovery => cases same

theorem Silent.confined (h : b.Silent) (readers : InstanceHandle → Prop) :
    Confined ⟨readers, fun _ => True, False⟩ b where
  scripts := .inr fun l s found => absurd found (h l s)
  free := False.elim
  writes l s found := absurd found (h l s)
  feeds _ _ _ _ _ _ _ _ _ _ := trivial

theorem deliverElsewhere (silent : b.Silent) {news : List Notice} (other : ∀ n ∈ news, n.reader ≠ r) :
    (b.deliver news).readers.get? r = b.readers.get? r :=
  (deliverKept (silent.confined (· ≠ r)) other).readers r fun same => same rfl

/-! ### Announcements -/

theorem announceInbox {targets : List Member} {key : InstanceHandle} {e : Endpoint} {state : Liveness}
    (outside : ∀ m ∈ targets, ∀ side, m.inbox side ≠ r) :
    ∀ n ∈ announce targets key e state, n.reader ≠ r := fun n mem => by
  obtain ⟨m, target, rfl⟩ := List.mem_map.1 mem
  exact outside m target e.side

theorem Outer.peers {c : Bus} (outer : b.Outer r) (members : c.members = b.members) (d : DomainId)
    (p : InstanceHandle) : ∀ m ∈ c.peers d p, ∀ side, m.inbox side ≠ r := fun m mem side => by
  obtain ⟨q, found⟩ := Table.memValues.1 mem
  rw [Table.getFilter, Option.filter_eq_some_iff, members] at found
  exact outer.2 q m side found.1

theorem memberOuter (outer : b.Outer r) (domain : DomainId) (side : Side) :
    (b.newMember domain).inbox side ≠ r :=
  Nat.ne_of_gt (Nat.lt_trans outer.1 (memberInbox b domain side))

theorem withdrawalOuter {c : Bus} (outer : b.Outer r) (members : c.members = b.members)
    (k : InstanceHandle) : ∀ n ∈ (c.withdrawal k).2, n.reader ≠ r := by
  unfold withdrawal
  split
  · exact announceInbox (outer.peers members _ _)
  · exact fun n mem => nomatch mem

theorem newsElsewhere (outer : b.Outer r) {q : Request} (passes : q.Passes r) {news : List Notice}
    (opened : q.Opened b b' news) : ∀ n ∈ news, n.reader ≠ r := by
  cases opened with
  | @joined domain _ =>
    intro n mem
    obtain ⟨⟨key, e⟩, _, mem⟩ := List.mem_flatMap.1 mem
    refine announceInbox (fun m mem side => ?_) n mem
    rw [List.mem_singleton.1 mem]
    exact memberOuter outer domain side
  | left =>
    intro n mem
    obtain ⟨⟨key, e⟩, _, mem⟩ := List.mem_flatMap.1 mem
    exact announceInbox (outer.peers rfl _ _) n mem
  | writer | reader => exact announceInbox (outer.peers rfl _ _)
  | @unwritten g w => exact withdrawalOuter (c := b.withoutWriter g w) outer rfl w
  | @unread g r' => exact withdrawalOuter (c := b.removeChild g r') outer rfl r'
  | sent => exact passes.elim
  | _ => exact fun n mem => nomatch mem

/-! ### Requests -/

theorem setListenerElsewhere (b : Bus) {r' : InstanceHandle} (other : r' ≠ r) (l : Option ListenerId) :
    (b.setListener r' l).readers.get? r = b.readers.get? r := by
  simp only [setListener, modifyReader, Table.getModify, if_neg other.symm]

theorem openedElsewhere (outer : b.Outer r) (membersAgree : b.MembersAgree) {q : Request} (passes : q.Passes r)
    {news : List Notice} (opened : q.Opened b b' news) : b'.readers.get? r = b.readers.get? r := by
  have old := outer.1
  cases opened with
  | roster roster => rw [(rosterFrame roster).readers]
  | joined =>
    rw [welcomeReaders, if_neg (Nat.ne_of_lt (Nat.lt_add_right 2 old)),
      if_neg (Nat.ne_of_lt (Nat.lt_succ_of_lt old))]
  | @left p x found =>
    have member : b.members.get? p = some x.member := by rw [membersAgree.members, found]; rfl
    simp only [vacated, marksGroups]
    exact (setListenerElsewhere _ (outer.2 p _ .subscription member) none).trans
      (setListenerElsewhere _ (outer.2 p _ .publication member) none)
  | reader =>
    simp only [enrolled, withReader, newReader, takeHandle, newCondition, addChild, Table.getInsert,
      if_neg (Nat.ne_of_lt old)]
  | unwritten => rw [(writerWithdrew b _ _).readers]
  | unread => rw [(readerWithdrew b _ _).readers]
  | took =>
    exact (Kept.ofAffects (takeAffects (z := ⟨(· ≠ r), fun _ => True, False⟩) passes)).readers r
      fun same => same rfl
  | drained =>
    exact (Kept.ofAffects (drainAffects (z := ⟨(· ≠ r), fun _ => True, False⟩) passes trivial)).readers r
      fun same => same rfl
  | attached => exact setListenerElsewhere b passes _
  | sent => exact passes.elim
  | _ => rfl

theorem Silent.request (silent : b.Silent) {q : Request} (plain : q.isScript = false) :
    (q.opening b).1.Silent ∧ (b.request q).Silent := by
  have opened : (q.opening b).1.Silent := fun l s found => by
    rcases openedListeners (q.opened b) found with old | new
    · exact silent l s old
    · rw [new] at plain
      cases plain
  exact ⟨opened, opened.steady (requestSteady b q)⟩

theorem passing (membersAgree : b.MembersAgree) (silent : b.Silent) (outer : b.Outer r) {q : Request}
    (plain : q.isScript = false) (passes : q.Passes r) :
    (b.request q).readers.get? r = b.readers.get? r := by
  have delivered : ((q.opening b).1.deliver (q.opening b).2).readers.get? r = b.readers.get? r :=
    (deliverElsewhere (silent.request plain).1 (newsElsewhere outer passes (q.opened b))).trans
      (openedElsewhere outer membersAgree passes (q.opened b))
  rw [q.opens]
  cases q with
  | deleteReader g r' =>
    simp only [Request.closing]
    split
    · exact (setListenerElsewhere _ passes none).trans delivered
    · exact delivered
  | _ => exact delivered

/-! ### Moves -/

def Spare (keep : InstanceHandle → Prop) (b : Bus) (q : Request) : Prop :=
  q.isScript = false ∧ (b.MembersAgree → ∀ r, keep r → b.Outer r → q.Passes r)

theorem spareMoves {keep : InstanceHandle → Prop} (moves : Moves (Spare keep) b b')
    (membersAgree : b.MembersAgree) (silent : b.Silent) :
    b'.Silent ∧ ∀ r, keep r → b.Outer r → b'.readers.get? r = b.readers.get? r := by
  refine (movesKeep (I := fun c => c.MembersAgree ∧ c.Silent ∧ ∀ r, keep r → b.Outer r →
    c.Outer r ∧ c.readers.get? r = b.readers.get? r) (fun c c' waits kept => ?_)
    (fun c q spare kept => ?_) moves ⟨membersAgree, silent, fun r _ outer => ⟨outer, rfl⟩⟩).2.imp_right
    fun kept r inside outer => (kept r inside outer).2
  · refine ⟨kept.1.waits waits, ?_, fun r inside outer => ?_⟩
    · unfold Silent
      rw [waits.listeners]
      exact kept.2.1
    · obtain ⟨outer', same⟩ := kept.2.2 r inside outer
      refine ⟨(outerMoves (P := fun _ _ => True) (.waits waits) kept.1 outer').2, ?_⟩
      rw [waits.readers]
      exact same
  · refine ⟨membersAgreeRequest kept.1 q, (kept.2.1.request spare.1).2, fun r inside outer => ?_⟩
    obtain ⟨outer', same⟩ := kept.2.2 r inside outer
    refine ⟨(outerMoves (P := fun _ _ => True) (.ask trivial) kept.1 outer').2, ?_⟩
    exact (passing kept.1 kept.2.1 outer' spare.1 (spare.2 kept.1 r inside outer')).trans same

theorem spareChild (keep : InstanceHandle → Prop) (b : Bus) (g : InstanceHandle) (t : Topic)
    (history : History) (side : Side) : Spare keep b (.child g t history side) := by
  cases side <;> exact ⟨rfl, fun _ _ _ _ => trivial⟩

theorem putUpSpares (keep : InstanceHandle → Prop) (b : Bus) (side : Side) (p : InstanceHandle)
    (t : Topic) (history : History) : Moves (Spare keep) b (b.putUp side p t history) :=
  movesRun ⟨⟨rfl, fun _ _ _ _ => trivial⟩, spareChild _ _ _ _ _ _, trivial⟩

theorem takeDownSpares (b : Bus) (side : Side) (p g k : InstanceHandle) :
    Moves (Spare (· ≠ k)) b (b.takeDown side p g k) := by
  refine movesRun ⟨?_, ⟨rfl, fun _ _ _ _ => trivial⟩, trivial⟩
  cases side with
  | publication => exact ⟨rfl, fun _ _ _ _ => trivial⟩
  | subscription => exact ⟨rfl, fun _ _ other _ => other.symm⟩

theorem leaveSpares (keep : InstanceHandle → Prop) (b : Bus) (p : InstanceHandle) :
    Moves (Spare keep) b (b.leave p) :=
  .ask (q := .leave p) ⟨rfl, fun _ _ _ _ => trivial⟩

theorem putUpReader (membersAgree : b.MembersAgree) (silent : b.Silent) {p : InstanceHandle} {x : Participant}
    (found : b.participants.get? p = some x) (t : Topic) (history : History) :
    (b.putUp .subscription p t history).readers.get? (b.nextHandle + 1) =
      some { participant := p, topic := t.name, type := t.type, history, condition := b.nextCondition } := by
  obtain ⟨_, isOpen, handle⟩ := createGroupMakes .subscription found
  have silent' : (b.request (.createGroup .subscription p)).Silent :=
    (silent.request (q := .createGroup .subscription p) rfl).2
  have outer : ∀ d q, ∀ m ∈ (b.request (.createGroup .subscription p)).peers d q, ∀ side,
      m.inbox side ≠ b.nextHandle + 1 := fun d q m mem side => by
    obtain ⟨k, member⟩ := Table.memValues.1 mem
    rw [Table.getFilter, Option.filter_eq_some_iff] at member
    obtain ⟨y, reader, _⟩ := (membersAgreeRequest membersAgree _).inbox k m side member.1
    exact handle ▸ Nat.ne_of_lt ((membersAgreeRequest membersAgree _).readers _ y reader)
  have opened : ((Request.child b.nextHandle t history .subscription).opening
      (b.request (.createGroup .subscription p))).1.readers.get? (b.nextHandle + 1) =
        some { participant := p, topic := t.name, type := t.type, history, condition := b.nextCondition } := by
    rw [createGroupTables found] at isOpen ⊢
    simp only [Request.child, Request.opening, isOpen]
    exact (Table.getInsert ..).trans (if_pos rfl)
  have plain := (spareChild (fun _ => True) b b.nextHandle t history .subscription).1
  have elsewhere : ∀ n ∈ ((Request.child b.nextHandle t history .subscription).opening
      (b.request (.createGroup .subscription p))).2, n.reader ≠ b.nextHandle + 1 := by
    simp only [Request.child, Request.opening, isOpen]
    exact announceInbox (outer _ _)
  have delivered := deliverElsewhere (silent'.request plain).1 elsewhere
  have last := (Request.child b.nextHandle t history .subscription).opens
    (b.request (.createGroup .subscription p))
  change ((b.request (.createGroup .subscription p)).request
    (.child b.nextHandle t history .subscription)).readers.get? (b.nextHandle + 1) = _
  rw [last]
  exact delivered.trans opened

end Bus

namespace Middleware

open Bus (Moves Spare)

variable {K : Type} {b b' : Bus}

theorem bindingSpares (keep : InstanceHandle → Prop) (b : Bus) (p : InstanceHandle) (ts : TypeSupport K)
    (topic : String) : Moves (Spare keep) b (b.run (Site.binding p ts topic)) := by
  refine Bus.movesRun ?_
  unfold Site.binding
  split
  · exact ⟨⟨rfl, fun _ _ _ _ => trivial⟩,
      ⟨rfl, fun _ _ _ _ => trivial⟩, trivial⟩
  · exact ⟨⟨rfl, fun _ _ _ _ => trivial⟩, trivial⟩

theorem joinSpares {name : String} {domain : DomainId} {n : NodeRecord}
    (joined : Site.joinNode b name domain = .ok (n, b')) : Moves (Spare (· < b.nextHandle)) b b' := by
  obtain ⟨_, _, _, _, rfl⟩ := Site.joinNodeOpens joined
  have newer : ∀ side r, r < b.nextHandle → (b.newMember domain).inbox side ≠ r := fun side r old =>
    Nat.ne_of_gt (Nat.lt_trans old (Bus.memberInbox b domain side))
  refine .trans (.ask (q := .join domain) ⟨rfl, fun _ _ _ _ => trivial⟩)
    (Bus.movesRun ?_)
  exact ⟨⟨rfl, fun _ _ _ _ => trivial⟩,
    ⟨rfl, fun _ _ _ _ => trivial⟩,
    ⟨rfl, fun _ _ _ _ => trivial⟩,
    ⟨rfl, fun _ _ _ _ => trivial⟩,
    ⟨rfl, fun _ r old _ => newer .publication r old⟩,
    ⟨rfl, fun _ r old _ => newer .subscription r old⟩,
    ⟨rfl, fun _ r old _ => newer .publication r old⟩,
    ⟨rfl, fun _ r old _ => newer .subscription r old⟩, trivial⟩

theorem detachSpares (keep : InstanceHandle → Prop) (b : Bus) (n : NodeRecord) :
    Moves (Spare keep) b (System.detachListeners b n) := by
  unfold System.detachListeners
  split
  · rename_i x found
    have member : b.MembersAgree → b.members.get? n.participant = some x.member := fun membersAgree => by
      rw [membersAgree.members, found]
      rfl
    refine .trans (.ask (q := .setListener x.publications none) ⟨rfl, ?_⟩)
      (.ask (q := .setListener x.subscriptions none) ⟨rfl, ?_⟩)
    · exact fun membersAgree r _ outer => outer.2 _ _ .publication (member membersAgree)
    · intro membersAgree r _ outer
      refine outer.2 n.participant x.member .subscription ?_
      rw [membersAgree.members]
      exact congrArg (Option.map Participant.member) found
  · exact .refl b

theorem dismissSpares (keep : InstanceHandle → Prop) (b : Bus) (nodes : List NodeRecord) :
    Moves (Spare keep) b (System.dismiss b nodes) := by
  have detached : ∀ (l : List NodeRecord) (b : Bus),
      Moves (Spare keep) b (l.foldl System.detachListeners b) := fun l => by
    induction l with
    | nil => exact .refl
    | cons n rest ih => exact fun b => .trans (detachSpares keep b n) (ih _)
  have left : ∀ (l : List NodeRecord) (b : Bus),
      Moves (Spare keep) b (l.foldl (fun b n => b.leave n.participant) b) := fun l => by
    induction l with
    | nil => exact .refl
    | cons n rest ih => exact fun b => .trans (Bus.leaveSpares keep b n.participant) (ih _)
  exact .trans (detached nodes b) (left nodes _)

theorem asideSpares {observed : List ConditionId} {c : Context K} {s' : Site K}
    (how : Site.Aside ⟨b, observed, c⟩ s') : Moves (Spare (· < b.nextHandle)) b s'.bus := by
  cases how with
  | quiet calm same sound =>
    refine Bus.movesWeaken (fun _ q calm => ?_) calm
    rw [show q = .newGuard from calm]
    exact ⟨rfl, fun _ _ _ _ => trivial⟩
  | addsNode how =>
    cases how with
    | refused => exact .refl b
    | full joined sound same => exact .trans (joinSpares joined) (Bus.leaveSpares _ _ _)
    | nodeAdded joined sound addsNode => exact joinSpares joined
  | removesNode how =>
    cases how with
    | refused => exact .refl b
    | parted idle sound removesNode => exact Bus.leaveSpares _ _ _

end Middleware
end Databus
