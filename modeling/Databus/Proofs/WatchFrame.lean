import Databus.Proofs.NodeEntry
import Databus.Proofs.ContextCalls
import Databus.Proofs.EndpointParents

/-! What leaves the watches of other nodes alone: every part of a call keeps the bus orderly and each watch that
is not its own business, and what is no discovery reader does not become one. -/
namespace Databus

namespace Bus

structure WatchesKept (names : String → String → Prop) (live : NodeWatch → Prop) (b b' : Bus) : Prop where
  orderly : b'.Orderly names
  handles : b.nextHandle ≤ b'.nextHandle
  outer : ∀ k, b.Outer k → b'.Outer k
  watched : ∀ w m, live w → b.Watched w m → b'.Watched w m

namespace WatchesKept

variable {names : String → String → Prop} {live : NodeWatch → Prop} {b b' c : Bus}

theorem refl (h : b.Orderly names) : WatchesKept names live b b :=
  ⟨h, Nat.le_refl _, fun _ outer => outer, fun _ _ _ watched => watched⟩

theorem trans (h : WatchesKept names live b b') (h' : WatchesKept names live b' c) : WatchesKept names live b c :=
  ⟨h'.orderly, Nat.le_trans h.handles h'.handles, fun k outer => h'.outer k (h.outer k outer),
    fun w m alive watched => h'.watched w m alive (h.watched w m alive watched)⟩

theorem request (h : b.Orderly names) {q : Request} (proper : q.Proper names b)
    (spares : ∀ w m, live w → b.Watched w m → q.Spares b w m) : WatchesKept names live b (b.request q) where
  orderly := orderlyRequest h proper
  handles := handlesGrow b q
  outer _ outer := (outerMoves (P := fun _ _ => True) (.ask trivial) h.membersAgree outer).2
  watched w m alive watched := watchedRequest h watched (spares w m alive watched) proper

theorem waits (h : b.Orderly names) (w : OnlyWaits b b') : WatchesKept names live b b' where
  orderly := h.waits w
  handles := Nat.le_of_eq w.nextHandle.symm
  outer _ outer := (outerMoves (P := fun _ _ => False) (.waits w) h.membersAgree outer).2
  watched _ _ _ watched := watchedMoves (.waits w) h watched

def Sparing (names : String → String → Prop) (b : Bus) (q : Request) : Prop := q.Proper names b ∧ ∀ w m, q.Spares b w m

theorem moves (h : b.Orderly names) (moves : Moves (Sparing names) b b') : WatchesKept names live b b' := by
  induction moves with
  | refl b => exact .refl h
  | waits w => exact .waits h w
  | ask sparing => exact .request h sparing.1 fun w m _ _ => sparing.2 w m
  | trans first second ih ih' => exact (ih h).trans (ih' (ih h).orderly)

theorem run (h : b.Orderly names) {requests : List Request} (sparing : Allowed (Sparing names) b requests) :
    WatchesKept names live b (b.run requests) := .moves h (movesRun sparing)

theorem takes (h : b.Orderly names) {r : InstanceHandle} (outer : b.Outer r) (n : Nat) :
    WatchesKept names live b (b.run (List.replicate n (.take r))) := by
  induction n generalizing b with
  | zero => exact .refl h
  | succ n ih =>
    have first : WatchesKept names live b (b.request (.take r)) := .request h trivial
      fun w m _ watched side same => by
        obtain ⟨g, fed, _⟩ := watched
        exact outer.2 _ m side fed.member same.symm
    exact first.trans (ih first.orderly (first.outer r outer))

theorem leave (h : b.Orderly names) {p : InstanceHandle} (others : ∀ w, live w → p ≠ w.participant) :
    WatchesKept names live b (b.leave p) :=
  .request (q := .leave p) h trivial fun w _ alive _ => others w alive

theorem detach (h : b.Orderly names) {p : InstanceHandle} {x : Participant}
    (found : b.participants.get? p = some x) (others : ∀ w, live w → p ≠ w.participant) :
    WatchesKept names live b ((b.setListener x.publications none).setListener x.subscriptions none) := by
  have member : ∀ {b : Bus}, b.Orderly names → b.participants.get? p = some x →
      ∀ side w m, live w → b.Watched w m → ∀ side', x.member.inbox side ≠ m.inbox side' :=
        fun {b} h found side w m alive watched side' same => by
    obtain ⟨g, fed, _⟩ := watched
    have own : b.members.get? p = some x.member := by
      rw [h.membersAgree.members, found]
      rfl
    exact others w alive (h.membersAgree.inboxOwn fed.member own same).1
  have first : WatchesKept names live b (b.request (.setListener x.publications none)) :=
    .request h trivial fun w m alive watched =>
      ⟨member h found .publication w m alive watched, fun _ _ _ none => nomatch none⟩
  exact first.trans (.request (q := .setListener x.subscriptions none) first.orderly trivial
    fun w m alive watched => ⟨member first.orderly found .subscription w m alive watched,
      fun _ _ _ none => nomatch none⟩)

/-! ### Parents and endpoints -/

theorem child (h : b.Orderly names) {g : InstanceHandle} {t : Topic} {history : History} (side : Side)
    (named : names t.name t.type) : WatchesKept names live b (b.request (.child g t history side)) := by
  cases side <;> exact .request h named fun _ _ _ _ => trivial

theorem putUp (h : b.Orderly names) (side : Side) (p : InstanceHandle) {t : Topic} (history : History)
    (named : names t.name t.type) : WatchesKept names live b (b.putUp side p t history) := by
  have group : WatchesKept names live b (b.request (.createGroup side p)) :=
    .request h trivial fun _ _ _ _ => trivial
  exact group.trans (.child group.orderly side named)

theorem takeDown (h : b.Orderly names) (side : Side) (p g k : InstanceHandle) :
    WatchesKept names live b (b.takeDown side p g k) := by
  cases side <;>
    exact .run h ⟨⟨trivial, fun _ _ => trivial⟩, ⟨trivial, fun _ _ => trivial⟩, trivial⟩

end WatchesKept
end Bus

namespace Middleware

open Bus (WatchesKept)

variable {K : Type} {names : String → String → Prop} {live : NodeWatch → Prop} {b b' : Bus}

theorem bindingWatchesKept (h : b.Orderly names) (p : InstanceHandle) (ts : TypeSupport K) (topic : String) :
    WatchesKept names live b (b.run (Site.binding p ts topic)) := by
  unfold Site.binding
  split
  · exact .run h ⟨⟨trivial, fun _ _ => trivial⟩, ⟨trivial, fun _ _ => trivial⟩, trivial⟩
  · exact .run h ⟨⟨trivial, fun _ _ => trivial⟩, trivial⟩

theorem calmWatchesKept (h : b.Orderly names) (calm : Bus.Moves Site.Calm b b') : WatchesKept names live b b' :=
  .moves h (Bus.movesWeaken (fun _ q calm => by
    rw [show q = .newGuard from calm]
    exact ⟨trivial, fun _ _ => trivial⟩) calm)

theorem joinWatchesKept {name : String} {domain : DomainId} {n : NodeRecord} (h : b.Orderly names)
    (joined : Site.joinNode b name domain = .ok (n, b')) :
    n.participant = b.nextHandle ∧ b'.Watched n.watch (b.newMember domain) ∧ b.nextHandle < b'.nextHandle ∧
      WatchesKept names live b b' := by
  obtain ⟨participant, orderly, watched, spared⟩ := Site.joinNodeWatched h joined
  have member : b'.members.get? n.participant = some (b.newMember domain) := by
    obtain ⟨g, fed, _⟩ := watched
    exact fed.member
  have older : b.nextHandle < b'.nextHandle := participant ▸ orderly.membersAgree.old _ _ member
  refine ⟨participant, watched, older, orderly, Nat.le_of_lt older, fun k outer => ?_,
    fun w m _ before => Bus.watchedMoves (spared w m before) h before⟩
  obtain ⟨_, _, _, _, rfl⟩ := Site.joinNodeOpens joined
  have joining := Bus.outerMoves (P := fun _ _ => True) (.ask (q := .join domain) trivial) h.membersAgree outer
  have allowed : ∀ (requests : List Request) (b : Bus), Bus.Allowed (fun _ _ => True) b requests :=
    fun requests => by
      induction requests with
      | nil => exact fun _ => trivial
      | cons q rest ih => exact fun _ => ⟨trivial, ih _⟩
  exact (Bus.outerMoves (Bus.movesRun (allowed _ _)) joining.1 joining.2).2

theorem detachWatchesKept (h : b.Orderly names) {n : NodeRecord}
    (others : ∀ w, live w → n.participant ≠ w.participant) :
    WatchesKept names live b (System.detachListeners b n) := by
  unfold System.detachListeners
  split
  · rename_i x found
    exact .detach h found others
  · exact .refl h

theorem dismissWatchesKept (h : b.Orderly names) {nodes : List NodeRecord}
    (others : ∀ n ∈ nodes, ∀ w, live w → n.participant ≠ w.participant) :
    WatchesKept names live b (System.dismiss b nodes) := by
  have detached : ∀ (l : List NodeRecord) (b : Bus), (∀ n ∈ l, n ∈ nodes) → b.Orderly names →
      WatchesKept names live b (l.foldl System.detachListeners b) := fun l => by
    induction l with
    | nil => exact fun b _ h => .refl h
    | cons n rest ih =>
      intro b inside h
      have first := detachWatchesKept h (others n (inside n (List.mem_cons_self ..)))
      exact first.trans (ih _ (fun n' mem => inside n' (List.mem_cons_of_mem _ mem)) first.orderly)
  have left : ∀ (l : List NodeRecord) (b : Bus), (∀ n ∈ l, n ∈ nodes) → b.Orderly names →
      WatchesKept names live b (l.foldl (fun b n => b.leave n.participant) b) := fun l => by
    induction l with
    | nil => exact fun b _ h => .refl h
    | cons n rest ih =>
      intro b inside h
      have first := WatchesKept.leave h (others n (inside n (List.mem_cons_self ..)))
      exact first.trans (ih _ (fun n' mem => inside n' (List.mem_cons_of_mem _ mem)) first.orderly)
  have silent := detached nodes b (fun _ mem => mem) h
  exact silent.trans (left nodes _ (fun _ mem => mem) silent.orderly)

end Middleware
end Databus
