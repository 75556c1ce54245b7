import Databus.Proofs.ContextConditions
import Databus.Proofs.NodeGraphVersion
import Databus.Proofs.BoundedQueues

/-! What has come stays till somebody takes it: a reader that no listener serves keeps samples in its queue through
every request but a take of its own, and so through every call but a take from its subscription. -/
namespace Databus

namespace Bus

variable {a b b' c : Bus} {r : InstanceHandle}

def Lasts (r : InstanceHandle) (taken : Prop) (b b' : Bus) : Prop := ∀ x, b.readers.get? r = some x →
  x.listener = none → ∃ x', b'.readers.get? r = some x' ∧ x'.listener = none ∧
    (¬ taken → x.waiting = true → x'.waiting = true)

namespace Lasts

variable {taken taken' : Prop}

theorem same (same : b'.readers.get? r = b.readers.get? r) : Lasts r taken b b' :=
  fun x found unserved => ⟨x, same.trans found, unserved, fun _ => id⟩

theorem refl (b : Bus) : Lasts r taken b b := .same rfl

theorem trans (h : Lasts r taken a b) (h' : Lasts r taken b c) : Lasts r taken a c := fun x found unserved => by
  obtain ⟨y, found', unserved', stays⟩ := h x found unserved
  obtain ⟨z, found'', unserved'', stays'⟩ := h' y found' unserved'
  exact ⟨z, found'', unserved'', fun left waits => stays' left (stays left waits)⟩

theorem weaken (h : Lasts r taken b b') (wider : taken → taken') : Lasts r taken' b b' := fun x found unserved => by
  obtain ⟨y, found', unserved', stays⟩ := h x found unserved
  exact ⟨y, found', unserved', fun left => stays fun took => left (wider took)⟩

end Lasts

theorem setListenerLasts (b : Bus) (r : InstanceHandle) : Lasts r False b (b.setListener r none) := fun x found _ => by
  refine ⟨{ x with listener := none }, ?_, rfl, fun _ => id⟩
  simp only [setListener, modifyReader, Table.getModify, found, if_true, Option.map_some]

theorem enqueueLasts (b : Bus) (n : Notice) : Lasts r False b (b.enqueue n) := fun x found unserved => by
  refine ⟨_, enqueueMailbox found, ?_, fun _ waits => ?_⟩ <;> split
  · exact unserved
  · exact unserved
  · simp only [Reader.waiting, pushWaiting, Bool.not_false]
  · exact waits

theorem deliverLasts (silent : b.Silent) (news : List Notice) : Lasts r False b (b.deliver news) := by
  induction news generalizing b with
  | nil => exact .same (by rw [deliverNothing])
  | cons n rest ih =>
    have first : Lasts r False b (b.deliver [n]) := fun x found unserved => by
      by_cases own : n.reader = r
      · subst own
        rw [deliverUnserved found unserved]
        exact enqueueLasts b n x found unserved
      · refine Lasts.same (deliverElsewhere silent fun n' mem => ?_) x found unserved
        exact List.mem_singleton.1 mem ▸ own
    exact (deliverAppend b [n] rest).symm ▸ first.trans (ih (silent.steady (deliverSteady b [n])))

theorem takeLasts (b : Bus) (r : InstanceHandle) : Lasts r True b (b.take r).2 := fun x found unserved => by
  refine Exists.imp (fun _ there => ⟨there.1, there.2, fun left => absurd trivial left⟩)
    (p := fun x' => (b.take r).2.readers.get? r = some x' ∧ x'.listener = none) ?_
  cases taken : x.mailbox.take? with
  | none =>
    refine ⟨x, ?_, unserved⟩
    simp only [take, found, taken, (deactivateFrame b _ _).readers]
  | some p =>
    obtain ⟨first, box⟩ := p
    exact ⟨_, (takeFirst found taken).2, unserved⟩

end Bus

def Request.Leaves (r : InstanceHandle) : Request → Prop
  | .drain _ _ _ r' | .setListener r' (some _) => r' ≠ r
  | _ => True

namespace Bus

variable {b b' : Bus} {r : InstanceHandle}

theorem openedLasts (membersAgree : b.MembersAgree) (outer : b.Outer r) {q : Request} (leaves : q.Leaves r)
    {news : List Notice} (opened : q.Opened b b' news) : Lasts r (q = .take r) b b' := by
  have passes (passes : q.Passes r) : Lasts r (q = .take r) b b' :=
    .same (openedElsewhere outer membersAgree passes opened)
  cases q with
  | write w payload =>
    cases opened with
    | refused | sent => exact .refl b
    | roster roster => cases roster
  | take r' =>
    by_cases own : r' = r
    · subst own
      cases opened with
      | refused => exact .refl b
      | roster roster => cases roster
      | took => exact (takeLasts b r').weaken fun _ => rfl
    · exact passes own
  | setListener r' l =>
    by_cases own : r' = r
    · subst own
      cases opened with
      | refused => exact .refl b
      | roster roster => cases roster
      | attached =>
        cases l with
        | none => exact (setListenerLasts b r').weaken False.elim
        | some l => exact absurd rfl leaves
    · exact passes own
  | deleteReader g r' =>
    cases opened with
    | refused => exact .refl b
    | roster roster => cases roster
    | unread => exact .same (by rw [(readerWithdrew b _ _).readers])
  | drain side graph guard r' => exact passes leaves
  | _ => exact passes trivial

theorem requestLasts (membersAgree : b.MembersAgree) (silent : b.Silent) (outer : b.Outer r) {q : Request}
    (plain : q.isScript = false) (leaves : q.Leaves r) : Lasts r (q = .take r) b (b.request q) := by
  have delivered := (openedLasts membersAgree outer leaves (q.opened b)).trans
    ((deliverLasts (silent.request plain).1 (q.opening b).2).weaken False.elim)
  rw [q.opens]
  cases q with
  | deleteReader g r' =>
    simp only [Request.closing]
    split
    · refine delivered.trans ?_
      by_cases own : r' = r
      · exact own ▸ (setListenerLasts _ r').weaken False.elim
      · exact .same (setListenerElsewhere _ own none)
    · exact delivered
  | _ => exact delivered

theorem runLasts (membersAgree : b.MembersAgree) (silent : b.Silent) (outer : b.Outer r) {requests : List Request}
    (each : ∀ q ∈ requests, q.isScript = false ∧ q.Leaves r) :
    Lasts r (.take r ∈ requests) b (b.run requests) ∧ (b.run requests).Outer r := by
  induction requests generalizing b with
  | nil => exact ⟨.refl b, outer⟩
  | cons q rest ih =>
    obtain ⟨plain, leaves⟩ := each q List.mem_cons_self
    have asked : Moves (fun _ _ => True) b (b.request q) := .ask trivial
    obtain ⟨membersAgree', outer'⟩ := outerMoves asked membersAgree outer
    obtain ⟨later, outer''⟩ := ih membersAgree' (silent.request plain).2 outer'
      fun q mem => each q (List.mem_cons_of_mem _ mem)
    refine ⟨?_, outer''⟩
    exact ((requestLasts membersAgree silent outer plain leaves).weaken fun own => own ▸ List.mem_cons_self).trans
      (later.weaken (List.mem_cons_of_mem _))

end Bus

namespace Middleware

open Bus (Lasts)

variable {K : Type} {r : InstanceHandle}

theorem gentleLeaves {q : Request} (gentle : q.isGentle) (r : InstanceHandle) : q.isScript = false ∧ q.Leaves r := by
  cases q <;> first | exact ⟨rfl, trivial⟩ | cases gentle

theorem nodeCreationLeaves (site : Site K) (outer : site.bus.Outer r) (name : String) :
    ∀ q ∈ site.nodeCreationAsks name, q.isScript = false ∧ q.Leaves r := by
  have inbox (side : Side) : (site.bus.newMember site.context.settings.domain).inbox side ≠ r :=
    Bus.memberOuter outer site.context.settings.domain side
  unfold Site.nodeCreationAsks
  split
  · exact nofun
  · intro q mem
    rcases List.mem_append.1 mem with mem | mem
    · simp only [Site.equip, List.mem_cons, List.not_mem_nil, or_false] at mem
      rcases mem with rfl | rfl | rfl | rfl | rfl | rfl | rfl | rfl | rfl
      case inl | inr.inl | inr.inr.inl | inr.inr.inr.inl | inr.inr.inr.inr.inl => exact ⟨rfl, trivial⟩
      all_goals first | exact ⟨rfl, inbox .publication⟩ | exact ⟨rfl, inbox .subscription⟩
    · split at mem
      · cases mem
      · rw [List.mem_singleton.1 mem]
        exact ⟨rfl, trivial⟩

variable [Catalog K] [DecidableEq K] {s : System K}

theorem asksLeave (outer : s.bus.Outer r) (call : Call K) :
    ∀ q ∈ s.asks call, q.isScript = false ∧ q.Leaves r := by
  have others (creates : ∀ ctx name, call ≠ .createNode ctx name) :
      ∀ q ∈ s.asks call, q.isScript = false ∧ q.Leaves r := fun q mem => by
    cases s.asked creates q mem with
    | gentle gentle => exact gentleLeaves gentle r
    | _ => exact ⟨rfl, trivial⟩
  cases call with
  | createNode ctx name =>
    cases known : s.contexts.get? ctx with
    | none =>
      simp only [System.asks, known]
      exact fun _ mem => absurd mem List.not_mem_nil
    | some c => exact System.asksNodeCreation known name ▸ nodeCreationLeaves ⟨s.bus, s.observed, c⟩ outer name
  | _ => exact others fun _ _ own => by cases own

def System.Takes (s : System K) (k : ConditionId) (call : Call K) : Prop :=
  ∃ ctx c h x, call = .take ctx h (some x.support.carrier) ∧ s.contexts.get? ctx = some c ∧
    c.subscriptions.find? h = some x ∧ x.condition = k

theorem closingTakes (b : Bus) (nodes : List NodeRecord) : .take r ∉ System.closingAsks b nodes := by
  simp only [System.closingAsks, List.mem_append, List.mem_flatMap, List.mem_map, reduceCtorEq, and_false,
    exists_false, or_false, not_exists, not_and]
  intro n _
  unfold System.detaching
  split <;> simp

theorem takesAsked (conditionsAgree : ConditionsAgree s.bus s.contexts) {x : Reader}
    (found : s.bus.readers.get? r = some x)
    {call : Call K} (mem : .take r ∈ s.asks call) : s.Takes x.condition call := by
  have rude : ¬ (Request.take r).isGentle := Bool.false_ne_true
  unfold System.asks at mem
  cases call with
  | take ctx h slot =>
    dsimp only at mem
    split at mem
    · rename_i c known
      unfold Site.takeAsks at mem
      split at mem
      · cases mem
      · rename_i k there
        obtain ⟨some, own⟩ := List.mem_replicate.1 mem
        split at some
        · rename_i fits
          obtain ⟨y, reader, condition⟩ := conditionsAgree.subscriptions ctx c h k known there
          cases Request.take.inj own
          cases Option.some.inj (found.symm.trans reader)
          exact ⟨ctx, c, h, k, congrArg _ fits, known, there, condition.symm⟩
        · exact absurd rfl some
    · cases mem
  | close ctx =>
    dsimp only at mem
    split at mem
    · exact absurd mem (closingTakes _ _)
    · cases mem
  | createNode ctx name =>
    dsimp only at mem
    split at mem
    · unfold Site.nodeCreationAsks at mem
      split at mem
      · cases mem
      · simp only [Site.equip, List.mem_append, List.mem_cons, reduceCtorEq, List.not_mem_nil, or_self, false_or] at mem
        split at mem <;> simp at mem
    · cases mem
  | destroyNode ctx h =>
    dsimp only at mem
    split at mem
    · unfold Site.nodeDestructionAsks at mem
      split at mem <;> simp at mem
    · cases mem
  | createGuard ctx =>
    dsimp only at mem
    split at mem <;> simp at mem
  | createPublisher ctx node ts topic =>
    dsimp only at mem
    split at mem
    · exact absurd (Site.grantGentle _ _ _ _ _ _ _ _ mem) rude
    · cases mem
  | destroyPublisher ctx h | destroySubscription ctx h =>
    dsimp only at mem
    split at mem
    · exact absurd (Site.releaseGentle _ _ _ mem) rude
    · cases mem
  | createSubscription ctx node ts topic size =>
    dsimp only at mem
    split at mem
    · exact absurd (Site.grantGentle _ _ _ _ _ _ _ _ mem) rude
    · cases mem
  | publish ctx h m =>
    dsimp only at mem
    split at mem
    · exact absurd (Site.publishGentle _ _ _ _ mem) rude
    · cases mem
  | _ => cases mem

theorem serveLasts (membersAgree : s.bus.MembersAgree) (silent : s.bus.Silent) (outer : s.bus.Outer r) (call : Call K) :
    Lasts r (.take r ∈ s.asks call) s.bus (s.serve call).bus ∧ (s.serve call).bus.Outer r := by
  cases signals : call.signals with
  | false => exact s.serveRuns signals ▸ Bus.runLasts membersAgree silent outer (asksLeave outer call)
  | true =>
    have waits := signalsWait s signals
    have moves : Bus.Moves (fun _ _ => True) s.bus (s.serve call).bus := .waits waits
    exact ⟨.same (by rw [waits.readers]), (Bus.outerMoves moves membersAgree outer).2⟩

end Middleware
end Databus
