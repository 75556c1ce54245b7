import Databus.Bus.Waiting
import Databus.Proofs.NodeWatches

/-! Moves: requests and waiting in any order. What a request keeps while it is allowed, and waiting keeps
always, holds after any moves; so an orderly bus stays orderly and a watch that is spared stays watched. -/
namespace Databus.Bus

structure OnlyWaits (b b' : Bus) : Prop where
  same : { b' with nextKey := b.nextKey, conditions := b.conditions, waitSets := b.waitSets,
                   signals := b.signals } = b
  keys : b.nextKey ≤ b'.nextKey

variable {names : String → String → Prop} {b b' c : Bus}

namespace OnlyWaits

theorem ofSignals (h : OnlySignals b b') : OnlyWaits b b' := by
  have keys : b'.nextKey = b.nextKey := (OnlyTraffic.ofSignals h).nextKey
  refine ⟨?_, Nat.le_of_eq keys.symm⟩
  rw [← keys]
  exact h.same

theorem trans (h : OnlyWaits b b') (h' : OnlyWaits b' c) : OnlyWaits b c := by
  refine ⟨?_, Nat.le_trans h.keys h'.keys⟩
  have first := h.same
  rw [← h'.same] at first
  exact first

theorem traffic (h : OnlyWaits b b') : OnlyTraffic b { b' with nextKey := b.nextKey } := by
  unfold OnlyTraffic
  rw [← h.same]

theorem readers (h : OnlyWaits b b') : b'.readers = b.readers := by
  have e := congrArg Bus.readers h.same
  exact e

theorem listeners (h : OnlyWaits b b') : b'.listeners = b.listeners := by
  have e := congrArg Bus.listeners h.same
  exact e

theorem graphs (h : OnlyWaits b b') : b'.graphs = b.graphs := by
  have e := congrArg Bus.graphs h.same
  exact e

theorem members (h : OnlyWaits b b') : b'.members = b.members := by
  have e := congrArg Bus.members h.same
  exact e

theorem participants (h : OnlyWaits b b') : b'.participants = b.participants := by
  have e := congrArg Bus.participants h.same
  exact e

theorem groups (h : OnlyWaits b b') : b'.groups = b.groups := by
  have e := congrArg Bus.groups h.same
  exact e

theorem endpoints (h : OnlyWaits b b') : b'.endpoints = b.endpoints := by
  have e := congrArg Bus.endpoints h.same
  exact e

theorem writers (h : OnlyWaits b b') : b'.writers = b.writers := by
  have e := congrArg Bus.writers h.same
  exact e

theorem nextHandle (h : OnlyWaits b b') : b'.nextHandle = b.nextHandle := by
  have e := congrArg Bus.nextHandle h.same
  exact e

end OnlyWaits

theorem newWaitSetWaits (b : Bus) : OnlyWaits b b.newWaitSet.2 := ⟨rfl, Nat.le_succ _⟩

theorem attachWaits {ws : WaitSetId} {c : ConditionId} {b' : Bus} (ok : b.attach ws c = .ok b') :
    OnlyWaits b b' := by
  unfold attach at ok
  split at ok <;> try contradiction
  cases Except.ok.inj ok
  have hooked := addHookFrame b c (.waitSet ws)
  exact .ofSignals (hooked.trans (b := b.addHook c (.waitSet ws)) rfl)

theorem removeHooksFrame (b : Bus) (c : ConditionId) (p : Hook → Bool) :
    OnlySignals b (b.removeHooks c p) := rfl

theorem dropWaitSetWaits (b : Bus) (ws : WaitSetId) : OnlyWaits b (b.dropWaitSet ws) := by
  have hooks : ∀ (l : List ConditionId) (b : Bus),
      OnlySignals b (l.foldl (fun b c => b.removeHooks c (isWaitSet ws)) b) := fun l => by
    induction l with
    | nil => exact .refl
    | cons c rest ih => exact fun b => (removeHooksFrame b c _).trans (ih _)
  exact .ofSignals ((hooks (b.attachedTo ws) b).trans rfl)

theorem pollWaits (b : Bus) (ws : WaitSetId) : OnlyWaits b (b.poll ws).2 := by
  have scanned : OnlySignals b (b.scan ws).2 := rfl
  unfold poll
  split <;> rename_i eq <;> rw [eq] at scanned <;> exact .ofSignals scanned

theorem takeGuardWaits (b : Bus) (c : ConditionId) : OnlyWaits b (b.takeGuard c).2 := by
  refine .ofSignals ?_
  unfold takeGuard
  split
  · exact setTriggerFrame b c _
  · exact .refl b

/-! ### Moves -/

inductive Moves (P : Bus → Request → Prop) : Bus → Bus → Prop
  | refl (b : Bus) : Moves P b b
  | waits {b b' : Bus} (h : OnlyWaits b b') : Moves P b b'
  | ask {b : Bus} {q : Request} (allowed : P b q) : Moves P b (b.request q)
  | trans {a b c : Bus} (first : Moves P a b) (second : Moves P b c) : Moves P a c

theorem movesKeep {P : Bus → Request → Prop} {I : Bus → Prop}
    (waits : ∀ b b', OnlyWaits b b' → I b → I b') (asks : ∀ b q, P b q → I b → I (b.request q))
    (h : Moves P b b') (start : I b) : I b' := by
  induction h with
  | refl b => exact start
  | waits h => exact waits _ _ h start
  | ask allowed => exact asks _ _ allowed start
  | trans first second ih ih' => exact ih' (ih start)

theorem movesWeaken {P Q : Bus → Request → Prop} (weaker : ∀ b q, P b q → Q b q)
    (h : Moves P b b') : Moves Q b b' := by
  induction h with
  | refl b => exact .refl b
  | waits h => exact .waits h
  | ask allowed => exact .ask (weaker _ _ allowed)
  | trans first second ih ih' => exact ih.trans ih'

def Allowed (P : Bus → Request → Prop) (b : Bus) : List Request → Prop
  | [] => True
  | q :: rest => P b q ∧ Allowed P (b.request q) rest

theorem allowedBoth {P Q : Bus → Request → Prop} {requests : List Request}
    (first : Allowed P b requests) (second : Allowed Q b requests) :
    Allowed (fun b q => P b q ∧ Q b q) b requests := by
  induction requests generalizing b with
  | nil => trivial
  | cons q rest ih => exact ⟨⟨first.1, second.1⟩, ih first.2 second.2⟩

theorem movesRun {P : Bus → Request → Prop} {requests : List Request}
    (allowed : Allowed P b requests) : Moves P b (b.run requests) := by
  induction requests generalizing b with
  | nil => exact .refl b
  | cons q rest ih => exact .trans (.ask allowed.1) (ih allowed.2)

/-! ### Order and watches -/

theorem MembersAgree.waits (h : MembersAgree b) (w : OnlyWaits b b') : MembersAgree b' := by
  have steady : Steady b { b' with nextKey := b.nextKey } :=
    ⟨w.traffic, fun r => by rw [← w.readers], fun l => by rw [← w.listeners],
      fun g => by rw [← w.graphs]⟩
  have membersAgree := h.steady steady
  exact { membersAgree with
    listeners := fun l x found => Nat.lt_of_lt_of_le (membersAgree.listeners l x found) w.keys
    graphs := fun g x found => Nat.lt_of_lt_of_le (membersAgree.graphs g x found) w.keys }

theorem Orderly.waits (h : b.Orderly names) (w : OnlyWaits b b') : b'.Orderly names where
  membersAgree := h.membersAgree.waits w
  plain := by
    unfold Plain
    rw [w.listeners]
    exact h.plain
  named := by
    rw [w.endpoints]
    exact h.named
  drawn l side graph guard found :=
    Nat.lt_of_lt_of_le (h.drawn l side graph guard (w.listeners ▸ found)) w.keys
  attached k x l found listens :=
    Nat.lt_of_lt_of_le (h.attached k x l (w.readers ▸ found) listens) w.keys

theorem orderlyMoves {P : Bus → Request → Prop} (proper : ∀ b q, P b q → q.Proper names b)
    (h : Moves P b b') (start : b.Orderly names) : b'.Orderly names :=
  movesKeep (fun _ _ waits orderly => orderly.waits waits)
    (fun b q allowed orderly => orderlyRequest orderly (proper b q allowed)) h start

def Gentle (names : String → String → Prop) (w : NodeWatch) (m : Member) (b : Bus) (q : Request) : Prop :=
  q.Proper names b ∧ q.Spares b w m

theorem watchedMoves {w : NodeWatch} {m : Member} (h : Moves (Gentle names w m) b b') (start : b.Orderly names)
    (watched : b.Watched w m) : b'.Watched w m := by
  refine (movesKeep (I := fun b => b.Orderly names ∧ b.Watched w m) (fun _ b' waits both => ?_)
    (fun b q allowed both => ?_) h ⟨start, watched⟩).2
  · obtain ⟨g, fed, sound, reflects⟩ := both.2
    refine ⟨both.1.waits waits, g,
      fed.tables (waits.members ▸ fed.member) waits.readers waits.listeners waits.graphs, sound,
      fun side => ?_⟩
    rw [visibleSame waits.endpoints]
    exact reflects side
  · exact ⟨orderlyRequest both.1 allowed.1, watchedRequest both.1 both.2 allowed.2 allowed.1⟩

theorem outerMoves {P : Bus → Request → Prop} {k : InstanceHandle} (h : Moves P b b')
    (start : MembersAgree b) (outer : b.Outer k) : MembersAgree b' ∧ b'.Outer k := by
  refine movesKeep (I := fun b => MembersAgree b ∧ b.Outer k) (fun b b' waits both => ?_)
    (fun b q _ both => ?_) h ⟨start, outer⟩
  · refine ⟨both.1.waits waits, ?_⟩
    unfold Outer
    rw [waits.nextHandle, waits.members]
    exact both.2
  · have membersAgree := membersAgreeRequest both.1 q
    refine ⟨membersAgree, Nat.lt_of_lt_of_le both.2.1 (handlesGrow b q), fun p m side found => ?_⟩
    rcases memberNew found with old | ⟨_, domain, _, rfl⟩
    · exact both.2.2 p m side old
    · exact Nat.ne_of_gt (Nat.lt_trans both.2.1 (memberInbox b domain side))

end Databus.Bus
