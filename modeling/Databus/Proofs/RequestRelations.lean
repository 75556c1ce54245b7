import Databus.Proofs.DeliveryFrame

/-! What any request carries along: a relation between buses that holds over every part of the work, and does not
ask for what registration changes, holds over deliveries, over requests and over runs of them. -/
namespace Databus.Bus

structure OnlyTables (b b' : Bus) : Prop where
  same : { b' with nextHandle := b.nextHandle, participants := b.participants, groups := b.groups,
                   writers := b.writers, members := b.members, endpoints := b.endpoints } = b
  handles : b.nextHandle ≤ b'.nextHandle

namespace OnlyTables

variable {b b' : Bus}

theorem readers (h : OnlyTables b b') : b'.readers = b.readers := by
  have e := congrArg Bus.readers h.same
  exact e

theorem conditions (h : OnlyTables b b') : b'.conditions = b.conditions := by
  have e := congrArg Bus.conditions h.same
  exact e

theorem listeners (h : OnlyTables b b') : b'.listeners = b.listeners := by
  have e := congrArg Bus.listeners h.same
  exact e

theorem graphs (h : OnlyTables b b') : b'.graphs = b.graphs := by
  have e := congrArg Bus.graphs h.same
  exact e

theorem nextCondition (h : OnlyTables b b') : b'.nextCondition = b.nextCondition := by
  have e := congrArg Bus.nextCondition h.same
  exact e

theorem nextKey (h : OnlyTables b b') : b'.nextKey = b.nextKey := by
  have e := congrArg Bus.nextKey h.same
  exact e

theorem ofRoster (h : OnlyRoster b b') (handles : b.nextHandle ≤ b'.nextHandle) : OnlyTables b b' := by
  refine ⟨?_, handles⟩
  unfold OnlyRoster at h
  rw [← h]

end OnlyTables

structure Carries (R : Bus → Bus → Prop) : Prop where
  refl : ∀ b, R b b
  trans : ∀ {a b c}, R a b → R b c → R a c
  tables : ∀ {b b'}, OnlyTables b b' → R b b'
  enqueue : ∀ b n, R b (b.enqueue n)
  take : ∀ b r, R b (b.take r).2
  takeAll : ∀ b r, R b (b.takeAll r).2
  script : ∀ b l f, R b (b.modifyScript l f)
  install : ∀ b r l, R b (b.setListener r l)
  drain : ∀ {b l side graph guard} r, b.listeners.get? l = some (.discovery side graph guard) →
    R b (b.drain side graph guard r).2
  newReader : ∀ b p topic type history, R b (b.newReader p topic type history).2
  newGuard : ∀ b, R b (b.newCondition .newGuard).2
  newGraph : ∀ b, R b b.newGraph.2

namespace Carries

variable {R : Bus → Bus → Prop} (h : Carries R)
include h

/-! ### Deliveries -/

theorem notes (l : ListenerId) (samples : List Sample) (b : Bus) :
    R b (samples.foldl (fun b s => b.note l (.payload s.payload)) b) :=
  List.foldlRecOn (motive := R b) samples _ (h.refl b) fun b' carried _ _ =>
    h.trans carried (h.script b' l _)

theorem writeFrom (b : Bus) (l : ListenerId) (w : InstanceHandle) (payload : Octets) :
    R b (b.writeFrom l w payload).1 := by
  unfold Bus.writeFrom
  cases b.route w payload with
  | ok news => exact h.refl b
  | error f => exact h.script b l _

theorem act (b : Bus) (r : InstanceHandle) (l : ListenerId) (a : Action) : R b (b.act r l a).1 := by
  have spend : R b (b.spend l) := h.script b l _
  cases a with
  | noteUnread =>
    unfold Bus.act
    cases b.readers.get? r with
    | none => exact h.refl b
    | some x => exact h.script b l _
  | install l' => exact h.install b r l'
  | takeOne =>
    have taken := h.take b r
    unfold Bus.act
    dsimp only
    split <;> rename_i eq <;> rw [eq] at taken
    · exact h.trans taken (h.script _ _ _)
    · exact taken
  | takeAll => exact h.trans (h.takeAll b r) (h.notes l _ _)
  | forward w =>
    have taken := h.trans spend (h.take (b.spend l) r)
    unfold Bus.act
    dsimp only
    split
    · exact h.script b l _
    · split
      · rename_i s b' eq
        rw [eq] at taken
        have noted : R b (b'.note l (.payload s.payload)) := h.trans taken (h.script b' l _)
        cases w with
        | none => exact noted
        | some w => exact h.trans noted (h.writeFrom _ _ _ _)
      · rename_i b' eq
        rw [eq] at taken
        exact taken
  | emit w payload =>
    unfold Bus.act
    dsimp only
    split
    · exact h.script b l _
    · exact h.trans spend (h.writeFrom _ _ _ _)

theorem step (b : Bus) (t : Task) : R b (t.step b).1 := by
  cases t with
  | deliver n =>
    have queued := h.enqueue b n
    unfold Task.step
    dsimp only
    split <;> exact queued
  | call r l =>
    unfold Task.step
    dsimp only
    split
    · exact h.drain r ‹_›
    · exact h.script b l _
    · exact h.refl b
  | act r l a => exact h.act b r l a

theorem deliver (b : Bus) (news : List Notice) : R b (b.deliver news) :=
  settleInvariant (P := fun b' _ => R b b') (fun b' t _ carried => h.trans carried (h.step b' t)) (h.refl b)

/-! ### Requests -/

theorem withdrawal (b : Bus) (k : InstanceHandle) : R b (b.withdrawal k).1 := by
  unfold Bus.withdrawal
  split <;> exact h.tables ⟨rfl, Nat.le_refl _⟩

theorem opened {b b' : Bus} {q : Request} {news : List Notice} (opened : q.Opened b b' news)
    (listener : ∀ l, q = .newListener l → R b (b.newListener l).2)
    (drain : ∀ side graph guard r, q = .drain side graph guard r →
      R b (b.drain side graph guard r).2) : R b b' := by
  cases opened with
  | refused | sent => exact h.refl b
  | roster roster => exact h.tables (.ofRoster (rosterFrame roster) (rosterHandles roster))
  | joined fits =>
    have handle : R b b.takeHandle.2 := h.tables ⟨rfl, Nat.le_succ _⟩
    have first := h.trans handle (h.newReader b.takeHandle.2 b.nextHandle Announcement.publicationTopic
      Announcement.typeName .keepAll)
    have second := h.trans first (h.newReader _ b.nextHandle Announcement.subscriptionTopic
      Announcement.typeName .keepAll)
    exact h.trans second (h.tables ⟨rfl, Nat.le_refl _⟩)
  | @left p x found =>
    have marked : R b (x.groups.foldl markDeleted b) := by
      rw [marksGroups]
      exact h.tables ⟨rfl, Nat.le_refl _⟩
    have silent := h.trans (h.trans marked (h.install _ x.publications none))
      (h.install _ x.subscriptions none)
    exact h.trans silent (h.tables ⟨rfl, Nat.le_refl _⟩)
  | writer isOpen => exact h.tables ⟨rfl, Nat.le_succ _⟩
  | @reader g x topic history isOpen =>
    exact h.trans (h.newReader b x.participant topic.name topic.type history)
      (h.tables ⟨rfl, Nat.le_refl _⟩)
  | @unwritten g w =>
    have without : R b (b.withoutWriter g w) := h.tables ⟨rfl, Nat.le_refl _⟩
    exact h.trans without (h.withdrawal _ w)
  | @unread g r =>
    have without : R b (b.removeChild g r) := h.tables ⟨rfl, Nat.le_refl _⟩
    exact h.trans without (h.withdrawal _ r)
  | took => exact h.take b _
  | drained => exact drain _ _ _ _ rfl
  | attached => exact h.install b _ _
  | listener => exact listener _ rfl
  | graph => exact h.newGraph b
  | guard => exact h.newGuard b

theorem request {b : Bus} {q : Request} (listener : ∀ l, q = .newListener l → R b (b.newListener l).2)
    (drain : ∀ side graph guard r, q = .drain side graph guard r →
      R b (b.drain side graph guard r).2) : R b (b.request q) := by
  have closing (b' : Bus) : R b' (q.closing b b') := by
    cases q with
    | deleteReader g r =>
      unfold Request.closing
      dsimp only
      split
      · exact h.install b' r none
      · exact h.refl b'
    | _ => exact h.refl b'
  rw [q.opens]
  exact h.trans (h.trans (h.opened (q.opened b) listener drain) (h.deliver _ _)) (closing _)

end Carries
end Databus.Bus
