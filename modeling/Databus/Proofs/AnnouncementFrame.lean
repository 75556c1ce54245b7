import Databus.Proofs.RecordCorrespondence
import Databus.Proofs.DeliveryLog
import Databus.Proofs.BoundedQueues
import Databus.Proofs.GraphGuards

/-! What an announcement leaves alone: a condition changes only as a sample comes to the reader that has it, or to one
whose listener raises it. So a participant that takes an endpoint away moves nothing but what its peers hear it with. -/
namespace Databus.Bus

variable {b b' : Bus} {k : ConditionId}

def Apart (b : Bus) (k : ConditionId) (r : InstanceHandle) : Prop :=
  ∀ x, b.readers.get? r = some x → x.condition ≠ k ∧
    ∀ l side γ, x.listener = some l → b.listeners.get? l ≠ some (.discovery side γ k)

theorem enqueueApart {n : Notice} (apart : ∀ x, b.readers.get? n.reader = some x → x.condition ≠ k) :
    (b.enqueue n).trigger? k = b.trigger? k := by
  unfold enqueue
  cases found : b.readers.get? n.reader with
  | none => rfl
  | some x =>
    dsimp only
    obtain ⟨f, lost, _⟩ := lostAdjusts x.condition (List.replicate (x.mailbox.overflow x.history) ())
      (b.modifyReader n.reader fun r => { r with mailbox := r.mailbox.push r.history n.arrival })
    have fed := lost.then (activateAdjusts _ x.condition .dataAvailable)
    exact (fed.triggers k).trans (if_neg (apart x found).symm)

theorem drainApart {side : Side} {γ : GraphId} {κ : ConditionId} {r : InstanceHandle}
    (apart : ∀ x, b.readers.get? r = some x → x.condition ≠ k) (other : κ ≠ k) :
    (b.drain side γ κ r).2.trigger? k = b.trigger? k := by
  have taken : (b.takeAll r).2.trigger? k = b.trigger? k := by
    unfold takeAll
    cases found : b.readers.get? r with
    | none => rfl
    | some x => exact ((deactivateAdjusts _ x.condition .dataAvailable).triggers k).trans (if_neg (apart x found).symm)
  unfold drain
  dsimp only
  split
  · exact taken
  · dsimp only
    split
    · exact (((setGuardAdjusts _ κ true).triggers k).trans (if_neg other.symm)).trans taken
    · exact taken

def aside (b : Bus) (k : ConditionId) (readers : InstanceHandle → Prop) : Scope :=
  ⟨readers, fun γ => ¬ b.Feeds γ k, False⟩

theorem stepApart {readers : InstanceHandle → Prop} (silent : b.Silent)
    (apart : ∀ r x, readers r → b.readers.get? r = some x → x.condition ≠ k) {t : Task}
    (within : t.Within (b.aside k readers) b) : (t.step b).1.trigger? k = b.trigger? k := by
  cases t with
  | deliver n =>
    rw [deliverEnqueues]
    exact enqueueApart fun x => apart _ x within
  | call r l =>
    unfold Task.step
    dsimp only
    split
    · rename_i side γ κ found
      refine drainApart (fun x => apart r x within.1) fun own => ?_
      exact within.2 side γ κ found ⟨l, side, own ▸ found⟩
    · rename_i s found
      exact absurd found (silent l s)
    · rfl
  | act r l a =>
    obtain ⟨_, _, s, found⟩ := within
    exact absurd found (silent l s)

def Dedicated (b : Bus) (k : ConditionId) : Prop := ∀ γ κ, b.Feeds γ κ → b.Feeds γ k → κ = k

theorem Wired.dedicated (h : b.Wired) (k : ConditionId) : b.Dedicated k :=
  fun γ κ feeds raisesGuards => (h.apart γ κ γ k feeds raisesGuards).1 rfl

theorem deliverApart (silent : b.Silent) (dedicated : b.Dedicated k) {news : List Notice}
    (apart : ∀ n ∈ news, b.Apart k n.reader) : (b.deliver news).trigger? k = b.trigger? k := by
  let readers (r : InstanceHandle) : Prop := ∃ n ∈ news, n.reader = r
  have confined : Confined (b.aside k readers) b := by
    refine ⟨.inr fun l s found => absurd found (silent l s), False.elim, fun l s found => absurd found (silent l s), ?_⟩
    rintro _ x l side γ κ ⟨n, mem, rfl⟩ found listens raisesGuards feeds
    obtain rfl := dedicated γ κ ⟨l, side, raisesGuards⟩ feeds
    exact (apart n mem x found).2 l side γ listens raisesGuards
  -- readers keep their conditions and listeners the guards they raise, so every step is one among these readers
  refine (settleInvariant (P := fun c tasks => Kept (b.aside k readers) b c ∧
    (∀ t ∈ tasks, t.Within (b.aside k readers) c) ∧ c.trigger? k = b.trigger? k)
    (fun c t rest ⟨kept, within, same⟩ => ?_) ⟨.refl b, fun t mem => ?_, rfl⟩).2.2
  · obtain ⟨step, new⟩ := stepKept (kept.confined confined) (within t List.mem_cons_self)
    have feeds (γ : GraphId) : c.Feeds γ k ↔ b.Feeds γ k := by
      simp only [Feeds, kept.steady.discovery]
    have scope : c.aside k readers = b.aside k readers := by
      simp only [aside, feeds]
    have others (r : InstanceHandle) (x : Reader) (among : readers r) (found : c.readers.get? r = some x) :
        x.condition ≠ k := by
      obtain ⟨n, mem, rfl⟩ := among
      have before := kept.steady.readers n.reader
      rw [found] at before
      obtain ⟨y, there, identity⟩ := Option.map_eq_some_iff.1 before.symm
      have condition : y.condition = x.condition := (congrArg Reader.condition identity :)
      exact condition ▸ (apart n mem y there).1
    have still := stepApart (silent.steady kept.steady) others (scope ▸ within t List.mem_cons_self)
    refine ⟨kept.trans step, fun t' mem => ?_, still.trans same⟩
    rcases List.mem_append.1 mem with fresh | old
    · exact new t' fresh
    · exact step.within (within t' (List.mem_cons_of_mem _ old))
  · obtain ⟨n, old, rfl⟩ := List.mem_map.1 mem
    exact ⟨n, old, rfl⟩

/-! ### Taking an endpoint away -/

def OwnReadersOnly (b : Bus) (p : InstanceHandle) (k : ConditionId) : Prop :=
  ∀ q m side, b.members.get? q = some m → q ≠ p → b.Apart k (m.inbox side)

theorem withdrawStill (silent : b.Silent) (dedicated : b.Dedicated k) {key : InstanceHandle} {e : Endpoint}
    (found : b.endpoints.get? key = some e) (ownReadersOnly : b.OwnReadersOnly e.owner k) :
    (b.withdraw key).2.trigger? k = b.trigger? k := by
  simp only [withdrawOpens, withdrawal, found]
  refine deliverApart (b := b.withdrawn key) silent dedicated fun n mem => ?_
  obtain ⟨m, peer, rfl⟩ := List.mem_map.1 mem
  obtain ⟨q, member⟩ := Table.memValues.1 peer
  rw [Table.getFilter, Option.filter_eq_some_iff, Bool.and_eq_true, decide_eq_true_eq, decide_eq_true_eq] at member
  exact ownReadersOnly q m e.side member.1 member.2.2

section Endpoints

variable {side : Side} {p : InstanceHandle} {d : DomainId} {t : Topic} {g e : InstanceHandle}

theorem unchildStill (ownsEndpoint : b.OwnsEndpoint side p d t g e) (silent : b.Silent) (dedicated : b.Dedicated k)
    (ownReadersOnly : b.OwnReadersOnly p k) : (b.request (.unchild g e side)).trigger? k = b.trigger? k := by
  obtain ⟨b', deleted, requested, _⟩ := deleteChildBares ownsEndpoint
  rw [requested]
  cases side with
  | publication =>
    obtain ⟨_, _, rfl⟩ := deleteWriterOpens deleted
    exact withdrawStill (b := b.withoutWriter g e) silent dedicated ownsEndpoint.endpoint ownReadersOnly
  | subscription =>
    obtain ⟨_, _, rfl⟩ := deleteReaderOpens deleted
    exact withdrawStill (b := b.removeChild g e) silent dedicated ownsEndpoint.endpoint ownReadersOnly

theorem takeDownStill (ownsEndpoint : b.OwnsEndpoint side p d t g e) (silent : b.Silent) (dedicated : b.Dedicated k)
    (ownReadersOnly : b.OwnReadersOnly p k) : (b.takeDown side p g e).trigger? k = b.trigger? k := by
  have roster := rosterFrame (b := b.request (.unchild g e side)) (q := .deleteGroup p g) rfl
  exact (triggerSame (congrArg Bus.conditions roster.same) k).trans
    (unchildStill ownsEndpoint silent dedicated ownReadersOnly)

end Endpoints

theorem leaveStill {p : InstanceHandle} (bare : ∀ key e, b.endpoints.get? key = some e → e.owner ≠ p) :
    (b.leave p).trigger? k = b.trigger? k := by
  cases found : b.participants.get? p with
  | none => simp only [leave, found]
  | some x =>
    have quiet : b.farewell p x.domain = [] := by
      rw [farewell, Table.filterNone fun key e there => decide_eq_false (bare key e there)]
      rfl
    rw [leaveOpens found, quiet, deliverNothing, vacated, marksGroups]
    rfl

/-! ### What else is there -/

structure Misses (b : Bus) (gone : InstanceHandle → Prop) (b' : Bus) : Prop where
  silent : b'.Silent
  endpoints : ∀ e x, b'.endpoints.get? e = some x ↔ b.endpoints.get? e = some x ∧ ¬ gone e
  writers : ∀ w, ¬ gone w → b'.writers.get? w = b.writers.get? w
  readers : ∀ r, ¬ gone r → b.Outer r → b'.readers.get? r = b.readers.get? r

theorem Misses.nothing {gone : InstanceHandle → Prop} (silent : b.Silent) (none : ∀ e, ¬ gone e) : b.Misses gone b :=
  ⟨silent, fun e _ => ⟨fun found => ⟨found, none e⟩, And.left⟩, fun _ _ => rfl, fun _ _ _ => rfl⟩

theorem takeDownMisses {side : Side} {p : InstanceHandle} {d : DomainId} {t : Topic} {g e : InstanceHandle}
    (ownsEndpoint : b.OwnsEndpoint side p d t g e) (membersAgree : b.MembersAgree) (silent : b.Silent) :
    b.Misses (e = ·) (b.takeDown side p g e) := by
  obtain ⟨_, _, _, down⟩ := takeDownRuns ownsEndpoint
  obtain ⟨silent', spared⟩ := spareMoves (takeDownSpares b side p g e) membersAgree silent
  refine ⟨silent', fun e' x => ?_, fun w other => (down.writers w).trans (if_neg fun own => other own.2.symm),
    fun r other => spared r (Ne.symm other)⟩
  rw [down.endpoints, Table.getErase]
  split
  · rename_i own
    exact ⟨nofun, fun held => absurd own.symm held.2⟩
  · rename_i other
    exact ⟨fun found => ⟨found, Ne.symm other⟩, And.left⟩

theorem leaveMisses {p : InstanceHandle} {gone : InstanceHandle → Prop} (membersAgree : b.MembersAgree)
    (silent : b.Silent) (bare : ∀ e x, b.endpoints.get? e = some x → x.owner ≠ p) (none : ∀ e, ¬ gone e) :
    b.Misses gone (b.leave p) := by
  have departed := Departed.leave membersAgree p
  obtain ⟨silent', spared⟩ := spareMoves (leaveSpares (fun _ => True) b p) membersAgree silent
  refine ⟨silent', fun e x => (departed.endpoints e x).trans ?_, fun _ _ => by rw [departed.writers],
    fun r _ => spared r trivial⟩
  exact and_congr_right fun found => ⟨fun _ => none e, fun _ => bare e x found⟩

namespace Misses

variable {gone : InstanceHandle → Prop}

theorem audience (h : b.Misses gone b') (x : Writer) (r : InstanceHandle) :
    r ∈ b'.audience x ↔ r ∈ b.audience x ∧ ¬ gone r := by
  simp only [memAudience, h.endpoints]
  grind

theorem write (h : b.Misses gone b') (silent : b.Silent) {w : InstanceHandle} {x : Writer}
    (writer : b.writers.get? w = some x) (alive : x.deleted = false) (stays : ¬ gone w) (payload : Octets) :
    (∃ f, b.write w payload = .error f ∧ b'.write w payload = .error f) ∨
      ∃ c c', b.write w payload = .ok c ∧ b'.write w payload = .ok c' ∧
        (∀ r y, ¬ gone r → b.Outer r → b.readers.get? r = some y → y.listener = none →
          c'.readers.get? r = c.readers.get? r) ∧
        ∀ r, gone r → c'.readers.get? r = b'.readers.get? r := by
  have writer' := (h.writers w stays).trans writer
  by_cases fits : payload.length ≤ x.maxPayload
  · refine .inr ⟨_, _, writeGranted writer alive fits, writeGranted writer' alive fits,
      fun r y remains outer found unserved => ?_, fun r left => ?_⟩
    · have found' := (h.readers r remains outer).trans found
      have once (b : Bus) : (b.audience x).Nodup := Table.keysNodup _
      rw [copiesExact silent w payload (once b) found unserved,
        copiesExact h.silent w payload (once b') found' unserved]
      simp only [h.audience, remains, not_false_eq_true, and_true]
    · exact copiesElsewhere h.silent w payload fun mem => ((h.audience x r).1 mem).2 left
  · have large := Nat.lt_of_not_le fits
    exact .inl ⟨_, writeRefused writer alive large, writeRefused writer' alive large⟩

end Misses

end Databus.Bus
