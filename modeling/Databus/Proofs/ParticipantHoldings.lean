import Databus.Proofs.RequestMoves
import Databus.Proofs.NodeLifetime
import Databus.Proofs.EndpointParents

/-! What participants hold of a bus: parents in their lists, and behind these writers, readers and registered
endpoints. Most requests leave all of it to whom it belongs; leaving takes away what is one's own. -/
namespace Databus

def Request.isMild : Request → Bool
  | .join _ | .registerType _ _ | .createTopic _ _ _ _ | .write _ _ | .take _ | .drain _ _ _ _
  | .setListener _ _ | .newListener _ | .newGraph | .newGuard => true
  | _ => false

namespace Bus

structure Retains (b b' : Bus) : Prop where
  handles : b.nextHandle ≤ b'.nextHandle
  participants : ∀ p x, b.participants.get? p = some x →
    ∃ x', b'.participants.get? p = some x' ∧ x'.domain = x.domain ∧ x'.groups = x.groups
  newcomers : ∀ p x', b'.participants.get? p = some x' → b.participants.get? p = none → x'.groups = []
  groups : ∀ g < b.nextHandle, b'.groups.get? g = b.groups.get? g
  endpoints : b'.endpoints = b.endpoints
  writers : ∀ w < b.nextHandle, b'.writers.get? w = b.writers.get? w
  readers : ∀ r < b.nextHandle,
    (b'.readers.get? r).map Reader.identity = (b.readers.get? r).map Reader.identity

namespace Retains

variable {a b c : Bus}

theorem refl (b : Bus) : Retains b b where
  handles := Nat.le_refl _
  participants _ x found := ⟨x, found, rfl, rfl⟩
  newcomers _ _ found absent := nomatch absent.symm.trans found
  groups _ _ := rfl
  endpoints := rfl
  writers _ _ := rfl
  readers _ _ := rfl

theorem trans (h : Retains a b) (h' : Retains b c) : Retains a c where
  handles := Nat.le_trans h.handles h'.handles
  participants p x found := by
    obtain ⟨y, there, domain, groups⟩ := h.participants p x found
    obtain ⟨z, there', domain', groups'⟩ := h'.participants p y there
    exact ⟨z, there', domain'.trans domain, groups'.trans groups⟩
  newcomers p z found absent := by
    cases between : b.participants.get? p with
    | none => exact h'.newcomers p z found between
    | some y =>
      obtain ⟨z', there, _, groups⟩ := h'.participants p y between
      cases Option.some.inj (there.symm.trans found)
      exact groups.trans (h.newcomers p y between absent)
  groups g old := (h'.groups g (Nat.lt_of_lt_of_le old h.handles)).trans (h.groups g old)
  endpoints := h'.endpoints.trans h.endpoints
  writers w old := (h'.writers w (Nat.lt_of_lt_of_le old h.handles)).trans (h.writers w old)
  readers r old := (h'.readers r (Nat.lt_of_lt_of_le old h.handles)).trans (h.readers r old)

theorem steady (h : Steady a b) : Retains a b where
  handles := Nat.le_of_eq h.traffic.nextHandle.symm
  participants p x found := ⟨x, by rw [h.traffic.participants, found], rfl, rfl⟩
  newcomers p x found absent := by
    rw [h.traffic.participants, absent] at found
    cases found
  groups g _ := by rw [h.traffic.groups]
  endpoints := h.traffic.endpoints
  writers w _ := by rw [h.traffic.writers]
  readers r _ := h.readers r

theorem waits (h : OnlyWaits a b) : Retains a b where
  handles := Nat.le_of_eq h.nextHandle.symm
  participants p x found := ⟨x, by rw [h.participants, found], rfl, rfl⟩
  newcomers p x found absent := by
    rw [h.participants, absent] at found
    cases found
  groups g _ := by rw [h.groups]
  endpoints := h.endpoints
  writers w _ := by rw [h.writers]
  readers r _ := by rw [h.readers]

theorem modifyParticipant {p : InstanceHandle} {f : Participant → Participant}
    (same : ∀ x, (f x).domain = x.domain ∧ (f x).groups = x.groups) :
    Retains b { b with participants := b.participants.modify p f } :=
  { refl b with
    participants := fun q x found => by
      simp only [Table.getModify]
      by_cases own : q = p
      · exact ⟨f x, by rw [if_pos own, ← own, found]; rfl, same x⟩
      · exact ⟨x, by rw [if_neg own, found], rfl, rfl⟩
    newcomers := fun q x found absent => by
      rw [Table.getModify] at found
      split at found
      · rename_i own
        rw [← own, absent] at found
        cases found
      · rw [absent] at found
        cases found }

theorem welcome (membersAgree : b.MembersAgree) (domain : DomainId) : Retains b (b.welcome domain) where
  handles := Nat.le_add_right _ 3
  participants p x found := by
    have new : p ≠ b.nextHandle := by
      rintro rfl
      rw [(membersAgree.fresh (Nat.le_refl _)).2.1] at found
      cases found
    exact ⟨x, by rw [welcomeParticipants, if_neg new, found], rfl, rfl⟩
  newcomers p x found absent := by
    rw [welcomeParticipants, absent] at found
    split at found
    · cases Option.some.inj found
      rfl
    · cases found
  groups g _ := rfl
  endpoints := rfl
  writers w _ := rfl
  readers r old := by
    rw [welcomeReaders, if_neg (Nat.ne_of_lt (Nat.lt_add_right 2 old)),
      if_neg (Nat.ne_of_lt (Nat.lt_succ_of_lt old))]

theorem request (membersAgree : b.MembersAgree) {q : Request} (mild : q.isMild) : Retains b (b.request q) := by
  refine trans ?_ (steady (requestSteady b q))
  cases q with
  | join domain =>
    simp only [Request.opening]
    split
    · exact .refl b
    · exact .welcome membersAgree domain
  | registerType p type =>
    simp only [Request.opening, Bus.request]
    cases ok : b.registerType p type with
    | error f => exact .refl b
    | ok b' =>
      rw [after, (registerTypeOpens ok).2]
      exact .modifyParticipant fun _ => ⟨rfl, rfl⟩
  | createTopic p name type history =>
    simp only [Request.opening, Bus.request]
    cases ok : b.createTopic p name type history with
    | error f => exact .refl b
    | ok made =>
      obtain ⟨t, b'⟩ := made
      rcases createTopicOpens ok with ⟨rfl, _⟩ | ⟨_, _, rfl⟩
      · exact .refl b'
      · exact .modifyParticipant fun _ => ⟨rfl, rfl⟩
  | write w payload =>
    simp only [Request.opening]
    split <;> exact .refl b
  | take r => exact .steady (takeAffects (z := .all) trivial).steady
  | drain side graph guard r => exact .steady (drainAffects (z := .all) trivial trivial).steady
  | setListener r l => exact .steady (.setListener b r l)
  | newListener | newGraph | newGuard => exact { refl b with }
  | _ => cases mild

theorem moves (membersAgree : b.MembersAgree) (moves : Moves (fun _ q => q.isMild) b c) :
    c.MembersAgree ∧ Retains b c :=
  movesKeep (I := fun c => c.MembersAgree ∧ Retains b c)
    (fun _ _ w h => ⟨h.1.waits w, h.2.trans (.waits w)⟩)
    (fun _ q mild h => ⟨membersAgreeRequest h.1 q, h.2.trans (.request h.1 mild)⟩) moves ⟨membersAgree, .refl b⟩

end Retains

variable {b b' c : Bus} {side : Side} {p g k : InstanceHandle} {x : Participant} {t : Topic}

theorem retainsUndone (membersAgree : b.MembersAgree) (found : b.participants.get? p = some x)
    (fresh : b.nextHandle ∉ x.groups) {history : History} (up : PutsUp b side p x t history b')
    (down : TakesDown b' side p b.nextHandle (b.nextHandle + 1) c) : Retains b c := by
  have undone : ∀ q, c.participants.get? q = b.participants.get? q := fun q => by
    rw [down.participants, up.participants]
    simp only [Table.getModify]
    by_cases own : q = p
    · rw [if_pos own, if_pos trivial, own, found]
      have erased : (x.groups ++ [b.nextHandle]).erase b.nextHandle = x.groups := by
        rw [List.erase_append_right _ fresh]
        simp
      simp only [Option.map_some, erased]
    · rw [if_neg own, if_neg own]
  refine ⟨?_, fun q y there => ⟨y, (undone q).trans there, rfl, rfl⟩, fun q y there absent => ?_,
    fun g old => ?_, Table.sameLookup fun k => ?_, fun w old => ?_, fun r old => ?_⟩
  · rw [down.handle, up.handle]
    exact Nat.le_add_right _ 2
  · rw [undone, absent] at there
    cases there
  · rw [down.groups, if_neg (Nat.ne_of_lt old), up.groups, if_neg (Nat.ne_of_lt old)]
  · rw [down.endpoints, up.endpoints, Table.getErase, Table.getInsert]
    split
    · rename_i own
      cases there : b.endpoints.get? k with
      | none => rfl
      | some e => exact absurd (membersAgree.endpoints k e there).1.1 (Nat.not_lt.2 (own ▸ Nat.le_succ _))
    · rfl
  · have new : w ≠ b.nextHandle + 1 := Nat.ne_of_lt (Nat.lt_succ_of_lt old)
    rw [down.writers, if_neg fun own => new own.2, up.writers, if_neg fun own => new own.2]
  · have new : r ≠ b.nextHandle + 1 := Nat.ne_of_lt (Nat.lt_succ_of_lt old)
    rw [down.readers, up.readers, if_neg fun own => new own.2]

/-! ### Leaving -/

structure Departed (b : Bus) (gone : InstanceHandle → Prop) (b' : Bus) : Prop where
  handle : b'.nextHandle = b.nextHandle
  participants : ∀ p x, b'.participants.get? p = some x ↔ b.participants.get? p = some x ∧ ¬ gone p
  groups : ∀ g, (∀ p x, gone p → b.participants.get? p = some x → g ∉ x.groups) →
    b'.groups.get? g = b.groups.get? g
  endpoints : ∀ k e, b'.endpoints.get? k = some e ↔ b.endpoints.get? k = some e ∧ ¬ gone e.owner
  writers : b'.writers = b.writers
  readers : ∀ r, (b'.readers.get? r).map Reader.identity = (b.readers.get? r).map Reader.identity

namespace Departed

variable {gone gone' : InstanceHandle → Prop}

theorem steady (h : Steady b b') : Departed b (fun _ => False) b' where
  handle := h.traffic.nextHandle
  participants p x := by
    rw [h.traffic.participants]
    exact ⟨fun there => ⟨there, id⟩, And.left⟩
  groups g _ := by rw [h.traffic.groups]
  endpoints k e := by
    rw [h.traffic.endpoints]
    exact ⟨fun there => ⟨there, id⟩, And.left⟩
  writers := h.traffic.writers
  readers := h.readers

theorem trans (h : Departed b gone b') (h' : Departed b' gone' c) :
    Departed b (fun p => gone p ∨ gone' p) c where
  handle := h'.handle.trans h.handle
  participants p x := by
    rw [h'.participants, h.participants, not_or, and_assoc]
  groups g free := by
    refine (h'.groups g fun p x away there => ?_).trans
      (h.groups g fun p x away there => free p x (.inl away) there)
    exact free p x (.inr away) ((h.participants p x).1 there).1
  endpoints k e := by
    rw [h'.endpoints, h.endpoints, not_or, and_assoc]
  writers := h'.writers.trans h.writers
  readers r := (h'.readers r).trans (h.readers r)

theorem weaken (h : Departed b gone b') (same : ∀ p, gone p ↔ gone' p) : Departed b gone' b' := by
  rwa [← funext fun p => propext (same p)]

theorem leave (membersAgree : b.MembersAgree) (p : InstanceHandle) : Departed b (· = p) (b.leave p) := by
  cases found : b.participants.get? p with
  | none =>
    have unmoved : b.leave p = b := by simp only [Bus.leave, found]
    rw [unmoved]
    refine ⟨rfl, fun q x => ⟨fun there => ⟨there, fun own => ?_⟩, And.left⟩, fun _ _ => rfl,
      fun k e => ⟨fun there => ⟨there, fun own => ?_⟩, And.left⟩, rfl, fun _ => rfl⟩
    · rw [own, found] at there
      cases there
    · obtain ⟨_, m, member, _⟩ := membersAgree.endpoints k e there
      rw [own, membersAgree.members, found] at member
      cases member
  | some x =>
    have left := leaveOpens found
    rw [left]
    have steady := deliverSteady (b.vacated p x) (b.farewell p x.domain)
    have kept := Departed.steady steady
    have participants : (b.vacated p x).participants = b.participants.erase p := by
      simp only [vacated, marksGroups]
      rfl
    have endpoints : (b.vacated p x).endpoints = b.endpoints.filter fun _ e => e.owner ≠ p := by
      simp only [vacated, marksGroups]
      rfl
    suffices taken : Departed b (fun q => q = p) (b.vacated p x) from
      (taken.trans kept).weaken fun q => iff_of_eq (or_false _)
    refine ⟨?_, fun q y => ?_, fun g free => ?_, fun k e => ?_, ?_, fun r => ?_⟩
    · simp only [vacated, marksGroups]
      rfl
    · rw [participants, Table.getErase]
      by_cases own : q = p <;> simp [own]
    · simp only [vacated]
      refine (markedGroups x.groups b g).trans ?_
      simp only [if_neg (free p x rfl found), Option.map_id']
    · rw [endpoints, Table.getFilter, Option.filter_eq_some_iff, decide_eq_true_eq]
    · simp only [vacated, marksGroups]
      rfl
    · simp only [vacated, marksGroups]
      have cleared : Steady b ((b.setListener x.publications none).setListener x.subscriptions none) :=
        (Steady.setListener b _ none).trans (.setListener _ _ none)
      exact cleared.readers r

end Departed
end Bus

end Databus
