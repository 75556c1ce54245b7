import Databus.Proofs.EntityOwnership

/-! Who was created under whom, and which of these links have been dissolved by a deletion. Every request keeps
the lists of participants and groups, and the parents that entities name, in agreement with this log. -/
namespace Databus

inductive ParentLink
  | group (participant group : InstanceHandle)
  | writer (publisher writer : InstanceHandle)
  | reader (subscriber reader : InstanceHandle)
  deriving DecidableEq, Repr

namespace ParentLink

def parent : ParentLink → InstanceHandle
  | .group p _ => p
  | .writer g _ => g
  | .reader g _ => g

def child : ParentLink → InstanceHandle
  | .group _ g => g
  | .writer _ w => w
  | .reader _ r => r

def deletion : ParentLink → Request
  | .group p g => .deleteGroup p g
  | .writer g w => .deleteWriter g w
  | .reader g r => .deleteReader g r

def answer (b : Bus) : ParentLink → Except Fault Bus
  | .group p g => b.deleteGroup p g
  | .writer g w => b.deleteWriter g w
  | .reader g r => b.deleteReader g r

end ParentLink

def Group.link (y : Group) (g k : InstanceHandle) : ParentLink :=
  match y.side with
  | .publication => .writer g k
  | .subscription => .reader g k

namespace Request

def forms? (b : Bus) : Request → Option ParentLink
  | .createGroup side p => (b.createGroup side p).toOption.map fun made => .group p made.1
  | .createWriter g topic n => (b.createWriter g topic n).toOption.map fun made => .writer g made.1
  | .createReader g topic history => (b.createReader g topic history).toOption.map fun made => .reader g made.1
  | _ => none

def dissolves? (b : Bus) : Request → Option ParentLink
  | .deleteGroup p g => (b.deleteGroup p g).toOption.map fun _ => .group p g
  | .deleteWriter g w => (b.deleteWriter g w).toOption.map fun _ => .writer g w
  | .deleteReader g r => (b.deleteReader g r).toOption.map fun _ => .reader g r
  | _ => none

end Request

structure CreationLog where
  made : List ParentLink := []
  gone : List ParentLink := []
  deriving DecidableEq, Repr

def CreationLog.enter (l : CreationLog) (b : Bus) (q : Request) : CreationLog :=
  ⟨l.made ++ (q.forms? b).toList, l.gone ++ (q.dissolves? b).toList⟩

namespace Bus

def creationLog (b : Bus) (l : CreationLog) : List Request → CreationLog
  | [] => l
  | q :: rest => (b.request q).creationLog (l.enter b q) rest

structure LogAgrees (b : Bus) (l : CreationLog) : Prop where
  born : ∀ d ∈ l.made, d.child < b.nextHandle ∧ d.parent < b.nextHandle
  spent : ∀ d ∈ l.gone, d ∈ l.made
  listed : ∀ p x, b.participants.get? p = some x →
    ∀ g, g ∈ x.groups ↔ .group p g ∈ l.made ∧ .group p g ∉ l.gone
  held : ∀ g y, b.groups.get? g = some y →
    ∀ k, k ∈ y.endpoints ↔ y.link g k ∈ l.made ∧ y.link g k ∉ l.gone
  groups : ∀ g y, b.groups.get? g = some y → ∀ p, .group p g ∈ l.made ↔ p = y.participant
  writers : ∀ w z, b.writers.get? w = some z → ∀ g, .writer g w ∈ l.made ↔ g = z.publisher
  readers : ∀ r z g y, b.readers.get? r = some z → b.groups.get? g = some y → .reader g r ∈ l.made →
    z.participant = y.participant
  sided : ∀ g y k, b.groups.get? g = some y →
    (.writer g k ∈ l.made → y.side = .publication) ∧ (.reader g k ∈ l.made → y.side = .subscription)
  shut : ∀ g y p, b.groups.get? g = some y → .group p g ∈ l.gone → y.deleted = true ∧ y.endpoints = []

theorem logAgreesEmpty : LogAgrees {} {} := by
  constructor <;> intros <;> contradiction

namespace LogAgrees

variable {b b' : Bus} {l : CreationLog}

theorem linkSame {y y' : Group} (side : y.side = y'.side) (g k : InstanceHandle) : y.link g k = y'.link g k := by
  rw [Group.link, Group.link, side]

theorem linkParent (y : Group) (g k : InstanceHandle) : (y.link g k).parent = g := by
  unfold Group.link
  split <;> rfl

theorem linkOnce {x y : Group} {g k c j : InstanceHandle} (same : y.link c j = x.link g k) : c = g ∧ j = k := by
  unfold Group.link at same
  split at same <;> split at same <;> cases same <;> exact ⟨rfl, rfl⟩

theorem linkApart (y : Group) (g k p c : InstanceHandle) : y.link g k ≠ .group p c := by
  unfold Group.link
  split <;> nofun

theorem keep (h : LogAgrees b l) (next : b.nextHandle ≤ b'.nextHandle)
    (participants : ∀ p x, b'.participants.get? p = some x →
      (∃ x', b.participants.get? p = some x' ∧ x.groups = x'.groups) ∨ b.nextHandle ≤ p ∧ x.groups = [])
    (groups : ∀ g y, b'.groups.get? g = some y → ∃ y', b.groups.get? g = some y' ∧ y.side = y'.side ∧
      y.participant = y'.participant ∧ y.endpoints = y'.endpoints ∧ (y'.deleted = true → y.deleted = true))
    (writers : ∀ w z, b'.writers.get? w = some z → ∃ z', b.writers.get? w = some z' ∧ z.publisher = z'.publisher)
    (readers : ∀ r z, b'.readers.get? r = some z →
      (∃ z', b.readers.get? r = some z' ∧ z.participant = z'.participant) ∨ b.nextHandle ≤ r) :
    LogAgrees b' l where
  born d made := ⟨Nat.lt_of_lt_of_le (h.born d made).1 next, Nat.lt_of_lt_of_le (h.born d made).2 next⟩
  spent := h.spent
  listed p x found g := by
    obtain ⟨x', before, same⟩ | ⟨new, none⟩ := participants p x found
    · rw [same]
      exact h.listed p x' before g
    · rw [none]
      exact ⟨nofun, fun link => absurd (h.born _ link.1).2 (Nat.not_lt.2 new)⟩
  held g y found k := by
    obtain ⟨y', before, side, _, endpoints, _⟩ := groups g y found
    rw [endpoints, linkSame side]
    exact h.held g y' before k
  groups g y found p := by
    obtain ⟨y', before, _, owner, _⟩ := groups g y found
    rw [owner]
    exact h.groups g y' before p
  writers w z found g := by
    obtain ⟨z', before, own⟩ := writers w z found
    rw [own]
    exact h.writers w z' before g
  readers r z g y found there made := by
    obtain ⟨y', before, _, owner, _⟩ := groups g y there
    obtain ⟨z', known, own⟩ | new := readers r z found
    · rw [own, owner]
      exact h.readers r z' g y' known before made
    · exact absurd (h.born _ made).1 (Nat.not_lt.2 new)
  sided g y k found := by
    obtain ⟨y', before, side, _⟩ := groups g y found
    rw [side]
    exact h.sided g y' k before
  shut g y p found gone := by
    obtain ⟨y', before, _, _, endpoints, deleted⟩ := groups g y found
    obtain ⟨closed, none⟩ := h.shut g y' p before gone
    exact ⟨deleted closed, endpoints.trans none⟩

theorem enteredIff {c d : ParentLink} {old : List ParentLink} : c ∈ old ++ [d] ↔ c ∈ old ∨ c = d := by
  rw [List.mem_append, List.mem_singleton]

theorem fresh (h : LogAgrees b l) {c : ParentLink} (new : c.child = b.nextHandle) : c ∉ l.made := fun made =>
  Nat.ne_of_lt (h.born c made).1 new

theorem childless (h : LogAgrees b l) {c : ParentLink} (new : c.parent = b.nextHandle) : c ∉ l.made := fun made =>
  Nat.ne_of_lt (h.born c made).2 new

theorem standing (h : LogAgrees b l) {c d : ParentLink} (new : d.child = b.nextHandle) :
    (c ∈ l.made ∧ c ∉ l.gone) ∨ c = d ↔ c ∈ l.made ++ [d] ∧ c ∉ l.gone := by
  rw [enteredIff, or_and_right]
  refine or_congr_right (iff_self_and.2 ?_)
  rintro rfl gone
  exact h.fresh new (h.spent c gone)

theorem form (h : LogAgrees b l) (membersAgree : MembersAgree b) {d : ParentLink} (new : d.child = b.nextHandle)
    (below : d.parent < b.nextHandle) (next : b.nextHandle < b'.nextHandle)
    (participants : ∀ p x, b'.participants.get? p = some x → ∃ x', b.participants.get? p = some x' ∧
      ∀ g, g ∈ x.groups ↔ g ∈ x'.groups ∨ .group p g = d)
    (groups : ∀ g y, b'.groups.get? g = some y →
      (∃ y', b.groups.get? g = some y' ∧ y.side = y'.side ∧ y.participant = y'.participant ∧
        y.deleted = y'.deleted ∧ (∀ k, y'.link g k = d → y'.deleted = false) ∧
        ∀ k, k ∈ y.endpoints ↔ k ∈ y'.endpoints ∨ y'.link g k = d) ∨
      g = b.nextHandle ∧ .group y.participant g = d ∧ y.endpoints = [])
    (writers : ∀ w z, b'.writers.get? w = some z →
      (∃ z', b.writers.get? w = some z' ∧ z.publisher = z'.publisher) ∨ .writer z.publisher w = d)
    (readers : ∀ r z, b'.readers.get? r = some z →
      (∃ z', b.readers.get? r = some z' ∧ z.participant = z'.participant) ∨
      ∃ g y, .reader g r = d ∧ b.groups.get? g = some y ∧ z.participant = y.participant)
    (sides : ∀ g y k, b.groups.get? g = some y →
      (.writer g k = d → y.side = .publication) ∧ (.reader g k = d → y.side = .subscription)) :
    LogAgrees b' ⟨l.made ++ [d], l.gone⟩ where
  born c made := by
    rcases enteredIff.1 made with old | rfl
    · exact ⟨Nat.lt_trans (h.born c old).1 next, Nat.lt_trans (h.born c old).2 next⟩
    · exact ⟨new ▸ next, Nat.lt_trans below next⟩
  spent c gone := List.mem_append_left _ (h.spent c gone)
  listed p x found g := by
    obtain ⟨x', before, same⟩ := participants p x found
    rw [same, h.listed p x' before]
    exact h.standing new
  held g y found k := by
    obtain ⟨y', before, side, _, _, _, same⟩ | ⟨own, _, none⟩ := groups g y found
    · rw [same, h.held g y' before, linkSame side]
      exact h.standing new
    · rw [none]
      refine ⟨nofun, fun link => ?_⟩
      rcases enteredIff.1 link.1 with made | rfl
      · exact absurd made (h.childless ((linkParent y g k).trans own))
      · exact absurd ((linkParent y g k).trans own) (Nat.ne_of_lt below)
  groups g y found p := by
    rw [enteredIff]
    obtain ⟨y', before, _, owner, _⟩ | ⟨own, same, _⟩ := groups g y found
    · rw [owner, h.groups g y' before, or_iff_left]
      rintro rfl
      exact absurd ((h.groups g y' before y'.participant).2 rfl) (h.fresh (c := .group _ g) new)
    · rw [or_iff_right (h.fresh (c := .group p g) own), ← same, ParentLink.group.injEq]
      exact and_iff_left rfl
  writers w z found g := by
    rw [enteredIff]
    obtain ⟨z', before, own⟩ | same := writers w z found
    · rw [own, h.writers w z' before, or_iff_left]
      rintro rfl
      exact absurd ((h.writers w z' before z'.publisher).2 rfl) (h.fresh (c := .writer _ w) new)
    · rw [← same, or_iff_right (h.fresh (by rw [← new, ← same]; rfl)), ParentLink.writer.injEq]
      exact and_iff_left rfl
  readers r z g y found there made := by
    obtain ⟨z', known, own⟩ | ⟨g', y', same, before, own⟩ := readers r z found
    · rcases enteredIff.1 made with made | rfl
      · obtain ⟨y', before, _, owner, _⟩ | ⟨own', _⟩ := groups g y there
        · rw [own, owner]
          exact h.readers r z' g y' known before made
        · exact absurd made (h.childless own')
      · exact absurd new (Nat.ne_of_lt (membersAgree.readers r z' known))
    · rcases enteredIff.1 made with made | rfl
      · exact absurd made (h.fresh (by rw [← new, ← same]; rfl))
      · cases same
        obtain ⟨y'', before', _, owner, _⟩ | ⟨_, same, _⟩ := groups g y there
        · cases Option.some.inj (before.symm.trans before')
          rw [own, owner]
        · cases same
  sided g y k found := by
    rw [enteredIff, enteredIff]
    obtain ⟨y', before, side, _⟩ | ⟨own, _⟩ := groups g y found
    · rw [side]
      exact ⟨fun made => made.elim (h.sided g y' k before).1 (sides g y' k before).1,
        fun made => made.elim (h.sided g y' k before).2 (sides g y' k before).2⟩
    · have other {c : ParentLink} (parent : c.parent = g) (made : c ∈ l.made ∨ c = d) : False := by
        rcases made with made | rfl
        · exact h.childless (parent.trans own) made
        · exact Nat.ne_of_lt below (parent.trans own)
      exact ⟨fun made => (other rfl made).elim, fun made => (other rfl made).elim⟩
  shut g y p found gone := by
    obtain ⟨y', before, _, _, deleted, isOpen, same⟩ | ⟨own, _⟩ := groups g y found
    · obtain ⟨closed, none⟩ := h.shut g y' p before gone
      refine ⟨deleted.trans closed, List.eq_nil_iff_forall_not_mem.2 fun k inside => ?_⟩
      rcases (same k).1 inside with old | link
      · simp [none] at old
      · rw [isOpen k link] at closed
        cases closed
    · exact absurd (h.spent _ gone) (h.fresh own)

theorem dissolve (h : LogAgrees b l) {d : ParentLink} (made : d ∈ l.made) (next : b.nextHandle ≤ b'.nextHandle)
    (participants : ∀ p x, b'.participants.get? p = some x → ∃ x', b.participants.get? p = some x' ∧
      ∀ g, g ∈ x.groups ↔ g ∈ x'.groups ∧ .group p g ≠ d)
    (groups : ∀ g y, b'.groups.get? g = some y → ∃ y', b.groups.get? g = some y' ∧ y.side = y'.side ∧
      y.participant = y'.participant ∧ (y'.deleted = true → y.deleted = true) ∧
      (∀ p, .group p g = d → y.deleted = true ∧ y.endpoints = []) ∧
      ∀ k, k ∈ y.endpoints ↔ k ∈ y'.endpoints ∧ y'.link g k ≠ d)
    (writers : ∀ w z, b'.writers.get? w = some z → ∃ z', b.writers.get? w = some z' ∧ z.publisher = z'.publisher)
    (readers : ∀ r z, b'.readers.get? r = some z →
      ∃ z', b.readers.get? r = some z' ∧ z.participant = z'.participant) :
    LogAgrees b' ⟨l.made, l.gone ++ [d]⟩ where
  born c made := ⟨Nat.lt_of_lt_of_le (h.born c made).1 next, Nat.lt_of_lt_of_le (h.born c made).2 next⟩
  spent c gone := by
    rcases enteredIff.1 gone with old | rfl
    · exact h.spent c old
    · exact made
  listed p x found g := by
    obtain ⟨x', before, same⟩ := participants p x found
    rw [same, h.listed p x' before, enteredIff, not_or, and_assoc]
  held g y found k := by
    obtain ⟨y', before, side, _, _, _, same⟩ := groups g y found
    rw [same, h.held g y' before, linkSame side, enteredIff, not_or, and_assoc]
  groups g y found p := by
    obtain ⟨y', before, _, owner, _⟩ := groups g y found
    rw [owner]
    exact h.groups g y' before p
  writers w z found g := by
    obtain ⟨z', before, own⟩ := writers w z found
    rw [own]
    exact h.writers w z' before g
  readers r z g y found there made := by
    obtain ⟨y', before, _, owner, _⟩ := groups g y there
    obtain ⟨z', known, own⟩ := readers r z found
    rw [own, owner]
    exact h.readers r z' g y' known before made
  sided g y k found := by
    obtain ⟨y', before, side, _⟩ := groups g y found
    rw [side]
    exact h.sided g y' k before
  shut g y p found gone := by
    obtain ⟨y', before, _, _, deleted, own, same⟩ := groups g y found
    rcases enteredIff.1 gone with old | new
    · obtain ⟨closed, none⟩ := h.shut g y' p before old
      refine ⟨deleted closed, List.eq_nil_iff_forall_not_mem.2 fun k inside => ?_⟩
      simpa [none] using ((same k).1 inside).1
    · exact own p new

theorem steady (h : LogAgrees b l) (s : Steady b b') : LogAgrees b' l := by
  refine h.keep (Nat.le_of_eq s.traffic.nextHandle.symm) (fun p x found => ?_) (fun g y found => ?_)
    (fun w z found => ?_) fun r z found => ?_
  · exact .inl ⟨x, s.traffic.participants ▸ found, rfl⟩
  · exact ⟨y, s.traffic.groups ▸ found, rfl, rfl, rfl, id⟩
  · exact ⟨z, s.traffic.writers ▸ found, rfl⟩
  · have same := s.readers r
    rw [found] at same
    obtain ⟨z', before, same⟩ := Option.map_eq_some_iff.1 same.symm
    exact .inl ⟨z', before, (congrArg Reader.participant same :).symm⟩

theorem modifyParticipant (h : LogAgrees b l) (p : InstanceHandle) {f : Participant → Participant}
    (groups : ∀ x, (f x).groups = x.groups) :
    LogAgrees { b with participants := b.participants.modify p f } l := by
  refine h.keep (Nat.le_refl _) (fun q x found => .inl ?_) (fun g y found => ⟨y, found, rfl, rfl, rfl, id⟩)
    (fun w z found => ⟨z, found, rfl⟩) fun r z found => .inl ⟨z, found, rfl⟩
  rw [Table.getModify] at found
  split at found
  · rename_i same
    obtain ⟨x', before, rfl⟩ := Option.map_eq_some_iff.1 found
    exact ⟨x', same ▸ before, groups x'⟩
  · exact ⟨x, found, rfl⟩

/-! ### Participants -/

theorem welcome (h : LogAgrees b l) (domain : DomainId) : LogAgrees (b.welcome domain) l := by
  refine h.keep (Nat.le_add_right _ 3) (fun p x found => ?_) (fun g y found => ⟨y, found, rfl, rfl, rfl, id⟩)
    (fun w z found => ⟨z, found, rfl⟩) fun r z found => ?_
  · rw [welcomeParticipants] at found
    split at found
    · rename_i new
      cases Option.some.inj found
      exact .inr ⟨Nat.le_of_eq new.symm, rfl⟩
    · exact .inl ⟨x, found, rfl⟩
  · rw [welcomeReaders] at found
    split at found
    · exact .inr (by lia)
    · split at found
      · exact .inr (by lia)
      · exact .inl ⟨z, found, rfl⟩

theorem vacated (h : LogAgrees b l) (p : InstanceHandle) (x : Participant) : LogAgrees (b.vacated p x) l := by
  have quiet {c : Bus} (r : InstanceHandle) (h : LogAgrees c l) : LogAgrees (c.setListener r none) l :=
    h.steady (.setListener c r none)
  have marked : LogAgrees (x.groups.foldl markDeleted b) l := by
    refine h.keep (Nat.le_of_eq ?_) (fun q z found => .inl ⟨z, ?_, rfl⟩) (fun g y found => ?_)
      (fun w z found => ⟨z, ?_, rfl⟩) fun r z found => .inl ⟨z, ?_, rfl⟩
    · rw [marksGroups]
    · rw [marksGroups] at found; exact found
    · rw [markedGroups] at found
      obtain ⟨y', before, rfl⟩ := Option.map_eq_some_iff.1 found
      refine ⟨y', before, ?_⟩
      split <;> exact ⟨rfl, rfl, rfl, fun closed => by simp [closed]⟩
    · rw [marksGroups] at found; exact found
    · rw [marksGroups] at found; exact found
  refine (quiet x.subscriptions (quiet x.publications marked)).keep (Nat.le_refl _) (fun q z found => .inl ?_)
    (fun g y found => ⟨y, found, rfl, rfl, rfl, id⟩) (fun w z found => ⟨z, found, rfl⟩)
    fun r z found => .inl ⟨z, found, rfl⟩
  refine ⟨z, ?_, rfl⟩
  simp only [Bus.vacated, Table.getErase] at found
  split at found
  · contradiction
  · exact found

/-! ### Groups -/

theorem createGroup (h : LogAgrees b l) (membersAgree : MembersAgree b) {side : Side} {p g : InstanceHandle}
    (ok : b.createGroup side p = .ok (g, b')) : LogAgrees b' ⟨l.made ++ [.group p g], l.gone⟩ := by
  obtain ⟨x, found, rfl, rfl⟩ := createGroupOpens ok
  have member := membersAgree.members p
  rw [found] at member
  refine h.form membersAgree rfl (membersAgree.old p _ member) (Nat.lt_succ_self _) (fun q z there => ?_)
    (fun g y there => ?_) (fun w z there => .inl ⟨z, there, rfl⟩) (fun r z there => .inl ⟨z, there, rfl⟩)
    fun g y k there => ⟨nofun, nofun⟩
  · rw [Table.getModify] at there
    split at there
    · rename_i own
      obtain ⟨z', before, rfl⟩ := Option.map_eq_some_iff.1 there
      exact ⟨z', own ▸ before, fun g => by simp [own]⟩
    · rename_i other
      exact ⟨z, there, fun g => by simp [other]⟩
  · rw [Table.getInsert] at there
    split at there
    · rename_i new
      cases Option.some.inj there
      exact .inr ⟨new, by rw [new], rfl⟩
    · exact .inl ⟨y, there, rfl, rfl, rfl, fun k same => absurd same (linkApart y g k _ _),
        fun k => (or_iff_left (linkApart y g k _ _)).symm⟩

theorem deleteGroup (h : LogAgrees b l) (owned : Owned b) {p g : InstanceHandle} (ok : b.deleteGroup p g = .ok b') :
    LogAgrees b' ⟨l.made, l.gone ++ [.group p g]⟩ := by
  obtain ⟨x, found, rfl, none, listed, rfl⟩ := deleteGroupOpens ok
  refine h.dissolve ((h.groups g x found _).2 rfl) (Nat.le_refl _) (fun q z there => ?_) (fun k y there => ?_)
    (fun w z there => ⟨z, there, rfl⟩) fun r z there => ⟨z, there, rfl⟩
  · rw [Table.getModify] at there
    split at there
    · rename_i own
      obtain ⟨z', before, rfl⟩ := Option.map_eq_some_iff.1 there
      refine ⟨z', own ▸ before, fun k => ?_⟩
      rw [(owned.groups _ z' before).1.mem_erase_iff, own, and_comm]
      simp
    · rename_i other
      exact ⟨z, there, fun k => by simp [other]⟩
  · change (b.groups.modify g _).get? k = some y at there
    rw [Table.getModify] at there
    split at there
    · obtain ⟨y', before, rfl⟩ := Option.map_eq_some_iff.1 there
      cases Option.some.inj (found.symm.trans before)
      rename_i own
      exact ⟨x, own ▸ found, rfl, rfl, fun _ => rfl, fun _ _ => ⟨rfl, none⟩, fun c =>
        (and_iff_left (linkApart _ k c _ _)).symm⟩
    · rename_i other
      exact ⟨y, there, rfl, rfl, id, fun q same => absurd (ParentLink.group.inj same).2 other, fun c =>
        (and_iff_left (linkApart y k c _ _)).symm⟩

/-! ### Writers and readers -/

theorem addedGroups {g k : InstanceHandle} {x : Group} (found : b.groups.get? g = some x)
    (isOpen : x.deleted = false) (c : InstanceHandle) (y : Group)
    (there : (b.addChild g k).groups.get? c = some y) :
    ∃ y', b.groups.get? c = some y' ∧ y.side = y'.side ∧ y.participant = y'.participant ∧
      y.deleted = y'.deleted ∧ (∀ j, y'.link c j = x.link g k → y'.deleted = false) ∧
      ∀ j, j ∈ y.endpoints ↔ j ∈ y'.endpoints ∨ y'.link c j = x.link g k := by
  rw [addChild, Table.getModify] at there
  split at there
  · rename_i own
    rw [found] at there
    cases Option.some.inj there
    refine ⟨x, own ▸ found, rfl, rfl, rfl, fun _ _ => isOpen, fun j => ?_⟩
    rw [List.mem_append, List.mem_singleton]
    refine or_congr_right ⟨fun new => by rw [new, own], fun link => (linkOnce link).2⟩
  · rename_i other
    exact ⟨y, there, rfl, rfl, rfl, fun j link => absurd (linkOnce link).1 other, fun j =>
      (or_iff_left fun link => other (linkOnce link).1).symm⟩

theorem withWriter (h : LogAgrees b l) (membersAgree : MembersAgree b) (registered : Registered b) {g : InstanceHandle}
    {x : Group} {topic : Topic} {n : Nat} (isOpen : b.openGroup .publication g = .ok x) :
    LogAgrees ((b.withWriter g x topic n).enrolled b.nextHandle (x.endpoint topic))
      ⟨l.made ++ [.writer g b.nextHandle], l.gone⟩ := by
  obtain ⟨found, side, alive⟩ := openGroupExact.1 isOpen
  have link : x.link g b.nextHandle = .writer g b.nextHandle := by rw [Group.link, side]
  refine h.form membersAgree rfl (registered.groups g x found).1 (Nat.lt_succ_self _)
    (fun p z there => ⟨z, there, fun c => (or_iff_left nofun).symm⟩) (fun c y there => .inl ?_) (fun w z there => ?_)
    (fun r z there => .inl ⟨z, there, rfl⟩) fun c y k there => ⟨fun same => ?_, nofun⟩
  · rw [← link]
    exact addedGroups found alive c y there
  · change (b.writers.insert b.nextHandle _).get? w = some z at there
    rw [Table.getInsert] at there
    split at there
    · rename_i new
      cases Option.some.inj there
      exact .inr (by rw [new])
    · exact .inl ⟨z, there, rfl⟩
  · cases same
    cases Option.some.inj (found.symm.trans there)
    exact side

theorem withReader (h : LogAgrees b l) (membersAgree : MembersAgree b) (registered : Registered b) {g : InstanceHandle}
    {x : Group} {topic : Topic} {history : History} (isOpen : b.openGroup .subscription g = .ok x) :
    LogAgrees ((b.withReader g x topic history).enrolled b.nextHandle (x.endpoint topic))
      ⟨l.made ++ [.reader g b.nextHandle], l.gone⟩ := by
  obtain ⟨found, side, alive⟩ := openGroupExact.1 isOpen
  have link : x.link g b.nextHandle = .reader g b.nextHandle := by rw [Group.link, side]
  refine h.form membersAgree rfl (registered.groups g x found).1 (Nat.lt_succ_self _)
    (fun p z there => ⟨z, there, fun c => (or_iff_left nofun).symm⟩) (fun c y there => .inl ?_)
    (fun w z there => .inl ⟨z, there, rfl⟩) (fun r z there => ?_) fun c y k there => ⟨nofun, fun same => ?_⟩
  · rw [← link]
    exact addedGroups found alive c y there
  · simp only [enrolled, Bus.withReader, newReader, addChild, Bus.takeHandle, newCondition, Table.getInsert] at there
    split at there
    · rename_i new
      cases Option.some.inj there
      exact .inr ⟨g, x, by rw [new], found, rfl⟩
    · exact .inl ⟨z, there, rfl⟩
  · cases same
    cases Option.some.inj (found.symm.trans there)
    exact side

theorem withoutChild (h : LogAgrees b l) (owned : Owned b) {g k : InstanceHandle} {x : Group}
    (found : b.groups.get? g = some x) (inside : k ∈ x.endpoints) (next : b'.nextHandle = b.nextHandle)
    (participants : b'.participants = b.participants) (groups : b'.groups = (b.removeChild g k).groups)
    (writers : ∀ w z, b'.writers.get? w = some z → ∃ z', b.writers.get? w = some z' ∧ z.publisher = z'.publisher)
    (readers : b'.readers = b.readers) : LogAgrees b' ⟨l.made, l.gone ++ [x.link g k]⟩ := by
  refine h.dissolve ((h.held g x found k).1 inside).1 (Nat.le_of_eq next.symm) (fun p z there => ?_)
    (fun c y there => ?_) writers fun r z there => ⟨z, readers ▸ there, rfl⟩
  · exact ⟨z, participants ▸ there, fun c => (and_iff_left (linkApart x g k p c).symm).symm⟩
  · rw [groups, removeChild, Table.getModify] at there
    split at there
    · rename_i own
      rw [found] at there
      cases Option.some.inj there
      refine ⟨x, own ▸ found, rfl, rfl, id, fun p link => absurd link.symm (linkApart x g k p c), fun j => ?_⟩
      rw [(owned.lists g x found).mem_erase_iff, and_comm, own]
      exact and_congr_right fun _ => not_congr ⟨fun eq => by rw [eq], fun link => (linkOnce link).2⟩
    · rename_i other
      exact ⟨y, there, rfl, rfl, id, fun p link => absurd link.symm (linkApart x g k p c), fun j =>
        (and_iff_left fun link => other (linkOnce link).1).symm⟩

theorem withoutWriter (h : LogAgrees b l) (owned : Owned b) {g w : InstanceHandle} {x : Group}
    (found : b.groups.get? g = some x) (inside : w ∈ x.endpoints) :
    LogAgrees ((b.withoutWriter g w).withdrawal w).1 ⟨l.made, l.gone ++ [x.link g w]⟩ := by
  have rest := withdrawalRest (b.withoutWriter g w) w
  refine h.withoutChild owned found inside ?_ ?_ ?_ (fun v z there => ?_) ?_
  · rw [rest]; rfl
  · rw [rest]; rfl
  · rw [rest]; rfl
  · rw [rest] at there
    simp only [Bus.withoutWriter, removeChild, Table.getModify] at there
    split at there
    · rename_i own
      obtain ⟨z', before, rfl⟩ := Option.map_eq_some_iff.1 there
      exact ⟨z', own ▸ before, rfl⟩
    · exact ⟨z, there, rfl⟩
  · rw [rest]; rfl

theorem withoutReader (h : LogAgrees b l) (owned : Owned b) {g r : InstanceHandle} {x : Group}
    (found : b.groups.get? g = some x) (inside : r ∈ x.endpoints) :
    LogAgrees ((b.removeChild g r).withdrawal r).1 ⟨l.made, l.gone ++ [x.link g r]⟩ := by
  have rest := withdrawalRest (b.removeChild g r) r
  refine h.withoutChild owned found inside ?_ ?_ ?_ (fun v z there => ⟨z, ?_, rfl⟩) ?_
  · rw [rest]; rfl
  · rw [rest]; rfl
  · rw [rest]
  · rw [rest] at there; exact there
  · rw [rest]; rfl

end LogAgrees

theorem writerLink {b : Bus} (owned : Owned b) (registered : Registered b) {g w : InstanceHandle} {x : Group}
    {z : Writer} (known : b.writers.get? w = some z) (found : b.groups.get? g = some x) (inside : w ∈ x.endpoints) :
    x.link g w = .writer g w := by
  have child := owned.child g x found w inside
  cases side : x.side with
  | publication => simp only [Group.link, side]
  | subscription =>
    simp only [Child, side] at child
    obtain ⟨y, there, _⟩ := child
    rw [(registered.writers w z known).2.1] at there
    cases there

theorem readerLink {b : Bus} (owned : Owned b) (registered : Registered b) {g r : InstanceHandle} {x : Group}
    {z : Reader} (known : b.readers.get? r = some z) (found : b.groups.get? g = some x) (inside : r ∈ x.endpoints) :
    x.link g r = .reader g r := by
  have child := owned.child g x found r inside
  cases side : x.side with
  | publication =>
    simp only [Child, side] at child
    obtain ⟨y, there, _⟩ := child
    rw [(registered.writers r y there).2.1] at known
    cases known
  | subscription => simp only [Group.link, side]

/-! ### Every request -/

section

variable {b : Bus} {l : CreationLog}

theorem enterNothing {q : Request} (forms : q.forms? b = none) (dissolves : q.dissolves? b = none) :
    l.enter b q = l := by
  simp only [CreationLog.enter, forms, dissolves, Option.toList_none, List.append_nil]

theorem LogAgrees.opened {q : Request} (forms : q.forms? b = none)
    (dissolves : q.dissolves? b = none) (opening : LogAgrees (q.opening b).1 l) :
    LogAgrees (b.request q) (l.enter b q) := by
  rw [enterNothing forms dissolves]
  exact opening.steady (requestSteady b q)

theorem LogAgrees.creation (h : LogAgrees b l) {q : Request} {answer : Except Fault (InstanceHandle × Bus)}
    {link : InstanceHandle → ParentLink} (forms : q.forms? b = answer.toOption.map fun made => link made.1)
    (dissolves : q.dissolves? b = none) (does : b.request q = b.after (answer.map (·.2)))
    (formed : ∀ k b', answer = .ok (k, b') → LogAgrees b' ⟨l.made ++ [link k], l.gone⟩) :
    LogAgrees (b.request q) (l.enter b q) := by
  rw [does, CreationLog.enter, forms, dissolves]
  cases answer with
  | error f => simpa [after, Except.map, Except.toOption] using h
  | ok made => simpa [after, Except.map, Except.toOption] using formed made.1 made.2 rfl

theorem LogAgrees.deletion (h : LogAgrees b l) {q : Request} {answer : Except Fault Bus} {d : ParentLink}
    (forms : q.forms? b = none) (dissolves : q.dissolves? b = answer.toOption.map fun _ => d)
    (does : b.request q = b.after answer)
    (dissolved : ∀ b', answer = .ok b' → LogAgrees (b.request q) ⟨l.made, l.gone ++ [d]⟩) :
    LogAgrees (b.request q) (l.enter b q) := by
  rw [CreationLog.enter, forms, dissolves]
  cases answer with
  | error f => simpa [does, after, Except.toOption] using h
  | ok b' => simpa [Except.toOption] using dissolved b' rfl

theorem LogAgrees.request (h : LogAgrees b l) (membersAgree : MembersAgree b) (registered : Registered b)
    (owned : Owned b) (q : Request) : LogAgrees (b.request q) (l.enter b q) := by
  cases q with
  | join domain =>
    refine .opened rfl rfl ?_
    simp only [Request.opening]
    split
    · exact h
    · exact h.welcome domain
  | leave p =>
    refine .opened rfl rfl ?_
    simp only [Request.opening]
    split
    · exact h.vacated p _
    · exact h
  | registerType p type =>
    refine .opened rfl rfl ?_
    simp only [Request.opening, Bus.request]
    cases ok : b.registerType p type with
    | error f => exact h
    | ok b' =>
      obtain ⟨_, rfl⟩ := registerTypeOpens ok
      exact h.modifyParticipant p fun _ => rfl
  | createTopic p name type history =>
    refine .opened rfl rfl ?_
    simp only [Request.opening, Bus.request]
    cases ok : b.createTopic p name type history with
    | error f => exact h
    | ok t =>
      obtain ⟨same, _⟩ | ⟨_, _, same⟩ := createTopicOpens ok
      · simp only [Except.map, after, same]
        exact h
      · simp only [Except.map, after, same]
        exact h.modifyParticipant p fun _ => rfl
  | createGroup side p => exact h.creation rfl rfl rfl fun _ _ ok => h.createGroup membersAgree ok
  | createWriter g topic n =>
    refine h.creation rfl rfl rfl fun w b' ok => ?_
    obtain ⟨x, isOpen, rfl, rfl⟩ := createWriterMade ok
    exact (h.withWriter membersAgree registered isOpen).steady (deliverSteady _ _)
  | createReader g topic history =>
    refine h.creation rfl rfl rfl fun r b' ok => ?_
    obtain ⟨x, isOpen, rfl, rfl⟩ := createReaderMade ok
    exact (h.withReader membersAgree registered isOpen).steady (deliverSteady _ _)
  | deleteGroup p g =>
    refine h.deletion rfl rfl rfl fun b' ok => ?_
    simpa only [Bus.request, ok, after] using h.deleteGroup owned ok
  | deleteWriter g w =>
    refine h.deletion rfl rfl rfl fun b' ok => .steady ?_ (requestSteady b _)
    obtain ⟨⟨z, known, _⟩, ⟨x, found, inside⟩, _⟩ := deleteWriterOpens ok
    simp only [Request.opening, ok]
    rw [← writerLink owned registered known found inside]
    exact h.withoutWriter owned found inside
  | deleteReader g r =>
    refine h.deletion rfl rfl rfl fun b' ok => .steady ?_ (requestSteady b _)
    obtain ⟨⟨z, known⟩, ⟨x, found, inside⟩, _⟩ := deleteReaderOpens ok
    simp only [Request.opening, ok]
    rw [← readerLink owned registered known found inside]
    exact h.withoutReader owned found inside
  | write w payload =>
    refine .opened rfl rfl ?_
    simp only [Request.opening]
    split <;> exact h
  | take r => exact .opened rfl rfl (h.steady (takeAffects (z := .all) trivial).steady)
  | drain side graph guard r => exact .opened rfl rfl (h.steady (drainAffects (z := .all) trivial trivial).steady)
  | setListener r listener => exact .opened rfl rfl (h.steady (.setListener b _ _))
  | newListener | newGraph | newGuard => exact .opened rfl rfl { h with }

end

structure CreationInvariant (b : Bus) (l : CreationLog) : Prop where
  membersAgree : MembersAgree b
  registered : Registered b
  owned : Owned b
  logAgrees : LogAgrees b l

theorem creationInvariantEmpty : CreationInvariant {} {} :=
  ⟨membersAgreeEmpty, registeredEmpty, ownedEmpty, logAgreesEmpty⟩

theorem CreationInvariant.run {b : Bus} {l : CreationLog} (h : CreationInvariant b l) (requests : List Request) :
    CreationInvariant (b.run requests) (b.creationLog l requests) := by
  induction requests generalizing b l with
  | nil => exact h
  | cons q rest ih =>
    exact ih ⟨membersAgreeRequest h.membersAgree q, registeredRun h.registered h.membersAgree [q],
      ownedRequest h.owned h.membersAgree h.registered q, h.logAgrees.request h.membersAgree h.registered h.owned q⟩

theorem creationLogGrow (requests : List Request) (b : Bus) (l : CreationLog) :
    (∀ d ∈ l.made, d ∈ (b.creationLog l requests).made) ∧ ∀ d ∈ l.gone, d ∈ (b.creationLog l requests).gone := by
  induction requests generalizing b l with
  | nil => exact ⟨fun _ => id, fun _ => id⟩
  | cons q rest ih =>
    obtain ⟨made, gone⟩ := ih (b.request q) (l.enter b q)
    exact ⟨fun d old => made d (List.mem_append_left _ old), fun d old => gone d (List.mem_append_left _ old)⟩

end Bus
end Databus
