import Databus.Proofs.WriterRegistration

/-! Participants list their groups, groups their writers and readers, and a domain registers those of the
participants that are present. Every request keeps the lists and the endpoint table in agreement. -/
namespace Databus.Bus

def entry (b : Bus) (y : Group) (k : InstanceHandle) : Option Endpoint :=
  match y.side with
  | .publication => (b.writers.get? k).map fun x =>
    ⟨.publication, y.domain, y.participant, x.topic, x.type⟩
  | .subscription => (b.readers.get? k).map fun x =>
    ⟨.subscription, y.domain, y.participant, x.topic, x.type⟩

def Child (b : Bus) (g : InstanceHandle) (y : Group) (k : InstanceHandle) : Prop :=
  match y.side with
  | .publication => ∃ x, b.writers.get? k = some x ∧ x.publisher = g
  | .subscription => ∃ x, b.readers.get? k = some x ∧ x.participant = y.participant

structure Owned (b : Bus) : Prop where
  groups : ∀ p x, b.participants.get? p = some x → x.groups.Nodup ∧
    ∀ g ∈ x.groups, ∃ y, b.groups.get? g = some y ∧ y.participant = p ∧ y.deleted = false
  lists : ∀ g y, b.groups.get? g = some y → y.endpoints.Nodup
  child : ∀ g y, b.groups.get? g = some y → ∀ k ∈ y.endpoints, b.Child g y k
  sole : ∀ g y g' y' k, b.groups.get? g = some y → b.groups.get? g' = some y' →
    k ∈ y.endpoints → k ∈ y'.endpoints → g = g'
  present : ∀ g y, b.groups.get? g = some y → (b.participants.get? y.participant).isSome →
    ∀ k ∈ y.endpoints, b.endpoints.get? k = b.entry y k
  entered : ∀ k e, b.endpoints.get? k = some e →
    ∃ g y, b.groups.get? g = some y ∧ y.deleted = false ∧ k ∈ y.endpoints

theorem ownedEmpty : Owned {} := by
  constructor <;> intros <;> contradiction

theorem entryOwner {b : Bus} {y : Group} {k : InstanceHandle} {e : Endpoint}
    (found : b.entry y k = some e) :
    e.side = y.side ∧ e.domain = y.domain ∧ e.owner = y.participant := by
  unfold entry at found
  split at found <;> rename_i side <;> obtain ⟨x, _, rfl⟩ := Option.map_eq_some_iff.1 found <;>
    exact ⟨side.symm, rfl, rfl⟩

theorem childEntry {b : Bus} {g k : InstanceHandle} {y : Group} (child : b.Child g y k) :
    ∃ e, b.entry y k = some e := by
  unfold Child at child
  unfold entry
  split at child <;> obtain ⟨x, found, _⟩ := child <;> simp [*]

structure Keeps (b b' : Bus) : Prop where
  writers : ∀ w x, b.writers.get? w = some x → ∃ x', b'.writers.get? w = some x' ∧
    x'.publisher = x.publisher ∧ x'.topic = x.topic ∧ x'.type = x.type
  readers : ∀ r x, b.readers.get? r = some x → ∃ x', b'.readers.get? r = some x' ∧
    x'.participant = x.participant ∧ x'.topic = x.topic ∧ x'.type = x.type

theorem Keeps.same {b b' : Bus} (writers : b'.writers = b.writers) (readers : b'.readers = b.readers) :
    Keeps b b' where
  writers _ x found := ⟨x, writers ▸ found, rfl, rfl, rfl⟩
  readers _ x found := ⟨x, readers ▸ found, rfl, rfl, rfl⟩

theorem Keeps.child {b b' : Bus} (s : Keeps b b') {g k : InstanceHandle} {y y' : Group}
    (side : y'.side = y.side) (owner : y'.participant = y.participant) (child : b.Child g y k) :
    b'.Child g y' k := by
  unfold Child at child ⊢
  rw [side, owner]
  split at child <;> obtain ⟨x, found, own⟩ := child
  · obtain ⟨x', found', own', _⟩ := s.writers k x found
    exact ⟨x', found', own'.trans own⟩
  · obtain ⟨x', found', own', _⟩ := s.readers k x found
    exact ⟨x', found', own'.trans own⟩

theorem Keeps.entry {b b' : Bus} (s : Keeps b b') {g k : InstanceHandle} {y y' : Group}
    (side : y'.side = y.side) (domain : y'.domain = y.domain) (owner : y'.participant = y.participant)
    (child : b.Child g y k) : b'.entry y' k = b.entry y k := by
  unfold Child at child
  unfold Bus.entry
  rw [side, domain, owner]
  split at child <;> obtain ⟨x, found, _⟩ := child
  · obtain ⟨x', found', _, topic, type⟩ := s.writers k x found
    simp [*]
  · obtain ⟨x', found', _, topic, type⟩ := s.readers k x found
    simp [*]

namespace Owned

variable {b b' : Bus}

theorem exact (h : Owned b) (membersAgree : MembersAgree b) (k : InstanceHandle) (e : Endpoint) :
    b.endpoints.get? k = some e ↔ ∃ p x g y, b.participants.get? p = some x ∧ g ∈ x.groups ∧
      b.groups.get? g = some y ∧ k ∈ y.endpoints ∧ b.entry y k = some e := by
  constructor
  · intro found
    obtain ⟨g, y, there, alive, inside⟩ := h.entered k e found
    obtain ⟨x, present, _, listed⟩ := membersAgree.listed g y there alive
    have same := h.present g y there (Option.isSome_of_mem present) k inside
    exact ⟨_, x, g, y, present, listed, there, inside, same ▸ found⟩
  · rintro ⟨p, x, g, y, present, listed, there, inside, same⟩
    obtain ⟨y', there', owner, _⟩ := (h.groups p x present).2 g listed
    cases Option.some.inj (there.symm.trans there')
    rw [h.present g y there (owner ▸ Option.isSome_of_mem present) k inside]
    exact same

theorem lose (h : Owned b) (keeps : Keeps b b')
    (participants : ∀ p x, b'.participants.get? p = some x → x.groups.Nodup ∧
      ∀ g ∈ x.groups, ∃ y, b'.groups.get? g = some y ∧ y.participant = p ∧ y.deleted = false)
    (groups : ∀ g y, b'.groups.get? g = some y → y.endpoints = [] ∨
      ∃ x, b.groups.get? g = some x ∧ y.side = x.side ∧ y.domain = x.domain ∧
        y.participant = x.participant ∧ y.endpoints.Sublist x.endpoints)
    (present : ∀ g y, b'.groups.get? g = some y → (b'.participants.get? y.participant).isSome →
      ∀ k ∈ y.endpoints, (b.participants.get? y.participant).isSome ∧
        b'.endpoints.get? k = b.endpoints.get? k)
    (entered : ∀ k e, b'.endpoints.get? k = some e → b.endpoints.get? k = some e ∧
      ∀ g y, b.groups.get? g = some y → y.deleted = false → k ∈ y.endpoints →
        ∃ y', b'.groups.get? g = some y' ∧ y'.deleted = false ∧ k ∈ y'.endpoints) : Owned b' := by
  have before {g k : InstanceHandle} {y : Group} (found : b'.groups.get? g = some y)
      (inside : k ∈ y.endpoints) : ∃ x, b.groups.get? g = some x ∧ y.side = x.side ∧
        y.domain = x.domain ∧ y.participant = x.participant ∧ y.endpoints.Sublist x.endpoints := by
    rcases groups g y found with none | old
    · simp [none] at inside
    · exact old
  refine ⟨participants, fun g y found => ?_, fun g y found k inside => ?_,
    fun g y g' y' k found found' inside inside' => ?_, fun g y found there k inside => ?_,
    fun k e found => ?_⟩
  · rcases groups g y found with none | ⟨x, old, _, _, _, sub⟩
    · simp [none]
    · exact sub.nodup (h.lists g x old)
  · obtain ⟨x, old, side, _, owner, sub⟩ := before found inside
    exact keeps.child side owner (h.child g x old k (sub.subset inside))
  · obtain ⟨x, old, _, _, _, sub⟩ := before found inside
    obtain ⟨x', old', _, _, _, sub'⟩ := before found' inside'
    exact h.sole g x g' x' k old old' (sub.subset inside) (sub'.subset inside')
  · obtain ⟨x, old, side, domain, owner, sub⟩ := before found inside
    obtain ⟨there, same⟩ := present g y found there k inside
    have child := h.child g x old k (sub.subset inside)
    rw [same, keeps.entry side domain owner child]
    exact h.present g x old (owner ▸ there) k (sub.subset inside)
  · obtain ⟨old, stays⟩ := entered k e found
    obtain ⟨g, y, there, alive, inside⟩ := h.entered k e old
    obtain ⟨y', there', alive', inside'⟩ := stays g y there alive inside
    exact ⟨g, y', there', alive', inside'⟩

theorem keep (h : Owned b) (groups : b'.groups = b.groups) (endpoints : b'.endpoints = b.endpoints)
    (keeps : Keeps b b') (participants : ∀ p x, b'.participants.get? p = some x →
      (∃ x', b.participants.get? p = some x' ∧ x.groups = x'.groups) ∨
        x.groups = [] ∧ ∀ g y, b.groups.get? g = some y → y.participant ≠ p) : Owned b' := by
  refine h.lose keeps (fun p x found => ?_) (fun g y found => ?_) (fun g y found there k inside => ?_)
    fun k e found => ?_
  · rw [groups]
    obtain ⟨x', found', same⟩ | ⟨none, _⟩ := participants p x found
    · rw [same]
      exact h.groups p x' found'
    · simp [none]
  · rw [groups] at found
    exact .inr ⟨y, found, rfl, rfl, rfl, .refl _⟩
  · rw [groups] at found
    obtain ⟨x, present⟩ := Option.isSome_iff_exists.1 there
    obtain ⟨x', before, _⟩ | ⟨_, fresh⟩ := participants _ x present
    · exact ⟨Option.isSome_of_mem before, by rw [endpoints]⟩
    · exact absurd rfl (fresh g y found)
  · rw [endpoints] at found
    rw [groups]
    exact ⟨found, fun g y there alive inside => ⟨y, there, alive, inside⟩⟩

theorem steady (h : Owned b) (s : Steady b b') : Owned b' := by
  refine h.keep s.traffic.groups s.traffic.endpoints ⟨fun w x found => ?_, fun r x found => ?_⟩
    fun p x found => ?_
  · exact ⟨x, s.traffic.writers ▸ found, rfl, rfl, rfl⟩
  · have same := s.readers r
    rw [found] at same
    obtain ⟨x', found', same⟩ := Option.map_eq_some_iff.1 same
    exact ⟨x', found', (congrArg Reader.participant same :), (congrArg Reader.topic same :),
      (congrArg Reader.type same :)⟩
  · rw [s.traffic.participants] at found
    exact .inl ⟨x, found, rfl⟩

/-! ### Lists of groups -/

theorem modifyParticipant (h : Owned b) (p : InstanceHandle) {f : Participant → Participant}
    (groups : ∀ x, (f x).groups = x.groups) :
    Owned { b with participants := b.participants.modify p f } := by
  refine h.keep rfl rfl (.same rfl rfl) fun q x found => .inl ?_
  rw [Table.getModify] at found
  split at found
  · rename_i same
    obtain ⟨x', before, rfl⟩ := Option.map_eq_some_iff.1 found
    exact ⟨x', same ▸ before, groups x'⟩
  · exact ⟨x, found, rfl⟩

theorem createGroup (h : Owned b) (registered : Registered b) {side : Side} {p g : InstanceHandle}
    (ok : b.createGroup side p = .ok (g, b')) : Owned b' := by
  obtain ⟨x, found, rfl, rfl⟩ := createGroupOpens ok
  have kept {k : InstanceHandle} {y new : Group} (there : b.groups.get? k = some y) :
      (b.groups.insert b.nextHandle new).get? k = some y := by
    rw [Table.getInsert, if_neg (Nat.ne_of_lt (registered.groups k y there).1)]
    exact there
  refine h.lose (.same rfl rfl) (fun q z there => ?_) (fun k y there => ?_)
    (fun k y there present c inside => ⟨?_, rfl⟩)
    fun c e there => ⟨there, fun k y old alive inside => ⟨y, kept old, alive, inside⟩⟩
  · change (b.participants.modify p _).get? q = some z at there
    rw [Table.getModify] at there
    split at there
    · rename_i same
      obtain ⟨z', before, rfl⟩ := Option.map_eq_some_iff.1 there
      obtain ⟨nodup, listed⟩ := h.groups p z' before
      have fresh : b.nextHandle ∉ z'.groups := fun inside => by
        obtain ⟨y, known, _⟩ := listed _ inside
        exact Nat.lt_irrefl _ (registered.groups _ y known).1
      refine ⟨List.nodup_append.2 ⟨nodup, by simp, fun a inside c last => ?_⟩, fun k inside => ?_⟩
      · rintro rfl
        exact fresh (List.mem_singleton.1 last ▸ inside)
      rcases List.mem_append.1 inside with inside | inside
      · obtain ⟨y, known, own⟩ := listed k inside
        exact ⟨y, kept known, same ▸ own⟩
      · refine ⟨{ side, participant := p, domain := x.domain }, ?_, same.symm, rfl⟩
        change (b.groups.insert b.nextHandle _).get? k = _
        rw [Table.getInsert, if_pos (List.mem_singleton.1 inside)]
    · obtain ⟨nodup, listed⟩ := h.groups q z there
      refine ⟨nodup, fun k inside => ?_⟩
      obtain ⟨y, known, own⟩ := listed k inside
      exact ⟨y, kept known, own⟩
  · change (b.groups.insert b.nextHandle _).get? k = some y at there
    rw [Table.getInsert] at there
    split at there
    · exact .inl (by rw [← Option.some.inj there])
    · exact .inr ⟨y, there, rfl, rfl, rfl, .refl _⟩
  · change ((b.participants.modify p _).get? y.participant).isSome at present
    rw [Table.getModify] at present
    split at present
    · rename_i same
      rw [same]
      simpa using present
    · exact present

theorem deleteGroup (h : Owned b) {p g : InstanceHandle} (ok : b.deleteGroup p g = .ok b') :
    Owned b' := by
  obtain ⟨x, found, rfl, none, _, rfl⟩ := deleteGroupOpens ok
  have groups {k : InstanceHandle} {y : Group} (there : (b.groups.modify g
      ({ · with deleted := true })).get? k = some y) :
      ∃ z, b.groups.get? k = some z ∧ (y = z ∨ k = g ∧ y = { z with deleted := true }) := by
    rw [Table.getModify] at there
    split at there
    · rename_i same
      obtain ⟨z, before, rfl⟩ := Option.map_eq_some_iff.1 there
      exact ⟨z, same ▸ before, .inr ⟨same, rfl⟩⟩
    · exact ⟨y, there, .inl rfl⟩
  have kept {k : InstanceHandle} {y : Group} (other : k ≠ g) (there : b.groups.get? k = some y) :
      (b.groups.modify g ({ · with deleted := true })).get? k = some y := by
    rw [Table.getModify, if_neg other]
    exact there
  refine h.lose (.same rfl rfl) (fun q z there => ?_) (fun k y there => ?_)
    (fun k y there present c inside => ⟨?_, rfl⟩)
    fun c e there => ⟨there, fun k y old alive inside => ⟨y, kept ?_ old, alive, inside⟩⟩
  · change (b.participants.modify x.participant _).get? q = some z at there
    rw [Table.getModify] at there
    split at there
    · rename_i same
      obtain ⟨z', before, rfl⟩ := Option.map_eq_some_iff.1 there
      obtain ⟨nodup, listed⟩ := h.groups _ z' before
      refine ⟨nodup.erase g, fun k inside => ?_⟩
      obtain ⟨other, inside⟩ := (nodup.mem_erase_iff).1 inside
      obtain ⟨y, known, own⟩ := listed k inside
      exact ⟨y, kept other known, same ▸ own⟩
    · rename_i stranger
      obtain ⟨nodup, listed⟩ := h.groups q z there
      refine ⟨nodup, fun k inside => ?_⟩
      obtain ⟨y, known, own, alive⟩ := listed k inside
      refine ⟨y, kept ?_ known, own, alive⟩
      rintro rfl
      cases Option.some.inj (found.symm.trans known)
      exact stranger own.symm
  · obtain ⟨z, before, same | ⟨_, same⟩⟩ := groups there <;> subst same <;>
      exact .inr ⟨_, before, rfl, rfl, rfl, .refl _⟩
  · change ((b.participants.modify x.participant _).get? y.participant).isSome at present
    rw [Table.getModify] at present
    split at present
    · rename_i same
      rw [same]
      simpa using present
    · exact present
  · rintro rfl
    cases Option.some.inj (found.symm.trans old)
    simp [none] at inside

theorem roster (h : Owned b) (registered : Registered b) {q : Request} (roster : q.isRoster) :
    Owned (b.request q) := by
  have changed := q.rostered b roster
  generalize b.request q = b' at changed ⊢
  cases changed with
  | same => exact h
  | typed | bound => exact h.modifyParticipant _ fun _ => rfl
  | grouped ok => exact h.createGroup registered ok
  | parted ok => exact h.deleteGroup ok

/-! ### Participants -/

theorem welcome (h : Owned b) (membersAgree : MembersAgree b) (registered : Registered b) (domain : DomainId) :
    Owned (b.welcome domain) := by
  refine h.keep rfl rfl ⟨fun _ x found => ⟨x, found, rfl, rfl, rfl⟩, fun r x found => ?_⟩
    fun p x found => ?_
  · have below := membersAgree.readers r x found
    refine ⟨x, ?_, rfl, rfl, rfl⟩
    rw [welcomeReaders, if_neg (by lia), if_neg (by lia)]
    exact found
  · rw [welcomeParticipants] at found
    split at found
    · rename_i new
      cases Option.some.inj found
      exact .inr ⟨rfl, fun g y there => by have := registered.groups g y there; lia⟩
    · exact .inl ⟨x, found, rfl⟩

theorem depart (h : Owned b) (membersAgree : MembersAgree b) {p : InstanceHandle} {x : Participant}
    (found : b.participants.get? p = some x) (keeps : Keeps b b')
    (groups : b'.groups = (x.groups.foldl markDeleted b).groups)
    (participants : b'.participants = b.participants.erase p)
    (endpoints : b'.endpoints = b.endpoints.filter fun _ e => e.owner ≠ p) : Owned b' := by
  have stays {g : InstanceHandle} {y : Group} (other : y.participant ≠ p)
      (there : b.groups.get? g = some y) : b'.groups.get? g = some y := by
    have unlisted : g ∉ x.groups := fun inside => by
      obtain ⟨y', there', own, _⟩ := (h.groups p x found).2 g inside
      cases Option.some.inj (there.symm.trans there')
      exact other own
    rw [groups, markedGroups, there, Option.map_some, if_neg unlisted]
  refine h.lose keeps (fun q z there => ?_) (fun g y there => ?_) (fun g y there present k inside => ?_)
    fun k e there => ?_
  · rw [participants, Table.getErase] at there
    split at there
    · contradiction
    · rename_i other
      obtain ⟨nodup, listed⟩ := h.groups q z there
      refine ⟨nodup, fun g inside => ?_⟩
      obtain ⟨y, known, own, alive⟩ := listed g inside
      exact ⟨y, stays (own ▸ other) known, own, alive⟩
  · rw [groups, markedGroups] at there
    obtain ⟨y', before, rfl⟩ := Option.map_eq_some_iff.1 there
    refine .inr ⟨y', before, ?_⟩
    split <;> exact ⟨rfl, rfl, rfl, .refl _⟩
  · rw [participants, Table.getErase] at present
    split at present
    · contradiction
    · rename_i other
      rw [groups, markedGroups] at there
      obtain ⟨y', before, same⟩ := Option.map_eq_some_iff.1 there
      have own : y.participant = y'.participant ∧ y.endpoints = y'.endpoints := by
        rw [← same]
        split <;> exact ⟨rfl, rfl⟩
      refine ⟨present, ?_⟩
      rw [endpoints, Table.getFilter]
      rw [own.1] at present other
      rw [own.2] at inside
      rw [h.present g y' before present k inside]
      cases known : b.entry y' k with
      | none => rfl
      | some e => simp [Option.filter, (entryOwner known).2.2, other]
  · rw [endpoints, Table.getFilter, Option.filter_eq_some_iff] at there
    obtain ⟨before, foreign⟩ := there
    refine ⟨before, fun g y known alive inside => ⟨y, stays ?_ known, alive, inside⟩⟩
    obtain ⟨z, present, _⟩ := membersAgree.listed g y known alive
    have same := h.present g y known (Option.isSome_of_mem present) k inside
    rw [before] at same
    simpa [(entryOwner same.symm).2.2] using foreign

theorem vacated (h : Owned b) (membersAgree : MembersAgree b) {p : InstanceHandle} {x : Participant}
    (found : b.participants.get? p = some x) : Owned (b.vacated p x) := by
  refine h.depart membersAgree found ⟨fun w y there => ⟨y, ?_, rfl, rfl, rfl⟩, fun r y there => ?_⟩ ?_ ?_ ?_
  · rw [← there, Bus.vacated, marksGroups]
    rfl
  · have same : ((b.vacated p x).readers.get? r).map Reader.identity = some y.identity := by
      rw [← Option.map_some, ← there, Bus.vacated, marksGroups]
      refine Eq.trans ?_ ((Steady.setListener _ x.publications none).readers r)
      exact (Steady.setListener _ x.subscriptions none).readers r
    obtain ⟨y', there', same⟩ := Option.map_eq_some_iff.1 same
    exact ⟨y', there', (congrArg Reader.participant same :), (congrArg Reader.topic same :),
      (congrArg Reader.type same :)⟩
  · rfl
  · rw [Bus.vacated, marksGroups]
    rfl
  · rw [Bus.vacated, marksGroups]
    rfl

/-! ### Children -/

theorem fresh (membersAgree : MembersAgree b) {g : InstanceHandle} {y : Group} (found : b.groups.get? g = some y) :
    b.nextHandle ∉ y.endpoints := fun inside => Nat.lt_irrefl _ (membersAgree.children g y b.nextHandle found inside).1

theorem addedChild (membersAgree : MembersAgree b) {g k c : InstanceHandle} {x y : Group}
    (found : b.groups.get? g = some x)
    (there : (b.addChild g b.nextHandle).groups.get? k = some y) (inside : c ∈ y.endpoints) :
    (c = b.nextHandle ∧ k = g ∧ y.side = x.side ∧ y.domain = x.domain ∧ y.participant = x.participant) ∨
      (c ≠ b.nextHandle ∧ ∃ z, b.groups.get? k = some z ∧
        c ∈ z.endpoints ∧ y.side = z.side ∧ y.domain = z.domain ∧ y.participant = z.participant) := by
  rw [addChild, Table.getModify] at there
  split at there
  · rename_i same
    rw [found] at there
    cases Option.some.inj there
    rcases List.mem_append.1 inside with inside | new
    · exact .inr ⟨fun new => fresh membersAgree found (new ▸ inside), x, same ▸ found, inside, rfl, rfl, rfl⟩
    · exact .inl ⟨List.mem_singleton.1 new, same, rfl, rfl, rfl⟩
  · exact .inr ⟨fun new => fresh membersAgree there (new ▸ inside), y, there, inside, rfl, rfl, rfl⟩

theorem addedKeeps (g c : InstanceHandle) {k : InstanceHandle} {y : Group} (there : b.groups.get? k = some y) :
    ∃ y', (b.addChild g c).groups.get? k = some y' ∧ y'.participant = y.participant ∧ y'.deleted = y.deleted ∧
      (∀ j ∈ y.endpoints, j ∈ y'.endpoints) ∧ (k = g → c ∈ y'.endpoints) := by
  rw [addChild, Table.getModify]
  split
  · rename_i same
    rw [same] at there
    rw [there]
    exact ⟨_, rfl, rfl, rfl, fun j inside => List.mem_append_left _ inside, fun _ => by simp⟩
  · rename_i other
    exact ⟨y, there, rfl, rfl, fun j inside => inside, fun same => absurd same other⟩

theorem adopt (h : Owned b) (membersAgree : MembersAgree b) {g : InstanceHandle} {x : Group}
    (found : b.groups.get? g = some x) (alive : x.deleted = false) (keeps : Keeps b b')
    (child : b'.Child g x b.nextHandle) (groups : b'.groups = (b.addChild g b.nextHandle).groups)
    (participants : b'.participants = b.participants)
    (endpoints : ∀ k, b'.endpoints.get? k =
      if k = b.nextHandle then b'.entry x k else b.endpoints.get? k) : Owned b' where
  groups p z there := by
    rw [participants] at there
    obtain ⟨nodup, listed⟩ := h.groups p z there
    refine ⟨nodup, fun k inside => ?_⟩
    obtain ⟨y, known, own, alive⟩ := listed k inside
    obtain ⟨y', known', owner, deleted, _⟩ := addedKeeps g b.nextHandle known
    exact ⟨y', groups ▸ known', owner.trans own, deleted.trans alive⟩
  lists k y there := by
    rw [groups, addChild, Table.getModify] at there
    split at there
    · obtain ⟨z, before, rfl⟩ := Option.map_eq_some_iff.1 there
      refine List.nodup_append.2 ⟨h.lists g z before, by simp, fun a inside c last => ?_⟩
      rintro rfl
      exact fresh membersAgree before (List.mem_singleton.1 last ▸ inside)
    · exact h.lists k y there
  child k y there c inside := by
    obtain ⟨rfl, rfl, side, _, owner⟩ | ⟨_, z, old, inside, side, _, owner⟩ :=
      addedChild membersAgree found (groups ▸ there) inside
    · unfold Child at child ⊢
      rw [side, owner]
      exact child
    · exact keeps.child side owner (h.child k z old c inside)
  sole k y k' y' c there there' inside inside' := by
    rw [groups] at there there'
    obtain ⟨new, rfl, _⟩ | ⟨other, z, old, inside, _⟩ := addedChild membersAgree found there inside
    · obtain ⟨_, same, _⟩ | ⟨other', _⟩ := addedChild membersAgree found there' inside'
      · exact same.symm
      · exact absurd new other'
    · obtain ⟨new, _⟩ | ⟨_, z', old', inside', _⟩ := addedChild membersAgree found there' inside'
      · exact absurd new other
      · exact h.sole k z k' z' c old old' inside inside'
  present k y there present c inside := by
    rw [endpoints]
    rw [participants] at present
    obtain ⟨new, _, side, domain, owner⟩ | ⟨other, z, old, inside, side, domain, owner⟩ :=
      addedChild membersAgree found (groups ▸ there) inside
    · rw [if_pos new]
      unfold Bus.entry
      rw [side, domain, owner]
    · rw [if_neg other, keeps.entry side domain owner (h.child k z old c inside)]
      exact h.present k z old (owner ▸ present) c inside
  entered c e there := by
    rw [endpoints] at there
    rw [groups]
    split at there
    · rename_i new
      obtain ⟨y', known, _, deleted, _, inside⟩ := addedKeeps g b.nextHandle found
      exact ⟨g, y', known, deleted.trans alive, new ▸ inside rfl⟩
    · obtain ⟨k, y, known, alive, inside⟩ := h.entered c e there
      obtain ⟨y', known', _, deleted, inner, _⟩ := addedKeeps g b.nextHandle known
      exact ⟨k, y', known', deleted.trans alive, inner c inside⟩

theorem withWriter (h : Owned b) (membersAgree : MembersAgree b) (registered : Registered b) {g : InstanceHandle}
    {x : Group} {topic : Topic} {n : Nat} (isOpen : b.openGroup .publication g = .ok x) :
    Owned ((b.withWriter g x topic n).enrolled b.nextHandle (x.endpoint topic)) := by
  obtain ⟨found, side, alive⟩ := openGroupExact.1 isOpen
  have writers (w : InstanceHandle) :
      ((b.withWriter g x topic n).enrolled b.nextHandle (x.endpoint topic)).writers.get? w =
        if w = b.nextHandle then some ⟨g, x.domain, topic.name, topic.type, n, false⟩
        else b.writers.get? w := by
    simp only [enrolled, Bus.withWriter, addChild, Bus.takeHandle, Table.getInsert]
  refine h.adopt membersAgree found alive ⟨fun w z there => ⟨z, ?_, rfl, rfl, rfl⟩, fun r z there =>
    ⟨z, there, rfl, rfl, rfl⟩⟩ ?_ rfl rfl fun k => ?_
  · rw [writers, if_neg (Nat.ne_of_lt (registered.writers w z there).1)]
    exact there
  · unfold Child
    simp only [side]
    exact ⟨_, (writers _).trans (if_pos rfl), rfl⟩
  · simp only [entry, side, writers]
    change (b.endpoints.insert b.nextHandle (x.endpoint topic)).get? k = _
    rw [Table.getInsert]
    split
    · simp only [Group.endpoint, side]
      rfl
    · rfl

theorem withReader (h : Owned b) (membersAgree : MembersAgree b) {g : InstanceHandle} {x : Group} {topic : Topic}
    {history : History} (isOpen : b.openGroup .subscription g = .ok x) :
    Owned ((b.withReader g x topic history).enrolled b.nextHandle (x.endpoint topic)) := by
  obtain ⟨found, side, alive⟩ := openGroupExact.1 isOpen
  have readers (r : InstanceHandle) :
      ((b.withReader g x topic history).enrolled b.nextHandle (x.endpoint topic)).readers.get? r =
        if r = b.nextHandle then
          some { participant := x.participant, topic := topic.name, type := topic.type, history,
                 condition := b.nextCondition }
        else b.readers.get? r := by
    simp only [enrolled, Bus.withReader, newReader, addChild, Bus.takeHandle, newCondition,
      Table.getInsert]
  refine h.adopt membersAgree found alive ⟨fun w z there => ⟨z, there, rfl, rfl, rfl⟩, fun r z there =>
    ⟨z, ?_, rfl, rfl, rfl⟩⟩ ?_ rfl rfl fun k => ?_
  · rw [readers, if_neg (Nat.ne_of_lt (membersAgree.readers r z there))]
    exact there
  · unfold Child
    simp only [side]
    exact ⟨_, (readers _).trans (if_pos rfl), rfl⟩
  · simp only [entry, side, readers]
    change (b.endpoints.insert b.nextHandle (x.endpoint topic)).get? k = _
    rw [Table.getInsert]
    split
    · simp only [Group.endpoint, side]
      rfl
    · rfl

theorem bereave (h : Owned b) {g k : InstanceHandle} {x : Group}
    (found : b.groups.get? g = some x) (inside : k ∈ x.endpoints) (keeps : Keeps b b')
    (groups : b'.groups = (b.removeChild g k).groups) (participants : b'.participants = b.participants)
    (endpoints : ∀ c, b'.endpoints.get? c = if c = k then none else b.endpoints.get? c) : Owned b' := by
  have other {c d : InstanceHandle} {y : Group} (there : b'.groups.get? c = some y)
      (within : d ∈ y.endpoints) : d ≠ k := by
    rw [groups, removeChild, Table.getModify] at there
    split at there
    · rw [found] at there
      cases Option.some.inj there
      exact ((h.lists g x found).mem_erase_iff.1 within).1
    · rename_i stranger
      rintro rfl
      exact stranger (h.sole c y g x d there found within inside)
  have kept {c : InstanceHandle} {y : Group} (there : b.groups.get? c = some y) :
      ∃ y', b'.groups.get? c = some y' ∧ y'.participant = y.participant ∧ y'.deleted = y.deleted ∧
        ∀ d ∈ y.endpoints, d ≠ k → d ∈ y'.endpoints := by
    rw [groups, removeChild, Table.getModify]
    split
    · rename_i same
      rw [same] at there
      rw [there]
      exact ⟨_, rfl, rfl, rfl, fun d within distinct => (List.mem_erase_of_ne distinct).2 within⟩
    · exact ⟨y, there, rfl, rfl, fun d within _ => within⟩
  refine h.lose keeps (fun p z there => ?_) (fun c y there => ?_) (fun c y there present d within => ?_)
    fun c e there => ?_
  · rw [participants] at there
    obtain ⟨nodup, listed⟩ := h.groups p z there
    refine ⟨nodup, fun c within => ?_⟩
    obtain ⟨y, known, own, alive⟩ := listed c within
    obtain ⟨y', known', owner, deleted, _⟩ := kept known
    exact ⟨y', known', owner.trans own, deleted.trans alive⟩
  · rw [groups, removeChild, Table.getModify] at there
    split at there
    · rename_i same
      obtain ⟨z, before, rfl⟩ := Option.map_eq_some_iff.1 there
      exact .inr ⟨z, same ▸ before, rfl, rfl, rfl, List.erase_sublist⟩
    · exact .inr ⟨y, there, rfl, rfl, rfl, .refl _⟩
  · rw [participants] at present
    rw [endpoints, if_neg (other there within)]
    exact ⟨present, rfl⟩
  · rw [endpoints] at there
    split at there
    · contradiction
    · rename_i distinct
      refine ⟨there, fun d y known alive within => ?_⟩
      obtain ⟨y', known', _, deleted, inner⟩ := kept known
      exact ⟨y', known', deleted.trans alive, inner c within distinct⟩

end Owned

theorem Owned.withoutWriter {b : Bus} (h : Owned b) {g w : InstanceHandle}
    {x : Group} (found : b.groups.get? g = some x) (inside : w ∈ x.endpoints) :
    Owned ((b.withoutWriter g w).withdrawal w).1 := by
  have rest := withdrawalRest (b.withoutWriter g w) w
  refine h.bereave found inside ⟨fun v z there => ?_, fun r z there => ⟨z, ?_, rfl, rfl, rfl⟩⟩
    ?_ ?_ (withdrawalEntries _ w)
  · rw [rest]
    simp only [Bus.withoutWriter, removeChild, Table.getModify]
    split
    · rename_i same
      refine ⟨{ z with deleted := true }, ?_, rfl, rfl, rfl⟩
      rw [← same, there]
      rfl
    · exact ⟨z, there, rfl, rfl, rfl⟩
  · rw [rest]
    exact there
  · rw [rest]
    rfl
  · rw [rest]
    rfl

theorem Owned.withoutReader {b : Bus} (h : Owned b) {g r : InstanceHandle}
    {x : Group} (found : b.groups.get? g = some x) (inside : r ∈ x.endpoints) :
    Owned ((b.removeChild g r).withdrawal r).1 := by
  have rest := withdrawalRest (b.removeChild g r) r
  refine h.bereave found inside (.same ?_ ?_) ?_ ?_ (withdrawalEntries _ r) <;> rw [rest] <;> rfl

/-! ### Every request -/

def Losing (b b' : Bus) (q : Request) : Prop :=
  ∀ g k, q = .deleteWriter g k ∨ q = .deleteReader g k →
    b' = b ∨ ∃ x, b.groups.get? g = some x ∧ k ∈ x.endpoints

theorem openingLosing (b : Bus) (q : Request) : Losing b (q.opening b).1 q := by
  rintro g k (rfl | rfl) <;> simp only [Request.opening] <;> split
  · exact .inr (deleteWriterOpens ‹_›).2.1
  · exact .inl rfl
  · exact .inr (deleteReaderOpens ‹_›).2.1
  · exact .inl rfl

theorem ownedOpened {b b' : Bus} {q : Request} {news : List Notice} (h : Owned b) (membersAgree : MembersAgree b)
    (registered : Registered b) (opened : q.Opened b b' news) (losing : Losing b b' q) : Owned b' := by
  cases opened with
  | refused | sent => exact h
  | roster roster => exact h.roster registered roster
  | joined fits => exact h.welcome membersAgree registered _
  | left found => exact h.vacated membersAgree found
  | writer isOpen => exact h.withWriter membersAgree registered isOpen
  | reader isOpen => exact h.withReader membersAgree isOpen
  | unwritten =>
    rcases losing _ _ (.inl rfl) with same | ⟨x, found, inside⟩
    · rw [same]
      exact h
    · exact h.withoutWriter found inside
  | unread =>
    rcases losing _ _ (.inr rfl) with same | ⟨x, found, inside⟩
    · rw [same]
      exact h
    · exact h.withoutReader found inside
  | took => exact h.steady (takeAffects (z := .all) trivial).steady
  | drained => exact h.steady (drainAffects (z := .all) trivial trivial).steady
  | attached => exact h.steady (.setListener b _ _)
  | listener | graph | guard => exact { h with }

theorem ownedRequest {b : Bus} (h : Owned b) (membersAgree : MembersAgree b) (registered : Registered b)
    (q : Request) : Owned (b.request q) :=
  (ownedOpened h membersAgree registered (q.opened b) (openingLosing b q)).steady (requestSteady b q)

theorem ownedRun {b : Bus} (h : Owned b) (membersAgree : MembersAgree b) (registered : Registered b)
    (requests : List Request) : Owned (b.run requests) := by
  induction requests generalizing b with
  | nil => exact h
  | cons q rest ih =>
    exact ih (ownedRequest h membersAgree registered q) (membersAgreeRequest membersAgree q)
      (registeredRun registered membersAgree [q])

end Databus.Bus
