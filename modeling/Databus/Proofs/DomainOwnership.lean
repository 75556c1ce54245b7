import Databus.Proofs.DomainStates

/-! What a domain has registered, told from its participants: the children of the groups they list, each under one
group of one participant. Deleted groups and participants that left have nothing there, whoever still refers to them. -/
namespace Databus
namespace Bus

def groupEndpoints (b : Bus) (g : InstanceHandle) : List (InstanceHandle × Endpoint) :=
  match b.groups.get? g with
  | some y => y.endpoints.filterMap fun k => (b.entry y k).map (k, ·)
  | none => []

def participantEndpoints (b : Bus) (x : Participant) : List (InstanceHandle × Endpoint) :=
  x.groups.flatMap b.groupEndpoints

def domainEndpoints (b : Bus) (domain : DomainId) : List (InstanceHandle × Endpoint) :=
  (b.participants.filter fun _ x => x.domain = domain).entries.flatMap fun (_, x) => b.participantEndpoints x

theorem memGroupEndpoints {b : Bus} {g k : InstanceHandle} {e : Endpoint} :
    (k, e) ∈ b.groupEndpoints g ↔
      ∃ y, b.groups.get? g = some y ∧ k ∈ y.endpoints ∧ b.entry y k = some e := by
  unfold groupEndpoints
  cases b.groups.get? g with
  | none => simp
  | some y => simp [List.mem_filterMap]

theorem memDomainEndpoints {b : Bus} {domain : DomainId} {k : InstanceHandle} {e : Endpoint} :
    (k, e) ∈ b.domainEndpoints domain ↔ ∃ p x g y, b.participants.get? p = some x ∧ x.domain = domain ∧
      g ∈ x.groups ∧ b.groups.get? g = some y ∧ k ∈ y.endpoints ∧ b.entry y k = some e := by
  simp only [domainEndpoints, participantEndpoints, List.mem_flatMap, memGroupEndpoints, Prod.exists, Table.memEntries,
    Table.getFilter, Option.filter_eq_some_iff, decide_eq_true_iff]
  grind

namespace Owned

variable {b : Bus}

theorem groupEndpointsNodup (h : Owned b) (g : InstanceHandle) : (b.groupEndpoints g).Nodup := by
  unfold groupEndpoints
  cases found : b.groups.get? g with
  | none => exact .nil
  | some y =>
    refine List.pairwise_filterMap.2 ((h.lists g y found).imp fun apart => ?_)
    intro x inX z inZ same
    obtain ⟨_, _, rfl⟩ := Option.map_eq_some_iff.1 inX
    obtain ⟨_, _, rfl⟩ := Option.map_eq_some_iff.1 inZ
    exact apart (Prod.mk.inj same).1

theorem participantEndpointsNodup (h : Owned b) {p : InstanceHandle} {x : Participant}
    (found : b.participants.get? p = some x) : (b.participantEndpoints x).Nodup := by
  refine List.pairwise_flatMap.2 ⟨fun g _ => h.groupEndpointsNodup g, ?_⟩
  refine (h.groups p x found).1.imp fun {g g'} apart => ?_
  rintro ⟨k, e⟩ inside ⟨k', e'⟩ inside' same
  obtain ⟨rfl, _⟩ := Prod.mk.inj same
  obtain ⟨y, there, child, _⟩ := memGroupEndpoints.1 inside
  obtain ⟨y', there', child', _⟩ := memGroupEndpoints.1 inside'
  exact apart (h.sole g y g' y' k there there' child child')

theorem domainEndpointsNodup (h : Owned b) (domain : DomainId) : (b.domainEndpoints domain).Nodup := by
  have known {p : InstanceHandle} {x : Participant}
      (inside : (p, x) ∈ (b.participants.filter fun _ x => x.domain = domain).entries) :
      b.participants.get? p = some x := by
    rw [Table.memEntries, Table.getFilter, Option.filter_eq_some_iff] at inside
    exact inside.1
  refine List.pairwise_flatMap.2 ⟨fun ⟨p, x⟩ inside => h.participantEndpointsNodup (known inside), ?_⟩
  refine (b.participants.filter fun _ x => x.domain = domain).sorted.imp_of_mem ?_
  rintro ⟨p, x⟩ ⟨p', x'⟩ inside inside' below ⟨k, e⟩ own ⟨k', e'⟩ own' same
  obtain ⟨rfl, _⟩ := Prod.mk.inj same
  obtain ⟨g, listed, there⟩ := List.mem_flatMap.1 own
  obtain ⟨g', listed', there'⟩ := List.mem_flatMap.1 own'
  obtain ⟨y, found, child, _⟩ := memGroupEndpoints.1 there
  obtain ⟨y', found', child', _⟩ := memGroupEndpoints.1 there'
  obtain rfl := h.sole g y g' y' k found found' child child'
  obtain ⟨z, known₁, owner, _⟩ := (h.groups p x (known inside)).2 g listed
  obtain ⟨z', known₂, owner', _⟩ := (h.groups p' x' (known inside')).2 g listed'
  cases Option.some.inj (known₁.symm.trans known₂)
  exact absurd (owner.symm.trans owner') (Nat.ne_of_lt below)

theorem listedGroup (h : Owned b) (membersAgree : MembersAgree b) {p g : InstanceHandle} {x : Participant}
    (found : b.participants.get? p = some x) (listed : g ∈ x.groups) :
    ∃ y, b.groups.get? g = some y ∧ y.participant = p ∧ y.deleted = false ∧ y.domain = x.domain := by
  obtain ⟨y, there, owner, alive⟩ := (h.groups p x found).2 g listed
  obtain ⟨x', found', same, _⟩ := membersAgree.listed g y there alive
  rw [owner] at found'
  cases Option.some.inj (found.symm.trans found')
  exact ⟨y, there, owner, alive, same.symm⟩

theorem domainEndpointsPerm (h : Owned b) (membersAgree : MembersAgree b) (domain : DomainId) :
    (b.domainEndpoints domain).Perm (b.endpoints.filter fun _ e => e.domain = domain).entries := by
  have once : (b.endpoints.filter fun _ e => e.domain = domain).entries.Nodup := by
    refine (Table.sorted _).imp fun {x z} below same => ?_
    rw [same] at below
    exact Nat.lt_irrefl _ below
  rw [List.perm_ext_iff_of_nodup (h.domainEndpointsNodup domain) once]
  rintro ⟨k, e⟩
  rw [memDomainEndpoints, Table.memEntries, Table.getFilter, Option.filter_eq_some_iff, decide_eq_true_iff,
    h.exact membersAgree k e]
  have placed {p g : InstanceHandle} {x : Participant} {y : Group}
      (present : b.participants.get? p = some x) (listed : g ∈ x.groups)
      (found : b.groups.get? g = some y) (known : b.entry y k = some e) : x.domain = e.domain := by
    obtain ⟨y', found', _, _, same⟩ := h.listedGroup membersAgree present listed
    cases Option.some.inj (found.symm.trans found')
    exact same.symm.trans (entryOwner known).2.1.symm
  constructor
  · rintro ⟨p, x, g, y, present, rfl, listed, found, inside, known⟩
    exact ⟨⟨p, x, g, y, present, listed, found, inside, known⟩, (placed present listed found known).symm⟩
  · rintro ⟨⟨p, x, g, y, present, listed, found, inside, known⟩, rfl⟩
    exact ⟨p, x, g, y, present, placed present listed found known, listed, found, inside, known⟩

theorem listedChild (h : Owned b) {g k : InstanceHandle} {y : Group} (there : b.groups.get? g = some y)
    (present : (b.participants.get? y.participant).isSome) (inside : k ∈ y.endpoints) :
    b.Child g y k ∧ ∃ e, b.endpoints.get? k = some e ∧ b.entry y k = some e ∧ e.side = y.side ∧
      e.owner = y.participant ∧ e.domain = y.domain := by
  have child := h.child g y there k inside
  obtain ⟨e, entry⟩ := childEntry child
  obtain ⟨side, domain, own⟩ := entryOwner entry
  exact ⟨child, e, (h.present g y there present k inside).trans entry, entry, side, own, domain⟩

theorem unregistered (h : Owned b) (membersAgree : MembersAgree b) {g k : InstanceHandle} {y : Group}
    (found : b.groups.get? g = some y) (inside : k ∈ y.endpoints)
    (gone : y.deleted = true ∨ b.participants.get? y.participant = none) : b.endpoints.get? k = none := by
  cases registered : b.endpoints.get? k with
  | none => rfl
  | some e =>
    obtain ⟨g', y', found', alive, inside'⟩ := h.entered k e registered
    obtain rfl := h.sole g y g' y' k found found' inside inside'
    cases Option.some.inj (found.symm.trans found')
    obtain ⟨x, present, _⟩ := membersAgree.listed g y found alive
    rcases gone with deleted | left
    · exact nomatch alive.symm.trans deleted
    · exact nomatch left.symm.trans present

theorem writerRegistered (h : Owned b) (registered : Registered b) {w : InstanceHandle} {x : Writer}
    {e : Endpoint} (found : b.writers.get? w = some x) (entered : b.endpoints.get? w = some e) :
    ∃ y, b.groups.get? x.publisher = some y ∧ y.deleted = false ∧ w ∈ y.endpoints := by
  obtain ⟨g, y, there, alive, inside⟩ := h.entered w e entered
  have child := h.child g y there w inside
  unfold Child at child
  split at child <;> obtain ⟨z, known, own⟩ := child
  · cases Option.some.inj (found.symm.trans known)
    exact ⟨y, own ▸ there, alive, inside⟩
  · exact nomatch (registered.writers w x found).2.1.symm.trans known

end Owned

theorem MembersAgree.memberOf {b : Bus} (h : MembersAgree b) (domain : DomainId) (p : InstanceHandle) (m : Member) :
    (b.members.filter fun _ m => m.domain = domain).get? p = some m ↔
      ∃ x, b.participants.get? p = some x ∧ x.domain = domain ∧ m = x.member := by
  rw [Table.getFilter, h.members p, Option.filter_eq_some_iff, Option.map_eq_some_iff, decide_eq_true_iff]
  constructor
  · rintro ⟨⟨x, found, rfl⟩, same⟩
    exact ⟨x, found, same, rfl⟩
  · rintro ⟨x, found, same, rfl⟩
    exact ⟨⟨x, found, rfl⟩, same⟩

theorem filterEmpty {α : Type} {t : Table InstanceHandle α} {p : α → Bool}
    (none : ∀ k a, t.get? k = some a → p a = false) : (t.filter fun _ a => p a).entries = [] := by
  refine List.eq_nil_iff_forall_not_mem.2 fun ⟨k, a⟩ inside => ?_
  rw [Table.memEntries, Table.getFilter, Option.filter_eq_some_iff] at inside
  simp [none k a inside.1] at inside

theorem vacantDomain {b : Bus} (owned : Owned b) (membersAgree : MembersAgree b) {domain : DomainId}
    (empty : ∀ p x, b.participants.get? p = some x → x.domain ≠ domain) :
    b.memberCount domain = 0 ∧ b.endpointCount domain = 0 := by
  constructor
  · refine congrArg List.length (filterEmpty fun p m found => ?_)
    rw [membersAgree.members p] at found
    obtain ⟨x, present, rfl⟩ := Option.map_eq_some_iff.1 found
    exact decide_eq_false (empty p x present)
  · have perm := owned.domainEndpointsPerm membersAgree domain
    rw [domainEndpoints, filterEmpty fun p x found => decide_eq_false (empty p x found)] at perm
    exact perm.length_eq.symm

end Bus

namespace RegisteredBus

open Bus (MembersAgree Registered Owned)

structure Agrees (t : RegisteredBus) : Prop where
  sharing : ∀ p q x y, t.bus.participants.get? p = some x → t.bus.participants.get? q = some y →
    ∃ s s', t.registry.holders.get? p = some s ∧ t.registry.holders.get? q = some s' ∧
      (s = s' ↔ x.domain = y.domain)
  clones : ∀ k k' s s' domain, t.registry.holders.get? k = some s →
    t.registry.holders.get? k' = some s' → t.bus.Placed k domain → t.bus.Placed k' domain → s = s'
  members : ∀ domain p m, (t.bus.members.filter fun _ m => m.domain = domain).get? p = some m ↔
    ∃ x, t.bus.participants.get? p = some x ∧ x.domain = domain ∧ m = x.member
  endpoints : ∀ domain,
    (t.bus.domainEndpoints domain).Perm (t.bus.endpoints.filter fun _ e => e.domain = domain).entries
  children : ∀ p x g, t.bus.participants.get? p = some x → g ∈ x.groups →
    ∃ y, t.bus.groups.get? g = some y ∧ y.participant = p ∧ y.deleted = false ∧
      ∀ k ∈ y.endpoints, t.bus.Child g y k ∧ ∃ e, t.bus.endpoints.get? k = some e ∧
        t.bus.entry y k = some e ∧ e.side = y.side ∧ e.owner = p ∧ e.domain = x.domain
  gone : ∀ g y, t.bus.groups.get? g = some y →
    y.deleted = true ∨ t.bus.participants.get? y.participant = none →
      ∀ k ∈ y.endpoints, t.bus.endpoints.get? k = none
  writers : ∀ w x e, t.bus.writers.get? w = some x → t.bus.endpoints.get? w = some e →
    ∃ y, t.bus.groups.get? x.publisher = some y ∧ y.deleted = false ∧ w ∈ y.endpoints
  vacant : ∀ domain, (∀ p x, t.bus.participants.get? p = some x → x.domain ≠ domain) →
    t.bus.memberCount domain = 0 ∧ t.bus.endpointCount domain = 0

theorem keptRun {t : RegisteredBus} (h : StatesHeld t) (membersAgree : MembersAgree t.bus)
    (registered : Registered t.bus)
    (owned : Owned t.bus) (steps : List RegistryStep) : StatesHeld (t.run steps) ∧ MembersAgree (t.run steps).bus ∧
      Registered (t.run steps).bus ∧ Owned (t.run steps).bus := by
  induction steps generalizing t with
  | nil => exact ⟨h, membersAgree, registered, owned⟩
  | cons m rest ih =>
    cases m with
    | request q =>
      exact ih (statesHeldRequest h membersAgree registered q) (Bus.membersAgreeRequest membersAgree q)
        (Bus.registeredRun registered membersAgree [q]) (Bus.ownedRequest owned membersAgree registered q)
    | forget k =>
      by_cases live : (t.bus.participants.get? k).isSome
      · have same : t.step (.forget k) = t := by simp only [step, if_pos live]
        refine ih ?_ ?_ ?_ ?_ <;> rw [same] <;> assumption
      · have same : t.step (.forget k) = { t with registry := t.registry.release k } := by
          simp only [step, if_neg live]
        refine ih ?_ ?_ ?_ ?_ <;> rw [same]
        · refine h.release (Nat.le_refl _) (fun _ _ _ there => there) fun p there => ⟨?_, there⟩
          rintro rfl
          exact live there
        · exact membersAgree
        · exact registered
        · exact owned

theorem StatesHeld.home {t : RegisteredBus} (h : StatesHeld t) {p : InstanceHandle} {x : Participant}
    (found : t.bus.participants.get? p = some x) :
    ∃ s, t.registry.holders.get? p = some s ∧ t.registry.domains.get? x.domain = some s := by
  obtain ⟨s, holds⟩ := Option.isSome_iff_exists.1 (h.live p (Option.isSome_of_mem found))
  exact ⟨s, holds, (h.held p s holds).2 _ (.inl (by rw [found]; rfl))⟩

/-- Whatever applications ask for and let go of, the tables of a domain are its participants and what these own. -/
theorem ownershipAgrees (steps : List RegistryStep) : (({} : RegisteredBus).run steps).Agrees := by
  obtain ⟨statesHeld, membersAgree, registered, owned⟩ :=
    keptRun statesHeldEmpty Bus.membersAgreeEmpty Bus.registeredEmpty Bus.ownedEmpty steps
  generalize ({} : RegisteredBus).run steps = t at statesHeld membersAgree registered owned
  refine ⟨fun p q x y found found' => ?_, fun k k' s s' domain holds holds' there there' => ?_,
    membersAgree.memberOf, owned.domainEndpointsPerm membersAgree, fun p x g found listed => ?_,
    fun g y found gone k inside => owned.unregistered membersAgree found inside gone,
    fun w x e found entered => owned.writerRegistered registered found entered,
    fun domain empty => Bus.vacantDomain owned membersAgree empty⟩
  · obtain ⟨s, holds, known⟩ := statesHeld.home found
    obtain ⟨s', holds', known'⟩ := statesHeld.home found'
    refine ⟨s, s', holds, holds', ?_, ?_⟩
    · rintro rfl
      exact statesHeld.sound.sole _ _ s known known'
    · intro same
      rw [same] at known
      exact Option.some.inj (known.symm.trans known')
  · have known := (statesHeld.held k s holds).2 domain there
    have known' := (statesHeld.held k' s' holds').2 domain there'
    exact Option.some.inj (known.symm.trans known')
  · obtain ⟨y, there, rfl, alive, domain⟩ := owned.listedGroup membersAgree found listed
    refine ⟨y, there, rfl, alive, fun k inside => ?_⟩
    rw [← domain]
    exact owned.listedChild there (Option.isSome_of_mem found) inside

example :
    let t := ({} : RegisteredBus).run [.request (.join 7), .request (.createGroup .publication 1),
      .request (.createWriter 4 ⟨1, "t", "T", .standard⟩ 8), .request (.leave 1), .forget 5]
    t.registry.upgrade 7 = some 0 ∧ t.bus.memberCount 7 = 0 ∧ t.bus.endpointCount 7 = 0 ∧
      (t.step (.forget 4)).registry.upgrade 7 = none := by
  decide +kernel

end RegisteredBus
end Databus
