import Databus.Proofs.DeliveryFrame

/-! Participants and their discovery readers: participants and members of a domain agree, each has two discovery readers
of its own, and no registered endpoint or child of a group is ever one of those. Every request keeps this. -/
namespace Databus

def Participant.member (x : Participant) : Member := ⟨x.domain, x.publications, x.subscriptions⟩

namespace Bus

def Outer (b : Bus) (k : InstanceHandle) : Prop :=
  k < b.nextHandle ∧ ∀ p m side, b.members.get? p = some m → m.inbox side ≠ k

structure MembersAgree (b : Bus) : Prop where
  members : ∀ p, b.members.get? p = (b.participants.get? p).map Participant.member
  old : ∀ p m, b.members.get? p = some m → p < b.nextHandle
  inbox : ∀ p m side, b.members.get? p = some m →
    ∃ r, b.readers.get? (m.inbox side) = some r ∧ r.participant = p ∧ r.history = .keepAll
  apart : ∀ p m, b.members.get? p = some m → m.publications ≠ m.subscriptions
  readers : ∀ r x, b.readers.get? r = some x → r < b.nextHandle
  endpoints : ∀ k e, b.endpoints.get? k = some e →
    b.Outer k ∧ ∃ m, b.members.get? e.owner = some m ∧ m.domain = e.domain
  children : ∀ g y k, b.groups.get? g = some y → k ∈ y.endpoints → b.Outer k
  listed : ∀ g y, b.groups.get? g = some y → y.deleted = false →
    ∃ x, b.participants.get? y.participant = some x ∧ x.domain = y.domain ∧ g ∈ x.groups
  listeners : ∀ l x, b.listeners.get? l = some x → l < b.nextKey
  graphs : ∀ g x, b.graphs.get? g = some x → g < b.nextKey

theorem membersAgreeEmpty : MembersAgree {} := by
  constructor
  case members => exact fun _ => rfl
  all_goals intros; contradiction

theorem MembersAgree.steady {b b' : Bus} (h : MembersAgree b) (s : Steady b b') : MembersAgree b' := by
  have members := s.traffic.members
  have handle := s.traffic.nextHandle
  have key := s.traffic.nextKey
  have outer : ∀ {k}, b.Outer k → b'.Outer k := fun {k} o => by
    unfold Outer at o ⊢
    rwa [members, handle]
  have reader : ∀ r x, b'.readers.get? r = some x →
      ∃ y, b.readers.get? r = some y ∧ y.identity = x.identity := fun r x found => by
    have same := s.readers r
    rw [found] at same
    exact Option.map_eq_some_iff.1 same.symm
  constructor
  case members =>
    rw [members, s.traffic.participants]
    exact h.members
  case old =>
    rw [members, handle]
    exact h.old
  case inbox =>
    intro p m side found
    rw [members] at found
    obtain ⟨r, there, owner, history⟩ := h.inbox p m side found
    have same := s.readers (m.inbox side)
    rw [there] at same
    obtain ⟨r', there', eq⟩ := Option.map_eq_some_iff.1 same
    exact ⟨r', there', (congrArg Reader.participant eq).trans owner,
      (congrArg Reader.history eq).trans history⟩
  case apart =>
    rw [members]
    exact h.apart
  case readers =>
    intro r x found
    obtain ⟨y, old, _⟩ := reader r x found
    rw [handle]
    exact h.readers r y old
  case endpoints =>
    intro k e found
    rw [s.traffic.endpoints] at found
    rw [members]
    exact ⟨outer (h.endpoints k e found).1, (h.endpoints k e found).2⟩
  case children =>
    intro g y k found mem
    rw [s.traffic.groups] at found
    exact outer (h.children g y k found mem)
  case listed =>
    rw [s.traffic.groups, s.traffic.participants]
    exact h.listed
  case listeners =>
    intro l x found
    have same := s.listeners l
    rw [found] at same
    obtain ⟨y, old, _⟩ := Option.map_eq_some_iff.1 same.symm
    rw [key]
    exact h.listeners l y old
  case graphs =>
    intro g x found
    have same := s.graphs g
    rw [found] at same
    obtain ⟨y, old⟩ := Option.isSome_iff_exists.1 same.symm
    rw [key]
    exact h.graphs g y old

def builtinReader (p : InstanceHandle) (topic : String) (condition : ConditionId) : Reader :=
  { participant := p, topic, type := Announcement.typeName, history := .keepAll, condition }

theorem welcomeReaders (b : Bus) (domain : DomainId) (r : InstanceHandle) :
    (b.welcome domain).readers.get? r =
      if r = b.nextHandle + 2 then
        some (builtinReader b.nextHandle Announcement.subscriptionTopic (b.nextCondition + 1))
      else if r = b.nextHandle + 1 then
        some (builtinReader b.nextHandle Announcement.publicationTopic b.nextCondition)
      else b.readers.get? r := by
  simp only [welcome, takeHandle, newReader, newCondition, Table.getInsert]
  rfl

theorem welcomeInbox (b : Bus) (domain : DomainId) (side : Side) : ∃ topic condition,
    (b.welcome domain).readers.get? ((b.newMember domain).inbox side) =
      some (builtinReader b.nextHandle topic condition) := by
  cases side
  · exact ⟨_, _, by rw [welcomeReaders]; simp [Member.inbox, newMember]; rfl⟩
  · exact ⟨_, _, by rw [welcomeReaders]; simp [Member.inbox, newMember]; rfl⟩

theorem welcomeMembers (b : Bus) (domain : DomainId) (p : InstanceHandle) :
    (b.welcome domain).members.get? p =
      if p = b.nextHandle then some (b.newMember domain) else b.members.get? p := by
  simp only [welcome, takeHandle, newReader, newCondition, Table.getInsert]
  rfl

theorem welcomeParticipants (b : Bus) (domain : DomainId) (p : InstanceHandle) :
    (b.welcome domain).participants.get? p =
      if p = b.nextHandle then
        some { domain, publications := b.nextHandle + 1, subscriptions := b.nextHandle + 2 }
      else b.participants.get? p := by
  simp only [welcome, takeHandle, newReader, newCondition, Table.getInsert]

theorem MembersAgree.fresh {b : Bus} (h : MembersAgree b) {k : InstanceHandle} (new : b.nextHandle ≤ k) :
    b.members.get? k = none ∧ b.participants.get? k = none ∧ b.readers.get? k = none := by
  have absent : ∀ {α} {o : Option α}, (∀ a, o = some a → k < b.nextHandle) → o = none :=
    fun {α} {o} below => by
      cases o with
      | none => rfl
      | some a => exact absurd (below a rfl) (Nat.not_lt.2 new)
  have member := absent fun m found => h.old k m found
  have participant := h.members k
  rw [member] at participant
  exact ⟨member, Option.map_eq_none_iff.1 participant.symm, absent fun x found => h.readers k x found⟩

theorem membersAgreeWelcome {b : Bus} (h : MembersAgree b) (domain : DomainId) : MembersAgree (b.welcome domain) := by
  have outer : ∀ {k}, b.Outer k → (b.welcome domain).Outer k := fun {k} o => by
    refine ⟨Nat.lt_add_right 3 o.1, fun p m side found => ?_⟩
    rw [welcomeMembers] at found
    split at found
    · cases Option.some.inj found
      have := o.1
      cases side <;> simp only [Member.inbox, newMember] <;> lia
    · exact o.2 p m side found
  constructor
  case members =>
    intro p
    rw [welcomeMembers, welcomeParticipants]
    split
    · rfl
    · exact h.members p
  case old =>
    intro p m found
    rw [welcomeMembers] at found
    change p < b.nextHandle + 3
    split at found
    · lia
    · exact Nat.lt_add_right 3 (h.old p m found)
  case inbox =>
    intro p m side found
    rw [welcomeMembers] at found
    split at found
    · rename_i new
      cases Option.some.inj found
      obtain ⟨topic, condition, there⟩ := welcomeInbox b domain side
      exact ⟨_, there, new.symm, rfl⟩
    · obtain ⟨x, there, owner, history⟩ := h.inbox p m side found
      have below := h.readers _ x there
      refine ⟨x, ?_, owner, history⟩
      rw [welcomeReaders, if_neg (by lia), if_neg (by lia)]
      exact there
  case apart =>
    intro p m found
    rw [welcomeMembers] at found
    split at found
    · cases Option.some.inj found
      simp [newMember]
    · exact h.apart p m found
  case readers =>
    intro r x found
    rw [welcomeReaders] at found
    change r < b.nextHandle + 3
    split at found
    · lia
    · split at found
      · lia
      · exact Nat.lt_add_right 3 (h.readers r x found)
  case endpoints =>
    intro k e found
    obtain ⟨out, m, member, same⟩ := h.endpoints k e found
    have old := h.old _ m member
    refine ⟨outer out, m, ?_, same⟩
    rw [welcomeMembers, if_neg (Nat.ne_of_lt old)]
    exact member
  case children => exact fun g y k found mem => outer (h.children g y k found mem)
  case listed =>
    intro g y found isOpen
    obtain ⟨x, there, rest⟩ := h.listed g y found isOpen
    refine ⟨x, ?_, rest⟩
    rw [welcomeParticipants, if_neg]
    · exact there
    · intro new
      rw [new, (h.fresh (Nat.le_refl _)).2.1] at there
      contradiction
  case listeners => exact h.listeners
  case graphs => exact h.graphs

/-! ### One change of a table at a time -/

theorem MembersAgree.outerFresh {b : Bus} (h : MembersAgree b) : b.takeHandle.2.Outer b.nextHandle := by
  refine ⟨Nat.lt_succ_self _, fun p m side found => ?_⟩
  obtain ⟨x, there, _⟩ := h.inbox p m side found
  exact Nat.ne_of_lt (h.readers _ x there)

theorem Outer.older {b : Bus} {k : InstanceHandle} (o : b.Outer k) : b.takeHandle.2.Outer k :=
  ⟨Nat.lt_succ_of_lt o.1, o.2⟩

theorem MembersAgree.takeHandle {b : Bus} (h : MembersAgree b) : MembersAgree b.takeHandle.2 :=
  { h with
    old := fun p m found => Nat.lt_succ_of_lt (h.old p m found)
    readers := fun r x found => Nat.lt_succ_of_lt (h.readers r x found)
    endpoints := fun k e found => ⟨(h.endpoints k e found).1.older, (h.endpoints k e found).2⟩
    children := fun g y k found mem => (h.children g y k found mem).older }

theorem MembersAgree.seats {b : Bus} (h : MembersAgree b) (p : InstanceHandle) {f : Participant → Participant}
    (member : ∀ x, (f x).member = x.member) (q : InstanceHandle) :
    b.members.get? q = ((b.participants.modify p f).get? q).map Participant.member := by
  rw [h.members, Table.getModify]
  split
  · rename_i eq
    subst eq
    cases b.participants.get? q with
    | none => rfl
    | some x => exact congrArg some (member x).symm
  · rfl

theorem MembersAgree.modifyParticipant {b : Bus} (h : MembersAgree b) (p : InstanceHandle)
    {f : Participant → Participant} (member : ∀ x, (f x).member = x.member)
    (groups : ∀ x, ∀ g ∈ x.groups, g ∈ (f x).groups) :
    MembersAgree { b with participants := b.participants.modify p f } :=
  { h with
    members := h.seats p member
    listed := fun g y found isOpen => by
      obtain ⟨x, there, domain, mem⟩ := h.listed g y found isOpen
      rw [Table.getModify]
      split
      · rename_i eq
        rw [← eq, there]
        exact ⟨f x, rfl, (congrArg Member.domain (member x)).trans domain, groups x g mem⟩
      · exact ⟨x, there, domain, mem⟩ }

theorem MembersAgree.enrolled {b : Bus} (h : MembersAgree b) {k : InstanceHandle} {e : Endpoint}
    (outer : b.Outer k) (owner : ∃ m, b.members.get? e.owner = some m ∧ m.domain = e.domain) :
    MembersAgree (b.enrolled k e) :=
  { h with
    endpoints := fun k' e' found => by
      simp only [Bus.enrolled, Table.getInsert] at found
      split at found
      · rename_i eq
        cases Option.some.inj found
        rw [eq]
        exact ⟨outer, owner⟩
      · exact h.endpoints k' e' found }

theorem MembersAgree.withdrawn {b : Bus} (h : MembersAgree b) (k : InstanceHandle) : MembersAgree (b.withdrawn k) :=
  { h with
    endpoints := fun k' e' found => by
      simp only [Bus.withdrawn, Table.getErase] at found
      split at found
      · contradiction
      · exact h.endpoints k' e' found }

theorem MembersAgree.modifyGroup {b : Bus} (h : MembersAgree b) (g : InstanceHandle) {f : Group → Group}
    (endpoints : ∀ x, ∀ k ∈ (f x).endpoints, k ∈ x.endpoints ∨ b.Outer k)
    (same : ∀ x, (f x).participant = x.participant ∧ (f x).domain = x.domain)
    (isOpen : ∀ x, (f x).deleted = false → x.deleted = false) :
    MembersAgree { b with groups := b.groups.modify g f } :=
  { h with
    children := fun g' y k found mem => by
      simp only [Table.getModify] at found
      split at found
      · obtain ⟨x, old, rfl⟩ := Option.map_eq_some_iff.1 found
        exact (endpoints x k mem).elim (h.children g x k old) id
      · exact h.children g' y k found mem
    listed := fun g' y found alive => by
      simp only [Table.getModify] at found
      split at found
      · rename_i eq
        obtain ⟨x, old, rfl⟩ := Option.map_eq_some_iff.1 found
        rw [(same x).1, (same x).2, eq]
        exact h.listed g x old (isOpen x alive)
      · exact h.listed g' y found alive }

theorem MembersAgree.createGroup {b b' : Bus} (h : MembersAgree b) {side : Side} {p g : InstanceHandle}
    (ok : b.createGroup side p = .ok (g, b')) : MembersAgree b' := by
  obtain ⟨x, found, rfl, rfl⟩ := createGroupOpens ok
  have grown := h.takeHandle.modifyParticipant p
    (f := fun x => { x with groups := x.groups ++ [b.nextHandle] }) (fun _ => rfl)
    (fun _ _ mem => List.mem_append_left _ mem)
  refine { grown with children := ?_, listed := ?_ }
  · intro g y k there mem
    rw [Table.getInsert] at there
    split at there
    · cases Option.some.inj there
      cases mem
    · exact grown.children g y k there mem
  · intro g y there isOpen
    rw [Table.getInsert] at there
    split at there
    · rename_i eq
      cases Option.some.inj there
      refine ⟨{ x with groups := x.groups ++ [b.nextHandle] }, ?_, rfl, by simp [eq]⟩
      rw [Table.getModify, if_pos rfl, found]
      rfl
    · exact grown.listed g y there isOpen

theorem MembersAgree.deleteGroup {b b' : Bus} (h : MembersAgree b) {p g : InstanceHandle}
    (ok : b.deleteGroup p g = .ok b') : MembersAgree b' := by
  obtain ⟨x, found, own, _, _, rfl⟩ := deleteGroupOpens ok
  have marked : MembersAgree (b.markDeleted g) := h.modifyGroup g (fun _ _ mem => .inl mem)
    (fun _ => ⟨rfl, rfl⟩) (fun _ isOpen => nomatch isOpen)
  refine { marked with members := h.seats p fun _ => rfl, listed := ?_ }
  intro g' y there isOpen
  obtain ⟨z, member, domain, mem⟩ := marked.listed g' y there isOpen
  have other : g' ≠ g := fun eq => by
    simp only [markDeleted, Table.getModify, if_pos eq, found, Option.map_some] at there
    cases Option.some.inj there
    contradiction
  change b.participants.get? _ = some z at member
  rw [Table.getModify]
  split
  · rename_i eq
    rw [← eq, member]
    exact ⟨_, rfl, domain, (List.mem_erase_of_ne other).2 mem⟩
  · exact ⟨z, member, domain, mem⟩

theorem markedGroups (gs : List InstanceHandle) (b : Bus) (g : InstanceHandle) :
    (gs.foldl markDeleted b).groups.get? g =
      (b.groups.get? g).map fun y => if g ∈ gs then { y with deleted := true } else y := by
  induction gs generalizing b with
  | nil => simp
  | cons first rest ih =>
    rw [List.foldl_cons, ih, markDeleted, Table.getModify]
    cases found : b.groups.get? g with
    | none => split <;> grind
    | some y => split <;> grind

theorem MembersAgree.mark {b : Bus} (h : MembersAgree b) (gs : List InstanceHandle) :
    MembersAgree (gs.foldl markDeleted b) := by
  induction gs generalizing b with
  | nil => exact h
  | cons g rest ih =>
    exact ih (h.modifyGroup g (fun _ _ mem => .inl mem) (fun _ => ⟨rfl, rfl⟩)
      (fun _ isOpen => nomatch isOpen))

theorem MembersAgree.depart {b : Bus} (h : MembersAgree b) {p : InstanceHandle}
    (shut : ∀ g y, b.groups.get? g = some y → y.participant = p → y.deleted = true) :
    MembersAgree { b with
      participants := b.participants.erase p
      members := b.members.erase p
      endpoints := b.endpoints.filter fun _ e => e.owner ≠ p } := by
  have sub : ∀ {q m}, (b.members.erase p).get? q = some m → b.members.get? q = some m := by
    intro q m found
    rw [Table.getErase] at found
    split at found
    · contradiction
    · exact found
  refine { h with
    members := fun q => ?_
    old := fun q m found => h.old q m (sub found)
    inbox := fun q m side found => h.inbox q m side (sub found)
    apart := fun q m found => h.apart q m (sub found)
    endpoints := fun k e found => ?_
    children := fun g y k found mem => ?_
    listed := fun g y found isOpen => ?_ }
  · simp only [Table.getErase]
    split
    · rfl
    · exact h.members q
  · rw [Table.getFilter, Option.filter_eq_some_iff] at found
    obtain ⟨outer, m, member, domain⟩ := h.endpoints k e found.1
    refine ⟨⟨outer.1, fun q m side found => outer.2 q m side (sub found)⟩, m, ?_, domain⟩
    rw [Table.getErase, if_neg (by simpa using found.2)]
    exact member
  · obtain ⟨old, other⟩ := h.children g y k found mem
    exact ⟨old, fun q m side found => other q m side (sub found)⟩
  · obtain ⟨x, there, rest⟩ := h.listed g y found isOpen
    refine ⟨x, ?_, rest⟩
    rw [Table.getErase, if_neg]
    · exact there
    · intro own
      rw [shut g y found own] at isOpen
      contradiction

theorem MembersAgree.vacated {b : Bus} (h : MembersAgree b) {p : InstanceHandle} {x : Participant}
    (found : b.participants.get? p = some x) : MembersAgree (b.vacated p x) := by
  have quiet : ∀ {b r}, MembersAgree b → MembersAgree (b.setListener r none) := fun h =>
    h.steady (.modifyReader fun _ _ => rfl)
  have silent := quiet (r := x.subscriptions) (quiet (r := x.publications) (h.mark x.groups))
  refine silent.depart fun g y there own => ?_
  change (x.groups.foldl markDeleted b).groups.get? g = some y at there
  rw [markedGroups] at there
  obtain ⟨y', old, rfl⟩ := Option.map_eq_some_iff.1 there
  split
  · rfl
  · rename_i absent
    rw [if_neg absent] at own
    cases shut : y'.deleted with
    | true => rfl
    | false =>
      obtain ⟨x', there, _, mem⟩ := h.listed g y' old shut
      rw [own, found] at there
      cases Option.some.inj there
      exact absurd mem absent

theorem MembersAgree.newReader {b : Bus} (h : MembersAgree b) (p : InstanceHandle) (topic type : String)
    (history : History) : MembersAgree (b.newReader p topic type history).2 := by
  have readers : ∀ r, (b.newReader p topic type history).2.readers.get? r =
      if r = b.nextHandle then some
        { participant := p, topic, type, history, condition := b.nextCondition }
      else b.readers.get? r := fun r => by
    simp only [Bus.newReader, Bus.takeHandle, newCondition, Table.getInsert]
  refine { h.takeHandle with inbox := fun q m side found => ?_, readers := fun r x found => ?_ }
  · obtain ⟨x, there, rest⟩ := h.inbox q m side found
    refine ⟨x, ?_, rest⟩
    rw [readers, if_neg (Nat.ne_of_lt (h.readers _ x there))]
    exact there
  · rw [readers] at found
    change r < b.nextHandle + 1
    split at found
    · lia
    · exact Nat.lt_succ_of_lt (h.readers r x found)

theorem MembersAgree.newListener {b : Bus} (h : MembersAgree b) (l : Listener) : MembersAgree (b.newListener l).2 :=
  { h with
    listeners := fun l' x found => by
      simp only [Bus.newListener, Table.getInsert] at found ⊢
      split at found
      · lia
      · exact Nat.lt_succ_of_lt (h.listeners l' x found)
    graphs := fun g x found => Nat.lt_succ_of_lt (h.graphs g x found) }

theorem MembersAgree.newGraph {b : Bus} (h : MembersAgree b) : MembersAgree b.newGraph.2 :=
  { h with
    listeners := fun l x found => Nat.lt_succ_of_lt (h.listeners l x found)
    graphs := fun g x found => by
      simp only [Bus.newGraph, Table.getInsert] at found ⊢
      split at found
      · lia
      · exact Nat.lt_succ_of_lt (h.graphs g x found) }

theorem MembersAgree.adopt {b : Bus} (h : MembersAgree b) {g : InstanceHandle} {x : Group} {k : InstanceHandle}
    (side : Side) (isOpen : b.openGroup side g = .ok x) (outer : b.Outer k) (topic : Topic) :
    MembersAgree ((b.addChild g k).enrolled k (x.endpoint topic)) := by
  obtain ⟨found, _, alive⟩ := openGroupExact.1 isOpen
  obtain ⟨y, there, domain, _⟩ := h.listed g x found alive
  have child : MembersAgree (b.addChild g k) := h.modifyGroup g
    (fun y j mem => (List.mem_append.1 mem).imp id fun new => by
      rw [List.mem_singleton.1 new]
      exact outer)
    (fun _ => ⟨rfl, rfl⟩) (fun _ isOpen => isOpen)
  refine child.enrolled outer ⟨y.member, ?_, domain⟩
  exact (h.members _).trans (by rw [Group.endpoint, there]; rfl)

theorem MembersAgree.removeChild {b : Bus} (h : MembersAgree b) (g k : InstanceHandle) :
    MembersAgree (b.removeChild g k) :=
  h.modifyGroup g (fun _ _ mem => .inl (List.mem_of_mem_erase mem)) (fun _ => ⟨rfl, rfl⟩)
    (fun _ isOpen => isOpen)

theorem MembersAgree.withdrawal {b : Bus} (h : MembersAgree b) (k : InstanceHandle) :
    MembersAgree (b.withdrawal k).1 := by
  unfold Bus.withdrawal
  cases b.endpoints.get? k with
  | none => exact h
  | some e => exact h.withdrawn k

/-! ### Every request -/

theorem membersAgreeRoster {b : Bus} (h : MembersAgree b) {q : Request} (roster : q.isRoster) :
    MembersAgree (b.request q) := by
  have changed := q.rostered b roster
  generalize b.request q = b' at changed ⊢
  cases changed with
  | same => exact h
  | typed | bound => exact h.modifyParticipant _ (fun _ => rfl) fun _ _ mem => mem
  | grouped ok => exact h.createGroup ok
  | parted ok => exact h.deleteGroup ok

theorem MembersAgree.withoutWriter {b : Bus} (h : MembersAgree b) (g w : InstanceHandle) :
    MembersAgree (b.withoutWriter g w) := { h.removeChild g w with }

theorem membersAgreeOpened {b b' : Bus} {q : Request} {news : List Notice} (h : MembersAgree b)
    (opened : q.Opened b b' news) : MembersAgree b' := by
  cases opened with
  | refused | sent => exact h
  | roster roster => exact membersAgreeRoster h roster
  | joined fits => exact membersAgreeWelcome h _
  | left found => exact h.vacated found
  | writer isOpen => exact { h.takeHandle.adopt .publication isOpen h.outerFresh _ with }
  | @reader _ x topic history isOpen =>
    exact (h.newReader x.participant topic.name topic.type history).adopt .subscription isOpen
      h.outerFresh topic
  | unwritten => exact (h.withoutWriter _ _).withdrawal _
  | unread => exact (h.removeChild _ _).withdrawal _
  | took => exact h.steady (takeAffects (z := .all) trivial).steady
  | drained => exact h.steady (drainAffects (z := .all) trivial trivial).steady
  | attached => exact h.steady (.setListener b _ _)
  | listener => exact h.newListener _
  | graph => exact h.newGraph
  | guard => exact { h with }

theorem closingSteady (b b' : Bus) (q : Request) : Steady b' (q.closing b b') := by
  cases q with
  | deleteReader g r =>
    unfold Request.closing
    dsimp only
    split
    · exact .modifyReader fun _ _ => rfl
    · exact .refl b'
  | _ => exact .refl b'

theorem membersAgreeRequest {b : Bus} (h : MembersAgree b) (q : Request) : MembersAgree (b.request q) := by
  rw [q.opens]
  exact ((membersAgreeOpened h (q.opened b)).steady (deliverSteady _ _)).steady (closingSteady b _ q)

theorem membersAgreeRun {b : Bus} (h : MembersAgree b) (requests : List Request) : MembersAgree (b.run requests) := by
  induction requests generalizing b with
  | nil => exact h
  | cons q rest ih => exact ih (membersAgreeRequest h q)

end Bus
end Databus
