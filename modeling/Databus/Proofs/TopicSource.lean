import Databus.Proofs.EntityOwnership

/-! Where endpoints have their topics from. A topic is handed out by one participant, which keeps the name bound to
the topic's type and that type registered; any publisher or subscriber may then use it, whoever handed it out. -/
namespace Databus

namespace Request

def yields? (b : Bus) : Request → Option Topic
  | .createTopic p name type history => (b.createTopic p name type history).toOption.map (·.1)
  | _ => none

def origin? (b : Bus) : Request → Option (InstanceHandle × Topic)
  | .createWriter g topic n => (b.createWriter g topic n).toOption.map fun made => (made.1, topic)
  | .createReader g topic history => (b.createReader g topic history).toOption.map fun made => (made.1, topic)
  | _ => none

end Request

structure TopicOrigins where
  issued : List Topic := []
  used : List (InstanceHandle × Topic) := []
  deriving DecidableEq, Repr

def TopicOrigins.note (o : TopicOrigins) (b : Bus) (q : Request) : TopicOrigins :=
  ⟨o.issued ++ (q.yields? b).toList, o.used ++ (q.origin? b).toList⟩

structure KnownTopics where
  types : List String
  topics : List Topic

def Participant.knownTopics (x : Participant) : KnownTopics := ⟨x.types, x.topics⟩

def KnownTopics.find? (s : KnownTopics) (name : String) : Option Topic := s.topics.find? (·.name = name)

namespace Bus

def origins (b : Bus) (o : TopicOrigins) : List Request → TopicOrigins
  | [] => o
  | q :: rest => (b.request q).origins (o.note b q) rest

def Sourced (b : Bus) (o : TopicOrigins) : List Request → Prop
  | [] => True
  | q :: rest => (∀ t, q.topic? = some t → t ∈ o.issued) ∧ (b.request q).Sourced (o.note b q) rest

def knownTopics (b : Bus) (p : InstanceHandle) : Option KnownTopics :=
  (b.participants.get? p).map Participant.knownTopics

theorem findTopicKnownTopics (b : Bus) (p : InstanceHandle) (name : String) :
    b.findTopic p name = (b.knownTopics p).bind (·.find? name) := by
  unfold findTopic knownTopics
  cases b.participants.get? p <;> rfl

theorem typeKnownTopics (b : Bus) (p : InstanceHandle) (type : String) :
    b.isTypeRegistered p type = true ↔ ∃ s, b.knownTopics p = some s ∧ type ∈ s.types := by
  unfold isTypeRegistered knownTopics
  cases b.participants.get? p with
  | none => simp
  | some x => simp [Participant.knownTopics]

theorem findExact {s : KnownTopics} {name : String} {t : Topic} (found : s.find? name = some t) :
    t ∈ s.topics ∧ t.name = name :=
  ⟨List.mem_of_find?_eq_some found, by simpa using List.find?_some found⟩

/-! ### What a request adds to the known topics -/

variable {b b' : Bus} {o : TopicOrigins}

theorem groupsKnownTopics {q : InstanceHandle} {f : List InstanceHandle → List InstanceHandle}
    (participants : b'.participants = b.participants.modify q fun x => { x with groups := f x.groups })
    (p : InstanceHandle) : b'.knownTopics p = b.knownTopics p := by
  rw [knownTopics, participants]
  exact Table.modifySame b.participants q p fun _ => rfl

theorem createTopicKnownTopics {p : InstanceHandle} {name type : String} {history : History} {t : Topic}
    (ok : b.createTopic p name type history = .ok (t, b')) : ∃ s, b.knownTopics p = some s ∧
      (b' = b ∧ s.find? name = some t ∨ s.find? name = none ∧ t = ⟨p, name, type, history⟩ ∧ type ∈ s.types ∧
        ∀ q, b'.knownTopics q = if q = p then some ⟨s.types, s.topics ++ [t]⟩ else b.knownTopics q) := by
  have registered : b.isTypeRegistered p type := by
    cases known : b.isTypeRegistered p type with
    | true => rfl
    | false =>
      unfold createTopic at ok
      split at ok <;> try contradiction
      rw [known, if_pos (by rfl)] at ok
      contradiction
  obtain ⟨s, shelved, mem⟩ := (typeKnownTopics b p type).1 registered
  refine ⟨s, shelved, ?_⟩
  obtain ⟨rfl, found, _⟩ | ⟨absent, new, rfl⟩ := createTopicOpens ok
  · rw [findTopicKnownTopics, shelved] at found
    exact .inl ⟨rfl, found⟩
  · rw [findTopicKnownTopics, shelved] at absent
    refine .inr ⟨absent, new, mem, fun q => ?_⟩
    unfold knownTopics at shelved ⊢
    rw [Table.getModify]
    split
    · obtain ⟨x, there, rfl⟩ := Option.map_eq_some_iff.1 shelved
      rw [there]
      rfl
    · rfl

inductive Adds (b : Bus) (q : Request) (p : InstanceHandle) (s' : KnownTopics) : Prop
  | kept (s : KnownTopics) (before : b.knownTopics p = some s) (topics : s'.topics = s.topics)
    (types : ∀ type ∈ s.types, type ∈ s'.types)
  | bare (new : b.nextHandle ≤ p) (topics : s'.topics = [])
  | bound (s : KnownTopics) (t : Topic) (before : b.knownTopics p = some s) (yields : q.yields? b = some t)
    (owner : t.owner = p)
    (absent : s.find? t.name = none) (typed : t.type ∈ s.types) (same : s' = ⟨s.types, s.topics ++ [t]⟩)

theorem addsSame {q : Request} {p : InstanceHandle} {s' : KnownTopics} (same : b'.knownTopics p = b.knownTopics p)
    (found : b'.knownTopics p = some s') : Adds b q p s' :=
  .kept s' (same ▸ found) rfl fun _ => id

theorem rosterAdds {q : Request} (roster : q.isRoster) {p : InstanceHandle} {s' : KnownTopics}
    (found : (b.request q).knownTopics p = some s') : Adds b q p s' := by
  have changed := q.rostered b roster
  generalize b.request q = b' at changed found
  cases changed with
  | same => exact addsSame rfl found
  | @typed q type =>
    unfold knownTopics at found
    rw [Table.getModify] at found
    split at found
    · rename_i own
      obtain ⟨x', there, rfl⟩ := Option.map_eq_some_iff.1 found
      obtain ⟨x, before, rfl⟩ := Option.map_eq_some_iff.1 there
      refine .kept x.knownTopics (by rw [knownTopics, own, before]; rfl) rfl fun type' mem => ?_
      simp only [Participant.knownTopics] at mem ⊢
      split
      · exact mem
      · exact List.mem_append_left _ mem
    · exact addsSame rfl found
  | @bound q name type history t ok =>
    obtain ⟨s, shelved, ⟨same, _⟩ | ⟨absent, new, typed, shelves⟩⟩ := createTopicKnownTopics ok
    · rw [same] at found
      exact addsSame rfl found
    · rw [shelves] at found
      split at found
      · rename_i own
        have yields : (Request.createTopic q name type history).yields? b = some t := by
          simp [Request.yields?, ok, Except.toOption]
        refine .bound s t (own ▸ shelved) yields (by rw [new, own]) ?_ ?_ (Option.some.inj found).symm
        · rw [new]
          exact absent
        · rw [new]
          exact typed
      · exact addsSame rfl found
  | @grouped _ _ g _ ok =>
    obtain ⟨_, _, _, same⟩ := createGroupOpens ok
    exact addsSame (groupsKnownTopics (f := (· ++ [g])) (congrArg Bus.participants same) p) found
  | @parted _ g _ ok =>
    obtain ⟨_, _, _, _, _, same⟩ := deleteGroupOpens ok
    exact addsSame (groupsKnownTopics (f := (·.erase g)) (congrArg Bus.participants same) p) found

theorem openedAdds {q : Request} {news : List Notice} (opened : q.Opened b b' news) {p : InstanceHandle}
    {s' : KnownTopics} (found : b'.knownTopics p = some s') : Adds b q p s' := by
  cases opened with
  | roster roster => exact rosterAdds roster found
  | joined =>
    unfold knownTopics at found
    rw [welcomeParticipants] at found
    split at found
    · rename_i new
      cases Option.some.inj found
      exact .bare (Nat.le_of_eq new.symm) rfl
    · exact addsSame rfl found
  | left =>
    simp only [knownTopics, vacated, marksGroups, setListener, modifyReader, Table.getErase] at found
    split at found
    · cases found
    · exact addsSame rfl found
  | refused | writer | reader | sent | attached | listener | graph | guard => exact addsSame rfl found
  | @unwritten g w => exact addsSame (by rw [knownTopics, withdrawalRest (b.withoutWriter g w) w]; rfl) found
  | @unread g r => exact addsSame (by rw [knownTopics, withdrawalRest (b.removeChild g r) r]; rfl) found
  | took => exact addsSame (by rw [knownTopics, (takeFrame b _).participants]; rfl) found
  | drained => exact addsSame (by rw [knownTopics, (drainFrame b _ _ _ _).participants]; rfl) found

theorem requestAdds (q : Request) {p : InstanceHandle} {s' : KnownTopics}
    (found : (b.request q).knownTopics p = some s') :
    Adds b q p s' := by
  refine openedAdds (q.opened b) (Eq.trans ?_ found)
  rw [knownTopics, knownTopics, (requestSteady b q).traffic.participants]

/-! ### What a request does to endpoints -/

theorem enrolledNext (c : Bus) (next : c.nextHandle = b.nextHandle + 1) (news : List Notice) :
    b.nextHandle < (c.deliver news).nextHandle := by
  rw [(deliverSteady c news).traffic.nextHandle, next]
  exact Nat.lt_succ_self _

theorem originFresh {q : Request} {k : InstanceHandle} {t : Topic} (made : q.origin? b = some (k, t)) :
    k = b.nextHandle ∧ k < (b.request q).nextHandle ∧ q.topic? = some t := by
  cases q with
  | createWriter g topic n =>
    cases ok : b.createWriter g topic n with
    | error f => simp [Request.origin?, ok, Except.toOption] at made
    | ok made' =>
      obtain ⟨x, _, new, same⟩ := createWriterMade ok
      simp only [Request.origin?, ok, Except.toOption, Option.map_some, Option.some.injEq, Prod.mk.injEq] at made
      obtain ⟨rfl, rfl⟩ := made
      simp only [request, ok, Except.map, after, new, same]
      exact ⟨trivial, enrolledNext _ rfl _, rfl⟩
  | createReader g topic history =>
    cases ok : b.createReader g topic history with
    | error f => simp [Request.origin?, ok, Except.toOption] at made
    | ok made' =>
      obtain ⟨x, _, new, same⟩ := createReaderMade ok
      simp only [Request.origin?, ok, Except.toOption, Option.map_some, Option.some.injEq, Prod.mk.injEq] at made
      obtain ⟨rfl, rfl⟩ := made
      simp only [request, ok, Except.map, after, new, same]
      exact ⟨trivial, enrolledNext _ rfl _, rfl⟩
  | _ => cases made

theorem endpointOrigin {q : Request} {k : InstanceHandle} {e : Endpoint}
    (found : (b.request q).endpoints.get? k = some e) : b.endpoints.get? k = some e ∨
      ∃ t, q.origin? b = some (k, t) ∧ e.topic = t.name ∧ e.type = t.type := by
  rcases endpointNew found with old | ⟨new, t, asked, topic, type⟩
  · exact .inl old
  · cases q with
    | createWriter g topic n =>
      cases asked
      cases ok : b.createWriter g t n with
      | error f =>
        rw [request, ok] at found
        exact .inl found
      | ok made =>
        obtain ⟨_, _, first, _⟩ := createWriterMade ok
        exact .inr ⟨t, by simp [Request.origin?, ok, Except.toOption, first, new], topic, type⟩
    | createReader g topic history =>
      cases asked
      cases ok : b.createReader g t history with
      | error f =>
        rw [request, ok] at found
        exact .inl found
      | ok made =>
        obtain ⟨_, _, first, _⟩ := createReaderMade ok
        exact .inr ⟨t, by simp [Request.origin?, ok, Except.toOption, first, new], topic, type⟩
    | _ => cases asked

/-! ### Every request -/

structure OriginsAgree (b : Bus) (o : TopicOrigins) : Prop where
  shelved : ∀ p s, b.knownTopics p = some s → ∀ t ∈ s.topics, t.owner = p ∧ t.type ∈ s.types
  issued : ∀ t ∈ o.issued, t.owner < b.nextHandle ∧ ∀ s, b.knownTopics t.owner = some s → s.find? t.name = some t
  used : ∀ k t, (k, t) ∈ o.used → k < b.nextHandle ∧ t ∈ o.issued
  sole : ∀ k t t', (k, t) ∈ o.used → (k, t') ∈ o.used → t = t'
  entered : ∀ k e, b.endpoints.get? k = some e → ∃ t, (k, t) ∈ o.used ∧ e.topic = t.name ∧ e.type = t.type

theorem originsAgreeEmpty : OriginsAgree {} {} := by
  constructor <;> intros <;> contradiction

namespace OriginsAgree

theorem yields (h : OriginsAgree b o) (membersAgree : MembersAgree b) {q : Request} {t : Topic}
    (made : q.yields? b = some t) :
    t.owner < (b.request q).nextHandle ∧ ∀ s, (b.request q).knownTopics t.owner = some s → s.find? t.name = some t := by
  cases q with
  | createTopic p name type history =>
    cases ok : b.createTopic p name type history with
    | error f => simp [Request.yields?, ok, Except.toOption] at made
    | ok made' =>
      have eq : made'.1 = t := by simpa [Request.yields?, ok, Except.toOption] using made
      have after : b.request (.createTopic p name type history) = made'.2 := by simp only [request, ok]; rfl
      obtain ⟨s, knownTopics, how⟩ := createTopicKnownTopics ok
      obtain ⟨x, present, _⟩ := Option.map_eq_some_iff.1 knownTopics
      have member := membersAgree.members p
      rw [present] at member
      have below := membersAgree.old p _ member
      rw [after, ← eq]
      rcases how with ⟨same, found⟩ | ⟨absent, new, _, shelves⟩
      · obtain ⟨mem, named⟩ := findExact found
        have owner := (h.shelved p s knownTopics _ mem).1
        rw [same, owner, named]
        refine ⟨below, fun s' knownTopics' => ?_⟩
        cases Option.some.inj (knownTopics.symm.trans knownTopics')
        exact found
      · have grown : b.nextHandle ≤ made'.2.nextHandle := after ▸ handlesGrow b _
        have owner : made'.1.owner = p := by rw [new]
        have named : made'.1.name = name := by rw [new]
        rw [owner, named]
        refine ⟨Nat.lt_of_lt_of_le below grown, fun s' knownTopics' => ?_⟩
        rw [shelves, if_pos rfl] at knownTopics'
        cases Option.some.inj knownTopics'
        unfold KnownTopics.find? at absent ⊢
        simp [List.find?_append, absent, named]
  | _ => cases made

theorem request (h : OriginsAgree b o) (membersAgree : MembersAgree b) {q : Request}
    (sourced : ∀ t, q.topic? = some t → t ∈ o.issued) :
    OriginsAgree (b.request q) (o.note b q) := by
  have grown := handlesGrow b q
  have issuedNow (t : Topic) : t ∈ (o.note b q).issued ↔ t ∈ o.issued ∨ q.yields? b = some t := by
    simp [TopicOrigins.note]
  have usedNow (u : InstanceHandle × Topic) : u ∈ (o.note b q).used ↔ u ∈ o.used ∨ q.origin? b = some u := by
    simp [TopicOrigins.note]
  refine ⟨fun p s' found t mem => ?_, fun t mem => ?_, fun k t mem => ?_, fun k t t' mem mem' => ?_,
    fun k e found => ?_⟩
  · cases requestAdds q found with
    | kept s before topics types =>
      obtain ⟨owner, typed⟩ := h.shelved p s before t (topics ▸ mem)
      exact ⟨owner, types _ typed⟩
    | bare new topics => simp [topics] at mem
    | bound s t' before yields owner absent typed same =>
      subst same
      rcases List.mem_append.1 mem with old | new
      · exact h.shelved p s before t old
      · cases List.mem_singleton.1 new
        exact ⟨owner, typed⟩
  · rcases (issuedNow t).1 mem with old | new
    · obtain ⟨below, known⟩ := h.issued t old
      refine ⟨Nat.lt_of_lt_of_le below grown, fun s' found => ?_⟩
      cases requestAdds q found with
      | kept s before topics types =>
        rw [KnownTopics.find?, topics]
        exact known s before
      | bare new topics => exact absurd below (Nat.not_lt.2 new)
      | bound s t' before yields owner absent typed same =>
        subst same
        have there := known s before
        unfold KnownTopics.find? at there ⊢
        rw [List.find?_append, there]
        rfl
    · exact h.yields membersAgree new
  · rcases (usedNow _).1 mem with old | new
    · obtain ⟨below, from'⟩ := h.used k t old
      exact ⟨Nat.lt_of_lt_of_le below grown, (issuedNow t).2 (.inl from')⟩
    · obtain ⟨_, below, asked⟩ := originFresh new
      exact ⟨below, (issuedNow t).2 (.inl (sourced t asked))⟩
  · rcases (usedNow _).1 mem with old | new <;> rcases (usedNow _).1 mem' with old' | new'
    · exact h.sole k t t' old old'
    · exact absurd (originFresh new').1 (Nat.ne_of_lt (h.used k t old).1)
    · exact absurd (originFresh new).1 (Nat.ne_of_lt (h.used k t' old').1)
    · exact (Prod.mk.inj (Option.some.inj (new.symm.trans new'))).2
  · rcases endpointOrigin found with old | ⟨t, new, same⟩
    · obtain ⟨t, mem, same⟩ := h.entered k e old
      exact ⟨t, (usedNow _).2 (.inl mem), same⟩
    · exact ⟨t, (usedNow _).2 (.inr new), same⟩

theorem run (h : OriginsAgree b o) (membersAgree : MembersAgree b) {requests : List Request}
    (sourced : b.Sourced o requests) :
    OriginsAgree (b.run requests) (b.origins o requests) := by
  induction requests generalizing b o with
  | nil => exact h
  | cons q rest ih => exact ih (h.request membersAgree sourced.1) (membersAgreeRequest membersAgree q) sourced.2

theorem binds (h : OriginsAgree b o) {t : Topic} (issued : t ∈ o.issued)
    (present : (b.participants.get? t.owner).isSome) :
    b.findTopic t.owner t.name = some t ∧ b.isTypeRegistered t.owner t.type := by
  obtain ⟨x, there⟩ := Option.isSome_iff_exists.1 present
  have knownTopics : b.knownTopics t.owner = some x.knownTopics := by rw [Bus.knownTopics, there]; rfl
  have found := (h.issued t issued).2 _ knownTopics
  refine ⟨by rw [findTopicKnownTopics, knownTopics]; exact found, (typeKnownTopics b _ _).2 ⟨_, knownTopics, ?_⟩⟩
  exact (h.shelved _ _ knownTopics t (findExact found).1).2

end OriginsAgree

def Holds (b : Bus) (p k : InstanceHandle) (e : Endpoint) : Prop :=
  ∃ x g y, b.participants.get? p = some x ∧ g ∈ x.groups ∧ b.groups.get? g = some y ∧ k ∈ y.endpoints ∧
    b.entry y k = some e

theorem Holds.entered (membersAgree : MembersAgree b) (owned : Owned b) {p k : InstanceHandle} {e : Endpoint}
    (holds : b.Holds p k e) : b.endpoints.get? k = some e := by
  obtain ⟨x, g, y, rest⟩ := holds
  exact (owned.exact membersAgree k e).2 ⟨p, x, g, y, rest⟩

/-- After any requests that use only topics handed out before: every live writer and reader of a participant is on one
such topic, which the participant it is from still binds and has the type of. Those that a participant has on topics of
its own, or on topics of one other that is present, agree on the type of each name. -/
theorem sourcesAgree (requests : List Request) (sourced : ({} : Bus).Sourced {} requests) :
    let b := ({} : Bus).run requests
    let o := ({} : Bus).origins {} requests
    (∀ p k e, b.Holds p k e → ∃ t, (∀ t', (k, t') ∈ o.used ↔ t' = t) ∧ t ∈ o.issued ∧ e.topic = t.name ∧
      e.type = t.type ∧ ((b.participants.get? t.owner).isSome →
        b.findTopic t.owner e.topic = some t ∧ b.isTypeRegistered t.owner e.type)) ∧
    (∀ p k e t, b.Holds p k e → (k, t) ∈ o.used → t.owner = p → b.isTypeRegistered p e.type) ∧
    ∀ p q k e t k' e' t', (b.participants.get? q).isSome → b.Holds p k e → b.Holds p k' e' →
      (k, t) ∈ o.used → (k', t') ∈ o.used → t.owner = q → t'.owner = q → e.topic = e'.topic → e.type = e'.type := by
  intro b o
  have membersAgree : MembersAgree b := membersAgreeRun membersAgreeEmpty requests
  have owned : Owned b := ownedRun ownedEmpty membersAgreeEmpty registeredEmpty requests
  have originsAgree : OriginsAgree b o := originsAgreeEmpty.run membersAgreeEmpty sourced
  have origin {p k : InstanceHandle} {e : Endpoint} {t : Topic} (holds : b.Holds p k e) (used : (k, t) ∈ o.used) :
      e.topic = t.name ∧ e.type = t.type := by
    obtain ⟨t', used', same⟩ := originsAgree.entered k e (holds.entered membersAgree owned)
    rw [originsAgree.sole k t t' used used']
    exact same
  refine ⟨fun p k e holds => ?_, fun p k e t holds used own => ?_,
    fun p q k e t k' e' t' present holds holds' used used' from' from'' same => ?_⟩
  · obtain ⟨t, used, topic, type⟩ := originsAgree.entered k e (holds.entered membersAgree owned)
    have issued := (originsAgree.used k t used).2
    refine ⟨t, fun t' => ⟨fun used' => originsAgree.sole k t' t used' used, fun eq => eq ▸ used⟩, issued, topic, type,
      fun present => ?_⟩
    rw [topic, type]
    exact originsAgree.binds issued present
  · obtain ⟨x, _, _, there, _⟩ := id holds
    rw [(origin holds used).2, ← own]
    exact (originsAgree.binds (originsAgree.used k t used).2 (own ▸ Option.isSome_of_mem there)).2
  · have bound := (originsAgree.binds (originsAgree.used k t used).2 (from' ▸ present)).1
    have bound' := (originsAgree.binds (originsAgree.used k' t' used').2 (from'' ▸ present)).1
    obtain ⟨topic, type⟩ := origin holds used
    obtain ⟨topic', type'⟩ := origin holds' used'
    rw [from', ← topic, same, topic', ← from'', bound'] at bound
    rw [type, type', Option.some.inj bound]

def borrowing : List Request :=
  [.join 0, .join 0, .registerType 1 "A", .registerType 4 "B", .createTopic 1 "t" "A" .standard,
    .createTopic 4 "t" "B" .standard, .createGroup .publication 1, .createWriter 7 ⟨1, "t", "A", .standard⟩ 8,
    .createWriter 7 ⟨4, "t", "B", .standard⟩ 8]

theorem borrowingSourced : ({} : Bus).Sourced {} borrowing := by
  refine ⟨nofun, nofun, nofun, nofun, nofun, nofun, nofun, fun t asked => ?_, fun t asked => ?_, trivial⟩ <;>
    cases asked <;> decide +kernel

theorem borrowingHolds : let b := ({} : Bus).run borrowing
    b.Holds 1 8 ⟨.publication, 0, 1, "t", "A"⟩ ∧ b.Holds 1 9 ⟨.publication, 0, 1, "t", "B"⟩ := by
  intro b
  have present : (b.participants.get? 1).map Participant.groups = some [7] := by decide +kernel
  obtain ⟨x, there, groups⟩ := Option.map_eq_some_iff.1 present
  have group : b.groups.get? 7 = some ⟨.publication, 1, 0, [8, 9], false⟩ := by decide +kernel
  have listed : 7 ∈ x.groups := by simp [groups]
  exact ⟨⟨x, 7, _, there, listed, group, by simp, by decide +kernel⟩,
    ⟨x, 7, _, there, listed, group, by simp, by decide +kernel⟩⟩

theorem borrowingAgrees : ({} : Bus).Sourced {} borrowing ∧ let b := ({} : Bus).run borrowing
    b.isTypeRegistered 1 "A" ∧ ∃ t, t.owner = 4 ∧ b.findTopic 4 "t" = some t ∧ b.isTypeRegistered 4 "B" := by
  refine ⟨borrowingSourced, ?_⟩
  obtain ⟨first, second⟩ := borrowingHolds
  obtain ⟨traces, own, _⟩ := sourcesAgree borrowing borrowingSourced
  refine ⟨own 1 8 _ ⟨1, "t", "A", .standard⟩ first (by decide +kernel) rfl, ?_⟩
  obtain ⟨t, used, _, _, _, binds⟩ := traces 1 9 _ second
  have foreign : t = ⟨4, "t", "B", .standard⟩ := ((used ⟨4, "t", "B", .standard⟩).1 (by decide +kernel)).symm
  subst foreign
  exact ⟨_, rfl, binds (by decide +kernel)⟩

/-- On a topic of another participant, a writer need agree neither with the type that its own participant binds to
the name nor with what is registered there. -/
theorem borrowedTypeClashes : ({} : Bus).Sourced {} borrowing ∧ let b := ({} : Bus).run borrowing
    b.Holds 1 8 ⟨.publication, 0, 1, "t", "A"⟩ ∧ b.Holds 1 9 ⟨.publication, 0, 1, "t", "B"⟩ ∧
      ¬ b.isTypeRegistered 1 "B" :=
  ⟨borrowingSourced, borrowingHolds.1, borrowingHolds.2, by decide +kernel⟩

end Bus
end Databus
