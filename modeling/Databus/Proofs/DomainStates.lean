import Databus.Bus.Registry
import Databus.Proofs.EntityOwnership

/-! A bus beside the registry of its domain states, under requests and under applications letting go of what they
hold. Participants of a domain share one state, and its tables are what those participants own. -/
namespace Databus

structure RegisteredBus where
  bus : Bus := {}
  registry : Registry := {}

namespace RegisteredBus

inductive RegistryStep
  | request (q : Request)
  | forget (k : InstanceHandle)
  deriving DecidableEq, Repr

def refer (t : RegisteredBus) : Request → Registry
  | .join domain =>
    match t.bus.join domain with
    | .ok (p, _) => (t.registry.getOrCreate domain).2.hold p (t.registry.getOrCreate domain).1
    | .error _ => t.registry
  | .leave p => t.registry.release p
  | .createGroup side p =>
    match t.bus.createGroup side p with
    | .ok (g, _) => t.registry.share g p
    | .error _ => t.registry
  | .createWriter g topic maxPayload =>
    match t.bus.createWriter g topic maxPayload with
    | .ok (w, _) => t.registry.share w g
    | .error _ => t.registry
  | _ => t.registry

def step (t : RegisteredBus) : RegistryStep → RegisteredBus
  | .request q => ⟨t.bus.request q, t.refer q⟩
  | .forget k =>
    if (t.bus.participants.get? k).isSome then t else { t with registry := t.registry.release k }

def run (t : RegisteredBus) (steps : List RegistryStep) : RegisteredBus := steps.foldl step t

end RegisteredBus

namespace Bus

def Placed (b : Bus) (k : InstanceHandle) (domain : DomainId) : Prop :=
  (b.participants.get? k).map Participant.domain = some domain ∨
    (b.groups.get? k).map Group.domain = some domain ∨ (b.writers.get? k).map Writer.domain = some domain

variable {b b' : Bus} {k : InstanceHandle} {domain : DomainId}

theorem placedSame (placed : b'.Placed k domain)
    (participants : (b'.participants.get? k).map Participant.domain =
      (b.participants.get? k).map Participant.domain)
    (groups : (b'.groups.get? k).map Group.domain = (b.groups.get? k).map Group.domain)
    (writers : (b'.writers.get? k).map Writer.domain = (b.writers.get? k).map Writer.domain) :
    b.Placed k domain := by
  rwa [Placed, participants, groups, writers] at placed

theorem placedSteady (s : Steady b b') (placed : b'.Placed k domain) : b.Placed k domain := by
  refine placedSame placed ?_ ?_ ?_
  · rw [s.traffic.participants]
  · rw [s.traffic.groups]
  · rw [s.traffic.writers]

theorem insertOld {α β : Type} (t : Table InstanceHandle α) {k c : InstanceHandle} (a : α) {g : α → β}
    (old : c < k) : ((t.insert k a).get? c).map g = (t.get? c).map g := by
  rw [Table.getInsert, if_neg (Nat.ne_of_lt old)]

theorem rosterPlaced {q : Request} (roster : q.isRoster) (old : k < b.nextHandle)
    (placed : (b.request q).Placed k domain) : b.Placed k domain := by
  have changed := q.rostered b roster
  generalize b.request q = b' at changed placed
  cases changed with
  | same => exact placed
  | typed | bound => exact placedSame placed (Table.modifySame _ _ _ fun _ => rfl) rfl rfl
  | grouped ok =>
    obtain ⟨x, _, new, rfl⟩ := createGroupOpens ok
    exact placedSame placed (Table.modifySame _ _ _ fun _ => rfl) (insertOld _ _ (new ▸ old)) rfl
  | parted ok =>
    obtain ⟨x, _, _, _, _, rfl⟩ := deleteGroupOpens ok
    exact placedSame placed (Table.modifySame _ _ _ fun _ => rfl) (Table.modifySame _ _ _ fun _ => rfl) rfl

theorem openedPlaced {q : Request} {news : List Notice} (opened : q.Opened b b' news)
    (old : k < b.nextHandle) (placed : b'.Placed k domain) : b.Placed k domain := by
  cases opened with
  | refused | sent => exact placed
  | roster roster => exact rosterPlaced roster old placed
  | joined fits =>
    refine placedSame placed ?_ rfl rfl
    rw [welcomeParticipants, if_neg (Nat.ne_of_lt old)]
  | @left p x found =>
    rw [Placed, Bus.vacated, marksGroups] at placed
    refine placed.imp (fun present => ?_) (Or.imp (fun listed => ?_) fun writes => writes)
    · change ((b.participants.erase p).get? k).map _ = _ at present
      rw [Table.getErase] at present
      split at present
      · contradiction
      · exact present
    · have marked := markedGroups x.groups b k
      rw [marksGroups] at marked
      refine Eq.trans ?_ listed
      refine Eq.trans ?_ (congrArg (Option.map Group.domain) marked).symm
      cases b.groups.get? k with
      | none => rfl
      | some y =>
        simp only [Option.map_some]
        split <;> rfl
  | writer isOpen => exact placedSame placed rfl (Table.modifySame _ _ _ fun _ => rfl) (insertOld _ _ old)
  | reader isOpen => exact placedSame placed rfl (Table.modifySame _ _ _ fun _ => rfl) rfl
  | @unwritten g w =>
    rw [withdrawalRest] at placed
    exact placedSame placed rfl (Table.modifySame _ _ _ fun _ => rfl) (Table.modifySame _ _ _ fun _ => rfl)
  | @unread g r =>
    rw [withdrawalRest] at placed
    exact placedSame placed rfl (Table.modifySame _ _ _ fun _ => rfl) rfl
  | took => exact placedSteady (takeAffects (z := .all) trivial).steady placed
  | drained => exact placedSteady (drainAffects (z := .all) trivial trivial).steady placed
  | attached => exact placedSteady (.setListener b _ _) placed
  | listener | graph | guard => exact placed

theorem requestPlaced {q : Request} (old : k < b.nextHandle)
    (placed : (b.request q).Placed k domain) : b.Placed k domain :=
  openedPlaced (q.opened b) old (placedSteady (requestSteady b q) placed)

theorem Registered.fresh (h : Registered b) (membersAgree : MembersAgree b) :
    b.participants.get? b.nextHandle = none ∧ b.groups.get? b.nextHandle = none ∧
      b.writers.get? b.nextHandle = none := by
  refine ⟨(membersAgree.fresh (Nat.le_refl _)).2.1, ?_, ?_⟩
  · cases found : b.groups.get? b.nextHandle with
    | none => rfl
    | some y => exact absurd (h.groups _ y found).1 (Nat.lt_irrefl _)
  · cases found : b.writers.get? b.nextHandle with
    | none => rfl
    | some x => exact absurd (h.writers _ x found).1 (Nat.lt_irrefl _)

theorem joinPlaced (membersAgree : MembersAgree b) (registered : Registered b) {p : InstanceHandle}
    (ok : b.join domain = .ok (p, b')) : p = b.nextHandle ∧ b'.nextHandle = b.nextHandle + 3 ∧
      ∀ d, b'.Placed p d → d = domain := by
  obtain ⟨_, groups, writers⟩ := registered.fresh membersAgree
  by_cases fits : domain ≤ maxDomainId
  · rw [joinOpens fits] at ok
    injection ok with ok
    obtain ⟨rfl, rfl⟩ := Prod.mk.inj ok
    have s := deliverSteady (b.welcome domain) (b.replay (b.newMember domain))
    refine ⟨rfl, s.traffic.nextHandle, fun d placed => ?_⟩
    obtain present | listed | writes := placedSteady s placed
    · rw [welcomeParticipants, if_pos rfl] at present
      exact (Option.some.inj present).symm
    · change (b.groups.get? b.nextHandle).map _ = _ at listed
      rw [groups] at listed
      contradiction
    · change (b.writers.get? b.nextHandle).map _ = _ at writes
      rw [writers] at writes
      contradiction
  · rw [joinRefused (Nat.lt_of_not_le fits)] at ok
    contradiction

theorem createGroupPlaced (membersAgree : MembersAgree b) (registered : Registered b) {side : Side}
    {p g : InstanceHandle} (ok : b.createGroup side p = .ok (g, b')) :
    g = b.nextHandle ∧ b'.nextHandle = b.nextHandle + 1 ∧
      ∀ d, b'.Placed g d → b.Placed p d := by
  obtain ⟨x, found, rfl, rfl⟩ := createGroupOpens ok
  obtain ⟨participants, _, writers⟩ := registered.fresh membersAgree
  refine ⟨rfl, rfl, fun d placed => ?_⟩
  obtain present | listed | writes := placed
  · change ((b.participants.modify p _).get? b.nextHandle).map _ = _ at present
    rw [Table.modifySame, participants] at present
    · contradiction
    · exact fun _ => rfl
  · change ((b.groups.insert b.nextHandle _).get? b.nextHandle).map _ = _ at listed
    rw [Table.getInsert, if_pos rfl] at listed
    exact .inl (by rw [found]; exact listed)
  · change (b.writers.get? b.nextHandle).map _ = _ at writes
    rw [writers] at writes
    contradiction

theorem createWriterPlaced (membersAgree : MembersAgree b) (registered : Registered b) {g w : InstanceHandle}
    {topic : Topic} {n : Nat} (ok : b.createWriter g topic n = .ok (w, b')) :
    w = b.nextHandle ∧ b'.nextHandle = b.nextHandle + 1 ∧ ∀ d, b'.Placed w d → b.Placed g d := by
  obtain ⟨participants, groups, _⟩ := registered.fresh membersAgree
  cases isOpen : b.openGroup .publication g with
  | error f => simp [createWriter, isOpen] at ok
  | ok y =>
    by_cases zero : n = 0
    · simp [createWriter, isOpen, zero] at ok
    · rw [createWriterOpens topic isOpen zero] at ok
      injection ok with ok
      obtain ⟨rfl, rfl⟩ := Prod.mk.inj ok
      have s := deliverSteady ((b.withWriter g y topic n).enrolled b.nextHandle (y.endpoint topic))
        (b.arrivalNews b.nextHandle (y.endpoint topic))
      refine ⟨rfl, s.traffic.nextHandle, fun d placed => ?_⟩
      obtain present | listed | writes := placedSteady s placed
      · change (b.participants.get? b.nextHandle).map _ = _ at present
        rw [participants] at present
        contradiction
      · change ((b.groups.modify g _).get? b.nextHandle).map _ = _ at listed
        rw [Table.modifySame, groups] at listed
        · contradiction
        · exact fun _ => rfl
      · change ((b.writers.insert b.nextHandle _).get? b.nextHandle).map _ = _ at writes
        rw [Table.getInsert, if_pos rfl] at writes
        exact .inr (.inl (by rw [(openGroupExact.1 isOpen).1]; exact writes))

theorem requestPresent (membersAgree : MembersAgree b) {q : Request} {p : InstanceHandle}
    (there : ((b.request q).participants.get? p).isSome) :
    q ≠ .leave p ∧ ((b.participants.get? p).isSome ∨ p = b.nextHandle ∧ ∃ domain, q = .join domain) := by
  have after := (membersAgreeRequest membersAgree q).members p
  obtain ⟨x, present⟩ := Option.isSome_iff_exists.1 there
  rw [present] at after
  constructor
  · rintro rfl
    simp only [request, leave] at present
    split at present
    · rename_i none
      rw [none] at present
      cases present
    · rename_i y found
      have opens := leaveOpens found
      simp only [leave, found] at opens
      rw [opens, (deliverSteady _ _).traffic.participants] at present
      simp only [vacated, marksGroups] at present
      change (b.participants.erase p).get? p = some x at present
      simp [Table.getErase] at present
  · rcases memberNew after with before | ⟨new, domain, eq, _⟩
    · rw [membersAgree.members p] at before
      obtain ⟨y, found, _⟩ := Option.map_eq_some_iff.1 before
      exact .inl (Option.isSome_of_mem found)
    · exact .inr ⟨new, domain, eq⟩

end Bus

namespace Registry

variable {r : Registry}

structure Sound (r : Registry) : Prop where
  sole : ∀ d d' s, r.domains.get? d = some s → r.domains.get? d' = some s → d = d'
  old : ∀ d s, r.domains.get? d = some s → s < r.nextState

theorem heldBy {s : StateId} : r.isHeld s = true ↔ ∃ k, r.holders.get? k = some s := by
  rw [isHeld, decide_eq_true_iff, Table.memValues]

theorem getOrCreateExact (sound : r.Sound) (domain : DomainId) :
    (r.getOrCreate domain).2.Sound ∧ (r.getOrCreate domain).2.holders = r.holders ∧
      (r.getOrCreate domain).2.domains.get? domain = some (r.getOrCreate domain).1 ∧
      ∀ d s, r.domains.get? d = some s → r.isHeld s →
        (r.getOrCreate domain).2.domains.get? d = some s := by
  unfold getOrCreate
  cases known : r.upgrade domain with
  | some s =>
    refine ⟨sound, rfl, ?_, fun d s found _ => found⟩
    exact (Option.filter_eq_some_iff.1 known).1
  | none =>
    have entries (d : DomainId) : ((r.domains.filter fun _ s => r.isHeld s).insert domain
        r.nextState).get? d =
          if d = domain then some r.nextState else (r.domains.get? d).filter (r.isHeld ·) := by
      rw [Table.getInsert, Table.getFilter]
    refine ⟨⟨fun d d' s found found' => ?_, fun d s found => ?_⟩, rfl, ?_, fun d s found held => ?_⟩
    · simp only [entries] at found found'
      split at found <;> split at found'
      · exact ‹d = domain›.trans (Eq.symm ‹d' = domain›)
      · have old := sound.old d' s (Option.filter_eq_some_iff.1 found').1
        exact absurd (Option.some.inj found) (Nat.ne_of_gt old)
      · have old := sound.old d s (Option.filter_eq_some_iff.1 found).1
        exact absurd (Option.some.inj found') (Nat.ne_of_gt old)
      · exact sound.sole d d' s (Option.filter_eq_some_iff.1 found).1 (Option.filter_eq_some_iff.1 found').1
    · simp only [entries] at found
      split at found
      · exact Nat.lt_succ_of_le (Nat.le_of_eq (Option.some.inj found).symm)
      · exact Nat.lt_succ_of_lt (sound.old d s (Option.filter_eq_some_iff.1 found).1)
    · simp only [entries, if_pos trivial]
    · simp only [entries]
      split
      · rename_i same
        have alive : r.upgrade domain = some s := by
          rw [upgrade, ← same, found]
          exact Option.filter_eq_some_iff.2 ⟨rfl, held⟩
        exact nomatch known.symm.trans alive
      · rw [found]
        exact Option.filter_eq_some_iff.2 ⟨rfl, held⟩

end Registry

namespace RegisteredBus

open Bus (MembersAgree Registered Owned)

structure StatesHeld (t : RegisteredBus) : Prop where
  sound : t.registry.Sound
  live : ∀ p, (t.bus.participants.get? p).isSome → (t.registry.holders.get? p).isSome
  held : ∀ k s, t.registry.holders.get? k = some s → k < t.bus.nextHandle ∧
    ∀ domain, t.bus.Placed k domain → t.registry.domains.get? domain = some s

variable {t : RegisteredBus}

theorem StatesHeld.share (h : StatesHeld t) {b' : Bus} {k parent : InstanceHandle}
    (handles : t.bus.nextHandle ≤ b'.nextHandle) (new : k < b'.nextHandle)
    (placed : ∀ domain, b'.Placed k domain → t.bus.Placed parent domain)
    (stays : ∀ c domain, c < t.bus.nextHandle → b'.Placed c domain → t.bus.Placed c domain)
    (live : ∀ p, (b'.participants.get? p).isSome → (t.bus.participants.get? p).isSome) :
    StatesHeld ⟨b', t.registry.share k parent⟩ := by
  have kept (c : InstanceHandle) (s : StateId) (found : t.registry.holders.get? c = some s) :
      c < b'.nextHandle ∧
        ∀ domain, b'.Placed c domain → t.registry.domains.get? domain = some s := by
    obtain ⟨old, place⟩ := h.held c s found
    exact ⟨Nat.lt_of_lt_of_le old handles, fun domain there => place domain (stays c domain old there)⟩
  unfold Registry.share
  cases found : t.registry.holders.get? parent with
  | none => exact ⟨h.sound, fun p there => h.live p (live p there), kept⟩
  | some s =>
    refine ⟨⟨h.sound.sole, h.sound.old⟩, fun p there => ?_, fun c s' holds => ?_⟩
    · change ((t.registry.holders.insert k s).get? p).isSome
      rw [Table.getInsert]
      split
      · rfl
      · exact h.live p (live p there)
    · change (t.registry.holders.insert k s).get? c = some s' at holds
      rw [Table.getInsert] at holds
      split at holds
      · rename_i same
        cases Option.some.inj holds
        rw [same]
        exact ⟨new, fun domain there => (h.held parent s found).2 domain (placed domain there)⟩
      · exact kept c s' holds

theorem StatesHeld.pass (h : StatesHeld t) (membersAgree : MembersAgree t.bus) {q : Request}
    (nobody : ∀ domain, q ≠ .join domain) : StatesHeld ⟨t.bus.request q, t.registry⟩ where
  sound := h.sound
  live p there := by
    rcases (Bus.requestPresent membersAgree there).2 with before | ⟨_, domain, joins⟩
    · exact h.live p before
    · exact absurd joins (nobody domain)
  held k s found := by
    obtain ⟨old, place⟩ := h.held k s found
    exact ⟨Nat.lt_of_lt_of_le old (Bus.handlesGrow _ q),
      fun domain there => place domain (Bus.requestPlaced old there)⟩

theorem StatesHeld.release (h : StatesHeld t) {b' : Bus} {k : InstanceHandle}
    (handles : t.bus.nextHandle ≤ b'.nextHandle)
    (stays : ∀ c domain, c < t.bus.nextHandle → b'.Placed c domain → t.bus.Placed c domain)
    (live : ∀ p, (b'.participants.get? p).isSome → p ≠ k ∧ (t.bus.participants.get? p).isSome) :
    StatesHeld ⟨b', t.registry.release k⟩ := by
  refine ⟨⟨h.sound.sole, h.sound.old⟩, fun p there => ?_, fun c s found => ?_⟩
  · change ((t.registry.holders.erase k).get? p).isSome
    rw [Table.getErase, if_neg (live p there).1]
    exact h.live p (live p there).2
  · change (t.registry.holders.erase k).get? c = some s at found
    rw [Table.getErase] at found
    split at found
    · contradiction
    · obtain ⟨old, place⟩ := h.held c s found
      exact ⟨Nat.lt_of_lt_of_le old handles, fun domain there => place domain (stays c domain old there)⟩

theorem StatesHeld.join (h : StatesHeld t) (membersAgree : MembersAgree t.bus) (registered : Registered t.bus)
    {domain : DomainId} {p : InstanceHandle} {b' : Bus} (ok : t.bus.join domain = .ok (p, b')) :
    StatesHeld ⟨b', (t.registry.getOrCreate domain).2.hold p (t.registry.getOrCreate domain).1⟩ := by
  obtain ⟨new, handles, place⟩ := Bus.joinPlaced membersAgree registered ok
  obtain ⟨sound, holders, entered, kept⟩ := Registry.getOrCreateExact h.sound domain
  have same : t.bus.request (.join domain) = b' := by
    simp only [Bus.request, ok, Except.map, Bus.after]
  refine ⟨⟨sound.sole, sound.old⟩, fun q there => ?_, fun k s found => ?_⟩
  · change (((t.registry.getOrCreate domain).2.holders.insert p _).get? q).isSome
    rw [Table.getInsert, holders]
    split
    · rfl
    · rename_i other
      rw [← same] at there
      rcases (Bus.requestPresent membersAgree there).2 with before | ⟨newcomer, _⟩
      · exact h.live q before
      · exact absurd (newcomer.trans new.symm) other
  · change ((t.registry.getOrCreate domain).2.holders.insert p _).get? k = some s at found
    rw [Table.getInsert, holders] at found
    split at found
    · rename_i eq
      cases Option.some.inj found
      rw [eq]
      refine ⟨by lia, fun d there => ?_⟩
      rw [place d there]
      exact entered
    · obtain ⟨old, known⟩ := h.held k s found
      refine ⟨by lia, fun d there => kept d s (known d ?_) (Registry.heldBy.2 ⟨k, found⟩)⟩
      exact Bus.requestPlaced old (same ▸ there)

theorem statesHeldRequest (h : StatesHeld t) (membersAgree : MembersAgree t.bus) (registered : Registered t.bus)
    (q : Request) : StatesHeld (t.step (.request q)) := by
  change StatesHeld ⟨t.bus.request q, t.refer q⟩
  have handles := Bus.handlesGrow t.bus q
  have stays (c : InstanceHandle) (domain : DomainId) (old : c < t.bus.nextHandle)
      (there : (t.bus.request q).Placed c domain) : t.bus.Placed c domain := Bus.requestPlaced old there
  have present (p : InstanceHandle) (nobody : ∀ domain, q ≠ .join domain)
      (there : ((t.bus.request q).participants.get? p).isSome) :
      q ≠ .leave p ∧ (t.bus.participants.get? p).isSome := by
    obtain ⟨stays, before | ⟨_, domain, joins⟩⟩ := Bus.requestPresent membersAgree there
    · exact ⟨stays, before⟩
    · exact absurd joins (nobody domain)
  cases q with
  | join domain =>
    simp only [refer]
    cases ok : t.bus.join domain with
    | error f => simpa only [Bus.request, ok, Except.map, Bus.after] using h
    | ok made => simpa only [Bus.request, ok, Except.map, Bus.after] using h.join membersAgree registered ok
  | leave p =>
    refine h.release handles stays fun c there => ?_
    obtain ⟨stays, before⟩ := present c (by simp) there
    exact ⟨fun same => stays (by rw [same]), before⟩
  | createGroup side p =>
    simp only [refer]
    cases ok : t.bus.createGroup side p with
    | error f => exact h.pass membersAgree (by simp)
    | ok made =>
      obtain ⟨g, b'⟩ := made
      obtain ⟨new, next, placed⟩ := Bus.createGroupPlaced membersAgree registered ok
      have same : t.bus.request (.createGroup side p) = b' := by
        simp only [Bus.request, ok, Except.map, Bus.after]
      rw [same] at handles stays present ⊢
      exact h.share handles (by lia) placed stays fun c there => (present c (by simp) there).2
  | createWriter g topic n =>
    simp only [refer]
    cases ok : t.bus.createWriter g topic n with
    | error f => exact h.pass membersAgree (by simp)
    | ok made =>
      obtain ⟨w, b'⟩ := made
      obtain ⟨new, next, placed⟩ := Bus.createWriterPlaced membersAgree registered ok
      have same : t.bus.request (.createWriter g topic n) = b' := by
        simp only [Bus.request, ok, Except.map, Bus.after]
      rw [same] at handles stays present ⊢
      exact h.share handles (by lia) placed stays fun c there => (present c (by simp) there).2
  | _ => exact h.pass membersAgree (by simp)

theorem statesHeldEmpty : StatesHeld {} := by
  constructor
  · constructor <;> intros <;> contradiction
  · intro p there
    contradiction
  · intro k s found
    contradiction

end RegisteredBus
end Databus
