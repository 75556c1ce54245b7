import Databus.Proofs.ReaderArrivals

/-! What a member has in sight: the endpoints that others registered in its domain. The news of a request
tells each member that stays the change of what it sees, once, and tells it nothing else. -/
namespace Databus

namespace Bus

/-! ### What is in sight -/

def visible (b : Bus) (p : InstanceHandle) (m : Member) (side : Side) :
    Table InstanceHandle Endpoint :=
  b.endpoints.filter fun _ e => e.domain = m.domain && e.owner ≠ p && e.side = side

def appeared (key : InstanceHandle) (e : Endpoint) : Arrival :=
  ⟨key, key, .alive, some (e.announcement key).encode⟩

def vanished (state : Liveness) (key : InstanceHandle) : Arrival := ⟨key, key, state, none⟩

def departures (old new : Table InstanceHandle Endpoint) : Table InstanceHandle Endpoint :=
  old.filter fun k _ => !new.contains k

def changes (state : Liveness) (old new : Table InstanceHandle Endpoint) : List Arrival :=
  (departures old new).entries.map (fun x => vanished state x.1) ++
    (departures new old).entries.map fun x => appeared x.1 x.2

theorem memVisible {b : Bus} {p : InstanceHandle} {m : Member} {side : Side} {k : InstanceHandle}
    {e : Endpoint} : (b.visible p m side).get? k = some e ↔
      b.endpoints.get? k = some e ∧ e.domain = m.domain ∧ e.owner ≠ p ∧ e.side = side := by
  simp only [visible, Table.getFilter, Option.filter_eq_some_iff, Bool.and_eq_true,
    decide_eq_true_eq, and_assoc]

theorem memDepartures {old new : Table InstanceHandle Endpoint} {k : InstanceHandle} {e : Endpoint} :
    (departures old new).get? k = some e ↔ old.get? k = some e ∧ new.get? k = none := by
  simp [departures, Table.getFilter, Option.filter_eq_some_iff, Table.contains]

theorem getDepartures (old new : Table InstanceHandle Endpoint) (k : InstanceHandle) :
    (departures old new).get? k = if (new.get? k).isSome then none else old.get? k := by
  rw [departures, Table.getFilter, Table.contains]
  cases new.get? k <;> cases old.get? k <;> rfl

theorem departuresNone {old new : Table InstanceHandle Endpoint}
    (kept : ∀ k e, old.get? k = some e → (new.get? k).isSome) : departures old new = .empty :=
  Table.filterNone fun k e found => by simp [Table.contains, kept k e found]

theorem departuresOne {old new : Table InstanceHandle Endpoint} {k : InstanceHandle} {e : Endpoint}
    (found : old.get? k = some e) (only : ∀ k' e', old.get? k' = some e' → (new.get? k' = none ↔ k' = k)) :
    (departures old new).entries = [(k, e)] := by
  refine Table.filterOne found fun k' e' present => ?_
  rw [← only k' e' present, Table.contains, Bool.not_eq_true', Option.isSome_eq_false_iff,
    Option.isNone_iff_eq_none]

theorem changesSame (state : Liveness) (t : Table InstanceHandle Endpoint) : changes state t t = [] := by
  have none : departures t t = .empty := departuresNone fun k e found => by rw [found]; rfl
  rw [changes, none]
  rfl

theorem changesInsert {t : Table InstanceHandle Endpoint} {k : InstanceHandle}
    (fresh : t.get? k = none) (e : Endpoint) (state : Liveness) :
    changes state t (t.insert k e) = [appeared k e] := by
  have old : departures t (t.insert k e) = .empty := departuresNone fun k' e' found => by
    rw [Table.getInsert, found]
    split <;> rfl
  have new : (departures (t.insert k e) t).entries = [(k, e)] := by
    refine departuresOne ((Table.getInsert ..).trans (if_pos rfl)) fun k' e' found => ?_
    rw [Table.getInsert] at found
    constructor
    · intro hidden
      refine Decidable.byContradiction fun other => ?_
      rw [if_neg other, hidden] at found
      cases found
    · rintro rfl
      exact fresh
  rw [changes, old, new]
  rfl

theorem changesErase {t : Table InstanceHandle Endpoint} {k : InstanceHandle} {e : Endpoint}
    (found : t.get? k = some e) (state : Liveness) :
    changes state t (t.erase k) = [vanished state k] := by
  have new : departures (t.erase k) t = .empty := departuresNone fun k' e' there => by
    rw [Table.getErase] at there
    split at there
    · cases there
    · rw [there]
      rfl
  have old : (departures t (t.erase k)).entries = [(k, e)] :=
    departuresOne found fun k' e' there => by
      rw [Table.getErase, there]
      split <;> simp [*]
  rw [changes, old, new]
  rfl

theorem visibleEnrolled {b : Bus} {k : InstanceHandle} (fresh : b.endpoints.get? k = none)
    (e : Endpoint) (p : InstanceHandle) (m : Member) (side : Side) :
    (b.enrolled k e).visible p m side =
      if e.domain = m.domain ∧ p ≠ e.owner ∧ e.side = side then (b.visible p m side).insert k e
      else b.visible p m side := by
  refine Table.sameLookup fun k' => ?_
  by_cases own : k' = k
  · subst own
    simp only [visible, enrolled, Table.getFilter, Table.getInsert, if_true]
    split
    · rename_i sees
      rw [Table.getInsert, if_pos rfl]
      simp [Option.filter, sees.1, sees.2.1.symm, sees.2.2]
    · rename_i hidden
      rw [Table.getFilter, fresh, Option.filter_none, Option.filter_eq_none_iff]
      rintro e' same sees
      cases Option.some.inj same
      simp only [Bool.and_eq_true, decide_eq_true_eq] at sees
      exact hidden ⟨sees.1.1, sees.1.2.symm, sees.2⟩
  · simp only [visible, enrolled, Table.getFilter, Table.getInsert, if_neg own]
    split
    · rw [Table.getInsert, if_neg own, Table.getFilter]
    · rw [Table.getFilter]

theorem visibleWithdrawn (b : Bus) (k p : InstanceHandle) (m : Member) (side : Side) :
    (b.withdrawn k).visible p m side = (b.visible p m side).erase k := by
  refine Table.sameLookup fun k' => ?_
  simp only [visible, withdrawn, Table.getFilter, Table.getErase]
  split <;> rfl

theorem changesEnrolled {b : Bus} {k : InstanceHandle} (fresh : b.endpoints.get? k = none)
    (e : Endpoint) (p : InstanceHandle) (m : Member) (side : Side) (state : Liveness) :
    changes state (b.visible p m side) ((b.enrolled k e).visible p m side) =
      if e.domain = m.domain ∧ p ≠ e.owner ∧ e.side = side then [appeared k e] else [] := by
  rw [visibleEnrolled fresh]
  split
  · refine changesInsert ?_ e state
    rw [visible, Table.getFilter, fresh]
    rfl
  · exact changesSame ..

theorem changesWithdrawn {b : Bus} {k : InstanceHandle} {e : Endpoint}
    (found : b.endpoints.get? k = some e) (p : InstanceHandle) (m : Member) (side : Side)
    (state : Liveness) :
    changes state (b.visible p m side) ((b.withdrawn k).visible p m side) =
      if e.domain = m.domain ∧ p ≠ e.owner ∧ e.side = side then [vanished state k] else [] := by
  rw [visibleWithdrawn]
  split
  · rename_i sees
    exact changesErase (memVisible.2 ⟨found, sees.1, sees.2.1.symm, sees.2.2⟩) state
  · rename_i hidden
    have same : (b.visible p m side).erase k = b.visible p m side := Table.sameLookup fun k' => by
      rw [Table.getErase]
      split
      · rename_i own
        refine (Option.eq_none_iff_forall_ne_some.2 fun e' there => ?_).symm
        obtain ⟨there, domain, owner, same⟩ := memVisible.1 there
        cases Option.some.inj (found.symm.trans (own ▸ there))
        exact hidden ⟨domain, owner.symm, same⟩
      · rfl
    rw [same]
    exact changesSame ..

/-! ### Whom the news reaches -/

def Notice.arrivals (r : InstanceHandle) (n : Notice) : List Arrival :=
  if n.reader = r then [n.arrival] else []

theorem MembersAgree.inboxOwn {b : Bus} (h : MembersAgree b) {p q : InstanceHandle} {m n : Member}
    {side side' : Side} (here : b.members.get? p = some m) (there : b.members.get? q = some n)
    (same : n.inbox side' = m.inbox side) : q = p ∧ side' = side := by
  obtain ⟨x, found, owner, _⟩ := h.inbox p m side here
  obtain ⟨y, found', owner', _⟩ := h.inbox q n side' there
  rw [same, found] at found'
  cases Option.some.inj found'
  obtain rfl : q = p := owner'.symm.trans owner
  rw [here] at there
  cases Option.some.inj there
  have apart := h.apart q m here
  refine ⟨rfl, ?_⟩
  cases side <;> cases side'
  · rfl
  · exact absurd same.symm apart
  · exact absurd same apart
  · rfl

theorem arrivalsMap (a : Arrival) (side : Side) (r : InstanceHandle)
    (l : List (InstanceHandle × Member)) :
    (l.map (·.2)).flatMap (fun n => Notice.arrivals r ⟨n.inbox side, a⟩) =
      (l.filter fun x => x.2.inbox side = r).map fun _ => a := by
  induction l with
  | nil => rfl
  | cons x rest ih =>
    rw [List.map_cons, List.flatMap_cons, ih, List.filter_cons, Notice.arrivals]
    by_cases own : x.2.inbox side = r <;> simp [own]

theorem peersTo {b : Bus} (h : MembersAgree b) {p : InstanceHandle} {m : Member}
    (member : b.members.get? p = some m) (side side' : Side) (domain : DomainId)
    (owner : InstanceHandle) (a : Arrival) :
    (b.peers domain owner).flatMap (fun n => Notice.arrivals (m.inbox side) ⟨n.inbox side', a⟩) =
      if domain = m.domain ∧ p ≠ owner ∧ side' = side then [a] else [] := by
  have addressed := congrArg Table.entries (Table.filterFilter b.members
    (fun q n => n.domain = domain && q ≠ owner) fun _ n => n.inbox side' = m.inbox side)
  rw [peers, Table.values, arrivalsMap]
  simp only [Table.filter] at addressed ⊢
  rw [addressed]
  split
  · rename_i sees
    obtain ⟨same, other, own⟩ := sees
    have one := Table.filterOne (p := fun q n => (n.domain = domain && q ≠ owner) &&
      decide (n.inbox side' = m.inbox side)) member fun q n there => by
        simp only [Bool.and_eq_true, decide_eq_true_eq]
        constructor
        · exact fun all => (h.inboxOwn member there all.2).1
        · rintro rfl
          rw [member] at there
          cases Option.some.inj there
          exact ⟨⟨same.symm, other⟩, by rw [own]⟩
    simp only [Table.filter] at one
    rw [one]
    rfl
  · rename_i hidden
    have none := congrArg Table.entries (Table.filterNone (t := b.members)
      (p := fun q n => (n.domain = domain && q ≠ owner) &&
        decide (n.inbox side' = m.inbox side)) fun q n there => by
          refine Bool.eq_false_iff.2 fun all => hidden ?_
          simp only [Bool.and_eq_true, decide_eq_true_eq] at all
          obtain ⟨rfl, own⟩ := h.inboxOwn member there all.2
          rw [member] at there
          cases Option.some.inj there
          exact ⟨all.1.1.symm, all.1.2, own⟩)
    simp only [Table.filter] at none
    rw [none]
    rfl

theorem announceTo {b : Bus} (h : MembersAgree b) {p : InstanceHandle} {m : Member}
    (member : b.members.get? p = some m) (side : Side) (domain : DomainId) (owner key : InstanceHandle)
    (e : Endpoint) (state : Liveness) :
    (announce (b.peers domain owner) key e state).flatMap (Notice.arrivals (m.inbox side)) =
      if domain = m.domain ∧ p ≠ owner ∧ e.side = side then
        [if state.isGone then vanished state key else ⟨key, key, state, some (e.announcement key).encode⟩]
      else [] := by
  have each : announce (b.peers domain owner) key e state = (b.peers domain owner).map fun n =>
      ⟨n.inbox e.side, if state.isGone then vanished state key
        else ⟨key, key, state, some (e.announcement key).encode⟩⟩ := by
    unfold announce
    cases state <;> rfl
  rw [each, List.flatMap_map]
  exact peersTo h member side e.side domain owner _

theorem MembersAgree.unread {b : Bus} (h : MembersAgree b) {p : InstanceHandle} {m : Member}
    (member : b.members.get? p = some m) (side : Side) : b.Unread (m.inbox side) :=
  fun e found _ => (h.endpoints _ e found).1.2 p m side member rfl

theorem MembersAgree.unenrolled {b : Bus} (h : MembersAgree b) : b.endpoints.get? b.nextHandle = none := by
  cases found : b.endpoints.get? b.nextHandle with
  | none => rfl
  | some e => exact absurd (h.endpoints _ e found).1.1 (Nat.lt_irrefl _)

end Bus

def Request.ending : Request → Liveness
  | .leave _ => .noWriters
  | _ => .disposed

namespace Bus

theorem farewellTo {b : Bus} (h : MembersAgree b) {p p' : InstanceHandle} {m : Member} {x : Participant}
    (member : b.members.get? p = some m) (found : b.participants.get? p' = some x)
    (other : p ≠ p') (side : Side) :
    (b.farewell p' x.domain).flatMap (Notice.arrivals (m.inbox side)) =
      changes .noWriters (b.visible p m side) ((b.vacated p' x).visible p m side) := by
  have owner : b.members.get? p' = some x.member := by rw [h.members, found]; rfl
  have rest : (b.vacated p' x).endpoints = b.endpoints.filter fun _ e => e.owner ≠ p' := by
    simp only [vacated, marksGroups]
    rfl
  have new : departures ((b.vacated p' x).visible p m side) (b.visible p m side) = .empty :=
    departuresNone fun k e there => by
      obtain ⟨there, sees⟩ := memVisible.1 there
      rw [rest, Table.getFilter, Option.filter_eq_some_iff] at there
      rw [memVisible.2 ⟨there.1, sees⟩]
      rfl
  have gone : departures (b.visible p m side) ((b.vacated p' x).visible p m side) =
      (b.endpoints.filter fun _ e => e.owner = p').filter
        fun _ e => x.domain = m.domain && e.side = side := by
    apply Table.sameLookup
    intro k
    apply Option.ext
    intro e
    have domain : b.endpoints.get? k = some e → e.owner = p' → e.domain = x.domain :=
      fun there own => by
        obtain ⟨_, n, known, same⟩ := h.endpoints k e there
        rw [own, owner] at known
        cases Option.some.inj known
        exact same.symm
    rw [memDepartures, memVisible, Option.eq_none_iff_forall_not_mem, Table.getFilter,
      Option.filter_eq_some_iff, Table.getFilter, Option.filter_eq_some_iff]
    simp only [Option.mem_def, memVisible, rest, Table.getFilter, Option.filter_eq_some_iff,
      Bool.and_eq_true, decide_eq_true_eq]
    constructor
    · rintro ⟨⟨there, same, own, sees⟩, lost⟩
      have left : e.owner = p' := Decidable.byContradiction fun stays =>
        lost e ⟨⟨there, by simpa using stays⟩, same, own, sees⟩
      exact ⟨⟨there, left⟩, (domain there left).symm.trans same, sees⟩
    · rintro ⟨⟨there, left⟩, same, sees⟩
      refine ⟨⟨there, (domain there left).trans same, fun own => other (own ▸ left), sees⟩, ?_⟩
      rintro e' ⟨⟨there', stays⟩, _⟩
      rw [there] at there'
      cases Option.some.inj there'
      simp [left] at stays
  rw [changes, new, gone, farewell, List.flatMap_assoc]
  have each : ∀ l : List (InstanceHandle × Endpoint),
      l.flatMap (fun y => (announce (b.peers x.domain p') y.1 y.2 .noWriters).flatMap
        (Notice.arrivals (m.inbox side))) =
      (l.filter fun y => x.domain = m.domain && y.2.side = side).map
        fun y => vanished .noWriters y.1 := fun l => by
    induction l with
    | nil => rfl
    | cons y rest ih =>
      rw [List.flatMap_cons, ih, announceTo h member, List.filter_cons]
      by_cases sees : x.domain = m.domain ∧ y.2.side = side <;> simp [sees, other, Liveness.isGone]
  refine (each _).trans ?_
  exact (List.append_nil _).symm

theorem withdrawalTo {b : Bus} (h : MembersAgree b) {p : InstanceHandle} {m : Member}
    (member : b.members.get? p = some m) (k : InstanceHandle) (side : Side) :
    (b.withdrawal k).2.flatMap (Notice.arrivals (m.inbox side)) =
      changes .disposed (b.visible p m side) ((b.withdrawal k).1.visible p m side) := by
  unfold withdrawal
  cases found : b.endpoints.get? k with
  | none => exact (changesSame _ _).symm
  | some e =>
    dsimp only [removalNews]
    rw [announceTo h member, changesWithdrawn found]
    simp only [eq_comm (a := e.domain)]
    rfl

theorem arrivalTo {b b' : Bus} (h : MembersAgree b) {p : InstanceHandle} {m : Member}
    (member : b.members.get? p = some m) (same : b'.endpoints = b.endpoints) (e : Endpoint)
    (side : Side) (state : Liveness) :
    (b.arrivalNews b.nextHandle e).flatMap (Notice.arrivals (m.inbox side)) =
      changes state (b.visible p m side) ((b'.enrolled b.nextHandle e).visible p m side) := by
  have enrolled := changesEnrolled h.unenrolled e p m side state
  simp only [visible, Bus.enrolled] at enrolled
  rw [arrivalNews, announceTo h member]
  simp only [visible, Bus.enrolled, same, enrolled]
  rfl

theorem visibleSame {b b' : Bus} (same : b'.endpoints = b.endpoints) (p : InstanceHandle)
    (m : Member) (side : Side) : b'.visible p m side = b.visible p m side := by
  simp only [visible, same]

theorem memberInbox (b : Bus) (domain : DomainId) (side : Side) :
    b.nextHandle < (b.newMember domain).inbox side := by
  cases side <;> simp only [Member.inbox, newMember] <;> lia

theorem newsExact {b b' : Bus} {q : Request} {news : List Notice} (h : MembersAgree b)
    (opened : q.Opened b b' news) {p : InstanceHandle} {m : Member}
    (member : b.members.get? p = some m) (stays : b'.members.get? p = some m) (side : Side) :
    news.flatMap (Notice.arrivals (m.inbox side)) =
      changes q.ending (b.visible p m side) (b'.visible p m side) := by
  have quiet : ∀ {c : Bus}, c.endpoints = b.endpoints →
      [] = changes q.ending (b.visible p m side) (c.visible p m side) := fun same => by
    rw [visibleSame same, changesSame]
  cases opened with
  | refused => exact quiet rfl
  | roster roster => exact quiet (rosterFrame roster).endpoints
  | @joined domain _ =>
    have old : m.inbox side < b.nextHandle := by
      obtain ⟨x, there, _⟩ := h.inbox p m side member
      exact h.readers _ x there
    refine .trans (List.flatMap_eq_nil_iff.2 fun n mem => if_neg ?_) (quiet rfl)
    -- the replay is for readers that are newer than any there was
    obtain ⟨⟨k, e⟩, _, told⟩ := List.mem_flatMap.1 mem
    simp only [announce, List.map_cons, List.map_nil, List.mem_singleton] at told
    rw [told]
    exact Nat.ne_of_gt (Nat.lt_trans old (memberInbox b domain e.side))
  | left found =>
    refine farewellTo h member found (fun eq => ?_) side
    simp only [vacated, marksGroups, Table.getErase, if_pos eq] at stays
    contradiction
  | writer | reader => exact arrivalTo h member rfl _ side _
  | unwritten => exact withdrawalTo (h.withoutWriter _ _) member _ side
  | unread => exact withdrawalTo (h.removeChild _ _) member _ side
  | sent routed =>
    refine .trans (List.flatMap_eq_nil_iff.2 fun n mem => if_neg fun own => ?_) (quiet rfl)
    -- a write goes to registered readers only, and a discovery reader is none
    obtain ⟨e, found, sub⟩ := routeReaders routed mem
    exact h.unread member side e (own ▸ found) sub
  | took => exact quiet (takeFrame b _).endpoints
  | drained => exact quiet (drainFrame b _ _ _ _).endpoints
  | attached | listener | graph | guard => exact quiet rfl

end Bus
end Databus
