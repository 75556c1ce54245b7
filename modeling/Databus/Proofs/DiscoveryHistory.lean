import Databus.Proofs.VisibleEndpoints

/-! What a discovery reader hears in its life: the endpoints in sight when its participant joins, then one
sample for each that comes or goes, in the order of the changes. Nothing is lost and nothing is told twice. -/
namespace Databus

def Request.consumed (r : InstanceHandle) (b : Bus) : Request → List Sample
  | .take r' => if r' = r then (b.take r).1.toList else []
  | .drain _ _ _ r' => if r' = r then (b.takeAll r).1 else []
  | _ => []

namespace Bus

/-! ### From one request to the next -/

theorem requestSteady (b : Bus) (q : Request) : Steady (q.opening b).1 (b.request q) := by
  rw [q.opens]
  exact (deliverSteady _ _).trans (closingSteady b _ q)

theorem requestEndpoints (b : Bus) (q : Request) :
    (b.request q).endpoints = (q.opening b).1.endpoints := (requestSteady b q).traffic.endpoints

theorem requestMembers (b : Bus) (q : Request) :
    (b.request q).members = (q.opening b).1.members := (requestSteady b q).traffic.members

theorem requestTakes {b : Bus} {r : InstanceHandle} {x : Reader} (found : b.readers.get? r = some x)
    (r' : InstanceHandle) :
    ∃ x', (b.take r').2.readers.get? r = some x' ∧ x.Yields ((Request.take r').consumed r b) x' := by
  by_cases own : r' = r
  · rw [Request.consumed, if_pos own, own]
    exact takeYields found
  · rw [Request.consumed, if_neg own]
    have affects : Affects ⟨fun k => k = r', fun _ => True, True⟩ b (b.take r').2 := takeAffects rfl
    exact ⟨x, ((Kept.ofAffects affects).readers r fun same => own same.symm).trans found, .refl x⟩

theorem requestDrains {b : Bus} {r : InstanceHandle} {x : Reader} (found : b.readers.get? r = some x) (side : Side)
    (graph : GraphId) (guard : ConditionId) (r' : InstanceHandle) :
    ∃ x', (b.drain side graph guard r').2.readers.get? r = some x' ∧
      x.Yields ((Request.drain side graph guard r').consumed r b) x' := by
  by_cases own : r' = r
  · rw [Request.consumed, if_pos own, own]
    exact drainYields side graph guard found
  · rw [Request.consumed, if_neg own]
    have affects : Affects ⟨fun k => k = r', fun _ => True, True⟩ b (b.drain side graph guard r').2 :=
      drainAffects rfl trivial
    exact ⟨x, ((Kept.ofAffects affects).readers r fun same => own same.symm).trans found, .refl x⟩

theorem requestAbsent {b : Bus} {r : InstanceHandle} (absent : b.readers.get? r = none) (q : Request) :
    q.consumed r b = [] := by
  cases q with
  | take r' => exact ite_eq_right_iff.2 fun _ => (takenAbsent absent).1
  | drain side graph guard r' => exact ite_eq_right_iff.2 fun _ => (takenAbsent absent).2
  | _ => rfl

theorem openedYields {b b' : Bus} {q : Request} {news : List Notice} (h : MembersAgree b)
    (opened : q.Opened b b' news) {r : InstanceHandle} {x : Reader} (found : b.readers.get? r = some x) :
    ∃ x' out, b'.readers.get? r = some x' ∧ x.Yields out x' ∧ (out = [] ∨ out = q.consumed r b) := by
  have below := h.readers r x found
  have kept {c : Bus} (there : c.readers.get? r = some x) :
      ∃ x' out, c.readers.get? r = some x' ∧ x.Yields out x' ∧ (out = [] ∨ out = q.consumed r b) :=
    ⟨x, [], there, .refl x, .inl rfl⟩
  have same {c : Bus} (eq : c.readers = b.readers) := kept (c := c) (eq ▸ found)
  cases opened with
  | refused | writer | sent | listener | graph | guard => exact same rfl
  | roster roster => exact same (rosterFrame roster).readers
  | joined =>
    refine kept ?_
    rw [welcomeReaders, if_neg (by lia), if_neg (by lia)]
    exact found
  | @left _ y _ =>
    have marked : (y.groups.foldl markDeleted b).readers.get? r = some x := by
      rwa [marksGroups]
    obtain ⟨x', there, silent⟩ := listenerYields marked y.publications none
    obtain ⟨x'', there', silent'⟩ := listenerYields there y.subscriptions none
    exact ⟨x'', [], there', silent.trans silent', .inl rfl⟩
  | reader =>
    refine kept ?_
    simp only [enrolled, withReader, newReader, takeHandle, newCondition, addChild,
      Table.getInsert, if_neg (Nat.ne_of_lt below)]
    exact found
  | unwritten => exact same (writerWithdrew b _ _).readers
  | unread => exact same (readerWithdrew b _ _).readers
  | took =>
    obtain ⟨x', there, yields⟩ := requestTakes found _
    exact ⟨x', _, there, yields, .inr rfl⟩
  | drained =>
    obtain ⟨x', there, yields⟩ := requestDrains found _ _ _ _
    exact ⟨x', _, there, yields, .inr rfl⟩
  | attached =>
    obtain ⟨x', there, silent⟩ := listenerYields found _ _
    exact ⟨x', [], there, silent, .inl rfl⟩

theorem openingYields {b : Bus} (h : MembersAgree b) (q : Request) {r : InstanceHandle} {x : Reader}
    (found : b.readers.get? r = some x) :
    ∃ x', (q.opening b).1.readers.get? r = some x' ∧ x.Yields (q.consumed r b) x' := by
  have idle (none : q.consumed r b = []) :
      ∃ x', (q.opening b).1.readers.get? r = some x' ∧ x.Yields (q.consumed r b) x' := by
    obtain ⟨x', out, there, yields, out'⟩ := openedYields h (q.opened b) found
    rw [none, or_self] at out'
    exact ⟨x', there, none ▸ out' ▸ yields⟩
  cases q with
  | take r' => exact requestTakes found r'
  | drain side graph guard r' => exact requestDrains found side graph guard r'
  | _ => exact idle rfl

theorem closingYields {b b' : Bus} (q : Request) {r : InstanceHandle} {x : Reader}
    (found : b'.readers.get? r = some x) :
    ∃ x', (q.closing b b').readers.get? r = some x' ∧ x.Yields [] x' := by
  cases q with
  | deleteReader g r' =>
    simp only [Request.closing]
    split
    · exact listenerYields found _ _
    · exact ⟨x, found, .refl x⟩
  | _ => exact ⟨x, found, .refl x⟩

theorem withdrawalEndpoints {b : Bus} {k k' : InstanceHandle} {e : Endpoint}
    (found : (b.withdrawal k').1.endpoints.get? k = some e) : b.endpoints.get? k = some e := by
  unfold withdrawal at found
  cases there : b.endpoints.get? k' with
  | none => simpa only [there] using found
  | some e' =>
    simp only [there, withdrawn, Table.getErase] at found
    split at found
    · contradiction
    · exact found

theorem openedEndpoint {b b' : Bus} {q : Request} {news : List Notice} (opened : q.Opened b b' news)
    {k : InstanceHandle} {e : Endpoint} (found : b'.endpoints.get? k = some e) :
    b.endpoints.get? k = some e ∨
      (k = b.nextHandle ∧ ∃ t, q.topic? = some t ∧ e.topic = t.name ∧ e.type = t.type) := by
  have kept : ∀ {c : Bus}, c.endpoints = b.endpoints → c.endpoints.get? k = some e →
      b.endpoints.get? k = some e := fun same found => same ▸ found
  cases opened with
  | refused | joined | sent | attached | listener | graph | guard => exact .inl found
  | roster roster => exact .inl (kept (rosterFrame roster).endpoints found)
  | @left p x there =>
    simp only [vacated, marksGroups] at found
    change (b.endpoints.filter fun _ e => e.owner ≠ p).get? k = some e at found
    rw [Table.getFilter, Option.filter_eq_some_iff] at found
    exact .inl found.1
  | writer | reader =>
    simp only [enrolled, Table.getInsert] at found
    split at found
    · cases Option.some.inj found
      exact .inr ⟨‹_›, _, rfl, rfl, rfl⟩
    · exact .inl found
  | @unwritten g w => exact .inl (withdrawalEndpoints (b := b.withoutWriter g w) found)
  | @unread g r => exact .inl (withdrawalEndpoints (b := b.removeChild g r) found)
  | took => exact .inl (kept (takeFrame b _).endpoints found)
  | drained => exact .inl (kept (drainFrame b _ _ _ _).endpoints found)

theorem endpointNew {b : Bus} {q : Request} {k : InstanceHandle} {e : Endpoint}
    (found : (b.request q).endpoints.get? k = some e) :
    b.endpoints.get? k = some e ∨
      (k = b.nextHandle ∧ ∃ t, q.topic? = some t ∧ e.topic = t.name ∧ e.type = t.type) :=
  openedEndpoint (q.opened b) (by rwa [← requestEndpoints])

theorem openedMember {b b' : Bus} {q : Request} {news : List Notice} (opened : q.Opened b b' news)
    {p : InstanceHandle} {m : Member} (found : b'.members.get? p = some m) :
    b.members.get? p = some m ∨
      (p = b.nextHandle ∧ ∃ domain, q = .join domain ∧ m = b.newMember domain) := by
  have kept : ∀ {c : Bus}, c.members = b.members → c.members.get? p = some m →
      b.members.get? p = some m := fun same found => same ▸ found
  cases opened with
  | refused | writer | reader | sent | attached | listener | graph | guard => exact .inl found
  | roster roster => exact .inl (kept (rosterFrame roster).members found)
  | joined =>
    rw [welcomeMembers] at found
    split at found
    · exact .inr ⟨‹_›, _, rfl, (Option.some.inj found).symm⟩
    · exact .inl found
  | @left p' x _ =>
    simp only [vacated, marksGroups] at found
    change (b.members.erase p').get? p = some m at found
    rw [Table.getErase] at found
    split at found
    · contradiction
    · exact .inl found
  | unwritten => exact .inl (kept (writerWithdrew b _ _).members found)
  | unread => exact .inl (kept (readerWithdrew b _ _).members found)
  | took => exact .inl (kept (takeFrame b _).members found)
  | drained => exact .inl (kept (drainFrame b _ _ _ _).members found)

theorem memberNew {b : Bus} {q : Request} {p : InstanceHandle} {m : Member}
    (found : (b.request q).members.get? p = some m) :
    b.members.get? p = some m ∨
      (p = b.nextHandle ∧ ∃ domain, q = .join domain ∧ m = b.newMember domain) :=
  openedMember (q.opened b) (by rwa [← requestMembers])

theorem openedHandles {b b' : Bus} {q : Request} {news : List Notice} (opened : q.Opened b b' news) :
    b.nextHandle ≤ b'.nextHandle := by
  cases opened with
  | refused | sent | attached | listener | graph | guard => exact Nat.le_refl _
  | roster roster => exact rosterHandles roster
  | joined => exact Nat.le_add_right _ 3
  | left =>
    simp only [vacated, marksGroups]
    exact Nat.le_refl _
  | writer | reader => exact Nat.le_succ _
  | unwritten => exact Nat.le_of_eq (writerWithdrew b _ _).nextHandle.symm
  | unread => exact Nat.le_of_eq (readerWithdrew b _ _).nextHandle.symm
  | took => exact Nat.le_of_eq (takeFrame b _).nextHandle.symm
  | drained => exact Nat.le_of_eq (drainFrame b _ _ _ _).nextHandle.symm

theorem handlesGrow (b : Bus) (q : Request) : b.nextHandle ≤ (b.request q).nextHandle := by
  rw [(requestSteady b q).traffic.nextHandle]
  exact openedHandles (q.opened b)

/-! ### A life of listening -/

def heardRun (r : InstanceHandle) (b : Bus) : List Request → List Sample
  | [] => []
  | q :: rest =>
    heard r (q.opening b).1 ((q.opening b).2.map .deliver) ++ heardRun r (b.request q) rest

def consumedRun (r : InstanceHandle) (b : Bus) : List Request → List Sample
  | [] => []
  | q :: rest =>
    q.consumed r b ++ consumed r (q.opening b).1 ((q.opening b).2.map .deliver) ++ consumedRun r (b.request q) rest

def told (state : Liveness) (old new : Table InstanceHandle Endpoint) : List Sample :=
  (departures old new).entries.map (fun x => (vanished state x.1).seen .notNew) ++
    (departures new old).entries.map fun x => (appeared x.1 x.2).seen .new

def story (p : InstanceHandle) (m : Member) (side : Side) (b : Bus) : List Request → List Sample
  | [] => []
  | q :: rest =>
    told q.ending (b.visible p m side) ((b.request q).visible p m side) ++
      story p m side (b.request q) rest

/-- What a log says of one endpoint: nothing, that it came, or that it came and went. -/
inductive Life (b : Bus) (p : InstanceHandle) (m : Member) (side : Side) (k : InstanceHandle) :
    List Sample → Prop
  | never (hidden : (b.visible p m side).get? k = none) : Life b p m side k []
  | here {e} (seen : (b.visible p m side).get? k = some e) :
      Life b p m side k [(appeared k e).seen .new]
  | gone {e state} (hidden : (b.visible p m side).get? k = none) (old : k < b.nextHandle)
      (sight : e.domain = m.domain ∧ e.owner ≠ p ∧ e.side = side) (ended : state.isGone = true) :
      Life b p m side k [(appeared k e).seen .new, (vanished state k).seen .notNew]

structure Attentive (b : Bus) (p : InstanceHandle) (m : Member) (side : Side) (taken log : List Sample) :
    Prop where
  member : b.members.get? p = some m
  reader : ∃ x, b.readers.get? (m.inbox side) = some x ∧ x.history = .keepAll ∧
    x.mailbox.lost = 0 ∧ taken ++ x.mailbox.samples = log ∧
    ∀ k, k ∈ x.mailbox.known ↔ ((b.visible p m side).get? k).isSome
  life : ∀ k, Life b p m side k (log.filter (·.subject = k))

theorem departuresKeys {old new : Table InstanceHandle Endpoint} {k : InstanceHandle} :
    k ∈ (departures old new).keys ↔ (old.get? k).isSome ∧ new.get? k = none := by
  rw [Table.memKeys, Option.isSome_iff_exists]
  simp only [memDepartures, Option.isSome_iff_exists, exists_and_right]

theorem stampsChanges {known : List InstanceHandle} {old : Table InstanceHandle Endpoint}
    (state : Liveness) (new : Table InstanceHandle Endpoint) (ended : state.isGone = true)
    (knows : ∀ k, k ∈ known ↔ (old.get? k).isSome) :
    Mailbox.stamps known (changes state old new) = told state old new ∧
      ∀ k, k ∈ Mailbox.recollect known (changes state old new) ↔ (new.get? k).isSome := by
  have subjects : (changes state old new).map (·.subject) = (departures old new).keys ++ (departures new old).keys := by
    rw [changes, List.map_append, List.map_map, List.map_map]
    rfl
  have once : ((departures old new).keys ++ (departures new old).keys).Nodup := by
    refine List.nodup_append.2 ⟨Table.keysNodup _, Table.keysNodup _, fun k went k' came same => ?_⟩
    subst same
    rw [departuresKeys] at went came
    rw [went.2] at came
    cases came.1
  have turns (a : Arrival) (mem : a ∈ changes state old new) : a.subject ∈ known ↔ a.state.isGone = true := by
    rw [knows]
    rcases List.mem_append.1 mem with went | came
    · obtain ⟨x, inside, rfl⟩ := List.mem_map.1 went
      exact iff_of_true (departuresKeys.1 (List.mem_map_of_mem inside)).1 ended
    · obtain ⟨x, inside, rfl⟩ := List.mem_map.1 came
      have absent := (departuresKeys.1 (List.mem_map_of_mem inside)).2
      exact iff_of_false (by rw [appeared, absent]; exact Bool.false_ne_true) Bool.false_ne_true
  obtain ⟨same, members⟩ := Mailbox.stampsTurn known (changes state old new) turns (subjects ▸ once)
  refine ⟨?_, fun k => ?_⟩
  · rw [same, changes, told, List.map_append, List.map_map, List.map_map]
    congr 1
    exact List.map_congr_left fun x _ => by simp only [Function.comp_apply, vanished, ended, if_true]
  · rw [members, subjects, List.mem_append, departuresKeys, departuresKeys, knows]
    cases old.get? k <;> cases new.get? k <;> simp

theorem toldOf (state : Liveness) (old new : Table InstanceHandle Endpoint) (k : InstanceHandle) :
    (told state old new).filter (·.subject = k) =
      (((departures old new).get? k).map fun _ => (vanished state k).seen .notNew).toList ++
        (((departures new old).get? k).map fun e => (appeared k e).seen .new).toList := by
  have each : ∀ (t : Table InstanceHandle Endpoint) (f : InstanceHandle × Endpoint → Sample),
      (∀ x, (f x).subject = x.1) → (t.entries.map f).filter (·.subject = k) =
        ((t.get? k).map fun e => f (k, e)).toList := fun t f same => by
    rw [List.filter_map]
    have keyed : (fun s : Sample => decide (s.subject = k)) ∘ f = fun x => decide (x.1 = k) :=
      funext fun x => by simp only [Function.comp_apply, same]
    rw [keyed, Table.entriesOf]
    cases t.get? k <;> rfl
  rw [told, List.filter_append, each _ _ fun _ => rfl, each _ _ fun _ => rfl]

theorem lifeGoesOn {b b' : Bus} {p : InstanceHandle} {m : Member} {side : Side}
    {state : Liveness} {k : InstanceHandle} {log : List Sample} (life : Life b p m side k log)
    (below : ∀ e, b.endpoints.get? k = some e → k < b.nextHandle)
    (handles : b.nextHandle ≤ b'.nextHandle)
    (fresh : ∀ e, b'.endpoints.get? k = some e → b.endpoints.get? k = some e ∨ k = b.nextHandle)
    (ended : state.isGone = true) :
    Life b' p m side k
      (log ++ (told state (b.visible p m side) (b'.visible p m side)).filter (·.subject = k)) := by
  rw [toldOf, getDepartures, getDepartures]
  cases life with
  | never hidden =>
    rw [hidden]
    cases now : (b'.visible p m side).get? k with
    | none => exact .never now
    | some e => exact .here now
  | @here e seen =>
    rw [seen]
    have there := (memVisible.1 seen).1
    cases now : (b'.visible p m side).get? k with
    | none => exact .gone now (Nat.lt_of_lt_of_le (below e there) handles) (memVisible.1 seen).2 ended
    | some e' =>
      have same : e' = e := by
        rcases fresh e' (memVisible.1 now).1 with before | new
        · rw [there] at before
          exact (Option.some.inj before).symm
        · exact absurd new (Nat.ne_of_lt (below e there))
      exact .here (same ▸ now)
  | @gone e state' hidden old sight ended' =>
    rw [hidden]
    cases now : (b'.visible p m side).get? k with
    | none => exact .gone now (Nat.lt_of_lt_of_le old handles) sight ended'
    | some e' =>
      rcases fresh e' (memVisible.1 now).1 with before | new
      · rw [memVisible.2 ⟨before, (memVisible.1 now).2⟩] at hidden
        cases hidden
      · exact absurd new (Nat.ne_of_lt old)

theorem endingGone (q : Request) : q.ending.isGone = true := by
  cases q <;> rfl

theorem attentiveRequest {b : Bus} (h : MembersAgree b) {q : Request} {p : InstanceHandle} {m : Member}
    {side : Side} {taken log : List Sample} (attentive : Attentive b p m side taken log)
    (stays : (b.request q).members.get? p = some m) :
    heard (m.inbox side) (q.opening b).1 ((q.opening b).2.map .deliver) =
        told q.ending (b.visible p m side) ((b.request q).visible p m side) ∧
      Attentive (b.request q) p m side
        (taken ++ (q.consumed (m.inbox side) b ++
          consumed (m.inbox side) (q.opening b).1 ((q.opening b).2.map .deliver)))
        (log ++ heard (m.inbox side) (q.opening b).1 ((q.opening b).2.map .deliver)) := by
  obtain ⟨member, ⟨x, found, keeps, lost, order, knows⟩, life⟩ := attentive
  have still : (q.opening b).1.members.get? p = some m := requestMembers b q ▸ stays
  have opened := membersAgreeOpened h (q.opened b)
  have sight : (b.request q).visible p m side = (q.opening b).1.visible p m side :=
    visibleSame (requestEndpoints b q) p m side
  have due : ((q.opening b).2.map Task.deliver).flatMap (Task.arrivals (m.inbox side)) =
      changes q.ending (b.visible p m side) ((b.request q).visible p m side) := by
    rw [sight, ← newsExact h (q.opened b) member still side, List.flatMap_map]
    rfl
  obtain ⟨y, there, yields⟩ := openingYields h q found
  obtain ⟨same, z, there', keeps', known, lost', order'⟩ := settleHeard
    ((q.opening b).2.map .deliver) (opened.unread still side) there
    (yields.history.trans keeps)
  have last := closingYields (b := b) q there'
  rw [← deliver, ← q.opens] at last
  obtain ⟨w, there'', silent⟩ := last
  have closed : w.mailbox.samples = z.mailbox.samples := silent.samples
  obtain ⟨stamps, recalled⟩ := stampsChanges q.ending ((b.request q).visible p m side)
    (endingGone q) knows
  rw [due, yields.known] at same known
  rw [stamps] at same
  refine ⟨same, stays, ⟨w, there'', silent.history.trans keeps', ?_, ?_, fun k => ?_⟩, fun k => ?_⟩
  · rw [silent.lost, lost', yields.lost, lost]
  · rw [closed, List.append_assoc, List.append_assoc, order', ← order, ← yields.samples, List.append_assoc,
      List.append_assoc]
  · rw [silent.known, known, recalled]
  · rw [List.filter_append, same]
    exact lifeGoesOn (life k) (fun e enrolled => (h.endpoints k e enrolled).1.1) (handlesGrow b q)
      (fun e now => (endpointNew now).imp id And.left) (endingGone q)

theorem runFirst (b : Bus) (q : Request) (rest : List Request) :
    b.run (q :: rest) = (b.request q).run rest := rfl

theorem runAppend (b : Bus) (first second : List Request) :
    b.run (first ++ second) = (b.run first).run second := List.foldl_append ..

theorem handlesGrowRun (b : Bus) (requests : List Request) :
    b.nextHandle ≤ (b.run requests).nextHandle := by
  induction requests generalizing b with
  | nil => exact Nat.le_refl _
  | cons q rest ih => exact Nat.le_trans (handlesGrow b q) (ih _)

theorem memberGone {b : Bus} {requests : List Request} {p : InstanceHandle}
    (old : p < b.nextHandle) (gone : b.members.get? p = none) :
    (b.run requests).members.get? p = none := by
  induction requests generalizing b with
  | nil => exact gone
  | cons q rest ih =>
    refine ih (Nat.lt_of_lt_of_le old (handlesGrow b q)) ?_
    cases now : (b.request q).members.get? p with
    | none => rfl
    | some m =>
      rcases memberNew now with before | ⟨new, _⟩
      · rw [gone] at before
        cases before
      · exact absurd new (Nat.ne_of_lt old)

theorem memberStays {b : Bus} (h : MembersAgree b) {q : Request} {rest : List Request}
    {p : InstanceHandle} {m m' : Member} (member : b.members.get? p = some m)
    (last : ((b.request q).run rest).members.get? p = some m') :
    (b.request q).members.get? p = some m := by
  have old := h.old p m member
  cases now : (b.request q).members.get? p with
  | none =>
    rw [memberGone (Nat.lt_of_lt_of_le old (handlesGrow b q)) now] at last
    cases last
  | some n =>
    rcases memberNew now with before | ⟨new, _⟩
    · exact before.symm.trans member
    · exact absurd new (Nat.ne_of_lt old)

theorem attentiveRun {b : Bus} (h : MembersAgree b) {requests : List Request} {p : InstanceHandle}
    {m m' : Member} {side : Side} {taken log : List Sample} (attentive : Attentive b p m side taken log)
    (last : (b.run requests).members.get? p = some m') :
    heardRun (m.inbox side) b requests = story p m side b requests ∧
      Attentive (b.run requests) p m side (taken ++ consumedRun (m.inbox side) b requests)
        (log ++ heardRun (m.inbox side) b requests) := by
  induction requests generalizing b taken log with
  | nil =>
    refine ⟨rfl, ?_⟩
    rw [heardRun, consumedRun, List.append_nil, List.append_nil]
    exact attentive
  | cons q rest ih =>
    obtain ⟨same, next⟩ := attentiveRequest h attentive (memberStays h attentive.member last)
    obtain ⟨same', final⟩ := ih (membersAgreeRequest h q) next last
    refine ⟨by rw [heardRun, story, same, same'], ?_⟩
    rw [heardRun, consumedRun, ← List.append_assoc log, ← List.append_assoc taken]
    exact final

/-! ### Before and at the joining -/

theorem heardRunAppend (r : InstanceHandle) (b : Bus) (first second : List Request) :
    heardRun r b (first ++ second) = heardRun r b first ++ heardRun r (b.run first) second := by
  induction first generalizing b with
  | nil => rfl
  | cons q rest ih => rw [List.cons_append, heardRun, heardRun, ih, List.append_assoc]; rfl

theorem consumedRunAppend (r : InstanceHandle) (b : Bus) (first second : List Request) :
    consumedRun r b (first ++ second) = consumedRun r b first ++ consumedRun r (b.run first) second := by
  induction first generalizing b with
  | nil => rfl
  | cons q rest ih => rw [List.cons_append, consumedRun, consumedRun, ih, ← List.append_assoc]; rfl

theorem heardEarly {b : Bus} (h : MembersAgree b) {requests : List Request} {r : InstanceHandle}
    (later : (b.run requests).nextHandle ≤ r) : heardRun r b requests = [] ∧ consumedRun r b requests = [] := by
  induction requests generalizing b with
  | nil => exact ⟨rfl, rfl⟩
  | cons q rest ih =>
    have opened := membersAgreeOpened h (q.opened b)
    have now : (b.request q).nextHandle ≤ r := Nat.le_trans (handlesGrowRun _ rest) later
    have handle : (q.opening b).1.nextHandle ≤ r := by
      rwa [← (requestSteady b q).traffic.nextHandle]
    obtain ⟨silent, untouched⟩ := heardNothing ((q.opening b).2.map .deliver) (opened.fresh handle).2.2
    obtain ⟨silent', untouched'⟩ := ih (membersAgreeRequest h q) later
    have absent := (h.fresh (Nat.le_trans (handlesGrow b q) now)).2.2
    rw [heardRun, consumedRun, silent, untouched, silent', untouched', requestAbsent absent]
    exact ⟨rfl, rfl⟩

theorem replayTo {b : Bus} (h : MembersAgree b) (domain : DomainId) (side : Side) :
    (b.replay (b.newMember domain)).flatMap (Notice.arrivals ((b.newMember domain).inbox side)) =
      changes .disposed .empty ((b.welcome domain).visible b.nextHandle (b.newMember domain) side) := by
  have sight : (b.welcome domain).visible b.nextHandle (b.newMember domain) side =
      (b.endpoints.filter fun _ e => e.domain = domain).filter fun _ e => e.side = side := by
    rw [Table.filterFilter]
    refine Table.filterCongr fun k e found => ?_
    obtain ⟨_, m, member, _⟩ := h.endpoints k e found
    have other : e.owner ≠ b.nextHandle := Nat.ne_of_lt (h.old _ m member)
    rw [Bool.eq_iff_iff]
    simp only [Bool.and_eq_true, decide_eq_true_eq]
    exact ⟨fun ⟨⟨same, _⟩, side⟩ => ⟨same, side⟩, fun ⟨same, side⟩ => ⟨⟨same, other⟩, side⟩⟩
  have each : ∀ l : List (InstanceHandle × Endpoint),
      l.flatMap (fun x => (announce [b.newMember domain] x.1 x.2 .alive).flatMap
        (Notice.arrivals ((b.newMember domain).inbox side))) =
      (l.filter fun x => x.2.side = side).map fun x => appeared x.1 x.2 := fun l => by
    induction l with
    | nil => rfl
    | cons x rest ih =>
      rw [List.flatMap_cons, ih, List.filter_cons]
      have inbox : (b.newMember domain).inbox x.2.side = (b.newMember domain).inbox side ↔ x.2.side = side := by
        cases x.2.side <;> cases side <;> simp [Member.inbox, newMember]
      by_cases same : x.2.side = side
      · simp [announce, Notice.arrivals, same, appeared, Liveness.isGone]
      · simp [announce, Notice.arrivals, same, mt inbox.1 same]
  have empty : departures .empty ((b.welcome domain).visible b.nextHandle (b.newMember domain) side) =
      .empty := departuresNone fun k e found => by cases found
  have all : ∀ t : Table InstanceHandle Endpoint, departures t .empty = t := fun t =>
    Table.sameLookup fun k => by rw [getDepartures]; rfl
  rw [changes, empty, all, sight, replay, List.flatMap_assoc]
  exact each _

theorem toldFirst (t : Table InstanceHandle Endpoint) :
    told .disposed .empty t = t.entries.map fun x => (appeared x.1 x.2).seen .new := by
  have none : departures .empty t = .empty := departuresNone fun k e found => by cases found
  have all : departures t .empty = t := Table.sameLookup fun k => by rw [getDepartures]; rfl
  rw [told, none, all]
  rfl

theorem attentiveJoin {b : Bus} (h : MembersAgree b) {domain : DomainId} (fits : domain ≤ maxDomainId)
    (side : Side) :
    heardRun ((b.newMember domain).inbox side) b [.join domain] =
        ((b.request (.join domain)).visible b.nextHandle (b.newMember domain) side).entries.map
          (fun x => (appeared x.1 x.2).seen .new) ∧
      Attentive (b.request (.join domain)) b.nextHandle (b.newMember domain) side
        (consumedRun ((b.newMember domain).inbox side) b [.join domain])
        (heardRun ((b.newMember domain).inbox side) b [.join domain]) := by
  have opening := Request.openingJoin b fits
  have membersAgree := membersAgreeWelcome h domain
  have member : (b.welcome domain).members.get? b.nextHandle = some (b.newMember domain) := by
    rw [welcomeMembers, if_pos rfl]
  obtain ⟨topic, condition, found⟩ := welcomeInbox b domain side
  have steady := requestSteady b (.join domain)
  rw [opening] at steady
  have sight : (b.request (.join domain)).visible b.nextHandle (b.newMember domain) side =
      (b.welcome domain).visible b.nextHandle (b.newMember domain) side :=
    visibleSame steady.traffic.endpoints _ _ side
  have due : ((b.replay (b.newMember domain)).map Task.deliver).flatMap
      (Task.arrivals ((b.newMember domain).inbox side)) =
        changes .disposed .empty ((b.welcome domain).visible b.nextHandle (b.newMember domain) side) := by
    rw [← replayTo h, List.flatMap_map]
    rfl
  obtain ⟨same, x, there, keeps, known, lost, order⟩ := settleHeard
    ((b.replay (b.newMember domain)).map .deliver) (membersAgree.unread member side) found rfl
  have heard : heardRun ((b.newMember domain).inbox side) b [.join domain] =
      heard ((b.newMember domain).inbox side) (b.welcome domain)
        ((b.replay (b.newMember domain)).map .deliver) := by
    rw [heardRun, opening, heardRun, List.append_nil]
  have taken : consumedRun ((b.newMember domain).inbox side) b [.join domain] =
      consumed ((b.newMember domain).inbox side) (b.welcome domain)
        ((b.replay (b.newMember domain)).map .deliver) := by
    rw [consumedRun, opening, consumedRun, List.append_nil]
    rfl
  have settled : b.request (.join domain) =
      (b.welcome domain).settle ((b.replay (b.newMember domain)).map .deliver) := by
    rw [Request.opens, opening]
    rfl
  have empty : ∀ k, k ∈ (builtinReader b.nextHandle topic condition).mailbox.known ↔
      ((Table.empty : Table InstanceHandle Endpoint).get? k).isSome := fun k => by
    simp [builtinReader]
  obtain ⟨stamps, recalled⟩ := stampsChanges .disposed
    ((b.welcome domain).visible b.nextHandle (b.newMember domain) side) rfl empty
  have first := toldFirst ((b.welcome domain).visible b.nextHandle (b.newMember domain) side)
  rw [due] at same known
  rw [stamps, first] at same
  rw [heard, taken, sight]
  refine ⟨same, steady.traffic.members ▸ member, ⟨x, settled ▸ there, keeps, lost, ?_, fun k => ?_⟩,
    fun k => ?_⟩
  · exact order
  · rw [known, recalled, sight]
  · rw [same, ← first, toldOf]
    have none : (departures .empty
        ((b.welcome domain).visible b.nextHandle (b.newMember domain) side)).get? k = none := by
      rw [getDepartures]
      split <;> rfl
    rw [none, getDepartures]
    cases now : ((b.welcome domain).visible b.nextHandle (b.newMember domain) side).get? k with
    | none => exact .never (sight ▸ now)
    | some e => exact .here (sight ▸ now)

/-! ### The whole log -/

theorem appearedReads (k : InstanceHandle) (e : Endpoint) :
    (appeared k e).payload.map Announcement.decode =
        some (.ok ⟨UInt64.ofNat k, UInt64.ofNat e.owner, e.topic, e.type⟩) ↔
      e.topic.utf8ByteSize < UInt32.size ∧ e.type.utf8ByteSize < UInt32.size := by
  simp only [appeared, Option.map_some, Option.some.injEq]
  constructor
  · exact fun ok => (Announcement.encodeDecoded ok).2
  · exact fun ⟨topic, type⟩ => Announcement.decodeEncoded (a := e.announcement k) topic type

/-- All that the discovery readers of a participant hear until some moment of its life, taken or still unread. -/
theorem discoveryExact {before after : List Request} {domain : DomainId} {x : Participant}
    (fits : domain ≤ maxDomainId) (live : (Bus.run {} (before ++ .join domain :: after)).participants.get?
      (Bus.run {} before).nextHandle = some x) (side : Side) :
    let b := Bus.run {} before
    let p := b.nextHandle
    let m := x.member
    let joined := b.request (.join domain)
    let log := heardRun (m.inbox side) {} (before ++ .join domain :: after)
    let taken := consumedRun (m.inbox side) {} (before ++ .join domain :: after)
    m.domain = domain ∧
      log = (joined.visible p m side).entries.map (fun y => (appeared y.1 y.2).seen .new) ++
        story p m side joined after ∧
      Attentive (joined.run after) p m side taken log ∧
      ∀ k e, (appeared k e).payload.map Announcement.decode =
          some (.ok ⟨UInt64.ofNat k, UInt64.ofNat e.owner, e.topic, e.type⟩) ↔
        e.topic.utf8ByteSize < UInt32.size ∧ e.type.utf8ByteSize < UInt32.size := by
  intro b p m joined log taken
  have membersAgree : MembersAgree b := membersAgreeRun membersAgreeEmpty before
  have split : Bus.run {} (before ++ .join domain :: after) = joined.run after := runAppend ..
  have last : (joined.run after).members.get? p = some m := by
    rw [(membersAgreeRun (membersAgreeRequest membersAgree _) after).members, ← split, live]
    rfl
  obtain ⟨first, start⟩ := attentiveJoin membersAgree fits side
  obtain ⟨rest, final⟩ := attentiveRun (membersAgreeRequest membersAgree _) start last
  have same : m = b.newMember domain := Option.some.inj (last.symm.trans final.member)
  obtain ⟨early, untouched⟩ : heardRun (m.inbox side) {} before = [] ∧ consumedRun (m.inbox side) {} before = [] :=
    heardEarly membersAgreeEmpty (same ▸ Nat.le_of_lt (memberInbox b domain side))
  have whole : log =
      heardRun (m.inbox side) b [.join domain] ++ heardRun (m.inbox side) joined after := calc
    log = heardRun (m.inbox side) {} before ++ heardRun (m.inbox side) b ([.join domain] ++ after) :=
      heardRunAppend ..
    _ = heardRun (m.inbox side) b ([.join domain] ++ after) := by rw [early, List.nil_append]
    _ = heardRun (m.inbox side) b [.join domain] ++ heardRun (m.inbox side) joined after :=
      heardRunAppend ..
  have drawn : taken =
      consumedRun (m.inbox side) b [.join domain] ++ consumedRun (m.inbox side) joined after := calc
    taken = consumedRun (m.inbox side) {} before ++ consumedRun (m.inbox side) b ([.join domain] ++ after) :=
      consumedRunAppend ..
    _ = consumedRun (m.inbox side) b ([.join domain] ++ after) := by rw [untouched, List.nil_append]
    _ = consumedRun (m.inbox side) b [.join domain] ++ consumedRun (m.inbox side) joined after :=
      consumedRunAppend ..
  rw [whole, drawn, same]
  exact ⟨rfl, by rw [first, rest], final, appearedReads⟩

theorem discoveryOfChurn :
    let before : List Request :=
      [.join 0, .createGroup .publication 1, .createWriter 4 ⟨1, "t", "T", .standard⟩ 8]
    let after : List Request :=
      [.createWriter 4 ⟨1, "u", "T", .standard⟩ 8, .deleteWriter 4 9, .leave 1]
    heardRun 7 {} (before ++ .join 0 :: after) =
      [(appeared 5 ⟨.publication, 0, 1, "t", "T"⟩).seen .new,
        (appeared 9 ⟨.publication, 0, 1, "u", "T"⟩).seen .new,
        (vanished .disposed 9).seen .notNew, (vanished .noWriters 5).seen .notNew] := by
  intro before after
  have live : (Bus.run {} (before ++ .join 0 :: after)).participants.get? (Bus.run {} before).nextHandle =
      some { domain := 0, publications := 7, subscriptions := 8 } := by decide +kernel
  exact (discoveryExact (show 0 ≤ maxDomainId by decide) live .publication).2.1.trans (by decide +kernel)

example : consumedRun 8 {} [.join 0, .createGroup .publication 1, .createWriter 4 ⟨1, "t", "T", .standard⟩ 8,
    .createWriter 4 ⟨1, "u", "T", .standard⟩ 8, .join 0, .take 9, .take 8] =
    [(appeared 5 ⟨.publication, 0, 1, "t", "T"⟩).seen .new] := by
  decide +kernel

end Bus
end Databus
