import Databus.Proofs.DiscoveryHistory

/-! Writers and the endpoint table: what a domain has registered under a writer's handle follows from the
writer's own mark and from whether the participant it was created under is still there. A write only asks the mark. -/
namespace Databus.Bus

def registration (b : Bus) (x : Writer) : Option Endpoint :=
  if x.deleted then none
  else
    match b.groups.get? x.publisher with
    | none => none
    | some g => (b.participants.get? g.participant).map fun _ =>
      ⟨.publication, x.domain, g.participant, x.topic, x.type⟩

structure Registered (b : Bus) : Prop where
  groups : ∀ g y, b.groups.get? g = some y → g < b.nextHandle ∧ y.participant < b.nextHandle
  writers : ∀ w x, b.writers.get? w = some x →
    w < b.nextHandle ∧ b.readers.get? w = none ∧ ∃ g, b.groups.get? x.publisher = some g
  entered : ∀ w x, b.writers.get? w = some x → b.endpoints.get? w = b.registration x

theorem registeredEmpty : Registered {} := by
  constructor <;> intros <;> contradiction

theorem registrationSame {b b' : Bus} {x : Writer}
    (owner : (b'.groups.get? x.publisher).map (·.participant) =
      (b.groups.get? x.publisher).map (·.participant))
    (live : ∀ g, b.groups.get? x.publisher = some g →
      (b'.participants.get? g.participant).isSome = (b.participants.get? g.participant).isSome) :
    b'.registration x = b.registration x := by
  unfold registration
  cases found : b.groups.get? x.publisher with
  | none =>
    rw [found] at owner
    rw [Option.map_eq_none_iff.1 owner]
  | some g =>
    rw [found] at owner
    obtain ⟨g', found', same⟩ := Option.map_eq_some_iff.1 owner
    have live := live g found
    simp only [found', same]
    cases there : b.participants.get? g.participant <;>
      cases there' : b'.participants.get? g.participant <;> simp [there, there'] at live ⊢

theorem withdrawalEntries (b : Bus) (k c : InstanceHandle) :
    (b.withdrawal k).1.endpoints.get? c = if c = k then none else b.endpoints.get? c := by
  unfold withdrawal
  split
  · exact Table.getErase ..
  · rename_i none
    split
    · rename_i same
      exact same ▸ none
    · rfl

theorem withdrawalRest (b : Bus) (k : InstanceHandle) :
    (b.withdrawal k).1 = { b with endpoints := (b.withdrawal k).1.endpoints } := by
  unfold withdrawal
  split <;> rfl

namespace Registered

variable {b b' : Bus}

theorem keep (h : Registered b) (handles : b.nextHandle ≤ b'.nextHandle)
    (writers : b'.writers = b.writers)
    (readers : ∀ w, w < b.nextHandle → b.readers.get? w = none → b'.readers.get? w = none)
    (endpoints : ∀ w x, b.writers.get? w = some x → b'.endpoints.get? w = b.endpoints.get? w)
    (participants : ∀ p, p < b.nextHandle →
      (b'.participants.get? p).isSome = (b.participants.get? p).isSome)
    (owners : ∀ g, g < b.nextHandle →
      (b'.groups.get? g).map (·.participant) = (b.groups.get? g).map (·.participant))
    (new : ∀ g y, b.nextHandle ≤ g → b'.groups.get? g = some y →
      g < b'.nextHandle ∧ y.participant < b'.nextHandle) : Registered b' where
  groups g y found := by
    by_cases old : g < b.nextHandle
    · have same := owners g old
      rw [found] at same
      obtain ⟨z, there, eq⟩ := Option.map_eq_some_iff.1 same.symm
      have bounds := h.groups g z there
      lia
    · exact new g y (by lia) found
  writers w x found := by
    rw [writers] at found
    obtain ⟨old, none, g, there⟩ := h.writers w x found
    have same := owners _ (h.groups _ g there).1
    rw [there] at same
    obtain ⟨g', there', _⟩ := Option.map_eq_some_iff.1 same
    exact ⟨by lia, readers w old none, g', there'⟩
  entered w x found := by
    rw [writers] at found
    obtain ⟨_, _, g, there⟩ := h.writers w x found
    rw [endpoints w x found, h.entered w x found]
    refine (registrationSame (owners _ (h.groups _ g there).1) fun g' there' => ?_).symm
    exact participants _ (h.groups _ g' there').2

theorem steady (h : Registered b) (s : Steady b b') : Registered b' := by
  have handle := s.traffic.nextHandle
  refine h.keep (Nat.le_of_eq handle.symm) s.traffic.writers (fun w _ none => ?_)
    (fun _ _ _ => by rw [s.traffic.endpoints]) (fun _ _ => by rw [s.traffic.participants])
    (fun _ _ => by rw [s.traffic.groups]) (fun g y new found => ?_)
  · have same := s.readers w
    rw [none] at same
    exact Option.map_eq_none_iff.1 same
  · rw [s.traffic.groups] at found
    have bounds := h.groups g y found
    lia

/-! ### One change of a table at a time -/

theorem modifyParticipant (h : Registered b) (p : InstanceHandle) (f : Participant → Participant) :
    Registered { b with participants := b.participants.modify p f } := by
  refine h.keep (Nat.le_refl _) rfl (fun _ _ none => none) (fun _ _ _ => rfl) (fun q _ => ?_)
    (fun _ _ => rfl) (fun g y _ found => h.groups g y found)
  rw [Table.getModify]
  split
  · rename_i same
    rw [same, Option.isSome_map]
  · rfl

theorem modifyGroup (h : Registered b) (g : InstanceHandle) {f : Group → Group}
    (same : ∀ y, (f y).participant = y.participant) :
    Registered { b with groups := b.groups.modify g f } := by
  have owners (k : InstanceHandle) : ((b.groups.modify g f).get? k).map (·.participant) =
      (b.groups.get? k).map (·.participant) := by
    rw [Table.getModify]
    split
    · rename_i eq
      subst eq
      cases b.groups.get? k with
      | none => rfl
      | some y => exact congrArg some (same y)
    · rfl
  refine h.keep (Nat.le_refl _) rfl (fun _ _ none => none) (fun _ _ _ => rfl) (fun _ _ => rfl)
    (fun k _ => owners k) (fun k y _ found => ?_)
  have eq := owners k
  rw [found] at eq
  obtain ⟨z, there, own⟩ := Option.map_eq_some_iff.1 eq.symm
  have bounds := h.groups k z there
  lia

theorem mark (h : Registered b) (gs : List InstanceHandle) : Registered (gs.foldl markDeleted b) := by
  induction gs generalizing b with
  | nil => exact h
  | cons g rest ih => exact ih (h.modifyGroup g fun _ => rfl)

theorem createGroup (h : Registered b) (membersAgree : MembersAgree b) {side : Side} {p g : InstanceHandle}
    (ok : b.createGroup side p = .ok (g, b')) : Registered b' := by
  obtain ⟨x, found, rfl, rfl⟩ := createGroupOpens ok
  have member := membersAgree.members p
  rw [found] at member
  have old := membersAgree.old p _ member
  refine (h.modifyParticipant p fun x => { x with groups := x.groups ++ [b.nextHandle] }).keep
    (Nat.le_succ _) rfl (fun _ _ none => none) (fun _ _ _ => rfl) (fun _ _ => rfl)
    (fun k below => ?_) (fun k y new there => ?_)
  · change k < b.nextHandle at below
    rw [Table.getInsert, if_neg (by lia)]
  · change b.nextHandle ≤ k at new
    rw [Table.getInsert] at there
    change k < b.nextHandle + 1 ∧ y.participant < b.nextHandle + 1
    split at there
    · cases Option.some.inj there
      simp only
      lia
    · have bounds := h.groups k y there
      lia

theorem roster (h : Registered b) (membersAgree : MembersAgree b) {q : Request} (roster : q.isRoster) :
    Registered (b.request q) := by
  have changed := q.rostered b roster
  generalize b.request q = b' at changed ⊢
  cases changed with
  | same => exact h
  | typed | bound => exact h.modifyParticipant _ _
  | grouped ok => exact h.createGroup membersAgree ok
  | parted ok =>
    obtain ⟨x, found, _, _, _, rfl⟩ := deleteGroupOpens ok
    exact (h.modifyGroup (f := fun y => { y with deleted := true }) _ fun _ => rfl).modifyParticipant _ _

theorem welcome (h : Registered b) (domain : DomainId) : Registered (b.welcome domain) := by
  refine h.keep (Nat.le_add_right _ 3) rfl (fun w below none => ?_) (fun _ _ _ => rfl)
    (fun p below => ?_) (fun _ _ => rfl) (fun g y new found => ?_)
  · rw [welcomeReaders, if_neg (by lia), if_neg (by lia)]
    exact none
  · rw [welcomeParticipants, if_neg (by lia)]
  · have bounds := h.groups g y found
    lia

theorem depart (h : Registered b) (p : InstanceHandle) :
    Registered { b with
      participants := b.participants.erase p
      members := b.members.erase p
      endpoints := b.endpoints.filter fun _ e => e.owner ≠ p } := by
  refine ⟨h.groups, h.writers, fun w x found => ?_⟩
  rw [Table.getFilter, h.entered w x found]
  unfold registration
  cases x.deleted with
  | true => rfl
  | false =>
    cases b.groups.get? x.publisher with
    | none => rfl
    | some g =>
      simp only [Bool.false_eq_true, if_false, Table.getErase]
      by_cases own : g.participant = p
      · cases b.participants.get? g.participant <;> simp [own]
      · cases b.participants.get? g.participant <;> simp [own]

theorem vacated (h : Registered b) (p : InstanceHandle) (x : Participant) :
    Registered (b.vacated p x) := by
  have quiet {b : Bus} (r : InstanceHandle) (h : Registered b) : Registered (b.setListener r none) :=
    h.steady (.setListener b r none)
  exact (quiet x.subscriptions (quiet x.publications (h.mark x.groups))).depart p

theorem withWriter (h : Registered b) (membersAgree : MembersAgree b) {g : InstanceHandle} {x : Group}
    {topic : Topic} {n : Nat} (isOpen : b.openGroup .publication g = .ok x) :
    Registered ((b.withWriter g x topic n).enrolled b.nextHandle (x.endpoint topic)) := by
  obtain ⟨found, side, alive⟩ := openGroupExact.1 isOpen
  obtain ⟨y, there, _⟩ := membersAgree.listed g x found alive
  have older : Registered (b.addChild g b.nextHandle) := h.modifyGroup g fun _ => rfl
  have child : (b.addChild g b.nextHandle).groups.get? g =
      some { x with endpoints := x.endpoints ++ [b.nextHandle] } := by
    simp only [addChild, Table.getModify, if_true, found, Option.map_some]
  have writers (w : InstanceHandle) :
      ((b.withWriter g x topic n).enrolled b.nextHandle (x.endpoint topic)).writers.get? w =
        if w = b.nextHandle then some ⟨g, x.domain, topic.name, topic.type, n, false⟩
        else b.writers.get? w := by
    simp only [enrolled, Bus.withWriter, addChild, Bus.takeHandle, Table.getInsert]
  have entries (w : InstanceHandle) :
      ((b.withWriter g x topic n).enrolled b.nextHandle (x.endpoint topic)).endpoints.get? w =
        if w = b.nextHandle then some (x.endpoint topic) else b.endpoints.get? w := by
    simp only [enrolled, Bus.withWriter, addChild, Bus.takeHandle, Table.getInsert]
  refine ⟨fun k z inside => ?_, fun w z held => ?_, fun w z held => ?_⟩
  · have bounds := older.groups k z inside
    exact ⟨Nat.lt_succ_of_lt bounds.1, Nat.lt_succ_of_lt bounds.2⟩
  · rw [writers] at held
    split at held
    · rename_i new
      cases Option.some.inj held
      exact ⟨Nat.lt_succ_of_le (Nat.le_of_eq new), (membersAgree.fresh (Nat.le_of_eq new.symm)).2.2, _, child⟩
    · obtain ⟨below, none, owner⟩ := older.writers w z held
      exact ⟨Nat.lt_succ_of_lt below, none, owner⟩
  · rw [writers] at held
    rw [entries]
    split at held
    · rename_i new
      cases Option.some.inj held
      change _ = (b.addChild g b.nextHandle).registration _
      simp only [registration, child, if_pos new]
      change _ = (b.participants.get? x.participant).map _
      simp only [there, Group.endpoint, side]
      rfl
    · rename_i other
      rw [if_neg other]
      exact older.entered w z held

theorem withReader (h : Registered b) {g : InstanceHandle} {x : Group} {topic : Topic}
    {history : History} :
    Registered ((b.withReader g x topic history).enrolled b.nextHandle (x.endpoint topic)) := by
  have older : Registered (b.addChild g b.nextHandle) := h.modifyGroup g fun _ => rfl
  refine older.keep (Nat.le_succ _) rfl (fun w below none => ?_) (fun w z held => ?_) (fun _ _ => rfl)
    (fun _ _ => rfl) (fun k z new found => ?_)
  · change w < b.nextHandle at below
    simp only [enrolled, Bus.withReader, newReader, Bus.takeHandle, newCondition, addChild,
      Table.getInsert, if_neg (Nat.ne_of_lt below)]
    exact none
  · have below := (older.writers w z held).1
    change w < b.nextHandle at below
    simp only [enrolled, Bus.withReader, newReader, Bus.takeHandle, newCondition, addChild,
      Table.getInsert, if_neg (Nat.ne_of_lt below)]
  · have bounds := older.groups k z found
    change b.nextHandle ≤ k at new
    change k < b.nextHandle ∧ _ at bounds
    lia

theorem withoutWriter (h : Registered b) (g w : InstanceHandle) :
    Registered ((b.withoutWriter g w).withdrawal w).1 := by
  have older : Registered (b.removeChild g w) := h.modifyGroup g fun _ => rfl
  have entries := withdrawalEntries (b.withoutWriter g w) w
  have rest := withdrawalRest (b.withoutWriter g w) w
  have writers (k : InstanceHandle) : ((b.withoutWriter g w).withdrawal w).1.writers.get? k =
      if k = w then (b.writers.get? k).map ({ · with deleted := true }) else b.writers.get? k := by
    rw [rest]
    simp only [Bus.withoutWriter, removeChild, Table.getModify]
    split
    · rename_i same
      rw [same]
    · rfl
  refine ⟨fun k z found => ?_, fun k z held => ?_, fun k z held => ?_⟩
  · rw [rest] at found ⊢
    exact older.groups k z found
  · rw [writers] at held
    rw [rest]
    split at held
    · obtain ⟨x, before, rfl⟩ := Option.map_eq_some_iff.1 held
      exact older.writers k x before
    · exact older.writers k z held
  · rw [writers] at held
    rw [entries]
    split at held
    · rename_i same
      obtain ⟨x, before, rfl⟩ := Option.map_eq_some_iff.1 held
      rw [if_pos same]
      simp [registration]
    · rename_i other
      rw [if_neg other, rest]
      exact older.entered k z held

theorem withoutReader (h : Registered b) (g : InstanceHandle) {r : InstanceHandle} {x : Reader}
    (found : b.readers.get? r = some x) : Registered ((b.removeChild g r).withdrawal r).1 := by
  have older : Registered (b.removeChild g r) := h.modifyGroup g fun _ => rfl
  unfold withdrawal
  split
  · refine older.keep (Nat.le_refl _) rfl (fun _ _ none => none) (fun w z held => ?_) (fun _ _ => rfl)
      (fun _ _ => rfl) (fun k z _ found => older.groups k z found)
    have other : w ≠ r := by
      rintro rfl
      obtain ⟨_, none, _⟩ := older.writers w z held
      exact nomatch none.symm.trans found
    simp only [withdrawn, Table.getErase, if_neg other]
  · exact older

end Registered

/-! ### Every request -/

theorem openingReads {b : Bus} {g r : InstanceHandle} :
    (Request.opening b (.deleteReader g r)).1 = b ∨ ∃ x, b.readers.get? r = some x := by
  simp only [Request.opening]
  split
  · exact .inr (deleteReaderOpens ‹_›).1
  · exact .inl rfl

theorem registeredOpened {b b' : Bus} {q : Request} {news : List Notice} (h : Registered b)
    (membersAgree : MembersAgree b) (opened : q.Opened b b' news)
    (reads : ∀ g r, q = .deleteReader g r → b' = b ∨ ∃ x, b.readers.get? r = some x) :
    Registered b' := by
  cases opened with
  | refused | sent => exact h
  | roster roster => exact h.roster membersAgree roster
  | joined fits => exact h.welcome _
  | left found => exact h.vacated _ _
  | writer isOpen => exact h.withWriter membersAgree isOpen
  | reader isOpen => exact h.withReader
  | unwritten => exact h.withoutWriter _ _
  | unread =>
    rcases reads _ _ rfl with same | ⟨x, found⟩
    · rw [same]
      exact h
    · exact h.withoutReader _ found
  | took => exact h.steady (takeAffects (z := .all) trivial).steady
  | drained => exact h.steady (drainAffects (z := .all) trivial trivial).steady
  | attached => exact h.steady (.setListener b _ _)
  | listener | graph | guard => exact { h with }

theorem registeredRun {b : Bus} (h : Registered b) (membersAgree : MembersAgree b) (requests : List Request) :
    Registered (b.run requests) := by
  induction requests generalizing b with
  | nil => exact h
  | cons q rest ih =>
    refine ih (Registered.steady ?_ (requestSteady b q)) (membersAgreeRequest membersAgree q)
    refine registeredOpened h membersAgree (q.opened b) fun g r eq => ?_
    subst eq
    exact openingReads

/-! ### Writes -/

theorem writeAnswers {b : Bus} {w : InstanceHandle} {x : Writer} (found : b.writers.get? w = some x)
    (payload : Octets) : (∃ b', b.write w payload = .ok b') ↔
      x.deleted = false ∧ payload.length ≤ x.maxPayload := by
  unfold write
  constructor
  · rintro ⟨b', ok⟩
    cases routed : b.route w payload with
    | error f => simp only [routed] at ok; contradiction
    | ok news =>
      obtain ⟨y, there, alive, fits, _⟩ := routeExact routed
      cases Option.some.inj (found.symm.trans there)
      exact ⟨alive, fits⟩
  · rintro ⟨alive, fits⟩
    have notDeleted : ¬x.deleted := Bool.eq_false_iff.1 alive
    simp only [route, found, if_neg notDeleted, if_neg (Nat.not_lt.2 fits)]
    exact ⟨_, rfl⟩

/-- After any requests, a writer writes until it is deleted through its publisher, and it is registered until
then or until its participant leaves: a write by an unregistered writer is one after its participant left. -/
theorem writersRegistered (requests : List Request) (w : InstanceHandle) (x : Writer)
    (found : (({} : Bus).run requests).writers.get? w = some x) :
    let b := ({} : Bus).run requests
    (∀ payload, (∃ b', b.write w payload = .ok b') ↔
      x.deleted = false ∧ payload.length ≤ x.maxPayload) ∧
    ∃ g, b.groups.get? x.publisher = some g ∧
      (x.deleted = true → b.endpoints.get? w = none) ∧
      (x.deleted = false → b.endpoints.get? w = (b.participants.get? g.participant).map fun _ =>
        ⟨.publication, x.domain, g.participant, x.topic, x.type⟩) := by
  intro b
  have registered : Registered b := registeredRun registeredEmpty membersAgreeEmpty requests
  obtain ⟨_, _, g, there⟩ := registered.writers w x found
  have entry := registered.entered w x found
  refine ⟨writeAnswers found, g, there, fun deleted => ?_, fun alive => ?_⟩
  · rw [entry, registration, if_pos deleted]
  · have notDeleted : ¬x.deleted := Bool.eq_false_iff.1 alive
    rw [entry, registration, if_neg notDeleted, there]

theorem presentWriterRegistered :
    let b := ({} : Bus).run
      [.join 0, .createGroup .publication 1, .createWriter 4 ⟨1, "t", "T", .standard⟩ 8]
    b.writers.get? 5 = some ⟨4, 0, "t", "T", 8, false⟩ ∧ (∃ b', b.write 5 [7] = .ok b') ∧
      b.endpoints.get? 5 = some ⟨.publication, 0, 1, "t", "T"⟩ := by
  intro b
  have found : b.writers.get? 5 = some ⟨4, 0, "t", "T", 8, false⟩ := by decide +kernel
  obtain ⟨writes, g, there, -, entry⟩ := writersRegistered _ 5 _ found
  refine ⟨found, (writes [7]).2 ⟨rfl, by decide⟩, ?_⟩
  have group : b.groups.get? 4 = some ⟨.publication, 1, 0, [5], false⟩ := by decide +kernel
  have live : (b.participants.get? 1).isSome := by decide +kernel
  cases Option.some.inj (group.symm.trans there)
  obtain ⟨p, present⟩ := Option.isSome_iff_exists.1 live
  rw [entry rfl, present]
  rfl

/-- A writer whose participant has left: announced as gone to the domain, and still heard there. -/
theorem departedWriterHeard :
    let requests : List Request :=
      [.join 0, .join 0, .createGroup .publication 1, .createWriter 7 ⟨1, "t", "T", .standard⟩ 8,
        .createGroup .subscription 4, .createReader 9 ⟨4, "t", "T", .standard⟩ .standard, .leave 1]
    let b := ({} : Bus).run requests
    b.endpoints.get? 8 = none ∧ ∃ b' s, b.write 8 [5] = .ok b' ∧ (b'.take 10).1 = some s ∧
      s.publication = 8 ∧ s.payload = some [5] := by
  intro requests b
  obtain ⟨b', written⟩ : ∃ b', b.write 8 [5] = .ok b' := by
    refine (writeAnswers (x := ⟨7, 0, "t", "T", 8, false⟩) ?_ [5]).2 ⟨rfl, by decide⟩
    decide +kernel
  have heard : ((b.write 8 [5]).toOption.bind fun b' => (b'.take 10).1).map
      (fun s => (s.publication, s.payload)) = some (8, some [5]) := by decide +kernel
  rw [written] at heard
  obtain ⟨s, taken, same⟩ := Option.map_eq_some_iff.1 heard
  refine ⟨by decide +kernel, b', s, written, taken, congrArg Prod.fst same, congrArg Prod.snd same⟩

end Databus.Bus
