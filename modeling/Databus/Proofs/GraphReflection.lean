import Databus.Proofs.DiscoveryHistory
import Databus.Proofs.GraphCounts

/-! A graph fed with the changes of what is in sight has exactly one record for each endpoint in sight whose
announcement can be read; and all can whose names fit the lengths that announcements give them. -/
namespace Databus

def Side.total (f : Side → Nat) : Nat := f .publication + f .subscription

namespace Graph

def recorded (side : Side) (t : Table InstanceHandle GraphRecord) (s : Sample) :
    Table InstanceHandle GraphRecord :=
  if s.state.isGone then t.erase s.subject
  else
    match s.payload.map Announcement.decode with
    | some (.ok a) =>
      if t.contains s.subject then t else t.insert s.subject ⟨s.subject, side, a.topic, a.type⟩
    | _ => t

structure Sound (g : Graph) : Prop where
  tallied : g.Tallied
  keyed : ∀ side k r, (g.records side).get? k = some r → r.side = side

theorem soundEmpty : Sound {} :=
  ⟨talliedEmpty, fun side k r found => by cases side <;> cases found⟩

theorem applyRecords (g : Graph) (side side' : Side) (s : Sample) :
    (g.apply side s).1.records side' =
      if side' = side then recorded side (g.records side) s else g.records side' := by
  apply Table.sameLookup
  intro k
  unfold apply recorded
  split
  · dsimp only
    rw [removeRecords]
    by_cases own : side' = side
    · rw [if_pos own, Table.getErase, own]
      simp
    · rw [if_neg own, if_neg fun both => own both.1]
  · cases decoded : s.payload.map Announcement.decode with
    | none =>
      dsimp only
      split <;> simp [*]
    | some outcome =>
      cases outcome with
      | error f =>
        dsimp only
        split <;> simp [*]
      | ok a =>
        dsimp only
        cases present : (g.records side).contains s.subject with
        | true =>
          have known : g.contains side s.subject = true := present
          rw [add, if_pos known]
          split <;> simp [*]
        | false =>
          have fresh : (g.records side).get? s.subject = none := by
            simpa [Table.contains] using present
          rw [addRecords (r := ⟨s.subject, side, a.topic, a.type⟩) fresh]
          by_cases own : side' = side
          · rw [if_pos own, own]
            simp [Table.getInsert]
          · rw [if_neg own, if_neg fun both => own both.1]

theorem soundApply {g : Graph} (h : g.Sound) (side : Side) (s : Sample) :
    (g.apply side s).1.Sound := by
  constructor
  case tallied =>
    unfold apply
    split
    · exact talliedRemove h.tallied h.keyed side s.subject
    · split
      · exact talliedAdd h.tallied _
      · exact h.tallied
      · exact h.tallied
  case keyed =>
    intro side' k r found
    rw [applyRecords] at found
    split at found
    · rename_i own
      rw [own]
      unfold recorded at found
      split at found
      · rw [Table.getErase] at found
        split at found
        · cases found
        · exact h.keyed side k r found
      · split at found
        · split at found
          · exact h.keyed side k r found
          · rw [Table.getInsert] at found
            split at found
            · cases Option.some.inj found
              rfl
            · exact h.keyed side k r found
        · exact h.keyed side k r found
    · exact h.keyed side' k r found

theorem applyVersion (g : Graph) (side : Side) (s : Sample) :
    (g.apply side s).1.version = g.version + if (g.apply side s).2 then 1 else 0 := by
  unfold apply
  split
  · cases removed : (g.records side).get? s.subject <;> simp only [remove, removed] <;> rfl
  · split
    · unfold add
      split <;> rfl
    · rfl
    · rfl

/-! ### Counting changes -/

def alters (t : Table InstanceHandle GraphRecord) (s : Sample) : Bool :=
  if s.state.isGone then t.contains s.subject
  else
    match s.payload.map Announcement.decode with
    | some (.ok _) => !t.contains s.subject
    | _ => false

def shifts (side : Side) (t : Table InstanceHandle GraphRecord) : List Sample → Nat
  | [] => 0
  | s :: rest => (if alters t s then 1 else 0) + shifts side (recorded side t s) rest

theorem applyAlters (g : Graph) (side : Side) (s : Sample) :
    (g.apply side s).2 = alters (g.records side) s := by
  unfold apply alters
  split
  · dsimp only
    unfold remove Table.contains
    cases (g.records side).get? s.subject <;> rfl
  · cases s.payload.map Announcement.decode with
    | none => rfl
    | some outcome =>
      cases outcome with
      | error f => rfl
      | ok a =>
        dsimp only
        unfold add
        split <;> rename_i known
        · exact (congrArg not known).symm
        · exact (congrArg not (Bool.eq_false_iff.2 known)).symm

theorem shiftsAppend (side : Side) (t : Table InstanceHandle GraphRecord) (l l' : List Sample) :
    shifts side t (l ++ l') = shifts side t l + shifts side (l.foldl (recorded side) t) l' := by
  induction l generalizing t with
  | nil => exact (Nat.zero_add _).symm
  | cons s rest ih => rw [List.cons_append, shifts, ih, shifts, Nat.add_assoc, List.foldl_cons]

theorem applyShifts (g : Graph) (side : Side) (s : Sample) :
    (g.apply side s).1.version = g.version + shifts side (g.records side) [s] := by
  rw [applyVersion, applyAlters]
  rfl

theorem absorbFold (side : Side) (g : Graph) (samples : List Sample) :
    (g.absorb side samples).1 = samples.foldl (fun g s => (g.apply side s).1) g := by
  induction samples generalizing g with
  | nil => rfl
  | cons s rest ih => exact ih _

theorem absorbShifts (g : Graph) (side : Side) (samples : List Sample) :
    (g.absorb side samples).1.version = g.version + shifts side (g.records side) samples := by
  induction samples generalizing g with
  | nil => rfl
  | cons s rest ih =>
    have later : (g.absorb side (s :: rest)).1 = ((g.apply side s).1.absorb side rest).1 := rfl
    rw [later, ih, applyShifts, applyRecords, if_pos rfl, shifts, shifts, shifts, Nat.add_zero, Nat.add_assoc]

theorem absorbRecords (side side' : Side) (g : Graph) (samples : List Sample) :
    (g.absorb side samples).1.records side' =
      if side' = side then samples.foldl (recorded side) (g.records side) else g.records side' := by
  rw [absorbFold]
  induction samples generalizing g with
  | nil => split <;> simp [*]
  | cons s rest ih =>
    rw [List.foldl_cons, ih, applyRecords, if_pos rfl, applyRecords]
    split <;> simp [*]

theorem soundAbsorb {g : Graph} (h : g.Sound) (side : Side) (samples : List Sample) :
    (g.absorb side samples).1.Sound := by
  rw [absorbFold]
  induction samples generalizing g with
  | nil => exact h
  | cons s rest ih => exact ih (soundApply h side s)

end Graph

namespace Bus

/-! ### Records and endpoints in sight -/

def recordOf (side : Side) (k : InstanceHandle) (e : Endpoint) : GraphRecord :=
  ⟨k, side, e.topic, e.type⟩

def read (side : Side) (k : InstanceHandle) (e : Endpoint) : Option GraphRecord :=
  match Announcement.decode (e.announcement k).encode with
  | .ok a => some ⟨k, side, a.topic, a.type⟩
  | .error _ => none

def Reflects (side : Side) (t : Table InstanceHandle GraphRecord)
    (endpoints : Table InstanceHandle Endpoint) : Prop :=
  ∀ k, t.get? k = (endpoints.get? k).bind (read side k)

theorem readFits (side : Side) (k : InstanceHandle) {e : Endpoint} (topic : e.topic.utf8ByteSize < UInt32.size)
    (type : e.type.utf8ByteSize < UInt32.size) : read side k e = some (recordOf side k e) := by
  have decoded := Announcement.decodeEncoded (a := e.announcement k) topic type
  rw [read, decoded]
  rfl

theorem recordVanished {side : Side} {t : Table InstanceHandle GraphRecord} {state : Liveness}
    (ended : state.isGone = true) (view : View) (k : InstanceHandle) :
    Graph.recorded side t ((vanished state k).seen view) = t.erase k := if_pos ended

theorem recordAppeared (side : Side) {t : Table InstanceHandle GraphRecord} {k : InstanceHandle}
    {e : Endpoint} (fresh : t.get? k = none) (view : View) :
    Graph.recorded side t ((appeared k e).seen view) = (read side k e).elim t (t.insert k) := by
  have absent : t.contains k = false := by rw [Table.contains, fresh]; rfl
  unfold Graph.recorded read
  simp only [Arrival.seen, appeared, Option.map_some, absent]
  cases Announcement.decode (e.announcement k).encode <;> rfl

theorem recordsVanished (side : Side) {state : Liveness} (ended : state.isGone = true)
    (view : View) (t : Table InstanceHandle GraphRecord) (l : List (InstanceHandle × Endpoint))
    (k : InstanceHandle) :
    ((l.map fun x => (vanished state x.1).seen view).foldl (Graph.recorded side) t).get? k =
      if k ∈ l.map (·.1) then none else t.get? k := by
  induction l generalizing t with
  | nil => rfl
  | cons x rest ih =>
    rw [List.map_cons, List.foldl_cons, ih, recordVanished ended, Table.getErase, List.map_cons]
    by_cases first : k = x.1 <;> by_cases later : k ∈ rest.map (·.1) <;> simp [first, later]

theorem recordsAppeared {side : Side} (view : View) {l : List (InstanceHandle × Endpoint)}
    {t : Table InstanceHandle GraphRecord} (fresh : ∀ x ∈ l, t.get? x.1 = none)
    (once : (l.map (·.1)).Nodup) (k : InstanceHandle) :
    ((l.map fun x => (appeared x.1 x.2).seen view).foldl (Graph.recorded side) t).get? k =
      ((l.find? fun x => x.1 = k).bind fun x => read side k x.2).or (t.get? k) := by
  induction l generalizing t with
  | nil => rfl
  | cons x rest ih =>
    obtain ⟨absent, once⟩ := List.nodup_cons.1 once
    have first : (Graph.recorded side t ((appeared x.1 x.2).seen view)).get? k =
        if k = x.1 then read side k x.2 else t.get? k := by
      rw [recordAppeared side (fresh x List.mem_cons_self)]
      split
      · rename_i own
        subst own
        cases read side x.1 x.2 with
        | none => exact fresh x List.mem_cons_self
        | some r => exact (Table.getInsert ..).trans (if_pos rfl)
      · rename_i other
        cases read side x.1 x.2 with
        | none => rfl
        | some r => exact (Table.getInsert ..).trans (if_neg other)
    rw [List.map_cons, List.foldl_cons, ih (fun y mem => ?_) once, first, List.find?_cons]
    · by_cases own : x.1 = k
      · have later : rest.find? (fun y => y.1 = k) = none := by
          refine List.find?_eq_none.2 fun y mem same => absent ?_
          exact List.mem_map.2 ⟨y, mem, (of_decide_eq_true same).trans own.symm⟩
        have new := fresh x List.mem_cons_self
        rw [own] at new
        simp [own, later, new]
      · simp [own, Ne.symm own]
    · have other : y.1 ≠ x.1 := fun eq => absent (List.mem_map.2 ⟨y, mem, eq⟩)
      rw [recordAppeared side (fresh x List.mem_cons_self)]
      cases read side x.1 x.2 with
      | none => exact fresh y (List.mem_cons_of_mem _ mem)
      | some r => exact (Table.getInsert ..).trans ((if_neg other).trans (fresh y (List.mem_cons_of_mem _ mem)))

theorem entriesFind (t : Table InstanceHandle Endpoint) (k : InstanceHandle) {β : Type}
    (f : Endpoint → Option β) :
    ((t.entries.find? fun x => x.1 = k).bind fun x => f x.2) = (t.get? k).bind f := by
  rw [Table.get?, Option.bind_map]
  rfl

theorem reflectAll (side : Side) (endpoints : Table InstanceHandle Endpoint) :
    Reflects side ((endpoints.entries.map fun x => (appeared x.1 x.2).seen .new).foldl
      (Graph.recorded side) .empty) endpoints := by
  intro k
  rw [recordsAppeared .new (fun _ _ => rfl) (Table.keysNodup endpoints), entriesFind (f := read side k)]
  exact Option.or_none

theorem reflectChanges {side : Side} {t : Table InstanceHandle GraphRecord}
    {old new : Table InstanceHandle Endpoint} {state : Liveness} (reflects : Reflects side t old)
    (ended : state.isGone = true)
    (agree : ∀ k e e', old.get? k = some e → new.get? k = some e' → e = e') :
    Reflects side (((changes state old new).map (·.seen .new)).foldl (Graph.recorded side) t) new := by
  intro k
  have keys : ∀ {t u : Table InstanceHandle Endpoint} {k}, k ∈ (departures t u).entries.map (·.1) ↔
      (t.get? k).isSome ∧ u.get? k = none := fun {t u k} => by
    have key := Table.memKeys (t := departures t u) (k := k)
    rw [Table.keys] at key
    rw [key, getDepartures]
    cases u.get? k <;> simp
  have gone := recordsVanished side ended .new t (departures old new).entries
  rw [changes, List.map_append, List.map_map, List.map_map, List.foldl_append]
  refine (recordsAppeared .new (fun x mem => ?_) ?_ k).trans ?_
  · have entry := memDepartures.1 (Table.memEntries.1 mem)
    refine (gone x.1).trans ?_
    rw [reflects, entry.2]
    split <;> rfl
  · exact Table.keysNodup (departures new old)
  · have rest := gone k
    simp only [Function.comp_def] at rest ⊢
    rw [entriesFind (f := read side k), rest, getDepartures, reflects]
    by_cases left : k ∈ (departures old new).entries.map (·.1)
    · obtain ⟨was, none⟩ := keys.1 left
      rw [if_pos left, none]
      split <;> rfl
    · rw [if_neg left]
      cases was : old.get? k with
      | none => cases new.get? k <;> simp
      | some e =>
        cases now : new.get? k with
        | none => exact absurd (keys.2 ⟨by rw [was]; rfl, now⟩) left
        | some e' => rw [agree k e e' was now]; rfl

end Bus
end Databus
