import Databus.Graph

/-! A graph's tallies are the counts of its records: by topic and side, and by topic and type. A topic is
listed while it has a record. Adding and removing keep this, so a snapshot can be read off the records. -/
namespace Databus

namespace Table

variable {κ α : Type} [LT κ] [DecidableEq κ]

theorem placePerm [DecidableLT κ] {k : κ} {a : α} {l : List (κ × α)} (fresh : ∀ e ∈ l, e.1 ≠ k) :
    (place k a l).Perm ((k, a) :: l) := by
  induction l with
  | nil => exact .refl _
  | cons e rest ih =>
    rw [place]
    split
    · exact .refl _
    · rw [if_neg (Ne.symm (fresh e (List.mem_cons_self ..)))]
      exact ((ih fun x mem => fresh x (List.mem_cons_of_mem _ mem)).cons e).trans (.swap ..)

variable [Std.Irrefl (· < · : κ → κ → Prop)]

theorem sizeZero {t : Table κ α} : t.size = 0 ↔ ∀ k, t.get? k = none := by
  rw [size, List.length_eq_zero_iff]
  constructor
  · intro empty k
    rw [get?, empty]
    rfl
  · intro absent
    refine List.eq_nil_iff_forall_not_mem.2 fun e mem => ?_
    have found := absent e.1
    rw [memEntries.1 mem] at found
    cases found

theorem sizePositive {t : Table κ α} {p : κ → α → Bool} :
    (t.filter p).size ≠ 0 ↔ ∃ k a, t.get? k = some a ∧ p k a = true := by
  rw [ne_eq, sizeZero]
  simp only [getFilter, Option.filter_eq_none_iff]
  constructor
  · intro some
    refine Classical.byContradiction fun none => some fun k a found taken => none ⟨k, a, found, taken⟩
  · rintro ⟨k, a, found, taken⟩ none
    exact none k a found taken

variable [DecidableLT κ]
  [Trans (· < · : κ → κ → Prop) (· < · : κ → κ → Prop) (· < · : κ → κ → Prop)]
  [Std.Trichotomous (· < · : κ → κ → Prop)]

theorem sizeInsert {t : Table κ α} {k : κ} (fresh : t.get? k = none) (a : α) (p : κ → α → Bool) :
    ((t.insert k a).filter p).size = (t.filter p).size + if p k a then 1 else 0 := by
  have other : ∀ e ∈ t.entries, e.1 ≠ k := fun e mem eq => by
    rw [← eq, memEntries.1 mem] at fresh
    cases fresh
  have perm := ((placePerm (a := a) other).filter fun e => p e.1 e.2).length_eq
  simp only [size, filter, insert, perm, List.filter_cons]
  split <;> simp

theorem sizeErase {t : Table κ α} {k : κ} {a : α} (found : t.get? k = some a) (p : κ → α → Bool) :
    (t.filter p).size = ((t.erase k).filter p).size + if p k a then 1 else 0 := by
  have back : t = (t.erase k).insert k a := by
    apply sameLookup
    intro k'
    rw [getInsert, getErase]
    split
    · rename_i eq
      rw [eq, found]
    · rfl
  have absent : (t.erase k).get? k = none := by rw [getErase, if_pos rfl]
  rw [← sizeInsert absent, ← back]

end Table

def counted (n : Nat) : Option Nat := if n = 0 then none else some n

namespace Tally

theorem countMore (t : Tally) (side side' : Side) (type : String) :
    (t.more side type).count side' = t.count side' + if side' = side then 1 else 0 := by
  cases side <;> cases side' <;> simp [more, setCount, count]

theorem countFewer (t : Tally) (side side' : Side) (type : String) :
    (t.fewer side type).count side' = t.count side' - if side' = side then 1 else 0 := by
  cases side <;> cases side' <;> simp [fewer, setCount, count]

theorem typesMore {t : Tally} {n : Nat} (side : Side) (type : String) {type' : String}
    (is : t.types.get? type' = counted n) :
    (t.more side type).types.get? type' = counted (n + if type' = type then 1 else 0) := by
  rw [more, Table.getInsert]
  split
  · rename_i eq
    rw [← eq, is]
    unfold counted
    split <;> simp [*]
  · simpa using is

theorem typesFewer {t : Tally} {n : Nat} {side : Side} {type type' : String}
    (is : t.types.get? type' = counted (n + if type' = type then 1 else 0))
    (known : ∃ m, t.types.get? type = some m) :
    (t.fewer side type).types.get? type' = counted n := by
  obtain ⟨m, found⟩ := known
  rw [fewer]
  dsimp only
  rw [found]
  dsimp only
  by_cases own : type' = type
  · rw [own, found, if_pos rfl, counted, if_neg (Nat.succ_ne_zero n)] at is
    cases Option.some.inj is
    rw [Nat.add_sub_cancel, counted, own]
    split
    · rw [Table.getErase, if_pos rfl]
    · rw [Table.getInsert, if_pos rfl]
  · rw [if_neg own, Nat.add_zero] at is
    split
    · rw [Table.getErase, if_neg own, is]
    · rw [Table.getInsert, if_neg own, is]

end Tally

namespace Graph

def number (g : Graph) (side : Side) (topic : String) : Nat :=
  ((g.records side).filter fun _ r => r.topic = topic).size

def typed (g : Graph) (side : Side) (topic type : String) : Nat :=
  ((g.records side).filter fun _ r => r.topic = topic && r.type = type).size

def tally (g : Graph) (topic : String) : Tally := (g.topics.get? topic).getD {}

structure Tallied (g : Graph) : Prop where
  count : ∀ topic side, (g.tally topic).count side = g.number side topic
  types : ∀ topic type, (g.tally topic).types.get? type =
    counted (g.typed .publication topic type + g.typed .subscription topic type)
  full : ∀ topic t, g.topics.get? topic = some t → t.types.size ≠ 0

theorem recordsSet (g : Graph) (side side' : Side) (t : Table InstanceHandle GraphRecord) :
    (g.setRecords side t).records side' = if side' = side then t else g.records side' := by
  cases side <;> cases side' <;> rfl

theorem talliedEmpty : Tallied {} := by
  constructor
  case count =>
    intro topic side
    cases side <;> rfl
  case types => exact fun topic type => rfl
  case full =>
    intro topic t found
    cases found

theorem talliedMore {g g' : Graph} {r : GraphRecord} (h : g.Tallied)
    (numbers : ∀ side topic, g'.number side topic =
      g.number side topic + if side = r.side ∧ topic = r.topic then 1 else 0)
    (typings : ∀ side topic type, g'.typed side topic type =
      g.typed side topic type +
        if side = r.side ∧ topic = r.topic ∧ type = r.type then 1 else 0)
    (topics : g'.topics = g.topics.insert r.topic ((g.tally r.topic).more r.side r.type)) :
    g'.Tallied := by
  have tallies : ∀ topic, g'.tally topic =
      if topic = r.topic then (g.tally topic).more r.side r.type else g.tally topic := fun topic => by
    rw [tally, topics, Table.getInsert]
    split
    · rename_i eq
      rw [eq]
      rfl
    · rfl
  constructor
  case count =>
    intro topic side
    rw [tallies, numbers]
    split
    · rename_i eq
      rw [Tally.countMore, h.count]
      simp [eq]
    · rename_i other
      rw [h.count]
      simp [other]
  case types =>
    intro topic type
    rw [tallies, typings, typings]
    split
    · rename_i eq
      rw [Tally.typesMore _ _ (h.types topic type)]
      congr 1
      cases side : r.side <;> by_cases same : type = r.type <;> simp [eq, same] <;> omega
    · rename_i other
      rw [h.types]
      simp [other]
  case full =>
    intro topic t found
    rw [topics, Table.getInsert] at found
    split at found
    · cases Option.some.inj found
      rw [ne_eq, Table.sizeZero]
      intro empty
      have own := Tally.typesMore r.side r.type (h.types r.topic r.type)
      rw [empty, if_pos rfl, counted, if_neg (Nat.succ_ne_zero _)] at own
      cases own
    · exact h.full topic t found

theorem talliedAdd {g : Graph} (h : g.Tallied) (r : GraphRecord) : (g.add r).1.Tallied := by
  unfold add
  split
  · exact h
  · rename_i absent
    have fresh : (g.records r.side).get? r.handle = none := by
      simpa [contains, Table.contains] using absent
    have records : ∀ side, (({ g.setRecords r.side ((g.records r.side).insert r.handle r) with
        version := g.version + 1
        topics := g.topics.insert r.topic (((g.topics.get? r.topic).getD {}).more r.side r.type) } :
          Graph).records side) =
        if side = r.side then (g.records r.side).insert r.handle r else g.records side :=
      fun side => recordsSet g r.side side _
    refine talliedMore (r := r) h (fun side topic => ?_) (fun side topic type => ?_) rfl
    · rw [number, records]
      split
      · rename_i own
        rw [Table.sizeInsert fresh, own, number]
        grind
      · rename_i other
        simp [other, number]
    · rw [typed, records]
      split
      · rename_i own
        rw [Table.sizeInsert fresh, own, typed]
        grind
      · rename_i other
        simp [other, typed]

theorem numberTyped {g : Graph} {side : Side} {topic : String} (some : g.number side topic ≠ 0) :
    ∃ type, g.typed side topic type ≠ 0 := by
  obtain ⟨k, r, found, same⟩ := Table.sizePositive.1 some
  exact ⟨r.type, Table.sizePositive.2 ⟨k, r, found, by simpa using same⟩⟩

structure Counts (g : Graph) (topic : String) (t : Tally) : Prop where
  count : ∀ side, t.count side = g.number side topic
  types : ∀ type, t.types.get? type =
    counted (g.typed .publication topic type + g.typed .subscription topic type)

theorem Counts.unlisted {g : Graph} {topic : String} {t : Tally} (h : g.Counts topic t)
    (empty : t.types.size = 0) : g.Counts topic {} := by
  have untyped : ∀ side type, g.typed side topic type = 0 := fun side type => by
    have none := h.types type
    rw [Table.sizeZero.1 empty type, counted] at none
    split at none
    · cases side <;> omega
    · cases none
  constructor
  case count =>
    intro side
    have nothing : g.number side topic = 0 := Decidable.byContradiction fun some => by
      obtain ⟨type, positive⟩ := numberTyped some
      exact positive (untyped side type)
    rw [nothing]
    cases side <;> rfl
  case types =>
    intro type
    rw [untyped, untyped]
    rfl

section Fewer

variable {g g' : Graph} {r : GraphRecord}
  (numbers : ∀ side topic, g.number side topic =
    g'.number side topic + if side = r.side ∧ topic = r.topic then 1 else 0)
  (typings : ∀ side topic type, g.typed side topic type =
    g'.typed side topic type + if side = r.side ∧ topic = r.topic ∧ type = r.type then 1 else 0)
include typings

theorem typingsSum (topic type : String) :
    g.typed .publication topic type + g.typed .subscription topic type =
      g'.typed .publication topic type + g'.typed .subscription topic type +
        if topic = r.topic ∧ type = r.type then 1 else 0 := by
  rw [typings, typings]
  cases r.side <;> by_cases own : topic = r.topic ∧ type = r.type <;> simp [own] <;> omega

theorem typeKnown (h : g.Tallied) :
    ∃ t, g.topics.get? r.topic = some t ∧ ∃ m, t.types.get? r.type = some m := by
  have found := h.types r.topic r.type
  rw [typingsSum typings, if_pos ⟨rfl, rfl⟩, counted, if_neg (Nat.succ_ne_zero _), tally] at found
  cases listed : g.topics.get? r.topic with
  | some t =>
    rw [listed] at found
    exact ⟨t, rfl, _, found⟩
  | none =>
    rw [listed] at found
    cases found

include numbers

theorem fewerCounts (h : g.Tallied) {t : Tally} (listed : g.topics.get? r.topic = some t) :
    g'.Counts r.topic (t.fewer r.side r.type) := by
  have own : g.tally r.topic = t := by rw [tally, listed]; rfl
  constructor
  case count =>
    intro side
    rw [Tally.countFewer, ← own, h.count, numbers]
    simp only [and_true]
    exact Nat.add_sub_cancel ..
  case types =>
    intro type
    obtain ⟨t', listed', known⟩ := typeKnown typings h
    cases Option.some.inj (listed'.symm.trans listed)
    refine Tally.typesFewer ?_ known
    rw [← own, h.types, typingsSum typings]
    simp

theorem otherCounts (h : g.Tallied) {topic : String} (other : topic ≠ r.topic) :
    g'.Counts topic (g.tally topic) := by
  constructor
  case count =>
    intro side
    rw [h.count, numbers]
    simp [other]
  case types =>
    intro type
    rw [h.types, typingsSum typings]
    simp [other]

theorem talliedFewer (h : g.Tallied) (topics : g'.topics = dropTally g.topics r) : g'.Tallied := by
  obtain ⟨t, listed, _⟩ := typeKnown typings h
  have fewer := fewerCounts numbers typings h listed
  rw [dropTally, listed] at topics
  dsimp only at topics
  have counts : ∀ topic, g'.Counts topic (g'.tally topic) := fun topic => by
    rw [tally, topics]
    by_cases own : topic = r.topic
    · rw [own]
      split
      · -- the last type is gone, and with it every record of the topic
        rename_i empty
        rw [Table.getErase, if_pos rfl]
        exact fewer.unlisted empty
      · rw [Table.getInsert, if_pos rfl]
        exact fewer
    · have others := otherCounts numbers typings h own
      split
      · rwa [Table.getErase, if_neg own]
      · rwa [Table.getInsert, if_neg own]
  refine ⟨fun topic => (counts topic).count, fun topic => (counts topic).types, fun topic t' found => ?_⟩
  rw [topics] at found
  split at found
  · rw [Table.getErase, Option.ite_none_left_eq_some] at found
    exact h.full topic t' found.2
  · rename_i some
    rw [Table.getInsert] at found
    split at found
    · cases Option.some.inj found
      exact some
    · exact h.full topic t' found

end Fewer

theorem talliedRemove {g : Graph} (h : g.Tallied)
    (keyed : ∀ side k r, (g.records side).get? k = some r → r.side = side) (side : Side)
    (k : InstanceHandle) : (g.remove side k).1.Tallied := by
  unfold remove
  cases found : (g.records side).get? k with
  | none => exact h
  | some r =>
    have own := keyed side k r found
    have records : ∀ side', (({ g.setRecords side ((g.records side).erase k) with
        version := g.version + 1, topics := dropTally g.topics r } : Graph).records side') =
        if side' = side then (g.records side).erase k else g.records side' :=
      fun side' => recordsSet g side side' _
    refine talliedFewer (r := r) (fun side' topic => ?_) (fun side' topic type => ?_) h rfl
    · rw [number, number, records]
      split
      · rename_i same
        rw [same, Table.sizeErase found, own]
        grind
      · rename_i other
        rw [own]
        simp [other]
    · rw [typed, typed, records]
      split
      · rename_i same
        rw [same, Table.sizeErase found, own]
        grind
      · rename_i other
        rw [own]
        simp [other]

/-! ### Records after a change -/

theorem addRecords {g : Graph} {r : GraphRecord}
    (fresh : (g.records r.side).get? r.handle = none) (side : Side) (k : InstanceHandle) :
    ((g.add r).1.records side).get? k =
      if side = r.side ∧ k = r.handle then some r else (g.records side).get? k := by
  have absent : g.contains r.side r.handle = false := by
    rw [contains, Table.contains, fresh]
    rfl
  have records : (g.add r).1.records side =
      if side = r.side then (g.records r.side).insert r.handle r else g.records side := by
    rw [add, if_neg (by simp [absent])]
    exact recordsSet g r.side side _
  rw [records]
  by_cases own : side = r.side
  · rw [if_pos own, Table.getInsert, own]
    simp
  · rw [if_neg own, if_neg fun both => own both.1]

theorem removeRecords (g : Graph) (side side' : Side) (k k' : InstanceHandle) :
    ((g.remove side k).1.records side').get? k' =
      if side' = side ∧ k' = k then none else (g.records side').get? k' := by
  unfold remove
  cases found : (g.records side).get? k with
  | none =>
    dsimp only
    split
    · rename_i same
      rw [same.1, same.2, found]
    · rfl
  | some r =>
    have records : (({ g.setRecords side ((g.records side).erase k) with
        version := g.version + 1, topics := dropTally g.topics r } : Graph).records side') =
        if side' = side then (g.records side).erase k else g.records side' :=
      recordsSet g side side' _
    dsimp only
    rw [records]
    by_cases own : side' = side
    · rw [if_pos own, Table.getErase, own]
      simp
    · rw [if_neg own, if_neg fun both => own both.1]

/-! ### What is read off a graph -/

def Lists (g : Graph) (side : Side) (topic type : String) : Prop :=
  ∃ k r, (g.records side).get? k = some r ∧ r.topic = topic ∧ r.type = type

theorem typedLists {g : Graph} {side : Side} {topic type : String} :
    g.typed side topic type ≠ 0 ↔ g.Lists side topic type := by
  rw [typed, Table.sizePositive]
  simp [Lists]

theorem tallyTypes {g : Graph} (h : g.Tallied) (topic type : String) :
    type ∈ (g.tally topic).types.keys ↔ ∃ side, g.Lists side topic type := by
  rw [Table.memKeys, h.types, counted]
  constructor
  · intro some
    by_cases first : g.typed .publication topic type = 0
    · by_cases second : g.typed .subscription topic type = 0
      · simp [first, second] at some
      · exact ⟨.subscription, typedLists.1 second⟩
    · exact ⟨.publication, typedLists.1 first⟩
  · rintro ⟨side, lists⟩
    have positive := typedLists.2 lists
    rw [if_neg]
    · rfl
    · cases side <;> omega

theorem countExact {g : Graph} (h : g.Tallied) (side : Side) (topic : String) :
    g.count side topic = g.number side topic := by
  rw [← h.count, tally, Graph.count]
  cases g.topics.get? topic with
  | none => cases side <;> rfl
  | some t => rfl

theorem snapshotExact {g : Graph} (h : g.Tallied) :
    (g.snapshot.map (·.1)).Pairwise (· < ·) ∧
      (∀ topic, topic ∈ g.snapshot.map (·.1) ↔ ∃ side type, g.Lists side topic type) ∧
      ∀ topic types, (topic, types) ∈ g.snapshot → types.Pairwise (· < ·) ∧
        ∀ type, type ∈ types ↔ ∃ side, g.Lists side topic type := by
  have names : g.snapshot.map (·.1) = g.topics.keys := by
    rw [snapshot, List.map_map]
    rfl
  refine ⟨?_, fun topic => ?_, fun topic types mem => ?_⟩
  · rw [names]
    exact List.pairwise_map.2 g.topics.sorted
  · rw [names, Table.memKeys]
    constructor
    · intro listed
      obtain ⟨t, found⟩ := Option.isSome_iff_exists.1 listed
      have own : g.tally topic = t := by rw [tally, found]; rfl
      have some := h.full topic t found
      rw [ne_eq, Table.sizeZero, Classical.not_forall] at some
      obtain ⟨type, present⟩ := some
      obtain ⟨side, lists⟩ := (tallyTypes h topic type).1 (by
        rw [own, Table.memKeys, Option.isSome_iff_ne_none]
        exact present)
      exact ⟨side, type, lists⟩
    · rintro ⟨side, type, lists⟩
      have key := (tallyTypes h topic type).2 ⟨side, lists⟩
      cases found : g.topics.get? topic with
      | some t => rfl
      | none =>
        rw [tally, found] at key
        cases key
  · obtain ⟨⟨topic', t⟩, entry, eq⟩ := List.mem_map.1 mem
    cases eq
    have own : g.tally topic' = t := by rw [tally, Table.memEntries.1 entry]; rfl
    refine ⟨List.pairwise_map.2 t.types.sorted, fun type => ?_⟩
    rw [← own]
    exact tallyTypes h topic' type

end Graph
end Databus
