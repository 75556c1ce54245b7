import Mathlib.Data.Finmap
import Databus.Proofs.GraphCounts

/-! A graph refines a finite map of records: whatever is added and removed, it answers as the map does, and all that it
keeps beside the records is counted in the map. -/
namespace Databus

namespace Graph

inductive Call
  | add (r : GraphRecord)
  | remove (side : Side) (handle : InstanceHandle)

inductive Answer
  | added (new : Bool)
  | removed (r : Option GraphRecord)

def tell (g : Graph) : Call → Graph × Answer
  | .add r => ((g.add r).1, .added (g.add r).2)
  | .remove side handle => ((g.remove side handle).1, .removed (g.remove side handle).2)

def tellAll {σ : Type} (tell : σ → Call → σ × Answer) (s : σ) : List Call → σ × List Answer
  | [] => (s, [])
  | call :: calls =>
    let (s, answer) := tell s call
    let (s, answers) := tellAll tell s calls
    (s, answer :: answers)

end Graph

abbrev RecordMap := Finmap fun _ : Side × InstanceHandle => GraphRecord

namespace RecordMap

def tell (m : RecordMap) : Graph.Call → RecordMap × Graph.Answer
  | .add r =>
    match m.lookup (r.side, r.handle) with
    | none => (m.insert (r.side, r.handle) r, .added true)
    | some _ => (m, .added false)
  | .remove side handle =>
    match m.lookup (side, handle) with
    | some r => (m.erase (side, handle), .removed (some r))
    | none => (m, .removed none)

def changes (m : RecordMap) : List Graph.Call → Nat
  | [] => 0
  | call :: calls => (if (m.tell call).1 = m then 0 else 1) + changes (m.tell call).1 calls

def number (m : RecordMap) (p : GraphRecord → Prop) [DecidablePred p] : Nat := m.entries.countP fun e => p e.2

def topics (m : RecordMap) : Finset String := (m.entries.map fun e => e.2.topic).toFinset

def types (m : RecordMap) (topic : String) : Finset String :=
  ((m.entries.filter fun e => e.2.topic = topic).map fun e => e.2.type).toFinset

end RecordMap

namespace Graph

structure Image (g : Graph) (m : RecordMap) : Prop where
  records : ∀ side handle, (g.records side).get? handle = m.lookup (side, handle)
  contains : ∀ side handle, g.contains side handle = true ↔ (side, handle) ∈ m
  size : g.size = m.keys.card
  typed : ∀ topic type, ((g.topics.get? topic).bind fun t => t.types.get? type) =
    counted (m.number fun r => r.topic = topic ∧ r.type = type)
  sided : ∀ side topic, g.count side topic = m.number fun r => r.side = side ∧ r.topic = topic
  listed : ∀ topic, g.topics.contains topic = true ↔ 0 < m.number fun r => r.topic = topic
  topicsSorted : (g.snapshot.map (·.1)).Pairwise (· < ·)
  topics : (g.snapshot.map (·.1)).toFinset = m.topics
  typesSorted : ∀ e ∈ g.snapshot, e.2.Pairwise (· < ·)
  types : ∀ e ∈ g.snapshot, e.2.toFinset = m.types e.1
  -- whatever a removal takes away was counted before
  positive : ∀ side handle r, m.lookup (side, handle) = some r → ∃ t, g.topics.get? r.topic = some t ∧
    0 < t.count side ∧ ∃ n, t.types.get? r.type = some (n + 1)

/-! ### The records of a graph as entries of a map -/

structure Mirrors (g : Graph) (m : RecordMap) : Prop where
  tallied : g.Tallied
  records : ∀ side handle, (g.records side).get? handle = m.lookup (side, handle)
  keyed : ∀ key r, m.lookup key = some r → key = (r.side, r.handle)

variable {g : Graph} {m : RecordMap}

def roster (g : Graph) (side : Side) : List (Sigma fun _ : Side × InstanceHandle => GraphRecord) :=
  (g.records side).entries.map fun e => ⟨(side, e.1), e.2⟩

theorem memRoster {side : Side} {e : Sigma fun _ : Side × InstanceHandle => GraphRecord} :
    e ∈ g.roster side ↔ e.1.1 = side ∧ (g.records side).get? e.1.2 = some e.2 := by
  rw [roster, List.mem_map]
  constructor
  · rintro ⟨entry, mem, rfl⟩
    exact ⟨rfl, Table.memEntries.1 mem⟩
  · obtain ⟨⟨_, handle⟩, r⟩ := e
    rintro ⟨rfl, found⟩
    exact ⟨(handle, r), Table.memEntries.2 found, rfl⟩

theorem rosterNodup (g : Graph) (side : Side) : (g.roster side).Nodup := by
  refine List.pairwise_map.2 ((g.records side).sorted.imp ?_)
  intro e e' less same
  have key : e.1 = e'.1 := congrArg (·.1.2) same
  rw [key] at less
  exact Std.Irrefl.irrefl _ less

theorem Mirrors.entries (h : g.Mirrors m) : m.entries = ↑(g.roster .publication ++ g.roster .subscription) := by
  -- on both sides each entry stands once, so it is enough that they have the same ones
  refine (Multiset.Nodup.ext m.nodupKeys.nodup ?_).2 fun e => ?_
  · refine List.nodup_append.2 ⟨g.rosterNodup _, g.rosterNodup _, fun e pub e' sub same => ?_⟩
    have side := (memRoster.1 pub).1
    rw [same, (memRoster.1 sub).1] at side
    cases side
  · obtain ⟨⟨side, handle⟩, r⟩ := e
    rw [← Finmap.lookup_eq_some_iff, ← h.records, Multiset.mem_coe, List.mem_append, memRoster, memRoster]
    cases side <;> simp

theorem Mirrors.number (h : g.Mirrors m) (p : GraphRecord → Prop) [DecidablePred p] :
    m.number p = ((g.records .publication).filter fun _ r => p r).size +
      ((g.records .subscription).filter fun _ r => p r).size := by
  have roster : ∀ side, (g.roster side).countP (fun e => p e.2) = ((g.records side).filter fun _ r => p r).size :=
    fun side => by rw [Graph.roster, List.countP_map, List.countP_eq_length_filter]; rfl
  rw [RecordMap.number, h.entries, Multiset.coe_countP, List.countP_append, roster, roster]

theorem Mirrors.own (h : g.Mirrors m) {side : Side} {handle : InstanceHandle} {r : GraphRecord}
    (found : (g.records side).get? handle = some r) : r.side = side := by
  rw [h.records] at found
  exact (congrArg Prod.fst (h.keyed _ r found)).symm

/-! ### What the records determine -/

theorem Mirrors.typed (h : g.Mirrors m) (topic type : String) :
    ((g.topics.get? topic).bind fun t => t.types.get? type) =
      counted (m.number fun r => r.topic = topic ∧ r.type = type) := by
  have count := h.tallied.types topic type
  rw [tally] at count
  rw [h.number]
  simp only [Bool.decide_and]
  rw [← Graph.typed, ← Graph.typed, ← count]
  cases g.topics.get? topic <;> rfl

theorem Mirrors.sided (h : g.Mirrors m) (side : Side) (topic : String) :
    g.count side topic = m.number fun r => r.side = side ∧ r.topic = topic := by
  have others : ∀ side', ((g.records side').filter fun _ r => decide (r.side = side ∧ r.topic = topic)).size =
      if side' = side then g.number side topic else 0 := fun side' => by
    split
    · rename_i same
      rw [Graph.number, Table.size, Table.size, Table.filter, Table.filter, same]
      refine congrArg List.length (List.filter_congr fun e mem => ?_)
      rw [h.own (Table.memEntries.1 mem)]
      simp
    · rename_i other
      rw [Table.sizeZero]
      intro handle
      rw [Table.getFilter, Option.filter_eq_none_iff]
      intro r found counts
      rw [h.own found] at counts
      exact other (of_decide_eq_true counts).1
  rw [countExact h.tallied, h.number, others, others]
  cases side <;> simp

theorem numberPositive {p : GraphRecord → Prop} [DecidablePred p] :
    0 < m.number p ↔ ∃ key r, m.lookup key = some r ∧ p r := by
  rw [RecordMap.number, Multiset.countP_pos]
  constructor
  · rintro ⟨⟨key, r⟩, mem, is⟩
    exact ⟨key, r, Finmap.lookup_eq_some_iff.2 mem, is⟩
  · rintro ⟨key, r, found, is⟩
    exact ⟨⟨key, r⟩, Finmap.lookup_eq_some_iff.1 found, is⟩

theorem Mirrors.lists (h : g.Mirrors m) {topic type : String} :
    (∃ side, g.Lists side topic type) ↔ type ∈ m.types topic := by
  simp only [Lists, h.records, RecordMap.types, Multiset.mem_toFinset, Multiset.mem_map, Multiset.mem_filter]
  constructor
  · rintro ⟨side, handle, r, found, topicIs, typeIs⟩
    exact ⟨⟨_, r⟩, ⟨Finmap.lookup_eq_some_iff.1 found, topicIs⟩, typeIs⟩
  · rintro ⟨⟨⟨side, handle⟩, r⟩, ⟨mem, topicIs⟩, typeIs⟩
    exact ⟨side, handle, r, Finmap.lookup_eq_some_iff.2 mem, topicIs, typeIs⟩

theorem memTopics {topic : String} : topic ∈ m.topics ↔ ∃ type, type ∈ m.types topic := by
  simp only [RecordMap.topics, RecordMap.types, Multiset.mem_toFinset, Multiset.mem_map, Multiset.mem_filter]
  constructor
  · rintro ⟨e, mem, is⟩
    exact ⟨_, e, ⟨mem, is⟩, rfl⟩
  · rintro ⟨_, e, ⟨mem, is⟩, _⟩
    exact ⟨e, mem, is⟩

theorem Mirrors.image (h : g.Mirrors m) : g.Image m := by
  obtain ⟨sorted, topics, listings⟩ := snapshotExact h.tallied
  have listed : ∀ topic, topic ∈ g.snapshot.map (·.1) ↔ topic ∈ m.topics := fun topic => by
    rw [topics, memTopics, exists_comm]
    exact exists_congr fun type => h.lists
  constructor
  case records => exact h.records
  case contains =>
    intro side handle
    rw [Graph.contains, Table.contains, h.records, Finmap.lookup_isSome]
  case size =>
    have roster : ∀ side, (g.roster side).length = (g.records side).size := fun side => List.length_map _
    rw [Finmap.keys, Finset.card_mk, Multiset.keys, Multiset.card_map, h.entries, Multiset.coe_card, List.length_append,
      roster, roster]
    rfl
  case typed => exact h.typed
  case sided => exact h.sided
  case listed =>
    intro topic
    have keys : g.topics.contains topic = true ↔ topic ∈ g.snapshot.map (·.1) := by
      rw [Table.contains, ← Table.memKeys, snapshot, List.map_map]
      rfl
    rw [keys, listed, numberPositive, RecordMap.topics, Multiset.mem_toFinset, Multiset.mem_map]
    simp only [Finmap.lookup_eq_some_iff, Sigma.exists]
  case topicsSorted => exact sorted
  case topics =>
    ext topic
    rw [List.mem_toFinset, listed]
  case typesSorted => exact fun e mem => (listings e.1 e.2 mem).1
  case types =>
    intro e mem
    ext type
    rw [List.mem_toFinset, (listings e.1 e.2 mem).2, h.lists]
  case positive =>
    intro side handle r found
    have key := h.keyed _ r found
    have typeCount : 0 < m.number fun r' => r'.topic = r.topic ∧ r'.type = r.type :=
      numberPositive.2 ⟨_, r, found, rfl, rfl⟩
    have sideCount : 0 < g.count side r.topic := by
      rw [h.sided]
      exact numberPositive.2 ⟨_, r, found, (congrArg Prod.fst key).symm, rfl⟩
    have typed := h.typed r.topic r.type
    obtain ⟨n, is⟩ := Nat.exists_eq_succ_of_ne_zero typeCount.ne'
    rw [is, counted, if_neg (Nat.succ_ne_zero n), Option.bind_eq_some_iff] at typed
    obtain ⟨t, topic, type⟩ := typed
    rw [Graph.count, topic] at sideCount
    exact ⟨t, topic, sideCount, n, type⟩

/-! ### One call, and all calls -/

theorem mirrorsEmpty : Mirrors {} ∅ where
  tallied := talliedEmpty
  records := fun side handle => by
    rw [Finmap.lookup_empty]
    cases side <;> rfl
  keyed := fun key r found => by
    rw [Finmap.lookup_empty] at found
    cases found

structure Follows (g : Graph) (m : RecordMap) (call : Call) : Prop where
  answer : (g.tell call).2 = (m.tell call).2
  mirrors : (g.tell call).1.Mirrors (m.tell call).1
  version : (g.tell call).1.version = g.version + if (m.tell call).1 = m then 0 else 1
  idle : (m.tell call).1 = m → (g.tell call).1 = g

theorem Mirrors.stays (h : g.Mirrors m) {call : Call} {answer : Answer} (graph : g.tell call = (g, answer))
    (recordMap : m.tell call = (m, answer)) : g.Follows m call := by
  refine ⟨?_, ?_, ?_, fun _ => ?_⟩ <;> rw [graph]
  · rw [recordMap]
  · rwa [recordMap]
  · rw [recordMap, if_pos rfl, Nat.add_zero]

theorem Mirrors.add (h : g.Mirrors m) (r : GraphRecord) : g.Follows m (.add r) := by
  have known := h.records r.side r.handle
  cases found : m.lookup (r.side, r.handle) with
  | some old =>
    have held : g.contains r.side r.handle = true := by rw [contains, Table.contains, known, found]; rfl
    have graph : g.tell (.add r) = (g, .added false) := by rw [tell, Graph.add, if_pos held]
    exact h.stays graph (by rw [RecordMap.tell, found])
  | none =>
    rw [found] at known
    have fresh : ¬ g.contains r.side r.handle = true := by rw [contains, Table.contains, known]; exact Bool.noConfusion
    have recordMap : m.tell (.add r) = (m.insert (r.side, r.handle) r, .added true) := by rw [RecordMap.tell, found]
    have records := addRecords (g := g) (r := r) known
    have changed : m.insert (r.side, r.handle) r ≠ m := fun same => by
      rw [← same, Finmap.lookup_insert] at found
      cases found
    constructor
    case answer => rw [tell, recordMap, Graph.add, if_neg fresh]
    case version => rw [tell, recordMap, Graph.add, if_neg fresh, if_neg changed]
    case idle =>
      rw [recordMap]
      exact fun same => absurd same changed
    case mirrors =>
      rw [tell, recordMap]
      refine ⟨talliedAdd h.tallied r, fun side handle => ?_, fun key r' found' => ?_⟩
      · rw [records]
        split
        · rename_i own
          rw [own.1, own.2, Finmap.lookup_insert]
        · rename_i other
          rw [h.records, Finmap.lookup_insert_of_ne _ fun same => other (Prod.mk.inj same)]
      · by_cases own : key = (r.side, r.handle)
        · rw [own, Finmap.lookup_insert] at found'
          cases found'
          exact own
        · rw [Finmap.lookup_insert_of_ne _ own] at found'
          exact h.keyed key r' found'

theorem Mirrors.remove (h : g.Mirrors m) (side : Side) (handle : InstanceHandle) :
    g.Follows m (.remove side handle) := by
  have known := h.records side handle
  cases found : m.lookup (side, handle) with
  | none =>
    rw [found] at known
    have graph : g.tell (.remove side handle) = (g, .removed none) := by rw [tell, Graph.remove, known]
    exact h.stays graph (by rw [RecordMap.tell, found])
  | some r =>
    rw [found] at known
    have recordMap : m.tell (.remove side handle) = (m.erase (side, handle), .removed (some r)) := by
      rw [RecordMap.tell, found]
    have changed : m.erase (side, handle) ≠ m := fun same => by
      rw [← same, Finmap.lookup_erase] at found
      cases found
    constructor
    case answer => rw [tell, recordMap, Graph.remove, known]
    case version => rw [tell, recordMap, Graph.remove, known, if_neg changed]
    case idle =>
      rw [recordMap]
      exact fun same => absurd same changed
    case mirrors =>
      rw [tell, recordMap]
      refine ⟨talliedRemove h.tallied (fun _ _ _ found => h.own found) side handle, fun side' handle' => ?_,
        fun key r' found' => ?_⟩
      · rw [removeRecords]
        split
        · rename_i own
          rw [own.1, own.2, Finmap.lookup_erase]
        · rename_i other
          rw [h.records, Finmap.lookup_erase_ne fun same => other (Prod.mk.inj same)]
      · by_cases own : key = (side, handle)
        · rw [own, Finmap.lookup_erase] at found'
          cases found'
        · rw [Finmap.lookup_erase_ne own] at found'
          exact h.keyed key r' found'

theorem Mirrors.follows (h : g.Mirrors m) (call : Call) : g.Follows m call := by
  cases call with
  | add r => exact h.add r
  | remove side handle => exact h.remove side handle

theorem Mirrors.tellAll (h : g.Mirrors m) (calls : List Call) :
    (Graph.tellAll tell g calls).2 = (Graph.tellAll RecordMap.tell m calls).2 ∧
      (Graph.tellAll tell g calls).1.Mirrors (Graph.tellAll RecordMap.tell m calls).1 ∧
      (Graph.tellAll tell g calls).1.version = g.version + m.changes calls := by
  induction calls generalizing g m with
  | nil => exact ⟨rfl, h, rfl⟩
  | cons call calls ih =>
    have first := h.follows call
    obtain ⟨rest, mirrors, version⟩ := ih first.mirrors
    refine ⟨congrArg₂ List.cons first.answer rest, mirrors, version.trans ?_⟩
    rw [first.version, RecordMap.changes, Nat.add_assoc]

structure Refines (calls : List Call) : Prop where
  answers : (tellAll tell {} calls).2 = (tellAll RecordMap.tell ∅ calls).2
  image : (tellAll tell {} calls).1.Image (tellAll RecordMap.tell ∅ calls).1
  version : (tellAll tell {} calls).1.version = RecordMap.changes ∅ calls
  idle : ∀ call, ((tellAll RecordMap.tell ∅ calls).1.tell call).1 = (tellAll RecordMap.tell ∅ calls).1 →
    ((tellAll tell {} calls).1.tell call).1 = (tellAll tell {} calls).1

/-- A new graph is, after any calls, what the map of its records says. -/
theorem refinesRecordMap (calls : List Call) : Refines calls := by
  obtain ⟨answers, mirrors, version⟩ := mirrorsEmpty.tellAll calls
  exact ⟨answers, mirrors.image, version.trans (Nat.zero_add _), fun call => (mirrors.follows call).idle⟩

end Graph
end Databus
