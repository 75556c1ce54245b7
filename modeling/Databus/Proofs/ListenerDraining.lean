import Databus.Proofs.WaitSetCallers
import Databus.Proofs.GraphGuards

/-! A discovery listener drains its reader one sample at a time and raises its guard once, at the end, for whatever has
changed.
A sample that brings no news is passed over: it changes nothing and holds nothing up. -/
namespace Databus

/-! ### What a sample brings -/

inductive News
  | joined (r : GraphRecord)
  | left (side : Side) (handle : InstanceHandle)
  deriving DecidableEq, Repr

def Sample.news? (side : Side) (s : Sample) : Option News :=
  if s.state.isGone then some (.left side s.subject)
  else
    match s.payload.map Announcement.decode with
    | some (.ok a) => some (.joined ⟨s.subject, side, a.topic, a.type⟩)
    | some (.error _) | none => none

namespace Graph

def learn (g : Graph) : News → Graph
  | .joined r => (g.add r).1
  | .left side handle => (g.remove side handle).1

def heard (side : Side) (g : Graph) (samples : List Sample) : Graph :=
  (samples.filterMap (Sample.news? side)).foldl learn g

theorem applyLearns (g : Graph) (side : Side) (s : Sample) :
    (g.apply side s).1 = ((s.news? side).map g.learn).getD g := by
  unfold apply Sample.news?
  split
  · rfl
  · cases s.payload.map Announcement.decode with
    | none => rfl
    | some answer => cases answer <;> rfl

theorem applyStill {side : Side} {g : Graph} {s : Sample} (still : (g.apply side s).2 = false) :
    (g.apply side s).1 = g := by
  unfold apply at still ⊢
  split at still
  · rename_i gone
    rw [if_pos gone]
    cases known : (g.records side).get? s.subject with
    | none => simp only [remove, known]
    | some r =>
      simp only [remove, known] at still
      cases still
  · rename_i alive
    rw [if_neg alive]
    split
    · rename_i read
      simp only [read, add] at still ⊢
      split
      · rfl
      · rename_i fresh
        rw [if_neg fresh] at still
        cases still
    · rfl
    · rfl

theorem absorbHeard (side : Side) (g : Graph) (samples : List Sample) :
    (g.absorb side samples).1 = g.heard side samples := by
  rw [absorbFold]
  induction samples generalizing g with
  | nil => rfl
  | cons s rest ih =>
    rw [List.foldl_cons, ih, applyLearns, heard, heard]
    cases brought : s.news? side with
    | none => rw [List.filterMap_cons_none brought, Option.map_none, Option.getD_none]
    | some n => rw [List.filterMap_cons_some brought, List.foldl_cons, Option.map_some, Option.getD_some]

theorem heardVersion (side : Side) (g : Graph) (samples : List Sample) :
    (g.heard side samples).version = g.version + (g.absorb side samples).2 := by
  rw [← absorbHeard]
  exact absorbVersion g side samples

theorem absorbStill {side : Side} {g : Graph} {samples : List Sample} (still : (g.absorb side samples).2 = 0) :
    g.heard side samples = g := by
  rw [← absorbHeard]
  induction samples generalizing g with
  | nil => rfl
  | cons s rest ih =>
    simp only [absorb] at still ⊢
    have first : (g.apply side s).2 = false := Bool.not_eq_true _ ▸ fun changed => by
      rw [if_pos changed] at still
      cases still
    rw [applyStill first] at still ⊢
    exact ih (Nat.eq_zero_of_add_eq_zero_right still)

end Graph

namespace Bus

/-! ### One sample after the other -/

variable {b : Bus} {side : Side} {graph : GraphId} {guard : ConditionId} {reader : InstanceHandle} {x : Reader}

def waiting (b : Bus) (reader : InstanceHandle) : Nat :=
  ((b.readers.get? reader).map fun x => x.mailbox.unread).getD 0

def hear (b : Bus) (side : Side) (graph : GraphId) (s : Sample) : Bool × Bus :=
  match b.graphs.get? graph with
  | none => (false, b)
  | some g => ((g.apply side s).2, b.setGraph graph (g.apply side s).1)

theorem hearReaders (b : Bus) (side : Side) (graph : GraphId) (s : Sample) :
    (b.hear side graph s).2.readers = b.readers := by
  unfold hear
  split <;> rfl

theorem deactivateStores (b : Bus) (c : ConditionId) (mask : StatusMask) :
    b.deactivate c mask = b.store c (.deactivate mask) := by
  have quiet : b.tells c (.deactivate mask) = false := by
    unfold tells
    cases b.trigger? c <;> rfl
  have steps := performSteps b c (.deactivate mask)
  rw [quiet] at steps
  exact steps

theorem loweredTwice (b : Bus) (c : ConditionId) (mask : StatusMask) :
    (b.store c (.deactivate mask)).store c (.deactivate mask) = b.store c (.deactivate mask) := by
  refine congrArg (fun conditions => { b with conditions }) (Table.modifyTwice b.conditions c
    (f := fun x => { x with trigger := (TriggerStep.deactivate mask).apply x.trigger }) fun x => ?_)
  obtain ⟨⟨enabled, active⟩ | raised, hooks, held⟩ := x
  · simp only [TriggerStep.apply, Trigger.deactivate, StatusMask.without, UInt32.and_assoc, UInt32.and_self]
  · rfl

theorem takenFrom {s : Sample} {b' : Bus} (took : b.take reader = (some s, b')) :
    ∃ x rest, b.readers.get? reader = some x ∧ x.mailbox.samples = s :: rest ∧
      b' = (let left := b.modifyReader reader ({ · with mailbox := { x.mailbox with samples := rest } })
        if rest.isEmpty then left.store x.condition (.deactivate .dataAvailable) else left) := by
  unfold take at took
  split at took
  · cases took
  · rename_i x found
    split at took
    · cases took
    · rename_i s' box first
      unfold Mailbox.take? at first
      split at first
      · cases first
      · rename_i rest queue
        cases first
        simp only [deactivateStores] at took
        cases took
        exact ⟨x, rest, found, queue, rfl⟩

theorem takeWaiting {s : Sample} {b' : Bus} (took : b.take reader = (some s, b')) :
    b'.waiting reader < b.waiting reader := by
  obtain ⟨x, rest, found, queue, rfl⟩ := takenFrom took
  have before : b.waiting reader = rest.length + 1 := by
    rw [waiting, found, Option.map_some, Option.getD_some, Mailbox.unread, queue, List.length_cons]
  have after : ((b.modifyReader reader ({ · with mailbox := { x.mailbox with samples := rest } })).readers.get?
      reader).map (·.mailbox.unread) = some rest.length := by
    rw [modifyReader, Table.getModify, if_pos rfl, found]
    rfl
  rw [before, waiting]
  dsimp only
  split <;> simp only [store, after, Option.getD_some] <;> exact Nat.lt_succ_self _

theorem hearShorter {s : Sample} {b' : Bus} (took : b.take reader = (some s, b')) (side : Side)
    (graph : GraphId) : (b'.hear side graph s).2.waiting reader < b.waiting reader := by
  rw [waiting, hearReaders]
  exact takeWaiting took

def sip (b : Bus) (side : Side) (graph : GraphId) (reader : InstanceHandle) (changes : Nat) : Nat × Bus :=
  match took : b.take reader with
  | (none, b') => (changes, b')
  | (some s, b') =>
    have := hearShorter took side graph
    (b'.hear side graph s).2.sip side graph reader (changes + (b'.hear side graph s).1.toNat)
termination_by b.waiting reader

def ring (b : Bus) (guard : ConditionId) (changes : Nat) : Bus :=
  if 0 < changes ∧ b.isReachable guard then b.setGuard guard true else b

/-! ### All at once -/

def hearAll (b : Bus) (side : Side) (graph : GraphId) (samples : List Sample) : Nat × Bus :=
  match b.graphs.get? graph with
  | none => (0, b)
  | some g => ((g.absorb side samples).2, b.setGraph graph (g.absorb side samples).1)

theorem hearAllNil (b : Bus) (side : Side) (graph : GraphId) : b.hearAll side graph [] = (0, b) := by
  unfold hearAll
  split
  · rfl
  · rename_i g there
    simp only [Graph.absorb, setGraph, Table.insertSame there]

theorem setGraphTwice (b : Bus) (graph : GraphId) (g g' : Graph) :
    (b.setGraph graph g).setGraph graph g' = b.setGraph graph g' := by
  refine congrArg (fun graphs => { b with graphs }) (Table.sameLookup fun k => ?_)
  simp only [setGraph, Table.getInsert]
  split <;> rfl

theorem hearAllCons (b : Bus) (side : Side) (graph : GraphId) (s : Sample) (rest : List Sample) :
    b.hearAll side graph (s :: rest) =
      (((b.hear side graph s).2.hearAll side graph rest).1 + (b.hear side graph s).1.toNat,
        ((b.hear side graph s).2.hearAll side graph rest).2) := by
  cases there : b.graphs.get? graph with
  | none => simp only [hearAll, hear, there, Bool.toNat_false, Nat.add_zero]
  | some g =>
    have told : (b.setGraph graph (g.apply side s).1).graphs.get? graph = some (g.apply side s).1 :=
      (Table.getInsert ..).trans (if_pos rfl)
    simp only [hearAll, hear, there, told, Graph.absorb, setGraphTwice]
    cases (g.apply side s).2 <;> rfl

theorem takeAllFound (found : b.readers.get? reader = some x) :
    b.takeAll reader = (x.mailbox.samples,
      (b.modifyReader reader fun x => { x with mailbox := x.mailbox.empty }).store x.condition
        (.deactivate .dataAvailable)) := by
  simp only [takeAll, found]
  exact congrArg _ (deactivateStores _ x.condition .dataAvailable)

theorem takeAllHeard (b : Bus) (side : Side) (graph : GraphId) (reader : InstanceHandle) (s : Sample) :
    (b.hear side graph s).2.takeAll reader = ((b.takeAll reader).1, ((b.takeAll reader).2.hear side graph s).2) ∧
      ((b.takeAll reader).2.hear side graph s).1 = (b.hear side graph s).1 := by
  cases found : b.readers.get? reader with
  | none =>
    have found' := found
    rw [← hearReaders b side graph s] at found'
    simp only [takeAll, found, found', and_self]
  | some x =>
    have found' := found
    rw [← hearReaders b side graph s] at found'
    rw [takeAllFound found, takeAllFound found']
    simp only [hear, modifyReader, store]
    cases b.graphs.get? graph <;> exact ⟨rfl, rfl⟩

theorem takeNone {b' : Bus} (took : b.take reader = (none, b')) : b.takeAll reader = ([], b') := by
  unfold take at took
  split at took
  · rename_i missing
    cases took
    simp only [takeAll, missing]
  · rename_i x found
    split at took
    · rename_i nothing
      have none : x.mailbox.samples = [] := by
        unfold Mailbox.take? at nothing
        split at nothing
        · assumption
        · cases nothing
      cases took
      have same : (b.modifyReader reader fun x => { x with mailbox := x.mailbox.empty }) = b := by
        refine congrArg (fun readers => { b with readers }) (Table.sameLookup fun k => ?_)
        rw [Table.getModify]
        split
        · rename_i own
          rw [own, found, Option.map_some, Mailbox.empty, ← none]
        · rfl
      simp only [takeAll, found, none, same]
    · cases took

theorem takeSome {s : Sample} {b' : Bus} (took : b.take reader = (some s, b')) :
    b.takeAll reader = (s :: (b'.takeAll reader).1, (b'.takeAll reader).2) := by
  obtain ⟨x, rest, found, queue, own⟩ := takenFrom took
  have found' : b'.readers.get? reader = some { x with mailbox := { x.mailbox with samples := rest } } := by
    rw [own]
    dsimp only
    split <;> simp only [store, modifyReader, Table.getModify, if_pos, found, Option.map_some]
  rw [takeAllFound found, takeAllFound found', queue]
  refine congrArg (Prod.mk (s :: rest)) (Eq.symm ?_)
  have emptied : (b.readers.modify reader ({ · with mailbox := { x.mailbox with samples := rest } })).modify reader
      (fun x => { x with mailbox := x.mailbox.empty }) =
        b.readers.modify reader fun x => { x with mailbox := x.mailbox.empty } := Table.sameLookup fun k => by
    simp only [Table.getModify, found]
    split <;> rfl
  rw [own]
  dsimp only
  split
  · refine Eq.trans ?_ (loweredTwice (b.modifyReader reader fun x => { x with mailbox := x.mailbox.empty })
      x.condition .dataAvailable)
    simp only [store, modifyReader, emptied]
  · simp only [modifyReader, emptied]

theorem sipAll (b : Bus) (side : Side) (graph : GraphId) (reader : InstanceHandle) (changes : Nat) :
    b.sip side graph reader changes =
      (changes + ((b.takeAll reader).2.hearAll side graph (b.takeAll reader).1).1,
        ((b.takeAll reader).2.hearAll side graph (b.takeAll reader).1).2) := by
  fun_induction sip b side graph reader changes with
  | case1 b changes b' took => rw [takeNone took, hearAllNil, Nat.add_zero]
  | case2 b changes s b' took shorter ih =>
    obtain ⟨taken, heard⟩ := takeAllHeard b' side graph reader s
    rw [ih, taken, takeSome took, hearAllCons, heard, Nat.add_assoc, Nat.add_comm (Bool.toNat _)]

theorem drainSips (b : Bus) (side : Side) (graph : GraphId) (guard : ConditionId) (reader : InstanceHandle) :
    b.drain side graph guard reader =
      ((b.sip side graph reader 0).1, (b.sip side graph reader 0).2.ring guard (b.sip side graph reader 0).1) := by
  rw [sipAll, Nat.zero_add]
  unfold drain hearAll
  dsimp only
  cases (b.takeAll reader).2.graphs.get? graph <;> rfl

/-! ### What a drain leaves -/

structure Drained (b : Bus) (side : Side) (graph : GraphId) (guard : ConditionId) (reader : InstanceHandle)
    (x : Reader) (g : Graph) (changes : Nat) (b' : Bus) : Prop where
  queue : b'.readers.get? reader = some { x with mailbox := x.mailbox.empty }
  lowered : b'.trigger? x.condition = (b.trigger? x.condition).map (.deactivate .dataAvailable)
  shows : (b'.trigger? x.condition).bind Trigger.shows = some false
  heard : b'.graphs.get? graph = some (g.heard side x.mailbox.samples)
  growth : (g.heard side x.mailbox.samples).version = g.version + changes
  still : changes = 0 → g.heard side x.mailbox.samples = g
  raises : 0 < changes → b.isReachable guard → b'.Raised guard
  untouched : ¬ (0 < changes ∧ b.isReachable guard) →
    b'.conditions.get? guard = b.conditions.get? guard ∧ b'.waitSets = b.waitSets ∧ b'.signals = b.signals
  readers : ∀ k, k ≠ reader → b'.readers.get? k = b.readers.get? k
  graphs : ∀ k, k ≠ graph → b'.graphs.get? k = b.graphs.get? k
  triggers : ∀ k, k ≠ x.condition → k ≠ guard → b'.trigger? k = b.trigger? k
  listeners : b'.listeners = b.listeners
  rest : OnlyTraffic b b'

def silence (b : Bus) (graph : GraphId) (reader : InstanceHandle) (x : Reader) (g : Graph) : Bus :=
  ((b.modifyReader reader fun x => { x with mailbox := x.mailbox.empty }).store x.condition
    (.deactivate .dataAvailable)).setGraph graph g

theorem silenceTriggers (b : Bus) (graph : GraphId) (reader : InstanceHandle) (x : Reader) (g : Graph)
    (k : ConditionId) : (b.silence graph reader x g).trigger? k =
      if k = x.condition then (b.trigger? x.condition).map (.deactivate .dataAvailable) else b.trigger? k :=
  storeValue (b.modifyReader reader fun x => { x with mailbox := x.mailbox.empty }) _ _ k

theorem silenceElsewhere {k : ConditionId} (other : k ≠ x.condition) (b : Bus) (graph : GraphId)
    (reader : InstanceHandle) (g : Graph) : (b.silence graph reader x g).conditions.get? k = b.conditions.get? k :=
  (Table.getModify ..).trans (if_neg other)

theorem silenceReachable {k : ConditionId} (other : k ≠ x.condition) (b : Bus) (graph : GraphId)
    (reader : InstanceHandle) (g : Graph) : (b.silence graph reader x g).isReachable k = b.isReachable k := by
  rw [isReachable, silenceElsewhere other]
  rfl

theorem drainSilence {g : Graph} (found : b.readers.get? reader = some x) (there : b.graphs.get? graph = some g)
    (side : Side) (guard : ConditionId) :
    b.drain side graph guard reader = ((g.absorb side x.mailbox.samples).2,
      (b.silence graph reader x (g.heard side x.mailbox.samples)).ring guard (g.absorb side x.mailbox.samples).2) := by
  unfold drain
  rw [takeAllFound found]
  simp only [store, modifyReader, there]
  rw [← Graph.absorbHeard]
  rfl

theorem ringFrame (b : Bus) (guard : ConditionId) (changes : Nat) : OnlySignals b (b.ring guard changes) := by
  unfold ring
  split
  · exact setGuardFrame b guard true
  · exact .refl b

theorem ringTriggers (b : Bus) (guard k : ConditionId) (changes : Nat) (other : k ≠ guard) :
    (b.ring guard changes).trigger? k = b.trigger? k := by
  unfold ring
  split
  · rw [(setGuardAdjusts b guard true).triggers, if_neg other]
  · rfl

/-- A drain empties its reader and folds the news of the queue into the graph, in order, whatever stands between;
it answers how far the version has grown and raises the guard for that. -/
theorem drainFolds (side : Side) {g : Graph} {enabled active : StatusMask} {raised : Bool}
    (found : b.readers.get? reader = some x) (there : b.graphs.get? graph = some g)
    (status : b.trigger? x.condition = some (.status enabled active))
    (isGuard : b.trigger? guard = some (.guard raised)) :
    Drained b side graph guard reader x g (b.drain side graph guard reader).1 (b.drain side graph guard reader).2 ∧
      b.drain side graph guard reader =
        ((b.sip side graph reader 0).1, (b.sip side graph reader 0).2.ring guard (b.sip side graph reader 0).1) := by
  refine ⟨?_, drainSips b side graph guard reader⟩
  have frame := drainFrame b side graph guard reader
  have apart : x.condition ≠ guard := fun same => by
    rw [same, isGuard] at status
    cases status
  rw [drainSilence found there] at frame ⊢
  have alive := silenceReachable apart.symm b graph reader (g.heard side x.mailbox.samples)
  have triggers := silenceTriggers b graph reader x (g.heard side x.mailbox.samples)
  have signals := ringFrame (b.silence graph reader x (g.heard side x.mailbox.samples)) guard
    (g.absorb side x.mailbox.samples).2
  have lowered := (ringTriggers (b.silence graph reader x (g.heard side x.mailbox.samples)) guard x.condition
    (g.absorb side x.mailbox.samples).2 apart).trans ((triggers x.condition).trans (if_pos rfl))
  constructor
  case rest => exact frame
  case lowered => exact lowered
  case growth => exact Graph.heardVersion side g x.mailbox.samples
  case still => exact Graph.absorbStill
  case shows =>
    rw [lowered, status]
    exact Trigger.showsEmptied (t := .status enabled active) rfl
  case queue =>
    rw [signals.readers]
    exact (Table.getModify ..).trans ((if_pos rfl).trans (by rw [found]; rfl))
  case readers =>
    intro k other
    rw [signals.readers]
    exact (Table.getModify ..).trans (if_neg other)
  case heard =>
    rw [signals.graphs]
    exact (Table.getInsert ..).trans (if_pos rfl)
  case graphs =>
    intro k other
    rw [signals.graphs]
    exact (Table.getInsert ..).trans (if_neg other)
  case listeners => exact signals.listeners
  case triggers =>
    intro k other apart
    rw [ringTriggers _ _ _ _ apart, triggers, if_neg other]
  case raises =>
    intro some held
    rw [ring, if_pos ⟨some, alive.trans held⟩, setGuardRaised ⟨raised, (triggers guard).trans
      ((if_neg apart.symm).trans isGuard)⟩, if_pos rfl]
  case untouched =>
    intro idle
    rw [ring, if_neg fun both => idle ⟨both.1, alive.symm.trans both.2⟩]
    exact ⟨silenceElsewhere apart.symm b graph reader _, rfl, rfl⟩

def mixedQueue : List Sample :=
  let told := some (Announcement.encode ⟨7, 6, "rt/chatter", "String_"⟩)
  [⟨7, 0, .new, .alive, told⟩, ⟨8, 0, .new, .alive, some [1, 2]⟩, ⟨9, 0, .new, .alive, none⟩,
    ⟨5, 0, .new, .disposed, none⟩, ⟨7, 0, .notNew, .alive, told⟩, ⟨3, 0, .notNew, .noWriters, none⟩,
    ⟨7, 0, .notNew, .disposed, told⟩, ⟨7, 0, .new, .alive, told⟩]

def mixedReader : Reader := ⟨1, "DCPSPublication", "Endpoint", .keepAll, 1, ⟨mixedQueue, [7, 8, 9], 0⟩, none⟩

def mixedGraph : Graph := ({ : Graph }.add ⟨3, .publication, "rt/old", "Int_"⟩).1

def mixedBus : Bus where
  nextCondition := 3
  nextKey := 2
  readers := Table.empty.insert 4 mixedReader
  conditions := (Table.empty.insert 1 ⟨.status .none .dataAvailable, [], true⟩).insert 2 .newGuard
  graphs := Table.empty.insert 1 mixedGraph

theorem drainFoldsMixed :
    (Drained mixedBus .publication 1 2 4 mixedReader mixedGraph 4
      (mixedBus.drain .publication 1 2 4).2 ∧ mixedBus.isReachable 2) ∧
      (mixedBus.drain .publication 1 2 4).1 = 4 := by
  have counted : (mixedBus.drain .publication 1 2 4).1 = 4 := by decide +kernel
  have found : mixedBus.readers.get? 4 = some mixedReader := by decide
  have there : mixedBus.graphs.get? 1 = some mixedGraph := by decide
  have status : mixedBus.trigger? mixedReader.condition = some (.status .none .dataAvailable) := by decide
  have isGuard : mixedBus.trigger? 2 = some (.guard false) := by decide
  have drained := (drainFolds .publication found there status isGuard).1
  rw [counted] at drained
  exact ⟨⟨drained, by decide⟩, counted⟩

end Bus
end Databus
