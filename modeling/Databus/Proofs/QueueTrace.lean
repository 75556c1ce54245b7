import Mathlib.Logic.Relation
import Databus.Proofs.BoundedQueues
import Databus.Proofs.ConditionTriggers

/-! A reader without a listener is a first-in first-out queue: what is delivered leaves in that order, taken or lost.
Only a full queue loses, and then its oldest sample. Views and both statuses tell of what has passed. -/
namespace Databus

inductive ReaderUse
  | deliver (a : Arrival)
  | take

def ReaderUse.arrival? : ReaderUse → Option Arrival
  | .deliver a => some a
  | .take => none

inductive SampleExit
  | taken
  | lost
  deriving DecidableEq

namespace Arrival

def latest (past : List Arrival) (k : InstanceHandle) : Option Arrival := (past.filter fun a => a.subject = k).getLast?

def viewAfter (past : List Arrival) (a : Arrival) : View :=
  match latest past a.subject with
  | some before => if before.state.isGone then .new else .notNew
  | none => .new

def viewed (past : List Arrival) : List Arrival → List Sample
  | [] => []
  | a :: rest => a.seen (a.viewAfter past) :: viewed (past ++ [a]) rest

theorem latestAppend (past : List Arrival) (a : Arrival) (k : InstanceHandle) :
    latest (past ++ [a]) k = if k = a.subject then some a else latest past k := by
  rw [latest, List.filter_append]
  by_cases own : k = a.subject
  · simp [own]
  · simp [own, Ne.symm own, latest]

theorem viewedAppend (past arrivals : List Arrival) (a : Arrival) :
    viewed past (arrivals ++ [a]) = viewed past arrivals ++ [a.seen (a.viewAfter (past ++ arrivals))] := by
  induction arrivals generalizing past with
  | nil => rw [List.append_nil]; rfl
  | cons first rest ih => rw [List.cons_append, viewed, ih, List.append_assoc]; rfl

end Arrival

structure QueueTrace where
  past : List Arrival := []
  gone : List (Sample × SampleExit) := []
  queue : List Sample := []

namespace QueueTrace

def leave (s : QueueTrace) (e : SampleExit) : QueueTrace :=
  match s.queue with
  | [] => s
  | oldest :: rest => { s with gone := s.gone ++ [(oldest, e)], queue := rest }

def makeRoom (history : History) (s : QueueTrace) : QueueTrace :=
  if history.limit = some s.queue.length then s.leave .lost else s

def deliver (history : History) (s : QueueTrace) (a : Arrival) : QueueTrace where
  past := s.past ++ [a]
  gone := (s.makeRoom history).gone
  queue := (s.makeRoom history).queue ++ [a.seen (a.viewAfter s.past)]

def use (history : History) (s : QueueTrace) : ReaderUse → QueueTrace
  | .deliver a => s.deliver history a
  | .take => s.leave .taken

def after (history : History) (uses : List ReaderUse) : QueueTrace := uses.foldl (use history) {}

def left (s : QueueTrace) (e : SampleExit) : List Sample := (s.gone.filter fun x => x.2 = e).map (·.1)

/-! ### What enters leaves in order -/

variable {history : History} {s : QueueTrace}

structure Sound (history : History) (s : QueueTrace) : Prop where
  order : s.gone.map (·.1) ++ s.queue = Arrival.viewed [] s.past
  fits : ∀ n, history.limit = some n → s.queue.length ≤ n

theorem leavePast (s : QueueTrace) (e : SampleExit) : (s.leave e).past = s.past := by
  unfold leave
  split <;> rfl

theorem leaveQueue (s : QueueTrace) (e : SampleExit) : (s.leave e).queue = s.queue.tail := by
  unfold leave
  split
  · rename_i empty
    rw [empty]
    rfl
  · rename_i there
    rw [there]
    rfl

theorem leaveOrder (s : QueueTrace) (e : SampleExit) :
    (s.leave e).gone.map (·.1) ++ (s.leave e).queue = s.gone.map (·.1) ++ s.queue := by
  unfold leave
  split
  · rfl
  · rename_i there
    rw [there, List.map_append, List.append_assoc]
    rfl

theorem leaveLeft (s : QueueTrace) (e e' : SampleExit) :
    (s.leave e).left e' = s.left e' ++ if e = e' then s.queue.head?.toList else [] := by
  unfold leave
  split
  · rename_i empty
    rw [empty]
    simp
  · rename_i there
    rw [there, left, List.filter_append, List.map_append]
    by_cases same : e = e' <;> simp [left, same]

theorem roomOrder (history : History) (s : QueueTrace) :
    (s.makeRoom history).gone.map (·.1) ++ (s.makeRoom history).queue =
    s.gone.map (·.1) ++ s.queue := by
  unfold makeRoom
  split
  · exact leaveOrder s .lost
  · rfl

theorem roomFits (sound : s.Sound history) {n : Nat} (bounded : history.limit = some n) :
    (s.makeRoom history).queue.length < n := by
  have fits := sound.fits n bounded
  have positive := History.limitPositive bounded
  unfold makeRoom
  split
  · rw [leaveQueue, List.length_tail]
    omega
  · rename_i room
    rw [bounded, Option.some.injEq] at room
    omega

theorem roomLost (history : History) (s : QueueTrace) : (s.makeRoom history).left .lost =
    s.left .lost ++ if history.limit = some s.queue.length then s.queue.head?.toList else [] := by
  unfold makeRoom
  split
  · rw [leaveLeft, if_pos rfl]
  · rw [List.append_nil]

theorem deliverTaken (history : History) (s : QueueTrace) (a : Arrival) :
    (s.deliver history a).left .taken = s.left .taken := by
  change (s.makeRoom history).left .taken = _
  unfold makeRoom
  split
  · rw [leaveLeft, if_neg (by decide), List.append_nil]
  · rfl

theorem fullHead (full : history.limit = some s.queue.length) : ∃ oldest, s.queue.head?.toList = [oldest] := by
  cases there : s.queue with
  | nil =>
    rw [there] at full
    exact absurd (History.limitPositive full) (Nat.lt_irrefl 0)
  | cons oldest rest => exact ⟨oldest, rfl⟩

theorem Sound.leave (sound : s.Sound history) (e : SampleExit) : (s.leave e).Sound history where
  order := by rw [leaveOrder, leavePast, sound.order]
  fits := fun n bounded => by
    rw [leaveQueue, List.length_tail]
    exact Nat.le_trans (Nat.sub_le ..) (sound.fits n bounded)

theorem Sound.deliver (sound : s.Sound history) (a : Arrival) : (s.deliver history a).Sound history where
  order := by
    rw [QueueTrace.deliver, ← List.append_assoc, roomOrder, sound.order, Arrival.viewedAppend, List.nil_append]
  fits := fun n bounded => by
    rw [QueueTrace.deliver, List.length_append]
    exact roomFits sound bounded

theorem soundEmpty (history : History) : Sound history {} := ⟨rfl, fun n _ => Nat.zero_le n⟩

theorem usesPast (history : History) (s : QueueTrace) (uses : List ReaderUse) :
    (uses.foldl (use history) s).past = s.past ++ uses.filterMap ReaderUse.arrival? := by
  induction uses generalizing s with
  | nil => rw [List.foldl_nil, List.filterMap_nil, List.append_nil]
  | cons u rest ih =>
    rw [List.foldl_cons, ih]
    cases u with
    | deliver a => exact List.append_assoc s.past [a] _
    | take => exact congrArg (· ++ _) (leavePast s .taken)

end QueueTrace

/-! ### The loop that makes room -/

namespace Mailbox

def Turn (limit : Nat) (m m' : Mailbox) : Prop :=
  limit ≤ m.samples.length ∧ m' = { m with samples := m.samples.tail, lost := m.lost + 1 }

def trimmed (history : History) (m : Mailbox) : Mailbox :=
  { m with samples := m.samples.drop (m.overflow history), lost := m.lost + m.overflow history }

theorem turnsEnd {limit : Nat} (positive : 0 < limit) (m : Mailbox) : Acc (fun m' m => Turn limit m m') m := by
  refine Subrelation.accessible (r := InvImage (· < ·) fun m : Mailbox => m.samples.length) ?_
    (InvImage.accessible _ (Nat.lt_wfRel.wf.apply _))
  rintro m' m ⟨full, rfl⟩
  change m.samples.tail.length < m.samples.length
  rw [List.length_tail]
  omega

theorem turnsDrop {limit : Nat} (m : Mailbox) {k : Nat} (few : k ≤ m.samples.length + 1 - limit) :
    Relation.ReflTransGen (Turn limit) m { m with samples := m.samples.drop k, lost := m.lost + k } := by
  induction k with
  | zero => exact .refl
  | succ k ih =>
    refine .tail (ih (Nat.le_of_succ_le few)) ⟨?_, ?_⟩
    · change limit ≤ (m.samples.drop k).length
      rw [List.length_drop]
      omega
    · rw [List.tail_drop]
      rfl

theorem turnsTrim {history : History} {limit : Nat} (bounded : history.limit = some limit) (m : Mailbox) :
    Relation.ReflTransGen (Turn limit) m (m.trimmed history) ∧ ∀ m', ¬ Turn limit (m.trimmed history) m' := by
  have overflow : m.overflow history = m.samples.length + 1 - limit := by rw [Mailbox.overflow, bounded]
  have positive := History.limitPositive bounded
  rw [trimmed, overflow]
  refine ⟨turnsDrop m (Nat.le_refl _), fun m' turn => ?_⟩
  have full : limit ≤ (m.samples.drop (m.samples.length + 1 - limit)).length := turn.1
  rw [List.length_drop] at full
  omega

end Mailbox

/-! ### What is raised -/

def StatusMask.raised (waiting lost : Bool) : StatusMask :=
  (if waiting then dataAvailable else none) ||| (if lost then sampleLost else none)

namespace StatusMask

theorem raisedFed (waiting lost : Bool) : raised waiting lost ||| dataAvailable = raised true lost := by
  cases waiting <;> cases lost <;> decide

theorem raisedLost (waiting lost : Bool) : raised waiting lost ||| sampleLost = raised waiting true := by
  cases waiting <;> cases lost <;> decide

theorem raisedEmptied (waiting lost : Bool) : (raised waiting lost).without dataAvailable = raised false lost := by
  cases waiting <;> cases lost <;> decide

theorem raisedData (waiting lost : Bool) : (raised waiting lost).contains dataAvailable = waiting := by
  cases waiting <;> cases lost <;> decide

theorem raisedLoss (waiting lost : Bool) : (raised waiting lost).contains sampleLost = lost := by
  cases waiting <;> cases lost <;> decide

end StatusMask

def QueueTrace.statuses (s : QueueTrace) : StatusMask := .raised (!s.queue.isEmpty) (!(s.left .lost).isEmpty)

/-! ### A reader next to its trace -/

structure Reader.TracedBy (x : Reader) (s : QueueTrace) : Prop where
  unserved : x.listener = none
  queue : x.mailbox.samples = s.queue
  known : ∀ k, k ∈ x.mailbox.known ↔ ∃ a, Arrival.latest s.past k = some a ∧ a.state.isGone = false
  lost : x.mailbox.lost = (s.left .lost).length

namespace Reader.TracedBy

variable {x : Reader} {s : QueueTrace}

theorem stamped (h : x.TracedBy s) (a : Arrival) : x.mailbox.stamp a = a.seen (a.viewAfter s.past) := by
  have view : x.mailbox.viewOf a.subject = a.viewAfter s.past := by
    have known := h.known a.subject
    rw [Mailbox.viewOf, Arrival.viewAfter]
    cases last : Arrival.latest s.past a.subject with
    | none =>
      rw [if_neg]
      rw [known, last]
      rintro ⟨_, there, _⟩
      cases there
    | some before =>
      rw [last] at known
      dsimp only
      cases gone : before.state.isGone with
      | false => rw [if_pos (known.2 ⟨before, rfl, gone⟩), if_neg Bool.false_ne_true]
      | true =>
        rw [if_pos rfl, if_neg]
        intro mem
        obtain ⟨_, there, alive⟩ := known.1 mem
        cases there
        exact Bool.noConfusion (gone.symm.trans alive)
  rw [Mailbox.stamp, view, Arrival.seen]

theorem remembered (h : x.TracedBy s) (a : Arrival) (k : InstanceHandle) : k ∈ Mailbox.remember x.mailbox.known a ↔
    ∃ last, Arrival.latest (s.past ++ [a]) k = some last ∧ last.state.isGone = false := by
  rw [Mailbox.memRemember, Arrival.latestAppend, h.known]
  by_cases own : k = a.subject
  · cases gone : a.state.isGone <;> simp [own, gone]
  · cases gone : a.state.isGone <;> simp [own]

theorem overflow (h : x.TracedBy s) (sound : s.Sound x.history) :
    x.mailbox.overflow x.history = if x.history.limit = some s.queue.length then 1 else 0 := by
  rw [Mailbox.overflow, h.queue]
  cases bounded : x.history.limit with
  | none => rfl
  | some limit =>
    have fits := sound.fits limit bounded
    have positive := History.limitPositive bounded
    dsimp only
    split
    · rename_i full
      cases full
      omega
    · rename_i room
      rw [Option.some.injEq] at room
      omega

theorem push (h : x.TracedBy s) (sound : s.Sound x.history) (a : Arrival) :
    ({ x with mailbox := x.mailbox.push x.history a } : Reader).TracedBy (s.deliver x.history a) := by
  have overflow := h.overflow sound
  refine ⟨h.unserved, ?_, h.remembered a, ?_⟩
  · simp only [Mailbox.push, QueueTrace.deliver, h.stamped, overflow, h.queue, QueueTrace.makeRoom]
    split
    · rw [List.drop_one, QueueTrace.leaveQueue]
    · rw [List.drop_zero]
  · have lost : (s.deliver x.history a).left .lost = (s.makeRoom x.history).left .lost := rfl
    simp only [Mailbox.push, overflow, h.lost, lost, QueueTrace.roomLost, List.length_append]
    split
    · rename_i full
      obtain ⟨oldest, head⟩ := QueueTrace.fullHead full
      rw [head]
      rfl
    · rfl

theorem pop (h : x.TracedBy s) {oldest : Sample} {rest : List Sample} (there : s.queue = oldest :: rest) :
    ({ x with mailbox := { x.mailbox with samples := rest } } : Reader).TracedBy (s.leave .taken) := by
  refine ⟨h.unserved, ?_, ?_, ?_⟩
  · rw [QueueTrace.leaveQueue, there]
    rfl
  · rw [QueueTrace.leavePast]
    exact h.known
  · rw [QueueTrace.leaveLeft, if_neg (by decide), List.append_nil]
    exact h.lost

end Reader.TracedBy

namespace QueueTrace

variable {history : History} {s : QueueTrace}

theorem deliverStatuses (history : History) (s : QueueTrace) (a : Arrival) : (s.deliver history a).statuses =
    if history.limit = some s.queue.length then s.statuses ||| .sampleLost ||| .dataAvailable
    else s.statuses ||| .dataAvailable := by
  have waiting : (s.deliver history a).queue.isEmpty = false := by simp [deliver]
  have lost : (s.deliver history a).left .lost = (s.makeRoom history).left .lost := rfl
  rw [statuses, statuses, waiting, lost, roomLost]
  split
  · rename_i full
    obtain ⟨oldest, head⟩ := fullHead full
    have some : (s.left .lost ++ [oldest]).isEmpty = false := by simp
    rw [head, some, StatusMask.raisedLost, StatusMask.raisedFed]
    rfl
  · rw [List.append_nil, StatusMask.raisedFed]
    rfl

theorem takeStatuses (s : QueueTrace) : (s.leave .taken).statuses =
    if s.queue.tail = [] then s.statuses.without .dataAvailable else s.statuses := by
  rw [statuses, statuses, leaveQueue, leaveLeft, if_neg (by decide), List.append_nil]
  split
  · rename_i last
    rw [last, StatusMask.raisedEmptied]
    rfl
  · rename_i more
    cases there : s.queue with
    | nil =>
      rw [there] at more
      exact absurd rfl more
    | cons oldest rest =>
      rw [there] at more
      cases rest with
      | nil => exact absurd rfl more
      | cons => rfl

end QueueTrace

namespace Bus

def use (b : Bus) (r : InstanceHandle) : ReaderUse → Bus
  | .deliver a => b.deliver [⟨r, a⟩]
  | .take => (b.take r).2

def uses (b : Bus) (r : InstanceHandle) (uses : List ReaderUse) : Bus := uses.foldl (fun b u => b.use r u) b

def taken (b : Bus) (r : InstanceHandle) : List ReaderUse → List Sample
  | [] => []
  | .deliver a :: rest => (b.use r (.deliver a)).taken r rest
  | .take :: rest => (b.take r).1.toList ++ (b.take r).2.taken r rest

structure TracedBy (b : Bus) (r : InstanceHandle) (x : Reader) (s : QueueTrace) : Prop where
  found : b.readers.get? r = some x
  reader : x.TracedBy s
  sound : s.Sound x.history
  statuses : b.trigger? x.condition = some (.status .none s.statuses)

variable {b : Bus} {r : InstanceHandle} {x : Reader} {s : QueueTrace}

theorem activationsTrigger (c : ConditionId) (units : List Unit) (b : Bus) :
    (units.foldl (fun b _ => b.activate c .sampleLost) b).trigger? c =
      (b.trigger? c).map fun t => units.foldl (fun t _ => t.activate .sampleLost) t := by
  induction units generalizing b with
  | nil => exact (Option.map_id_apply ..).symm
  | cons u rest ih =>
    rw [List.foldl_cons, ih, (activateAdjusts b c .sampleLost).triggers, if_pos rfl, Option.map_map]
    rfl

theorem enqueueTrigger {a : Arrival} (found : b.readers.get? r = some x) :
    (b.enqueue ⟨r, a⟩).trigger? x.condition = (b.trigger? x.condition).map fun t =>
      ((List.replicate (x.mailbox.overflow x.history) ()).foldl (fun t _ => t.activate .sampleLost) t).activate
        .dataAvailable := by
  simp only [enqueue, found]
  rw [(activateAdjusts _ _ _).triggers, if_pos rfl, activationsTrigger, Option.map_map]
  rfl

theorem TracedBy.deliver (h : b.TracedBy r x s) (a : Arrival) :
    (b.deliver [⟨r, a⟩]).TracedBy r { x with mailbox := x.mailbox.push x.history a } (s.deliver x.history a) := by
  rw [deliverUnserved (n := ⟨r, a⟩) h.found h.reader.unserved]
  refine ⟨?_, h.reader.push h.sound a, h.sound.deliver a, ?_⟩
  · rw [enqueueMailbox h.found, if_pos rfl]
  · refine (enqueueTrigger h.found).trans ?_
    rw [h.statuses, QueueTrace.deliverStatuses, h.reader.overflow h.sound]
    split <;> rfl

theorem TracedBy.take (h : b.TracedBy r x s) : (b.take r).1 = s.queue.head? ∧
    ∃ x', x'.history = x.history ∧ (b.take r).2.TracedBy r x' (s.leave .taken) := by
  have statuses := QueueTrace.takeStatuses s
  cases there : s.queue with
  | nil =>
    have empty : x.mailbox.take? = none := by rw [Mailbox.take?, h.reader.queue, there]
    have stays : s.leave .taken = s := by simp only [QueueTrace.leave, there]
    rw [there, if_pos List.tail_nil, stays] at statuses
    simp only [Bus.take, h.found, empty, stays]
    refine ⟨rfl, x, rfl, ?_, h.reader, h.sound, ?_⟩
    · rw [(deactivateFrame b _ _).readers]
      exact h.found
    · rw [(deactivateAdjusts b _ _).triggers, if_pos rfl, h.statuses]
      exact congrArg (fun active => some (Trigger.status .none active)) statuses.symm
  | cons oldest rest =>
    have front : x.mailbox.take? = some (oldest, { x.mailbox with samples := rest }) := by
      rw [Mailbox.take?, h.reader.queue, there]
    obtain ⟨first, found⟩ := takeFirst h.found front
    refine ⟨first, { x with mailbox := { x.mailbox with samples := rest } }, rfl, found, h.reader.pop there,
      h.sound.leave .taken, ?_⟩
    rw [there, List.tail_cons] at statuses
    simp only [Bus.take, h.found, front, statuses]
    cases rest with
    | nil =>
      rw [if_pos rfl, if_pos List.isEmpty_nil, (deactivateAdjusts _ _ _).triggers, if_pos rfl]
      exact congrArg _ h.statuses
    | cons next others => exact h.statuses

theorem TracedBy.uses (h : b.TracedBy r x s) (uses : List ReaderUse) :
    ∃ x', x'.history = x.history ∧ (b.uses r uses).TracedBy r x' (uses.foldl (QueueTrace.use x.history) s) ∧
      s.left .taken ++ b.taken r uses = (uses.foldl (QueueTrace.use x.history) s).left .taken := by
  induction uses generalizing b x s with
  | nil => exact ⟨x, rfl, h, List.append_nil _⟩
  | cons u rest ih =>
    cases u with
    | deliver a =>
      obtain ⟨x', history, traced, taken⟩ := ih (h.deliver a)
      refine ⟨x', history, traced, ?_⟩
      rw [List.foldl_cons, QueueTrace.use, ← taken, QueueTrace.deliverTaken]
      rfl
    | take =>
      obtain ⟨first, y, same, popped⟩ := h.take
      obtain ⟨x', history, traced, taken⟩ := ih popped
      rw [same] at history traced taken
      refine ⟨x', history, traced, ?_⟩
      rw [List.foldl_cons, QueueTrace.use, ← taken, Bus.taken, first, QueueTrace.leaveLeft, if_pos rfl,
        List.append_assoc]

theorem tracedNew (b : Bus) (p : InstanceHandle) (topic type : String) (history : History) :
    (b.newReader p topic type history).2.TracedBy (b.newReader p topic type history).1
      ⟨p, topic, type, history, b.nextCondition, {}, none⟩ {} := by
  refine ⟨?_, ⟨rfl, rfl, fun k => ?_, rfl⟩, QueueTrace.soundEmpty history, ?_⟩
  · simp only [newReader, takeHandle, newCondition, Table.getInsert, if_pos]
  · constructor
    · intro mem
      cases mem
    · rintro ⟨_, there, _⟩
      cases there
  · simp only [trigger?, newReader, takeHandle, newCondition, Table.getInsert, if_pos]
    rfl

end Bus

/-! ### What a reader comes to -/

structure Sample.Exact (s : Sample) (past : List Arrival) (a : Arrival) : Prop where
  unchanged : s = a.seen s.view
  view : s.view = .new ↔ ∀ before, Arrival.latest past a.subject = some before → before.state.isGone = true
  valid : s.isValid = true ↔ ∃ payload, a.payload = some payload

theorem seenExact (past : List Arrival) (a : Arrival) : (a.seen (a.viewAfter past)).Exact past a := by
  refine ⟨rfl, ?_, Option.isSome_iff_exists⟩
  change a.viewAfter past = .new ↔ _
  rw [Arrival.viewAfter]
  cases Arrival.latest past a.subject with
  | none => simp
  | some before => cases gone : before.state.isGone <;> simp [gone]

theorem viewedExact (past before : List Arrival) (a : Arrival) (later : List Arrival) :
    ∃ s, (Arrival.viewed past (before ++ a :: later))[before.length]? = some s ∧ s.Exact (past ++ before) a := by
  induction before generalizing past with
  | nil => exact ⟨_, rfl, by rw [List.append_nil]; exact seenExact past a⟩
  | cons first rest ih =>
    obtain ⟨s, there, exact⟩ := ih (past ++ [first])
    rw [List.append_assoc] at exact
    exact ⟨s, there, exact⟩

structure Reader.Fifo (x : Reader) (active : StatusMask) (drawn : List Sample) (uses : List ReaderUse) : Prop where
  queue : x.mailbox.samples = (QueueTrace.after x.history uses).queue
  taken : drawn = (QueueTrace.after x.history uses).left .taken
  lost : x.mailbox.lost = ((QueueTrace.after x.history uses).left .lost).length
  -- each delivered sample has left in one way or is still queued
  order : (QueueTrace.after x.history uses).gone.map (·.1) ++ x.mailbox.samples =
    Arrival.viewed [] (uses.filterMap ReaderUse.arrival?)
  passed : (drawn ++ x.mailbox.samples).Sublist (Arrival.viewed [] (uses.filterMap ReaderUse.arrival?))
  samples : ∀ past a later, uses.filterMap ReaderUse.arrival? = past ++ a :: later →
    ∃ s, (Arrival.viewed [] (uses.filterMap ReaderUse.arrival?))[past.length]? = some s ∧ s.Exact past a
  fits : ∀ depth, x.history = .keepLast depth → x.mailbox.samples.length ≤ max depth 1
  available : active.contains .dataAvailable = true ↔ x.mailbox.samples ≠ []
  lossy : active.contains .sampleLost = true ↔ 0 < x.mailbox.lost

structure Reader.Delivered (x x' : Reader) (s : Sample) : Prop where
  room : x.history.limit ≠ some x.mailbox.samples.length →
    x'.mailbox.samples = x.mailbox.samples ++ [s] ∧ x'.mailbox.lost = x.mailbox.lost
  full : x.history.limit = some x.mailbox.samples.length → ∃ oldest rest, x.mailbox.samples = oldest :: rest ∧
    x'.mailbox.samples = rest ++ [s] ∧ x'.mailbox.lost = x.mailbox.lost + 1
  -- the loop that makes room ends, whichever turns it takes, and then the sample is appended
  ends : ∀ limit, x.history.limit = some limit → Acc (fun m' m => Mailbox.Turn limit m m') x.mailbox ∧
    ∃ stop, Relation.ReflTransGen (Mailbox.Turn limit) x.mailbox stop ∧ (∀ m, ¬ Mailbox.Turn limit stop m) ∧
      x'.mailbox.samples = stop.samples ++ [s] ∧ x'.mailbox.lost = stop.lost

namespace Reader.TracedBy

variable {x : Reader} {s : QueueTrace}

theorem delivered (h : x.TracedBy s) (sound : s.Sound x.history) (a : Arrival) :
    x.Delivered { x with mailbox := x.mailbox.push x.history a } (a.seen (a.viewAfter s.past)) := by
  have overflow := h.overflow sound
  rw [← h.queue] at overflow
  constructor
  case room =>
    intro room
    rw [if_neg room] at overflow
    simp only [Mailbox.push, overflow, List.drop_zero, Nat.add_zero, h.stamped, and_self]
  case full =>
    intro full
    rw [if_pos full] at overflow
    cases there : x.mailbox.samples with
    | nil =>
      rw [there] at full
      exact absurd (History.limitPositive full) (Nat.lt_irrefl 0)
    | cons oldest rest =>
      refine ⟨oldest, rest, rfl, ?_, ?_⟩
      · simp only [Mailbox.push, overflow, there, List.drop_one, List.tail_cons, h.stamped]
      · simp only [Mailbox.push, overflow]
  case ends =>
    intro limit bounded
    obtain ⟨turns, stops⟩ := Mailbox.turnsTrim bounded x.mailbox
    refine ⟨Mailbox.turnsEnd (History.limitPositive bounded) x.mailbox, _, turns, stops, ?_, rfl⟩
    rw [← h.stamped]
    rfl

theorem fifo (h : x.TracedBy s) (sound : s.Sound x.history) {uses : List ReaderUse}
    (after : QueueTrace.after x.history uses = s) :
    x.Fifo s.statuses (s.left .taken) uses := by
  have past : s.past = uses.filterMap ReaderUse.arrival? := by
    rw [← after, QueueTrace.after, QueueTrace.usesPast, List.nil_append]
  have order := sound.order
  rw [← h.queue, past] at order
  constructor
  case queue => rw [h.queue, after]
  case taken => rw [after]
  case lost => rw [h.lost, after]
  case order => rw [after, order]
  case passed =>
    rw [← order]
    exact (List.filter_sublist.map _).append (.refl _)
  case samples =>
    intro past a later split
    rw [split]
    exact viewedExact [] past a later
  case fits =>
    intro depth bounded
    rw [h.queue]
    exact sound.fits _ (by rw [bounded]; rfl)
  case available =>
    rw [QueueTrace.statuses, StatusMask.raisedData, h.queue]
    simp
  case lossy =>
    rw [QueueTrace.statuses, StatusMask.raisedLoss, h.lost]
    simp [List.length_pos_iff]

end Reader.TracedBy

namespace Bus

structure Fifo (b : Bus) (r : InstanceHandle) (history : History) (uses : List ReaderUse) : Prop where
  reader : ∃ x active, (b.uses r uses).readers.get? r = some x ∧ x.history = history ∧
    (b.uses r uses).trigger? x.condition = some (.status .none active) ∧ x.Fifo active (b.taken r uses) uses
  delivers : ∀ a, ∃ x x', (b.uses r uses).readers.get? r = some x ∧
    ((b.uses r uses).deliver [⟨r, a⟩]).readers.get? r = some x' ∧
    x.Delivered x' (a.seen (a.viewAfter (uses.filterMap ReaderUse.arrival?)))

/-- A new reader is a queue of bounded length, however it is delivered to and taken from. -/
theorem readerFifo (b : Bus) (p : InstanceHandle) (topic type : String) (history : History) (uses : List ReaderUse) :
    (b.newReader p topic type history).2.Fifo (b.newReader p topic type history).1 history uses := by
  obtain ⟨x, same, traced, taken⟩ := (tracedNew b p topic type history).uses uses
  have after : uses.foldl (QueueTrace.use history) {} = QueueTrace.after x.history uses := by
    rw [same, QueueTrace.after]
  rw [after] at traced taken
  constructor
  case reader =>
    refine ⟨x, _, traced.found, same, traced.statuses, ?_⟩
    have fifo := traced.reader.fifo traced.sound rfl
    rwa [← taken] at fifo
  case delivers =>
    intro a
    refine ⟨x, _, traced.found, (traced.deliver a).found, ?_⟩
    have delivered := traced.reader.delivered traced.sound a
    rwa [QueueTrace.after, QueueTrace.usesPast] at delivered

end Bus
end Databus
