import Databus.Proofs.DiscoveryHistory

/-! A log of all deliveries: in which order things are done, when each was asked for, and while the samples of which
write calls were at which readers. Keeping it changes nothing, and every queue ends with what it says last came. -/
namespace Databus

/-- The sample of the write call that began at the moment `call`, on its way to one reader. -/
structure SampleTransit where
  call : Nat
  reader : InstanceHandle
  deriving DecidableEq, Repr

/-- A task with the moment at which it was brought up, if it was not by an announcement, and what was going on then. -/
structure LoggedTask where
  task : Bus.Task
  since : Option Nat
  within : List SampleTransit
  deriving DecidableEq, Repr

namespace LoggedTask

def transit? (e : LoggedTask) : Option SampleTransit :=
  match e.task with
  | .deliver n => e.since.map (⟨·, n.reader⟩)
  | _ => none

def scope (e : LoggedTask) : List SampleTransit := e.transit?.toList ++ e.within

end LoggedTask

structure DeliveryLog where
  clock : Nat := 0
  done : List LoggedTask := []
  deriving DecidableEq, Repr

namespace DeliveryLog

def enter (l : DeliveryLog) (e : LoggedTask) : DeliveryLog := ⟨l.clock + 1, l.done ++ [e]⟩

def follow (l : DeliveryLog) (scope : List SampleTransit) (t : Bus.Task) : LoggedTask := ⟨t, some l.clock, scope⟩

def arrivals (l : DeliveryLog) (r : InstanceHandle) : List Arrival := l.done.flatMap (·.task.arrivals r)

theorem enterArrivals (l : DeliveryLog) (e : LoggedTask) (r : InstanceHandle) :
    (l.enter e).arrivals r = l.arrivals r ++ e.task.arrivals r := by
  simp only [arrivals, enter, List.flatMap_append, List.flatMap_cons, List.flatMap_nil, List.append_nil]

end DeliveryLog

namespace Request

def isWrite : Request → Bool
  | .write _ _ => true
  | _ => false

def loggedTask (l : DeliveryLog) (q : Request) (n : Bus.Notice) : LoggedTask :=
  if q.isWrite then l.follow [] (.deliver n) else ⟨.deliver n, none, []⟩

end Request

namespace Bus

theorem followTasks (l : DeliveryLog) (scope : List SampleTransit) (tasks : List Task) (rest : List LoggedTask) :
    (tasks.map (l.follow scope) ++ rest).map LoggedTask.task = tasks ++ rest.map LoggedTask.task := by
  rw [List.map_append, List.map_map]
  exact congrArg (· ++ _) (List.map_id'' (fun _ => rfl) tasks)

def noted (b : Bus) (l : DeliveryLog) : List LoggedTask → Bus × DeliveryLog
  | [] => (b, l)
  | e :: rest => noted (e.task.step b).1 (l.enter e) ((e.task.step b).2.map (l.follow e.scope) ++ rest)
termination_by stack => b.pressure (stack.map LoggedTask.task)
decreasing_by
  rw [followTasks]
  exact stepShrinks b e.task _

theorem notedInvariant {P : Bus → DeliveryLog → List LoggedTask → Prop}
    (step : ∀ b l e rest, P b l (e :: rest) →
      P (e.task.step b).1 (l.enter e) ((e.task.step b).2.map (l.follow e.scope) ++ rest))
    {b : Bus} {l : DeliveryLog} {stack : List LoggedTask} (start : P b l stack) :
    P (b.noted l stack).1 (b.noted l stack).2 [] := by
  fun_induction noted b l stack with
  | case1 b l => exact start
  | case2 b l e rest ih => exact ih (step b l e rest start)

theorem notedSettles (b : Bus) (l : DeliveryLog) (stack : List LoggedTask) :
    (b.noted l stack).1 = b.settle (stack.map LoggedTask.task) := by
  fun_induction noted b l stack with
  | case1 b l => rw [List.map_nil, settle]
  | case2 b l e rest ih => rw [ih, followTasks, List.map_cons, settle]

def requestNoted (w : Bus × DeliveryLog) (q : Request) : Bus × DeliveryLog :=
  let opened := q.opening w.1
  let settled := opened.1.noted { w.2 with clock := w.2.clock + 1 } (opened.2.map (q.loggedTask w.2))
  (q.closing w.1 settled.1, settled.2)

def runNoted (w : Bus × DeliveryLog) (requests : List Request) : Bus × DeliveryLog := requests.foldl requestNoted w

theorem requestNotedSame (w : Bus × DeliveryLog) (q : Request) : (requestNoted w q).1 = w.1.request q := by
  have tasks : ((q.opening w.1).2.map (q.loggedTask w.2)).map LoggedTask.task = (q.opening w.1).2.map .deliver := by
    rw [List.map_map]
    refine List.map_congr_left fun n _ => ?_
    simp only [Function.comp_apply, Request.loggedTask]
    split <;> rfl
  rw [q.opens, requestNoted, notedSettles, tasks, deliver]

theorem runNotedSame (w : Bus × DeliveryLog) (requests : List Request) :
    (runNoted w requests).1 = w.1.run requests := by
  induction requests generalizing w with
  | nil => rfl
  | cons q rest ih =>
    rw [runNoted, List.foldl_cons, ← runNoted, ih, requestNotedSame]
    rfl

end Bus

/-! ### What waits in a queue -/

def Sample.arrival (s : Sample) : Arrival := ⟨s.subject, s.publication, s.state, s.payload⟩

namespace Bus

def Received (b : Bus) (l : DeliveryLog) : Prop := ∀ r x, b.readers.get? r = some x →
  x.mailbox.samples.map Sample.arrival <:+ l.arrivals r

variable {b b' : Bus} {l : DeliveryLog}

theorem Received.drawn (h : Received b l) (drawn : ∀ r x', b'.readers.get? r = some x' →
    (∃ x, b.readers.get? r = some x ∧ x.Drawn x') ∨ x'.mailbox = {}) : Received b' l := by
  intro r x' found
  obtain ⟨x, before, drawn⟩ | new := drawn r x' found
  · exact (drawn.samples.map Sample.arrival).trans (h r x before)
  · rw [new]
    exact List.nil_suffix

theorem pushArrivals (x : Reader) (a : Arrival) :
    (x.mailbox.push x.history a).samples.map Sample.arrival <:+ x.mailbox.samples.map Sample.arrival ++ [a] := by
  simp only [Mailbox.push, List.map_append, List.map_drop]
  exact List.suffix_append_self_iff.2 (List.drop_suffix ..)

theorem deliverEnqueues (b : Bus) (n : Notice) : (Task.step b (.deliver n)).1 = b.enqueue n := by
  unfold Task.step
  dsimp only
  split <;> rfl

theorem Steady.readerBefore (h : Steady b b') {r : InstanceHandle} {x' : Reader}
    (found : b'.readers.get? r = some x') : ∃ x, b.readers.get? r = some x := by
  have same := h.readers r
  rw [found] at same
  obtain ⟨x, before, _⟩ := Option.map_eq_some_iff.1 same.symm
  exact ⟨x, before⟩

theorem stepReceived (h : Received b l) (e : LoggedTask) : Received (e.task.step b).1 (l.enter e) := by
  intro r x' found
  obtain ⟨x, before⟩ := (stepSteady b e.task).readerBefore found
  have waiting := h r x before
  rw [DeliveryLog.enterArrivals]
  have affects (other : ∀ n, e.task ≠ .deliver n) (none : e.task.arrivals r = []) :
      x'.mailbox.samples.map Sample.arrival <:+ l.arrivals r ++ e.task.arrivals r := by
    obtain ⟨y, there, drawn⟩ := affectsDrawn (stepAffects b other) before
    cases there.symm.trans found
    rw [none, List.append_nil]
    exact (drawn.samples.map Sample.arrival).trans waiting
  cases task : e.task with
  | deliver n =>
    rw [task, deliverEnqueues, enqueueMailbox before] at found
    cases Option.some.inj found
    simp only [Task.arrivals]
    split
    · exact (pushArrivals x n.arrival).trans (List.suffix_append_self_iff.2 waiting)
    · exact (List.append_nil _).symm ▸ waiting
  | call r' k => exact task ▸ affects (by simp [task]) (by rw [task]; rfl)
  | act r' k a => exact task ▸ affects (by simp [task]) (by rw [task]; rfl)

theorem openedReader {q : Request} {news : List Notice} (h : MembersAgree b) (opened : q.Opened b b' news)
    {r : InstanceHandle} {x' : Reader} (found : b'.readers.get? r = some x') :
    (∃ x, b.readers.get? r = some x ∧ x.Drawn x') ∨ x'.mailbox = {} := by
  cases before : b.readers.get? r with
  | some x =>
    obtain ⟨y, out, there, yields, _⟩ := openedYields h opened before
    cases there.symm.trans found
    exact .inl ⟨x, rfl, yields.drawn⟩
  | none =>
    refine .inr ?_
    have kept : ∀ {c : Bus}, c.readers = b.readers → c.readers.get? r = some x' → x'.mailbox = {} :=
      fun same there => by
      rw [same, before] at there
      contradiction
    have steady : ∀ {c : Bus}, Steady b c → c.readers.get? r = some x' → x'.mailbox = {} := fun steady there => by
      obtain ⟨x, known⟩ := steady.readerBefore there
      rw [before] at known
      contradiction
    cases opened with
    | refused | writer | sent | listener | graph | guard => exact kept rfl found
    | roster roster => exact kept (rosterFrame roster).readers found
    | joined =>
      rw [welcomeReaders] at found
      split at found
      · cases Option.some.inj found
        rfl
      · split at found
        · cases Option.some.inj found
          rfl
        · exact kept rfl found
    | @left _ y _ =>
      have marked : (y.groups.foldl markDeleted b).readers.get? r = none := by rwa [marksGroups]
      obtain ⟨z, known⟩ := ((Steady.setListener (y.groups.foldl markDeleted b) y.publications none).trans
        (.setListener _ y.subscriptions none)).readerBefore found
      rw [marked] at known
      contradiction
    | reader =>
      simp only [enrolled, withReader, newReader, takeHandle, newCondition, addChild, Table.getInsert] at found
      split at found
      · cases Option.some.inj found
        rfl
      · exact kept rfl found
    | unwritten => exact kept (writerWithdrew b _ _).readers found
    | unread => exact kept (readerWithdrew b _ _).readers found
    | took => exact steady (takeAffects (z := .all) trivial).steady found
    | drained => exact steady (drainAffects (z := .all) trivial trivial).steady found
    | attached => exact steady (.setListener b _ _) found

theorem closingReceived (h : Received b' l) (q : Request) : Received (q.closing b b') l :=
  h.drawn fun r x' found => by
    obtain ⟨x, before⟩ := (closingSteady b b' q).readerBefore found
    obtain ⟨y, there, yields⟩ := closingYields (b := b) q before
    cases there.symm.trans found
    exact .inl ⟨x, before, yields.drawn⟩

theorem requestReceived {w : Bus × DeliveryLog} (membersAgree : MembersAgree w.1) (h : Received w.1 w.2) (q : Request) :
    Received (requestNoted w q).1 (requestNoted w q).2 := by
  refine closingReceived (notedInvariant (P := fun b l _ => Received b l) (fun b l e rest h => stepReceived h e) ?_) q
  exact Received.drawn (l := { w.2 with clock := w.2.clock + 1 }) h fun r x' found =>
    openedReader membersAgree (q.opened w.1) found

theorem runReceived (requests : List Request) {w : Bus × DeliveryLog} (membersAgree : MembersAgree w.1)
    (h : Received w.1 w.2) :
    Received (runNoted w requests).1 (runNoted w requests).2 := by
  induction requests generalizing w with
  | nil => exact h
  | cons q rest ih =>
    refine ih ?_ (requestReceived membersAgree h q)
    rw [requestNotedSame]
    exact membersAgreeRequest membersAgree q

end Bus
end Databus
