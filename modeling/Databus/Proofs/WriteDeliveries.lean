import Databus.Proofs.DeliveryLog
import Databus.Proofs.BoundedQueues
import Databus.Proofs.EntityOwnership

/-! All that is done for one request, in order, each thing with the moment of what brought it up. A write call brings up
one delivery to each reader it matches, a delivery at most one call of a listener, and nothing else fills a queue. -/
namespace Databus

/-- A request begins at the moment 0, the first thing done after it at the moment 1, and so on. -/
structure TimedTask where
  task : Bus.Task
  since : Nat
  deriving DecidableEq, Repr

namespace Bus

def raised (moment : Nat) (tasks : List Task) : List TimedTask := tasks.map (⟨·, moment⟩)

theorem raisedTasks (moment : Nat) (tasks : List Task) : (raised moment tasks).map TimedTask.task = tasks := by
  rw [raised, List.map_map]
  exact List.map_id'' (fun _ => rfl) tasks

theorem memRaised {moment : Nat} {tasks : List Task} {d : TimedTask} :
    d ∈ raised moment tasks ↔ d.task ∈ tasks ∧ d.since = moment := by
  constructor
  · intro mem
    obtain ⟨t, there, rfl⟩ := List.mem_map.1 mem
    exact ⟨there, rfl⟩
  · rintro ⟨there, rfl⟩
    exact List.mem_map.2 ⟨d.task, there, rfl⟩

def timedTasks (b : Bus) (now : Nat) : List TimedTask → List TimedTask
  | [] => []
  | d :: rest => d :: timedTasks (d.task.step b).1 (now + 1) (raised now (d.task.step b).2 ++ rest)
termination_by stack => b.pressure (stack.map TimedTask.task)
decreasing_by
  rw [List.map_append, raisedTasks]
  exact stepShrinks b d.task _

def afterTasks (b : Bus) (done : List TimedTask) : Bus := done.foldl (fun b d => (d.task.step b).1) b

theorem timedTasksSettle (b : Bus) (now : Nat) (stack : List TimedTask) :
    b.afterTasks (b.timedTasks now stack) = b.settle (stack.map TimedTask.task) := by
  fun_induction timedTasks b now stack with
  | case1 b now => rw [List.map_nil, settle]; rfl
  | case2 b now d rest ih =>
    rw [afterTasks, List.foldl_cons, ← afterTasks, ih, List.map_append, raisedTasks, List.map_cons, settle]

theorem timedTasksFirst (b : Bus) (now : Nat) (d : TimedTask) (rest : List TimedTask) :
    [d.task] <+: (b.timedTasks now (d :: rest)).map TimedTask.task := by
  rw [timedTasks]
  exact List.prefix_append [d.task] _

theorem afterTasksSteady (done : List TimedTask) (b : Bus) : Steady b (b.afterTasks done) := by
  induction done generalizing b with
  | nil => exact .refl b
  | cons d rest ih => exact (stepSteady b d.task).trans (ih _)

theorem afterTasksNext (b : Bus) (done : List TimedTask) (d : TimedTask) :
    b.afterTasks (done ++ [d]) = (d.task.step (b.afterTasks done)).1 := by
  rw [afterTasks, List.foldl_append]
  rfl

variable {b : Bus} {now : Nat} {stack before after : List TimedTask} {d : TimedTask}

theorem timedTasksHead (split : b.timedTasks now stack = d :: after) : ∃ rest, stack = d :: rest ∧
    (d.task.step b).1.timedTasks (now + 1) (raised now (d.task.step b).2 ++ rest) = after := by
  cases stack with
  | nil => simp [timedTasks] at split
  | cons e rest =>
    rw [timedTasks] at split
    obtain ⟨rfl, tail⟩ := List.cons.inj split
    exact ⟨rest, rfl, tail⟩

theorem timedTasksResume (old : ∀ e ∈ stack, e.since < now) (split : b.timedTasks now stack = before ++ d :: after) :
    ∃ rest, (∀ e ∈ before ++ d :: rest, e.since < now + before.length) ∧
      after = (b.afterTasks (before ++ [d])).timedTasks (now + before.length + 1)
        (raised (now + before.length) (d.task.step (b.afterTasks before)).2 ++ rest) := by
  induction before generalizing b now stack with
  | nil =>
    obtain ⟨rest, rfl, rfl⟩ := timedTasksHead split
    exact ⟨rest, old, rfl⟩
  | cons e before ih =>
    obtain ⟨rest, rfl, tail⟩ := timedTasksHead split
    have recent : ∀ f ∈ raised now (e.task.step b).2 ++ rest, f.since < now + 1 := fun f mem => by
      rcases List.mem_append.1 mem with new | mem
      · exact (memRaised.1 new).2 ▸ Nat.lt_succ_self now
      · exact Nat.lt_succ_of_lt (old f (List.mem_cons_of_mem _ mem))
    obtain ⟨rest', below, eq⟩ := ih recent tail
    have length : now + 1 + before.length = now + (e :: before).length := by
      rw [List.length_cons]
      omega
    rw [length] at below eq
    refine ⟨rest', fun f mem => ?_, eq⟩
    rcases List.mem_cons.1 mem with rfl | mem
    · exact Nat.lt_add_right _ (old f List.mem_cons_self)
    · exact below f mem

theorem timedTasksPast {m : Nat} (past : m < now) :
    (b.timedTasks now stack).filter (·.since = m) = stack.filter (·.since = m) := by
  fun_induction timedTasks b now stack with
  | case1 b now => rfl
  | case2 b now d rest ih =>
    have none : (raised now (d.task.step b).2).filter (·.since = m) = [] :=
      List.filter_eq_nil_iff.2 fun e mem => by
        rw [(memRaised.1 mem).2]
        simpa using Nat.ne_of_gt past
    have later := ih (Nat.lt_succ_of_lt past)
    rw [List.filter_append, none, List.nil_append] at later
    rw [List.filter_cons, List.filter_cons, later]

theorem timedTasksBring (old : ∀ e ∈ stack, e.since < now) (split : b.timedTasks now stack = before ++ d :: after) :
    (b.timedTasks now stack).filter (·.since = now + before.length) =
      raised (now + before.length) (d.task.step (b.afterTasks before)).2 := by
  obtain ⟨rest, below, eq⟩ := timedTasksResume old split
  have absent {l : List TimedTask} (sub : ∀ e ∈ l, e ∈ before ++ d :: rest) :
      l.filter (·.since = now + before.length) = [] :=
    List.filter_eq_nil_iff.2 fun e mem => by simpa using Nat.ne_of_lt (below e (sub e mem))
  have first : (before ++ [d]).filter (·.since = now + before.length) = [] := absent fun e mem => by
    rcases List.mem_append.1 mem with earlier | now
    · exact List.mem_append_left _ earlier
    · exact List.mem_append_right _ (List.mem_cons.2 (.inl (List.mem_singleton.1 now)))
  have last : rest.filter (·.since = now + before.length) = [] := absent fun e mem =>
    List.mem_append_right _ (List.mem_cons_of_mem _ mem)
  rw [split, List.append_cons, List.filter_append, first, List.nil_append, eq, timedTasksPast (Nat.lt_succ_self _),
    List.filter_append, last, List.append_nil]
  exact List.filter_eq_self.2 fun e mem => decide_eq_true (memRaised.1 mem).2

theorem timedTasksDue (split : b.timedTasks now stack = before ++ d :: after) :
    d ∈ stack ∨ ∃ earlier e later, before = earlier ++ e :: later ∧ d.since = now + earlier.length ∧
      d.task ∈ (e.task.step (b.afterTasks earlier)).2 := by
  induction before generalizing b now stack with
  | nil =>
    obtain ⟨rest, rfl, _⟩ := timedTasksHead split
    exact .inl List.mem_cons_self
  | cons e before ih =>
    obtain ⟨rest, rfl, tail⟩ := timedTasksHead split
    rcases ih tail with due | ⟨earlier, f, later, rfl, since, brought⟩
    · rcases List.mem_append.1 due with new | due
      · exact .inr ⟨[], e, before, rfl, (memRaised.1 new).2, (memRaised.1 new).1⟩
      · exact .inl (List.mem_cons_of_mem _ due)
    · refine .inr ⟨e :: earlier, f, later, rfl, ?_, brought⟩
      rw [since, List.length_cons]
      omega

/-! ### What one thing brings up -/

def writeNotices (b : Bus) (w : InstanceHandle) (payload : Octets) : List Notice :=
  match b.route w payload with
  | .ok news => news
  | .error _ => []

def Task.writes? (b : Bus) : Task → Option (InstanceHandle × Octets)
  | .act _ l (.emit w payload) => if b.budget l = 0 then none else some (w, payload)
  | .act r l (.forward (some w)) =>
    if b.budget l = 0 then none else (b.take r).1.map fun s => (w, s.payload.getD [])
  | _ => none

theorem writeNoticesSame {b b' : Bus} (h : OnlyTraffic b b') : b'.writeNotices = b.writeNotices := by
  funext w payload
  simp only [writeNotices, route, h.writers, h.endpoints]

theorem writeFromWriteNotices (b : Bus) (l : ListenerId) (w : InstanceHandle) (payload : Octets) :
    (b.writeFrom l w payload).2 = (b.writeNotices w payload).map .deliver := by
  unfold writeFrom writeNotices
  cases b.route w payload <;> rfl

theorem spendTakes (b : Bus) (l : ListenerId) (r : InstanceHandle) : ((b.spend l).take r).1 = (b.take r).1 := by
  have same : (b.spend l).readers = b.readers := rfl
  unfold take
  rw [same]
  cases b.readers.get? r with
  | none => rfl
  | some x => cases taken : x.mailbox.take? <;> simp only [taken]

theorem actBrings (b : Bus) (r : InstanceHandle) (l : ListenerId) (a : Action) :
    (b.act r l a).2 = match (Task.act r l a).writes? b with
      | some (w, payload) => (b.writeNotices w payload).map .deliver
      | none => [] := by
  cases a with
  | noteUnread =>
    unfold act
    cases b.readers.get? r <;> rfl
  | install k => rfl
  | takeOne =>
    unfold act
    dsimp only
    split <;> rfl
  | takeAll => rfl
  | emit w payload =>
    simp only [act, Task.writes?]
    split
    · rfl
    · rw [writeFromWriteNotices]
      rfl
  | forward writer =>
    have taken := spendTakes b l r
    have frame := takeFrame (b.spend l) r
    simp only [act]
    split
    · cases writer <;> simp only [Task.writes?, if_pos ‹_›]
    · split
      · rename_i funded _ s b' eq
        rw [eq] at taken frame
        cases writer with
        | none => rfl
        | some w =>
          have same : (b'.note l (.payload s.payload)).writeNotices = b.writeNotices :=
            writeNoticesSame (OnlyTraffic.trans (b := b.spend l) rfl (frame.trans (noteFrame b' l _)))
          simp only [Task.writes?, if_neg funded, ← taken, Option.map_some]
          rw [writeFromWriteNotices, same]
      · rename_i funded _ b' eq
        rw [eq] at taken
        cases writer <;> simp only [Task.writes?, if_neg funded, ← taken, Option.map_none]

theorem deliverBrings (b : Bus) (n : Notice) : (Task.step b (.deliver n)).2 =
    ((b.readers.get? n.reader).bind Reader.listener).toList.map (.call n.reader) := by
  unfold Task.step
  dsimp only
  cases found : b.readers.get? n.reader with
  | none =>
    have none := (enqueueKept (z := .all) (b := b) (n := n) trivial).steady.readers n.reader
    rw [found, Option.map_none, Option.map_eq_none_iff] at none
    rw [none]
    rfl
  | some x =>
    rw [enqueueMailbox found, if_pos rfl]
    cases listens : x.listener <;> simp [listens]

theorem stepBrings (b : Bus) (t t' : Task) (mem : t' ∈ (t.step b).2) :
    match t' with
    | .deliver _ => ∃ w payload, t.writes? b = some (w, payload)
    | .call r l => ∃ n x, t = .deliver n ∧ n.reader = r ∧ b.readers.get? r = some x ∧ x.listener = some l
    | .act _ _ _ => True := by
  cases t with
  | deliver n =>
    rw [deliverBrings] at mem
    obtain ⟨l, listens, rfl⟩ := List.mem_map.1 mem
    obtain ⟨x, found, own⟩ := Option.bind_eq_some_iff.1 (Option.mem_toList.1 listens)
    exact ⟨n, x, rfl, rfl, found, own⟩
  | call r l =>
    unfold Task.step at mem
    dsimp only at mem
    split at mem
    · cases mem
    · obtain ⟨a, _, rfl⟩ := List.mem_map.1 mem
      trivial
    · cases mem
  | act r l a =>
    have brings := actBrings b r l a
    cases call : (Task.act r l a).writes? b with
    | none =>
      rw [call] at brings
      rw [Task.step, brings] at mem
      cases mem
    | some p =>
      rw [call] at brings
      rw [Task.step, brings] at mem
      obtain ⟨n, _, rfl⟩ := List.mem_map.1 mem
      exact ⟨p.1, p.2, rfl⟩

theorem writesStep {t : Task} {w : InstanceHandle} {payload : Octets} (call : t.writes? b = some (w, payload)) :
    (t.step b).2 = (b.writeNotices w payload).map .deliver := by
  cases t with
  | act r l a =>
    have brings := actBrings b r l a
    rw [call] at brings
    exact brings
  | deliver | call => contradiction

/-! ### Who is registered -/

theorem subscriberThere (owned : b.Owned) (membersAgree : b.MembersAgree) {r : InstanceHandle} {e : Endpoint}
    (found : b.endpoints.get? r = some e) (side : e.side = .subscription) : ∃ z, b.readers.get? r = some z := by
  obtain ⟨p, x, g, y, _, _, _, _, entry⟩ := (owned.exact membersAgree r e).1 found
  have own := (entryOwner entry).1
  rw [side] at own
  simp only [Bus.entry, ← own] at entry
  obtain ⟨z, there, _⟩ := Option.map_eq_some_iff.1 entry
  exact ⟨z, there⟩

theorem runUnlisted (requests : List Request) {r : InstanceHandle} (used : r < b.nextHandle)
    (unlisted : b.endpoints.get? r = none) : (b.run requests).endpoints.get? r = none := by
  induction requests generalizing b with
  | nil => exact unlisted
  | cons q rest ih =>
    refine ih (Nat.lt_of_lt_of_le used (handlesGrow b q)) ?_
    cases found : (b.request q).endpoints.get? r with
    | none => rfl
    | some e =>
      rcases endpointNew found with before | ⟨new, _⟩
      · rw [unlisted] at before
        contradiction
      · exact absurd new (Nat.ne_of_lt used)

theorem memberUnlisted (membersAgree : b.MembersAgree) {domain : DomainId} (fits : domain ≤ maxDomainId)
    (after : List Request)
    (side : Side) : (b.run (.join domain :: after)).endpoints.get? ((b.newMember domain).inbox side) = none := by
  have fresh : b.nextHandle < (b.newMember domain).inbox side ∧ (b.newMember domain).inbox side < b.nextHandle + 3 := by
    cases side <;> simp only [newMember, Member.inbox] <;> lia
  refine runUnlisted after ?_ ?_
  · rw [(requestSteady b _).traffic.nextHandle, Request.openingJoin b fits]
    exact fresh.2
  · rw [requestEndpoints, Request.openingJoin b fits]
    change b.endpoints.get? _ = none
    cases found : b.endpoints.get? ((b.newMember domain).inbox side) with
    | none => rfl
    | some e => exact absurd (membersAgree.endpoints _ e found).1.1 (Nat.lt_asymm fresh.1)

end Bus

/-! ### One request -/

namespace Request
open Bus (Task copies)

variable {b x : Bus} {q : Request} {m : Nat} {w : InstanceHandle} {payload : Octets}

def timedTasks (b : Bus) (q : Request) : List TimedTask :=
  (q.opening b).1.timedTasks 1 (Bus.raised 0 ((q.opening b).2.map .deliver))

def stateAfter (b : Bus) (q : Request) (done : List TimedTask) : Bus := (q.opening b).1.afterTasks done

def brought (b : Bus) (q : Request) (m : Nat) : List Task := ((q.timedTasks b).filter (·.since = m)).map TimedTask.task

/-- At this moment of the request and in this state a write call is made: by the application, or by a listener. -/
inductive Writes (b : Bus) (q : Request) : Nat → Bus → InstanceHandle → Octets → Prop
  | asked {w : InstanceHandle} {payload : Octets} (own : q = .write w payload) : Writes b q 0 b w payload
  | made {before after : List TimedTask} {d : TimedTask} {w : InstanceHandle} {payload : Octets}
    (done : q.timedTasks b = before ++ d :: after) (call : d.task.writes? (q.stateAfter b before) = some (w, payload)) :
    Writes b q (before.length + 1) (q.stateAfter b before) w payload

theorem openingWrite (b : Bus) (w : InstanceHandle) (payload : Octets) :
    (Request.write w payload).opening b = (b, b.writeNotices w payload) := by
  simp only [opening, Bus.writeNotices]
  cases b.route w payload <;> rfl

theorem begunAtZero (b : Bus) (q : Request) :
    ∀ e ∈ Bus.raised 0 ((q.opening b).2.map .deliver), e.since < 1 := fun _ mem =>
  (Bus.memRaised.1 mem).2 ▸ Nat.zero_lt_one

theorem timedTasksBring {before after : List TimedTask} {d : TimedTask} (done : q.timedTasks b = before ++ d :: after) :
    q.brought b (before.length + 1) = (d.task.step (q.stateAfter b before)).2 := by
  have brings := Bus.timedTasksBring (begunAtZero b q) done
  rw [Nat.add_comm 1] at brings
  rw [brought, timedTasks, brings, Bus.raisedTasks]
  rfl

theorem timedTasksGoOn {before after : List TimedTask} {d : TimedTask} (done : q.timedTasks b = before ++ d :: after) :
    ∃ rest, after = (q.stateAfter b (before ++ [d])).timedTasks (before.length + 2)
      (Bus.raised (before.length + 1) (q.brought b (before.length + 1)) ++ rest) := by
  obtain ⟨rest, _, eq⟩ := Bus.timedTasksResume (begunAtZero b q) done
  rw [Nat.add_comm 1] at eq
  exact ⟨rest, timedTasksBring done ▸ eq⟩

theorem newsBrought (b : Bus) (q : Request) : q.brought b 0 = (q.opening b).2.map .deliver := by
  rw [brought, timedTasks, Bus.timedTasksPast Nat.zero_lt_one, List.filter_eq_self.2, Bus.raisedTasks]
  exact fun e mem => decide_eq_true (Bus.memRaised.1 mem).2

theorem Writes.steady (h : q.Writes b m x w payload) : Bus.Steady (q.opening b).1 x := by
  cases h with
  | asked own =>
    rw [own, openingWrite]
    exact .refl b
  | made => exact Bus.afterTasksSteady _ _

theorem Writes.brings (h : q.Writes b m x w payload) : q.brought b m = (x.writeNotices w payload).map .deliver := by
  cases h with
  | asked own => rw [newsBrought, own, openingWrite]
  | made done call => rw [timedTasksBring done, Bus.writesStep call]

structure Deliveries (b : Bus) (q : Request) : Prop where
  replayed : b.request q = q.closing b (q.stateAfter b (q.timedTasks b))
  granted : ∀ m x w payload y, q.Writes b m x w payload → x.writers.get? w = some y → y.deleted = false →
    payload.length ≤ y.maxPayload → (∃ x', x.write w payload = .ok x') ∧ (x.audience y).Pairwise (· < ·) ∧
      q.brought b m = (copies w payload (x.audience y)).map .deliver
  refused : ∀ m x w payload f, q.Writes b m x w payload → x.write w payload = .error f → q.brought b m = []
  delivered : ∀ before d after n, q.timedTasks b = before ++ d :: after → d.task = .deliver n →
    (∀ r z, (q.stateAfter b before).readers.get? r = some z → (q.stateAfter b (before ++ [d])).readers.get? r =
      some (if n.reader = r then { z with mailbox := z.mailbox.push z.history n.arrival } else z)) ∧
    q.brought b (before.length + 1) =
      (((q.stateAfter b before).readers.get? n.reader).bind Reader.listener).toList.map (.call n.reader) ∧
    q.brought b (before.length + 1) <+: after.map TimedTask.task ∧
    ((d.since = 0 ∧ n ∈ (q.opening b).2) ∨ ∃ x w payload, q.Writes b d.since x w payload)
  listened : ∀ before d after r l, q.timedTasks b = before ++ d :: after → d.task = .call r l →
    ∃ earlier e later n z, before = earlier ++ e :: later ∧ d.since = earlier.length + 1 ∧ e.task = .deliver n ∧
      n.reader = r ∧ (q.stateAfter b earlier).readers.get? r = some z ∧ z.listener = some l
  apart : ∀ before d after, q.timedTasks b = before ++ d :: after → (∀ n, d.task ≠ .deliver n) →
    ∀ r z, (q.stateAfter b before).readers.get? r = some z →
      ∃ z', (q.stateAfter b (before ++ [d])).readers.get? r = some z' ∧ z.Drawn z'

theorem deliveries (b : Bus) (q : Request) : q.Deliveries b where
  replayed := by
    rw [q.opens, stateAfter, timedTasks, Bus.timedTasksSettle, Bus.raisedTasks]
    rfl
  granted m x w payload y writes found alive fits := by
    refine ⟨⟨_, Bus.writeGranted found alive fits⟩, List.pairwise_map.2 (Table.sorted _), ?_⟩
    have writeNotices : x.writeNotices w payload = copies w payload (x.audience y) := by
      simp only [Bus.writeNotices, Bus.route, found, alive, Bool.false_eq_true, if_false, if_neg (Nat.not_lt.2 fits)]
      rfl
    rw [writes.brings, writeNotices]
  refused m x w payload f writes err := by
    have none : x.writeNotices w payload = [] := by
      unfold Bus.write at err
      unfold Bus.writeNotices
      cases routed : x.route w payload with
      | ok news => simp only [routed] at err; contradiction
      | error f' => rfl
    rw [writes.brings, none, List.map_nil]
  delivered before d after n done task := by
    have calls : q.brought b (before.length + 1) =
        (((q.stateAfter b before).readers.get? n.reader).bind Reader.listener).toList.map (.call n.reader) := by
      rw [timedTasksBring done, task, Bus.deliverBrings]
    refine ⟨fun r z found => ?_, calls, ?_, ?_⟩
    · rw [stateAfter, Bus.afterTasksNext, task, Bus.deliverEnqueues]
      exact Bus.enqueueMailbox found
    · obtain ⟨rest, eq⟩ := timedTasksGoOn done
      rw [eq, calls]
      cases ((q.stateAfter b before).readers.get? n.reader).bind Reader.listener with
      | none => exact List.nil_prefix
      | some l => exact Bus.timedTasksFirst _ _ ⟨.call n.reader l, _⟩ rest
    · rcases Bus.timedTasksDue done with due | ⟨earlier, e, later, rfl, since, brought⟩
      · obtain ⟨there, since⟩ := Bus.memRaised.1 due
        rw [task] at there
        obtain ⟨n', mem, same⟩ := List.mem_map.1 there
        cases same
        exact .inl ⟨since, mem⟩
      · rw [task] at brought
        obtain ⟨w, payload, call⟩ := Bus.stepBrings _ _ _ brought
        rw [since, Nat.add_comm]
        exact .inr ⟨_, w, payload, .made (done.trans (List.append_assoc earlier (e :: later) _)) call⟩
  listened before d after r l done task := by
    rcases Bus.timedTasksDue done with due | ⟨earlier, e, later, rfl, since, brought⟩
    · obtain ⟨there, _⟩ := Bus.memRaised.1 due
      rw [task] at there
      obtain ⟨n, _, same⟩ := List.mem_map.1 there
      contradiction
    · rw [task] at brought
      obtain ⟨n, z, delivers, reader, found, listens⟩ := Bus.stepBrings _ _ _ brought
      exact ⟨earlier, e, later, n, z, rfl, since.trans (Nat.add_comm ..), delivers, reader, found, listens⟩
  apart before d after done other r z found := by
    obtain ⟨z', there, drawn⟩ := Bus.affectsDrawn (Bus.stepAffects (q.stateAfter b before) other) found
    refine ⟨z', ?_, drawn⟩
    rw [stateAfter, Bus.afterTasksNext]
    exact there

end Request

namespace Bus

/-- Whatever a bus has been through, and whatever its listeners take, install or write meanwhile: a write that is
granted brings exactly one sample to each reader that is registered in the writer's domain for its topic and type, in
the order of their handles, and each calls the listener found at its reader, with the sample in its queue; none is a
reader that came with a participant. Only deliveries fill a queue, and a write that fails brings none. -/
theorem writesReach (requests : List Request) (q : Request) :
    let b := ({} : Bus).run requests
    q.Deliveries b ∧ ∀ m x w payload y, q.Writes b m x w payload → x.writers.get? w = some y → ∀ r ∈ x.audience y,
      (∃ z, x.readers.get? r = some z) ∧
      ∀ before domain after side, requests ++ [q] = before ++ .join domain :: after → domain ≤ maxDomainId →
        r ≠ ((({} : Bus).run before).newMember domain).inbox side := by
  intro b
  refine ⟨q.deliveries b, fun m x w payload y writes _ r mem => ?_⟩
  obtain ⟨e, listed, side, _⟩ := memAudience.1 mem
  have steady := writes.steady
  rw [steady.traffic.endpoints] at listed
  refine ⟨?_, fun before domain after side eq fits same => ?_⟩
  · have membersAgree : MembersAgree b := membersAgreeRun membersAgreeEmpty requests
    have registered : Registered b := registeredRun registeredEmpty membersAgreeEmpty requests
    have owned : Owned b := ownedRun ownedEmpty membersAgreeEmpty registeredEmpty requests
    obtain ⟨z, there⟩ := subscriberThere (ownedOpened owned membersAgree registered (q.opened b) (openingLosing b q))
      (membersAgreeOpened membersAgree (q.opened b)) listed side
    have kept := steady.readers r
    rw [there] at kept
    obtain ⟨z', found, _⟩ := Option.map_eq_some_iff.1 kept
    exact ⟨z', found⟩
  · have later : (({} : Bus).run (requests ++ [q])).endpoints.get? r = none := by
      rw [eq, runAppend, same]
      exact memberUnlisted (membersAgreeRun membersAgreeEmpty before) fits after side
    rw [runAppend] at later
    change (b.request q).endpoints.get? r = none at later
    rw [requestEndpoints, listed] at later
    contradiction

end Bus
end Databus
