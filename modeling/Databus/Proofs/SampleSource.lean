import Databus.Proofs.RequestMoves
import Databus.Proofs.WriteDeliveries

/-! What a sample tells of where it is from: the writer of the write call that brought it, or the endpoint that it
announces. No queue has a sample that was not delivered so, and trimming and taking leave it as it came. -/
namespace Databus

namespace Request

variable {b : Bus} {q : Request} {m : Nat} {d : TimedTask} {n : Bus.Notice}

inductive BroughtBy (b : Bus) (q : Request) (moment : Nat) (a : Arrival) : Prop
  | written {x : Bus} {w : InstanceHandle} {payload : Octets} (writes : q.Writes b moment x w payload)
    (own : a = ⟨InstanceHandle.nil, w, .alive, some payload⟩) : BroughtBy b q moment a
  | announced (first : moment = 0) (plain : q.isWrite = false) (own : a.publication = a.subject) :
    BroughtBy b q moment a

theorem writeNoticesMarked {w : InstanceHandle} {payload : Octets} (mem : n ∈ b.writeNotices w payload) :
    n.arrival = ⟨InstanceHandle.nil, w, .alive, some payload⟩ := by
  unfold Bus.writeNotices Bus.route at mem
  split at mem
  · rename_i news routed
    split at routed <;> try contradiction
    split at routed <;> try contradiction
    split at routed <;> try contradiction
    cases routed
    obtain ⟨r, _, rfl⟩ := List.mem_map.1 mem
    rfl
  · cases mem

theorem announceMarked {targets : List Member} {key : InstanceHandle} {e : Endpoint} {state : Liveness}
    (mem : n ∈ Bus.announce targets key e state) : n.arrival.publication = n.arrival.subject := by
  obtain ⟨_, _, rfl⟩ := List.mem_map.1 mem
  rfl

theorem withdrawalMarked {k : InstanceHandle} (mem : n ∈ (b.withdrawal k).2) :
    n.arrival.publication = n.arrival.subject := by
  unfold Bus.withdrawal at mem
  split at mem
  · exact announceMarked mem
  · cases mem

theorem newsMarked {b' : Bus} {news : List Bus.Notice} (opened : q.Opened b b' news) (plain : q.isWrite = false)
    (mem : n ∈ news) : n.arrival.publication = n.arrival.subject := by
  cases opened with
  | joined | left =>
    obtain ⟨_, _, mem⟩ := List.mem_flatMap.1 mem
    exact announceMarked mem
  | writer | reader => exact announceMarked mem
  | unwritten | unread => exact withdrawalMarked mem
  | sent => contradiction
  | _ => cases mem

theorem deliveriesMarked (done : d ∈ q.timedTasks b) (task : d.task = .deliver n) :
    q.BroughtBy b d.since n.arrival := by
  obtain ⟨before, after, split⟩ := List.append_of_mem done
  rcases ((q.deliveries b).delivered before d after n split task).2.2.2 with ⟨since, due⟩ | ⟨x, w, payload, writes⟩
  · cases plain : q.isWrite with
    | false => exact .announced since plain (newsMarked (q.opened b) plain due)
    | true =>
      cases q with
      | write w payload =>
        rw [openingWrite] at due
        exact .written (since.symm ▸ Writes.asked rfl) (writeNoticesMarked due)
      | _ => contradiction
  · have brought : d.task ∈ q.brought b d.since :=
      List.mem_map_of_mem (List.mem_filter.2 ⟨done, decide_eq_true rfl⟩)
    rw [writes.brings, task] at brought
    obtain ⟨_, letter, same⟩ := List.mem_map.1 brought
    cases same
    exact .written writes (writeNoticesMarked letter)

theorem BroughtBy.asked {w : InstanceHandle} {payload : Octets} {a : Arrival}
    (broughtBy : (write w payload).BroughtBy b 0 a) : a.publication = w := by
  cases broughtBy with
  | written writes own =>
    cases writes with
    | asked same =>
      cases same
      rw [own]
  | announced _ plain => cases plain

end Request

/-! ### What queues hold -/

def DeliveryLog.of (done : List TimedTask) : DeliveryLog := ⟨done.length, done.map fun d => ⟨d.task, some d.since, []⟩⟩

def TimedTask.arrivals (r : InstanceHandle) (done : List TimedTask) : List Arrival := done.flatMap (·.task.arrivals r)

theorem DeliveryLog.ofArrivals (done : List TimedTask) (r : InstanceHandle) :
    (of done).arrivals r = TimedTask.arrivals r done :=
  List.flatMap_map ..

theorem DeliveryLog.ofNext (past : List TimedTask) (d : TimedTask) :
    (of past).enter ⟨d.task, some d.since, []⟩ = of (past ++ [d]) := by
  simp only [enter, of, List.length_append, List.length_singleton, List.map_append, List.map_cons, List.map_nil]

namespace Bus

variable {b b' : Bus} {past : List TimedTask}

def located (b : Bus) : List Request → List (Bus × Request)
  | [] => []
  | q :: rest => (b, q) :: located (b.request q) rest

def performed (b : Bus) (requests : List Request) : List TimedTask :=
  (b.located requests).flatMap fun p => p.2.timedTasks p.1

theorem performedFirst (b : Bus) (q : Request) (rest : List Request) :
    b.performed (q :: rest) = q.timedTasks b ++ (b.request q).performed rest := List.flatMap_cons

theorem afterTasksReceived (h : Received b (.of past)) (done : List TimedTask) :
    Received (b.afterTasks done) (.of (past ++ done)) := by
  induction done generalizing b past with
  | nil => exact (List.append_nil past).symm ▸ h
  | cons d rest ih =>
    have next := stepReceived h ⟨d.task, some d.since, []⟩
    rw [DeliveryLog.ofNext] at next
    exact List.append_cons past d rest ▸ ih next

theorem performedReceived (membersAgree : MembersAgree b) (h : Received b (.of past)) (requests : List Request) :
    Received (b.run requests) (.of (past ++ b.performed requests)) := by
  induction requests generalizing b past with
  | nil => exact (List.append_nil past).symm ▸ h
  | cons q rest ih =>
    have opened : Received (q.opening b).1 (.of past) := h.drawn fun r x' found =>
      openedReader membersAgree (q.opened b) found
    have closed := closingReceived (b := b) (afterTasksReceived opened (q.timedTasks b)) q
    rw [← Request.stateAfter, ← (q.deliveries b).replayed] at closed
    rw [runFirst, performedFirst, ← List.append_assoc]
    exact ih (membersAgreeRequest membersAgree q) closed

theorem Received.waits {l : DeliveryLog} (h : Received b l) (waits : OnlyWaits b b') : Received b' l := by
  unfold Received
  rw [waits.readers]
  exact h

theorem takeFrontmost {r : InstanceHandle} {x : Reader} (found : b.readers.get? r = some x) :
    (b.take r).1 = x.mailbox.samples.head? := by
  cases waiting : x.mailbox.samples with
  | nil => simp only [take, found, Mailbox.take?, waiting, List.head?_nil]
  | cons s rest => exact (takeFirst found (by rw [Mailbox.take?, waiting])).1

end Bus
end Databus
