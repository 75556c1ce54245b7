import Databus.Proofs.ReaderFrame

/-! Bounded queues of payloads, and readers that hold exactly what is queued. A write appends to each reader that
its writer matches, once; a take removes the front. -/
namespace Databus

structure Queue where
  capacity : Nat
  content : List Octets := []
  deriving DecidableEq, Repr

namespace Queue

def append (q : Queue) (payload : Octets) : Queue :=
  { q with content :=
      (if q.content.length < q.capacity then q.content else q.content.tail) ++ [payload] }

def advance (q : Queue) : Queue := { q with content := q.content.tail }

end Queue

structure Reader.Mirrors (y : Reader) (q : Queue) : Prop where
  unserved : y.listener = none
  limit : y.history.limit = some q.capacity
  content : y.mailbox.samples.map Sample.payload = q.content.map some
  fits : q.content.length ≤ q.capacity

namespace Reader.Mirrors

variable {y : Reader} {q : Queue}

theorem length (h : y.Mirrors q) : y.mailbox.samples.length = q.content.length := by
  have same := congrArg List.length h.content
  rwa [List.length_map, List.length_map] at same

theorem push (h : y.Mirrors q) {a : Arrival} {payload : Octets} (carries : a.payload = some payload) :
    ({ y with mailbox := y.mailbox.push y.history a } : Reader).Mirrors (q.append payload) := by
  have positive := History.limitPositive h.limit
  have fits := h.fits
  have overflow : y.mailbox.overflow y.history = q.content.length + 1 - q.capacity := by
    rw [Mailbox.overflow, h.limit, ← h.length]
  have stamped : (y.mailbox.stamp a).payload = some payload := carries
  refine ⟨h.unserved, h.limit, ?_, ?_⟩
  · simp only [Mailbox.push, Queue.append, List.map_append, List.map_drop, h.content, overflow,
      List.map_cons, List.map_nil, stamped]
    split
    · rename_i room
      rw [Nat.sub_eq_zero_of_le room, List.drop_zero]
    · have full : q.content.length + 1 - q.capacity = 1 := by omega
      rw [full, List.drop_one, List.map_tail]
  · simp only [Queue.append, List.length_append, List.length_singleton]
    split
    · assumption
    · rw [List.length_tail]
      omega

theorem front (h : y.Mirrors q) {payload : Octets} {rest : List Octets}
    (there : q.content = payload :: rest) : ∃ s box, y.mailbox.take? = some (s, box) ∧
      s.payload = some payload ∧ ({ y with mailbox := box } : Reader).Mirrors q.advance := by
  have content := h.content
  have fits := h.fits
  rw [there] at content fits
  obtain ⟨s, samples, eq, first, others⟩ := List.map_eq_cons_iff.1 content
  refine ⟨s, { y.mailbox with samples := samples }, by rw [Mailbox.take?, eq], first, h.unserved, h.limit,
    ?_, ?_⟩
  · rw [Queue.advance, there]
    exact others
  · rw [Queue.advance, there]
    exact Nat.le_of_succ_le fits

theorem empty (h : y.Mirrors q) (none : q.content = []) : y.mailbox.take? = .none := by
  have content := h.content
  rw [none, List.map_nil, List.map_eq_nil_iff] at content
  rw [Mailbox.take?, content]

end Reader.Mirrors

namespace Bus

variable {b b' : Bus} {r : InstanceHandle} {y : Reader} {q : Queue}

/-! ### Taking -/

theorem takeEmpty (found : b.readers.get? r = some y) (mirrors : y.Mirrors q) (none : q.content = []) :
    (b.take r).1 = .none ∧ (b.take r).2.readers = b.readers := by
  simp only [take, found, mirrors.empty none]
  exact ⟨trivial, (deactivateFrame b _ _).readers⟩

theorem takeFront (found : b.readers.get? r = some y) (mirrors : y.Mirrors q) {payload : Octets}
    {rest : List Octets} (there : q.content = payload :: rest) :
    ∃ s y', (b.take r).1 = some s ∧ s.payload = some payload ∧
      (b.take r).2.readers.get? r = some y' ∧ y'.Mirrors q.advance := by
  obtain ⟨s, box, taken, carries, advanced⟩ := mirrors.front there
  obtain ⟨first, last⟩ := takeFirst found taken
  exact ⟨s, { y with mailbox := box }, first, carries, last, advanced⟩

/-! ### Delivering -/

theorem deliverUnserved {n : Notice} (found : b.readers.get? n.reader = some y) (unserved : y.listener = none) :
    b.deliver [n] = b.enqueue n := by
  have there := enqueueMailbox (n := n) found
  rw [if_pos rfl] at there
  have step : Task.step b (.deliver n) = (b.enqueue n, []) := by
    obtain ⟨participant, topic, type, history, condition, mailbox, listener⟩ := y
    cases unserved
    simp only [Task.step, there]
  simp only [deliver, List.map_cons, List.map_nil, settle, step, List.append_nil]

def copies (w : InstanceHandle) (payload : Octets) (readers : List InstanceHandle) : List Notice :=
  readers.map fun r => ⟨r, InstanceHandle.nil, w, .alive, some payload⟩

theorem copiesElsewhere (silent : b.Silent) (w : InstanceHandle) (payload : Octets)
    {readers : List InstanceHandle} (other : r ∉ readers) :
    (b.deliver (copies w payload readers)).readers.get? r = b.readers.get? r := by
  refine deliverElsewhere silent fun n mem => ?_
  obtain ⟨r', there, rfl⟩ := List.mem_map.1 mem
  exact fun same => other (same ▸ there)

theorem copiesExact (silent : b.Silent) (w : InstanceHandle) (payload : Octets) {readers : List InstanceHandle}
    (once : readers.Nodup) (found : b.readers.get? r = some y) (unserved : y.listener = none) :
    (b.deliver (copies w payload readers)).readers.get? r = some (if r ∈ readers then
      { y with mailbox := y.mailbox.push y.history ⟨InstanceHandle.nil, w, .alive, some payload⟩ } else y) := by
  by_cases own : r ∈ readers
  · obtain ⟨before, later, rfl⟩ := List.append_of_mem own
    have away : r ∉ before ∧ r ∉ later := by
      rw [List.nodup_append, List.nodup_cons] at once
      exact ⟨fun mem => once.2.2 r mem r List.mem_cons_self rfl, once.2.1.1⟩
    have first := copiesElsewhere silent w payload away.1
    have silent' : (b.deliver (copies w payload before)).Silent := silent.steady (deliverSteady _ _)
    have pushed := enqueueMailbox (n := ⟨r, InstanceHandle.nil, w, .alive, some payload⟩) (first.trans found)
    rw [if_pos rfl, ← deliverUnserved (n := ⟨r, InstanceHandle.nil, w, .alive, some payload⟩) (first.trans found)
      unserved]
      at pushed
    have split : b.deliver (copies w payload (before ++ r :: later)) =
        ((b.deliver (copies w payload before)).deliver [⟨r, InstanceHandle.nil, w, .alive, some payload⟩]).deliver
          (copies w payload later) := by
      rw [← deliverAppend, ← deliverAppend]
      simp only [copies, List.map_append, List.map_cons, List.singleton_append]
    rw [split, copiesElsewhere (silent'.steady (deliverSteady _ _)) w payload away.2, pushed, if_pos own]
  · rw [copiesElsewhere silent w payload own, found, if_neg own]

theorem copiesMirrored (silent : b.Silent) (w : InstanceHandle) (payload : Octets)
    {readers : List InstanceHandle} (once : readers.Nodup) (found : b.readers.get? r = some y)
    (mirrors : y.Mirrors q) : ∃ y', (b.deliver (copies w payload readers)).readers.get? r = some y' ∧
      y'.Mirrors (if r ∈ readers then q.append payload else q) := by
  refine ⟨_, copiesExact silent w payload once found mirrors.unserved, ?_⟩
  split
  · exact mirrors.push rfl
  · exact mirrors

/-! ### Writing -/

def audience (b : Bus) (x : Writer) : List InstanceHandle :=
  (b.endpoints.filter fun _ e =>
    e.side = .subscription && e.domain = x.domain && e.matchesTopic x.topic x.type).keys

theorem memAudience {x : Writer} : r ∈ b.audience x ↔ ∃ e, b.endpoints.get? r = some e ∧
    e.side = .subscription ∧ e.domain = x.domain ∧ e.topic = x.topic ∧ e.type = x.type := by
  rw [audience, Table.memKeys, Table.getFilter, Option.isSome_iff_exists]
  simp only [Option.filter_eq_some_iff, Bool.and_eq_true, decide_eq_true_eq, Endpoint.matchesTopic,
    and_assoc]

theorem writeGranted {w : InstanceHandle} {x : Writer} (writer : b.writers.get? w = some x)
    (alive : x.deleted = false) {payload : Octets} (fits : payload.length ≤ x.maxPayload) :
    b.write w payload = .ok (b.deliver (copies w payload (b.audience x))) := by
  simp only [write, route, writer, alive, Bool.false_eq_true, if_false, if_neg (Nat.not_lt.2 fits)]
  rfl

theorem writeRefused {w : InstanceHandle} {x : Writer} (writer : b.writers.get? w = some x)
    (alive : x.deleted = false) {payload : Octets} (large : x.maxPayload < payload.length) :
    b.write w payload = .error (.payloadTooLarge payload.length x.maxPayload) := by
  simp only [write, route, writer, alive, Bool.false_eq_true, if_false, if_pos large]

theorem writeMirrored (silent : b.Silent) (w : InstanceHandle) (x : Writer) (payload : Octets)
    (found : b.readers.get? r = some y) (mirrors : y.Mirrors q) :
    ∃ y', (b.deliver (copies w payload (b.audience x))).readers.get? r = some y' ∧
      y'.Mirrors (if r ∈ b.audience x then q.append payload else q) :=
  copiesMirrored silent w payload (Table.keysNodup _) found mirrors

end Bus
end Databus
