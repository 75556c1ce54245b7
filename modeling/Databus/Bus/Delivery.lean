import Databus.Bus.Signalling

/-!
Delivery: a sample reaches its reader, and the listener found there is called before the next sample goes
out. What a listener writes is delivered first, so work is a stack; budgets make it finite.
-/
namespace Databus.Bus

def take (b : Bus) (reader : InstanceHandle) : Option Sample × Bus :=
  match b.readers.get? reader with
  | none => (none, b)
  | some r =>
    match r.mailbox.take? with
    | none => (none, b.deactivate r.condition .dataAvailable)
    | some (s, box) =>
      let b := b.modifyReader reader ({ · with mailbox := box })
      (some s, if box.samples.isEmpty then b.deactivate r.condition .dataAvailable else b)

def takeAll (b : Bus) (reader : InstanceHandle) : List Sample × Bus :=
  match b.readers.get? reader with
  | none => ([], b)
  | some r =>
    let b := b.modifyReader reader fun r => { r with mailbox := r.mailbox.empty }
    (r.mailbox.samples, b.deactivate r.condition .dataAvailable)

def drain (b : Bus) (side : Side) (graph : GraphId) (guard : ConditionId) (reader : InstanceHandle) :
    Nat × Bus :=
  let (samples, b) := b.takeAll reader
  match b.graphs.get? graph with
  | none => (0, b)
  | some g =>
    let (g, changes) := g.absorb side samples
    let b := b.setGraph graph g
    (changes, if 0 < changes ∧ b.isReachable guard then b.setGuard guard true else b)

structure Notice where
  reader : InstanceHandle
  arrival : Arrival
  deriving DecidableEq, Repr

def enqueue (b : Bus) (n : Notice) : Bus :=
  match b.readers.get? n.reader with
  | none => b
  | some r =>
    let b := b.modifyReader n.reader fun r =>
      { r with mailbox := r.mailbox.push r.history n.arrival }
    let b := (List.replicate (r.mailbox.overflow r.history) ()).foldl
      (fun b _ => b.activate r.condition .sampleLost) b
    b.activate r.condition .dataAvailable

def route (b : Bus) (writer : InstanceHandle) (payload : Octets) : Except Fault (List Notice) :=
  match b.writers.get? writer with
  | none => .error .alreadyDeleted
  | some w =>
    if w.deleted then .error .alreadyDeleted
    else if w.maxPayload < payload.length then
      .error (.payloadTooLarge payload.length w.maxPayload)
    else
      let readers := b.endpoints.filter fun _ e =>
        e.side = .subscription && e.domain = w.domain && e.matchesTopic w.topic w.type
      .ok (readers.keys.map fun r => ⟨r, InstanceHandle.nil, writer, .alive, some payload⟩)

inductive Task
  | deliver (notice : Notice)
  | call (reader : InstanceHandle) (listener : ListenerId)
  | act (reader : InstanceHandle) (listener : ListenerId) (action : Action)
  deriving DecidableEq, Repr

def budget (b : Bus) (listener : ListenerId) : Nat :=
  match b.listeners.get? listener with
  | some (.scripted s) => s.budget
  | _ => 0

def spend (b : Bus) (listener : ListenerId) : Bus :=
  b.modifyScript listener fun s => { s with budget := s.budget - 1 }

def writeFrom (b : Bus) (listener : ListenerId) (writer : InstanceHandle) (payload : Octets) :
    Bus × List Task :=
  match b.route writer payload with
  | .ok notices => (b, notices.map .deliver)
  | .error f => (b.note listener (.refused f), [])

def act (b : Bus) (reader : InstanceHandle) (listener : ListenerId) : Action → Bus × List Task
  | .noteUnread =>
    match b.readers.get? reader with
    | some r => (b.note listener (.unread r.mailbox.unread), [])
    | none => (b, [])
  | .install l => (b.setListener reader l, [])
  | .takeOne =>
    match b.take reader with
    | (some s, b) => (b.note listener (.payload s.payload), [])
    | (none, b) => (b, [])
  | .takeAll =>
    let (samples, b) := b.takeAll reader
    (samples.foldl (fun b s => b.note listener (.payload s.payload)) b, [])
  | .forward writer =>
    if b.budget listener = 0 then (b.note listener .exhausted, [])
    else
      match (b.spend listener).take reader with
      | (some s, b) =>
        let b := b.note listener (.payload s.payload)
        match writer with
        | some w => b.writeFrom listener w (s.payload.getD [])
        | none => (b, [])
      | (none, b) => (b, [])
  | .emit writer payload =>
    if b.budget listener = 0 then (b.note listener .exhausted, [])
    else (b.spend listener).writeFrom listener writer payload

def Task.step (b : Bus) : Task → Bus × List Task
  | .deliver n =>
    let b := b.enqueue n
    match b.readers.get? n.reader with
    | some { listener := some l, .. } => (b, [.call n.reader l])
    | _ => (b, [])
  | .call reader listener =>
    match b.listeners.get? listener with
    | some (.discovery side graph guard) => ((b.drain side graph guard reader).2, [])
    | some (.scripted s) =>
      (b.modifyScript listener Script.called, s.current.map (.act reader listener))
    | none => (b, [])
  | .act reader listener action => b.act reader listener action

/-! ### What deliveries leave alone -/

def OnlyTraffic (b b' : Bus) : Prop :=
  { b' with readers := b.readers, conditions := b.conditions, waitSets := b.waitSets,
            signals := b.signals, listeners := b.listeners, graphs := b.graphs } = b

namespace OnlyTraffic

theorem same {b b' : Bus} (h : OnlyTraffic b b') :
    { b' with readers := b.readers, conditions := b.conditions, waitSets := b.waitSets,
              signals := b.signals, listeners := b.listeners, graphs := b.graphs } = b := h

theorem refl (b : Bus) : OnlyTraffic b b := rfl

theorem trans {a b c : Bus} (h : OnlyTraffic a b) (h' : OnlyTraffic b c) : OnlyTraffic a c := by
  unfold OnlyTraffic at *
  rw [← h]
  rw [← h']

theorem ofSignals {b b' : Bus} (h : OnlySignals b b') : OnlyTraffic b b' := by
  unfold OnlyTraffic
  unfold OnlySignals at h
  rw [← h]

theorem endpoints {b b' : Bus} (h : OnlyTraffic b b') : b'.endpoints = b.endpoints := by
  have e := congrArg Bus.endpoints h.same
  exact e

theorem writers {b b' : Bus} (h : OnlyTraffic b b') : b'.writers = b.writers := by
  have e := congrArg Bus.writers h.same
  exact e

end OnlyTraffic

theorem noteFrame (b : Bus) (listener : ListenerId) (n : Note) : OnlyTraffic b (b.note listener n) :=
  rfl

theorem notesFrame (listener : ListenerId) (samples : List Sample) (b : Bus) :
    OnlyTraffic b (samples.foldl (fun b s => b.note listener (.payload s.payload)) b) := by
  induction samples generalizing b with
  | nil => exact .refl b
  | cons s rest ih => exact (noteFrame b listener _).trans (ih _)

theorem takeFrame (b : Bus) (reader : InstanceHandle) : OnlyTraffic b (b.take reader).2 := by
  unfold take
  cases b.readers.get? reader with
  | none => exact .refl b
  | some r =>
    dsimp only
    cases r.mailbox.take? with
    | none => exact .ofSignals (deactivateFrame b _ _)
    | some p =>
      dsimp only
      split
      · exact OnlyTraffic.trans
          (b := b.modifyReader reader ({ · with mailbox := p.2 })) rfl
          (.ofSignals (deactivateFrame _ _ _))
      · rfl

theorem takeAllFrame (b : Bus) (reader : InstanceHandle) : OnlyTraffic b (b.takeAll reader).2 := by
  unfold takeAll
  cases b.readers.get? reader with
  | none => exact .refl b
  | some r =>
    exact OnlyTraffic.trans
      (b := b.modifyReader reader fun r => { r with mailbox := r.mailbox.empty }) rfl
      (.ofSignals (deactivateFrame _ _ _))

theorem drainFrame (b : Bus) (side : Side) (graph : GraphId) (guard : ConditionId)
    (reader : InstanceHandle) : OnlyTraffic b (b.drain side graph guard reader).2 := by
  have taken := takeAllFrame b reader
  unfold drain
  dsimp only
  split
  · exact taken
  · rename_i g found
    refine taken.trans (OnlyTraffic.trans
      (b := (b.takeAll reader).2.setGraph graph (g.absorb side (b.takeAll reader).1).1) rfl ?_)
    dsimp only
    split
    · exact .ofSignals (setGuardFrame _ _ _)
    · exact .refl _

theorem activationsFrame (c : ConditionId) (mask : StatusMask) (units : List Unit) (b : Bus) :
    OnlyTraffic b (units.foldl (fun b _ => b.activate c mask) b) := by
  induction units generalizing b with
  | nil => exact .refl b
  | cons u rest ih => exact (OnlyTraffic.ofSignals (activateFrame b c mask)).trans (ih _)

theorem enqueueFrame (b : Bus) (n : Notice) : OnlyTraffic b (b.enqueue n) := by
  unfold enqueue
  cases b.readers.get? n.reader with
  | none => exact .refl b
  | some r =>
    refine OnlyTraffic.trans (b := b.modifyReader n.reader fun r =>
      { r with mailbox := r.mailbox.push r.history n.arrival }) rfl ?_
    exact (activationsFrame _ _ _ _).trans (.ofSignals (activateFrame _ _ _))

theorem writeFromFrame (b : Bus) (listener : ListenerId) (writer : InstanceHandle)
    (payload : Octets) : OnlyTraffic b (b.writeFrom listener writer payload).1 := by
  unfold writeFrom
  cases b.route writer payload with
  | ok notices => exact .refl b
  | error f => exact noteFrame b listener _

theorem actFrame (b : Bus) (reader : InstanceHandle) (listener : ListenerId) (a : Action) :
    OnlyTraffic b (b.act reader listener a).1 := by
  cases a with
  | noteUnread =>
    unfold act
    cases b.readers.get? reader with
    | none => exact .refl b
    | some r => exact noteFrame b listener _
  | install l => rfl
  | takeOne =>
    have taken := takeFrame b reader
    unfold act
    dsimp only
    split
    · rename_i s b' eq
      rw [eq] at taken
      exact taken.trans (noteFrame _ _ _)
    · rename_i b' eq
      rw [eq] at taken
      exact taken
  | takeAll => exact (takeAllFrame b reader).trans (notesFrame listener _ _)
  | forward writer =>
    unfold act
    dsimp only
    split
    · exact noteFrame b listener _
    · have taken := takeFrame (b.spend listener) reader
      split
      · rename_i s b' eq
        rw [eq] at taken
        refine OnlyTraffic.trans (b := b.spend listener) rfl (taken.trans ?_)
        cases writer with
        | some w => exact (noteFrame _ _ _).trans (writeFromFrame _ _ _ _)
        | none => exact noteFrame _ _ _
      · rename_i b' eq
        rw [eq] at taken
        exact OnlyTraffic.trans (b := b.spend listener) rfl taken
  | emit writer payload =>
    unfold act
    dsimp only
    split
    · exact noteFrame b listener _
    · exact OnlyTraffic.trans (b := b.spend listener) rfl (writeFromFrame _ _ _ _)

theorem stepFrame (b : Bus) (t : Task) : OnlyTraffic b (t.step b).1 := by
  cases t with
  | deliver n =>
    unfold Task.step
    dsimp only
    split <;> exact enqueueFrame b n
  | call reader listener =>
    unfold Task.step
    dsimp only
    split
    · exact drainFrame b _ _ _ reader
    · rfl
    · exact .refl b
  | act reader listener action => exact actFrame b reader listener action

end Databus.Bus
