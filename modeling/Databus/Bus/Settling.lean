import Databus.Bus.Delivery

/-!
Running delivery to its end. A write by a listener costs one unit of its budget and sends at most one
sample to each endpoint, so the work outstanding shrinks with every step.
-/
namespace Databus

def Listener.budget : Listener → Nat
  | .discovery _ _ _ => 0
  | .scripted s => s.budget

-- the library gives the naturals more than one zero; sums in this module start from this one
local instance (priority := high) naturalZero : Zero Nat := ⟨0⟩

def Script.length (s : Script) : Nat := (s.plan.map List.length).sum + s.actions.length

def Listener.length : Listener → Nat
  | .discovery _ _ _ => 0
  | .scripted s => s.length

theorem currentLength (s : Script) : s.current.length ≤ s.length := by
  unfold Script.current Script.length
  cases s.plan with
  | nil => simp
  | cons now later =>
    simp only [List.headD_cons, List.map_cons, List.sum_cons]
    omega

theorem calledLength (s : Script) : s.called.length ≤ s.length := by
  unfold Script.called Script.length
  cases s.plan with
  | nil => exact Nat.le_refl _
  | cons now later =>
    simp only [List.tail_cons, List.map_cons, List.sum_cons]
    omega

/-! ### Sums over a table -/

namespace Table

variable {κ α : Type} [LT κ] [DecidableEq κ]

def sum (t : Table κ α) (g : α → Nat) : Nat := (t.entries.map fun e => g e.2).sum

theorem sumModifyLe {t : Table κ α} {k : κ} {f : α → α} {g : α → Nat}
    (h : ∀ a, g (f a) ≤ g a) : (t.modify k f).sum g ≤ t.sum g := by
  simp only [sum, modify]
  induction t.entries with
  | nil => exact Nat.le_refl _
  | cons e r ih =>
    have step := h e.2
    simp only [List.map_cons, List.sum_cons]
    split
    · dsimp only
      omega
    · omega

theorem sumModifyLt {t : Table κ α} {k : κ} {a : α} {f : α → α} {g : α → Nat}
    (found : t.get? k = some a) (h : ∀ a, g (f a) ≤ g a) (strict : g (f a) < g a) :
    (t.modify k f).sum g < t.sum g := by
  obtain ⟨l, sorted⟩ := t
  have rest := fun s => sumModifyLe (t := ⟨l, s⟩) (k := k) (f := f) (g := g) h
  simp only [sum, modify, get?] at *
  induction l with
  | nil => simp at found
  | cons e r ih =>
    have tail := sumModifyLe (t := ⟨r, (List.pairwise_cons.1 sorted).2⟩) (k := k) (g := g) h
    simp only [sum, modify] at tail
    have step := h e.2
    simp only [List.map_cons, List.sum_cons]
    rw [List.find?_cons] at found
    by_cases same : e.1 = k
    · simp only [same, decide_true, Option.map_some, Option.some.injEq] at found
      subst found
      rw [if_pos same]
      dsimp only
      omega
    · simp only [same, decide_false] at found
      have smaller := ih (List.pairwise_cons.1 sorted).2 found
        (fun s => sumModifyLe (t := ⟨r, s⟩) h)
      rw [if_neg same]
      omega

theorem memberLeSum {t : Table κ α} {k : κ} {a : α} (found : t.get? k = some a) (g : α → Nat) :
    g a ≤ t.sum g := by
  obtain ⟨e, first, rfl⟩ := Option.map_eq_some_iff.1 found
  have mem := List.mem_of_find?_eq_some first
  unfold sum
  clear found first
  revert mem
  generalize t.entries = l
  intro mem
  induction l with
  | nil => simp at mem
  | cons x r ih =>
    simp only [List.map_cons, List.sum_cons]
    rcases List.mem_cons.1 mem with rfl | old
    · omega
    · have := ih old
      omega

end Table

namespace Bus

def credit (b : Bus) : Nat := b.listeners.sum Listener.budget

def scriptLength (b : Bus) : Nat := b.listeners.sum Listener.length

def Task.weight (b : Bus) : Task → Nat
  | .deliver _ => b.scriptLength + 2
  | .call _ _ => b.scriptLength + 1
  | .act _ _ _ => 1

/-- The work outstanding: what is on the stack, and the most that the remaining writes can add. -/
def pressure (b : Bus) (tasks : List Task) : Nat :=
  b.credit * ((b.endpoints.size + 1) * (b.scriptLength + 3)) + (tasks.map (Task.weight b)).sum

structure Calm (b b' : Bus) : Prop where
  credit : b'.credit ≤ b.credit
  scripts : b'.scriptLength ≤ b.scriptLength
  endpoints : b'.endpoints = b.endpoints

namespace Calm

theorem refl (b : Bus) : Calm b b := ⟨Nat.le_refl _, Nat.le_refl _, rfl⟩

theorem trans {a b c : Bus} (h : Calm a b) (h' : Calm b c) : Calm a c :=
  ⟨Nat.le_trans h'.credit h.credit, Nat.le_trans h'.scripts h.scripts,
    h'.endpoints.trans h.endpoints⟩

theorem ofSame {b b' : Bus} (h : b'.listeners = b.listeners) (h' : b'.endpoints = b.endpoints) :
    Calm b b' := by
  refine ⟨?_, ?_, h'⟩
  · exact Nat.le_of_eq (by rw [Bus.credit, Bus.credit, h])
  · exact Nat.le_of_eq (by rw [Bus.scriptLength, Bus.scriptLength, h])

theorem ofSignals {b b' : Bus} (h : OnlySignals b b') : Calm b b' :=
  ofSame h.listeners (OnlyTraffic.ofSignals h).endpoints

end Calm

theorem scriptCalm (b : Bus) (listener : ListenerId) (f : Script → Script)
    (budget : ∀ s, (f s).budget ≤ s.budget) (length : ∀ s, (f s).length ≤ s.length) :
    Calm b (b.modifyScript listener f) := by
  refine ⟨Table.sumModifyLe fun l => ?_, Table.sumModifyLe fun l => ?_, rfl⟩
  · cases l with
    | discovery side graph guard => exact Nat.le_refl _
    | scripted s => exact budget s
  · cases l with
    | discovery side graph guard => exact Nat.le_refl _
    | scripted s => exact length s

theorem noteCalm (b : Bus) (listener : ListenerId) (n : Note) : Calm b (b.note listener n) :=
  scriptCalm b listener _ (fun _ => Nat.le_refl _) (fun _ => Nat.le_refl _)

theorem spendCalm (b : Bus) (listener : ListenerId) : Calm b (b.spend listener) :=
  scriptCalm b listener _ (fun _ => Nat.sub_le _ _) (fun _ => Nat.le_refl _)

theorem spendLess (b : Bus) (listener : ListenerId) (some : ¬ b.budget listener = 0) :
    (b.spend listener).credit < b.credit := by
  unfold budget at some
  split at some
  · rename_i s found
    refine Table.sumModifyLt found (fun l => ?_) ?_
    · cases l with
      | discovery side graph guard => exact Nat.le_refl _
      | scripted s => exact Nat.sub_le _ _
    · change s.budget - 1 < s.budget
      omega
  · exact absurd rfl some

theorem notesCalm (listener : ListenerId) (samples : List Sample) (b : Bus) :
    Calm b (samples.foldl (fun b s => b.note listener (.payload s.payload)) b) := by
  induction samples generalizing b with
  | nil => exact .refl b
  | cons s rest ih => exact (noteCalm b listener _).trans (ih _)

theorem takeCalm (b : Bus) (reader : InstanceHandle) : Calm b (b.take reader).2 := by
  unfold take
  cases b.readers.get? reader with
  | none => exact .refl b
  | some r =>
    dsimp only
    cases r.mailbox.take? with
    | none => exact .ofSignals (deactivateFrame b _ _)
    | some p =>
      dsimp only
      split
      · exact Calm.trans (b := b.modifyReader reader ({ · with mailbox := p.2 }))
          (.ofSame rfl rfl) (.ofSignals (deactivateFrame _ _ _))
      · exact .ofSame rfl rfl

theorem takeAllCalm (b : Bus) (reader : InstanceHandle) : Calm b (b.takeAll reader).2 := by
  unfold takeAll
  cases b.readers.get? reader with
  | none => exact .refl b
  | some r =>
    exact Calm.trans
      (b := b.modifyReader reader fun r => { r with mailbox := r.mailbox.empty })
      (.ofSame rfl rfl) (.ofSignals (deactivateFrame _ _ _))

theorem drainCalm (b : Bus) (side : Side) (graph : GraphId) (guard : ConditionId)
    (reader : InstanceHandle) : Calm b (b.drain side graph guard reader).2 := by
  have taken := takeAllCalm b reader
  unfold drain
  dsimp only
  split
  · exact taken
  · rename_i g found
    refine taken.trans (Calm.trans
      (b := (b.takeAll reader).2.setGraph graph (g.absorb side (b.takeAll reader).1).1)
      (.ofSame rfl rfl) ?_)
    split
    · exact .ofSignals (setGuardFrame _ _ _)
    · exact .refl _

theorem activationsCalm (c : ConditionId) (mask : StatusMask) (units : List Unit) (b : Bus) :
    Calm b (units.foldl (fun b _ => b.activate c mask) b) := by
  induction units generalizing b with
  | nil => exact .refl b
  | cons u rest ih => exact (Calm.ofSignals (activateFrame b c mask)).trans (ih _)

theorem enqueueCalm (b : Bus) (n : Notice) : Calm b (b.enqueue n) := by
  unfold enqueue
  cases b.readers.get? n.reader with
  | none => exact .refl b
  | some r =>
    refine Calm.trans (b := b.modifyReader n.reader fun r =>
      { r with mailbox := r.mailbox.push r.history n.arrival }) (.ofSame rfl rfl) ?_
    exact (activationsCalm _ _ _ _).trans (.ofSignals (activateFrame _ _ _))

theorem routeLength {b : Bus} {writer : InstanceHandle} {payload : Octets} {notices : List Notice}
    (ok : b.route writer payload = .ok notices) : notices.length ≤ b.endpoints.size := by
  unfold route at ok
  split at ok
  · contradiction
  · split at ok
    · contradiction
    · split at ok
      · contradiction
      · obtain rfl := Except.ok.inj ok
        simp only [List.length_map, Table.keys, Table.filter, Table.size]
        exact List.length_filter_le _ _

theorem weights (b : Bus) (notices : List Notice) :
    ((notices.map Task.deliver).map (Task.weight b)).sum =
      notices.length * (b.scriptLength + 2) := by
  induction notices with
  | nil => simp
  | cons n rest ih =>
    simp only [List.map_cons, List.sum_cons, List.length_cons, ih, Task.weight, Nat.succ_mul]
    omega

theorem writeFromLight (b : Bus) (listener : ListenerId) (writer : InstanceHandle)
    (payload : Octets) :
    Calm b (b.writeFrom listener writer payload).1 ∧
      ((b.writeFrom listener writer payload).2.map (Task.weight b)).sum ≤
        b.endpoints.size * (b.scriptLength + 2) := by
  unfold writeFrom
  cases ok : b.route writer payload with
  | error f => exact ⟨noteCalm b listener _, Nat.zero_le _⟩
  | ok notices =>
    refine ⟨.refl b, ?_⟩
    rw [weights]
    exact Nat.mul_le_mul_right _ (routeLength ok)

theorem weightsMono {b b' : Bus} (calm : Calm b b') (tasks : List Task) :
    (tasks.map (Task.weight b')).sum ≤ (tasks.map (Task.weight b)).sum := by
  have scripts := calm.scripts
  induction tasks with
  | nil => exact Nat.le_refl _
  | cons t rest ih =>
    have head : t.weight b' ≤ t.weight b := by
      cases t <;> simp only [Task.weight] <;> omega
    simp only [List.map_cons, List.sum_cons]
    omega

theorem pressureMono {b b' : Bus} (calm : Calm b b') (tasks : List Task) :
    pressure b' tasks ≤ pressure b tasks := by
  unfold pressure
  rw [calm.endpoints]
  exact Nat.add_le_add
    (Nat.mul_le_mul calm.credit
      (Nat.mul_le_mul (Nat.le_refl _) (Nat.add_le_add_right calm.scripts 3)))
    (weightsMono calm tasks)

theorem lighter {b b' : Bus} {t : Task} {new rest : List Task} (calm : Calm b b')
    (light : (new.map (Task.weight b)).sum < t.weight b) :
    pressure b' (new ++ rest) < pressure b (t :: rest) := by
  refine Nat.lt_of_le_of_lt (pressureMono calm _) ?_
  simp only [pressure, List.map_append, List.sum_append, List.map_cons, List.sum_cons]
  omega

theorem paid {b b' : Bus} {t : Task} {new rest : List Task} (calm : Calm b b')
    (less : b'.credit < b.credit) (bound : (new.map (Task.weight b')).sum ≤ b'.endpoints.size * (b'.scriptLength + 2)) :
    pressure b' (new ++ rest) < pressure b (t :: rest) := by
  -- one credit weighs more than a notice and a call for every endpoint
  have unit : b'.endpoints.size * (b'.scriptLength + 2) <
      (b'.endpoints.size + 1) * (b'.scriptLength + 3) := by
    have more : b'.endpoints.size * (b'.scriptLength + 2) ≤
        b'.endpoints.size * (b'.scriptLength + 3) := Nat.mul_le_mul_left _ (by omega)
    rw [Nat.succ_mul]
    omega
  have scale : (b'.credit + 1) * ((b'.endpoints.size + 1) * (b'.scriptLength + 3)) ≤
      b.credit * ((b.endpoints.size + 1) * (b.scriptLength + 3)) := by
    rw [calm.endpoints]
    exact Nat.mul_le_mul less
      (Nat.mul_le_mul (Nat.le_refl _) (Nat.add_le_add_right calm.scripts 3))
  have others := weightsMono calm rest
  rw [Nat.succ_mul] at scale
  simp only [pressure, List.map_append, List.sum_append, List.map_cons, List.sum_cons]
  omega

theorem callWeights (b : Bus) (reader : InstanceHandle) (listener : ListenerId)
    (actions : List Action) :
    ((actions.map (Task.act reader listener)).map (Task.weight b)).sum = actions.length := by
  induction actions with
  | nil => rfl
  | cons a rest ih =>
    simp only [List.map_cons, List.sum_cons, List.length_cons, ih, Task.weight]
    omega

theorem actShrinks (b : Bus) (reader : InstanceHandle) (listener : ListenerId) (a : Action)
    (rest : List Task) :
    pressure (b.act reader listener a).1 ((b.act reader listener a).2 ++ rest) <
      pressure b (.act reader listener a :: rest) := by
  cases a with
  | noteUnread =>
    unfold act
    cases b.readers.get? reader with
    | none => exact lighter (.refl b) Nat.zero_lt_one
    | some r => exact lighter (noteCalm b listener _) Nat.zero_lt_one
  | install l => exact lighter (.ofSame rfl rfl) Nat.zero_lt_one
  | takeOne =>
    have taken := takeCalm b reader
    unfold act
    dsimp only
    split
    · rename_i s b' eq
      rw [eq] at taken
      exact lighter (taken.trans (noteCalm _ _ _)) Nat.zero_lt_one
    · rename_i b' eq
      rw [eq] at taken
      exact lighter taken Nat.zero_lt_one
  | takeAll => exact lighter ((takeAllCalm b reader).trans (notesCalm listener _ _)) Nat.zero_lt_one
  | forward writer =>
    unfold act
    dsimp only
    split
    · exact lighter (noteCalm b listener _) Nat.zero_lt_one
    · rename_i funded
      have taken := takeCalm (b.spend listener) reader
      have less := spendLess b listener funded
      split
      · rename_i s b' eq
        rw [eq] at taken
        have calm := (spendCalm b listener).trans
          (taken.trans (noteCalm b' listener (.payload s.payload)))
        cases writer with
        | none => exact lighter calm Nat.zero_lt_one
        | some w =>
          have light := writeFromLight (b'.note listener (.payload s.payload)) listener w
            (s.payload.getD [])
          exact Nat.lt_of_le_of_lt (pressureMono light.1 _) (paid calm
            (Nat.lt_of_le_of_lt (taken.trans (noteCalm b' listener _)).credit less) light.2)
      · rename_i b' eq
        rw [eq] at taken
        exact lighter ((spendCalm b listener).trans taken) Nat.zero_lt_one
  | emit writer payload =>
    unfold act
    dsimp only
    split
    · exact lighter (noteCalm b listener _) Nat.zero_lt_one
    · rename_i funded
      have light := writeFromLight (b.spend listener) listener writer payload
      exact Nat.lt_of_le_of_lt (pressureMono light.1 _)
        (paid (spendCalm b listener) (spendLess b listener funded) light.2)

theorem stepShrinks (b : Bus) (t : Task) (rest : List Task) :
    pressure (t.step b).1 ((t.step b).2 ++ rest) < pressure b (t :: rest) := by
  cases t with
  | deliver n =>
    unfold Task.step
    dsimp only
    split
    · exact lighter (enqueueCalm b n) (by simp [Task.weight])
    · exact lighter (enqueueCalm b n) (by simp [Task.weight])
  | call reader listener =>
    unfold Task.step
    dsimp only
    split
    · exact lighter (drainCalm b _ _ _ reader) (by simp [Task.weight])
    · rename_i s found
      refine lighter (scriptCalm b listener _ (fun _ => Nat.le_refl _) calledLength) ?_
      rw [callWeights]
      have own : s.length ≤ b.scriptLength := Table.memberLeSum found Listener.length
      have fits := currentLength s
      simp only [Task.weight]
      omega
    · exact lighter (.refl b) (by simp [Task.weight])
  | act reader listener action => exact actShrinks b reader listener action rest

/-- Work off a stack of tasks; what a task brings up goes before the rest. -/
def settle (b : Bus) : List Task → Bus
  | [] => b
  | t :: rest => settle (t.step b).1 ((t.step b).2 ++ rest)
termination_by tasks => b.pressure tasks
decreasing_by exact stepShrinks b t rest

theorem settleAppend (b : Bus) (first second : List Task) :
    b.settle (first ++ second) = (b.settle first).settle second := by
  fun_induction settle b first with
  | case1 b => rfl
  | case2 b t rest ih => rw [List.cons_append, settle, ← ih, List.append_assoc]

end Bus
end Databus
