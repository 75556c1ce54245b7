import Databus.Proofs.RequestRelations
import Databus.Proofs.ConditionTriggers

/-! Readers and their conditions: the data status of a reader's condition is raised while samples wait in its queue
and lowered as the last one goes. Every request keeps them in tune, and never takes a condition from its reader. -/
namespace Databus

def Reader.waiting (x : Reader) : Bool := !x.mailbox.samples.isEmpty

namespace Bus

structure StatusesAgree (b : Bus) : Prop where
  handles : ∀ r x, b.readers.get? r = some x → r < b.nextHandle
  conditions : ∀ c t, b.trigger? c = some t → c < b.nextCondition
  shown : ∀ r x, b.readers.get? r = some x → ∃ t, b.trigger? x.condition = some t ∧
    t.shows = some x.waiting
  apart : ∀ r x r' x', b.readers.get? r = some x → b.readers.get? r' = some x' →
    x.condition = x'.condition → r = r'

theorem statusesAgreeEmpty : StatusesAgree {} := by
  constructor <;> intros <;> contradiction

structure Evolves (b b' : Bus) : Prop where
  readers : ∀ r x, b.readers.get? r = some x →
    ∃ x', b'.readers.get? r = some x' ∧ x'.condition = x.condition
  triggers : ∀ c t, b.trigger? c = some t → ∃ t', b'.trigger? c = some t' ∧ t.Tends t'

def Leads (b b' : Bus) : Prop := StatusesAgree b → StatusesAgree b' ∧ Evolves b b'

namespace Evolves

variable {a b c : Bus}

theorem refl (b : Bus) : Evolves b b :=
  ⟨fun _ x found => ⟨x, found, rfl⟩, fun _ t found => ⟨t, found, .refl t⟩⟩

theorem trans (h : Evolves a b) (h' : Evolves b c) : Evolves a c := by
  refine ⟨fun r x found => ?_, fun k t found => ?_⟩
  · obtain ⟨y, there, same⟩ := h.readers r x found
    obtain ⟨z, there', same'⟩ := h'.readers r y there
    exact ⟨z, there', same'.trans same⟩
  · obtain ⟨u, there, tends⟩ := h.triggers k t found
    obtain ⟨v, there', tends'⟩ := h'.triggers k u there
    exact ⟨v, there', tends.trans tends'⟩

end Evolves

namespace Leads

variable {a b b' c : Bus}

theorem refl (b : Bus) : Leads b b := fun statusesAgree => ⟨statusesAgree, .refl b⟩

theorem trans (h : Leads a b) (h' : Leads b c) : Leads a c := fun statusesAgree => by
  obtain ⟨statusesAgree', evolves⟩ := h statusesAgree
  obtain ⟨statusesAgree'', evolves'⟩ := h' statusesAgree'
  exact ⟨statusesAgree'', evolves.trans evolves'⟩

theorem same (readers : ∀ r, (b'.readers.get? r).map (fun x => (x.condition, x.waiting)) =
      (b.readers.get? r).map fun x => (x.condition, x.waiting))
    (triggers : ∀ k, b'.trigger? k = b.trigger? k) (handles : b.nextHandle ≤ b'.nextHandle)
    (conditions : b.nextCondition ≤ b'.nextCondition) : Leads b b' := fun statusesAgree => by
  have reader {r : InstanceHandle} {x : Reader} (found : b'.readers.get? r = some x) :
      ∃ y, b.readers.get? r = some y ∧ y.condition = x.condition ∧ y.waiting = x.waiting := by
    have eq := readers r
    rw [found] at eq
    obtain ⟨y, there, both⟩ := Option.map_eq_some_iff.1 eq.symm
    exact ⟨y, there, (Prod.mk.inj both).1, (Prod.mk.inj both).2⟩
  refine ⟨⟨fun r x found => ?_, fun k t found => ?_, fun r x found => ?_,
    fun r x r' x' found found' eq => ?_⟩, fun r x found => ?_, fun k t found => ?_⟩
  · obtain ⟨y, there, _⟩ := reader found
    exact Nat.lt_of_lt_of_le (statusesAgree.handles r y there) handles
  · rw [triggers] at found
    exact Nat.lt_of_lt_of_le (statusesAgree.conditions k t found) conditions
  · obtain ⟨y, there, condition, waiting⟩ := reader found
    rw [triggers, ← condition, ← waiting]
    exact statusesAgree.shown r y there
  · obtain ⟨y, there, condition, _⟩ := reader found
    obtain ⟨y', there', condition', _⟩ := reader found'
    exact statusesAgree.apart r y r' y' there there' (condition.trans (eq.trans condition'.symm))
  · have eq := readers r
    rw [found] at eq
    obtain ⟨y, there, both⟩ := Option.map_eq_some_iff.1 eq
    exact ⟨y, there, (Prod.mk.inj both).1⟩
  · exact ⟨t, (triggers k).trans found, .refl t⟩

theorem quiet (h : Quiet b b') : Leads b b' := by
  exact .same (fun r => by rw [h.1.readers]) h.2 (Nat.le_of_eq h.1.nextHandle.symm)
    (Nat.le_of_eq h.1.nextCondition.symm)

theorem retune {r : InstanceHandle} {x n : Reader} (found : b.readers.get? r = some x)
    (condition : n.condition = x.condition)
    (readers : ∀ k, b'.readers.get? k = if k = r then some n else b.readers.get? k)
    (handles : b'.nextHandle = b.nextHandle) (conditions : b'.nextCondition = b.nextCondition)
    {f : Trigger → Trigger} (triggers : ∀ k, b'.trigger? k =
      if k = x.condition then (b.trigger? x.condition).map f else b.trigger? k)
    (tends : ∀ t : Trigger, t.Tends (f t))
    (shows : ∀ t, t.shows = some x.waiting → (f t).shows = some n.waiting) : Leads b b' := fun statusesAgree => by
  have reader {k : InstanceHandle} {y : Reader} (there : b'.readers.get? k = some y) :
      (k = r ∧ y = n) ∨ (k ≠ r ∧ b.readers.get? k = some y) := by
    rw [readers] at there
    split at there
    · rename_i own
      exact .inl ⟨own, (Option.some.inj there).symm⟩
    · rename_i other
      exact .inr ⟨other, there⟩
  have old {k : InstanceHandle} {y : Reader} (there : b'.readers.get? k = some y) :
      ∃ z, b.readers.get? k = some z ∧ z.condition = y.condition := by
    rcases reader there with ⟨rfl, rfl⟩ | ⟨_, before⟩
    · exact ⟨x, found, condition.symm⟩
    · exact ⟨y, before, rfl⟩
  refine ⟨⟨fun k y there => ?_, fun k t there => ?_, fun k y there => ?_,
    fun k y k' y' there there' eq => ?_⟩, fun k y there => ?_, fun k t there => ?_⟩
  · obtain ⟨z, before, _⟩ := old there
    rw [handles]
    exact statusesAgree.handles k z before
  · rw [triggers] at there
    rw [conditions]
    split at there
    · rename_i own
      obtain ⟨u, before, _⟩ := Option.map_eq_some_iff.1 there
      exact own ▸ statusesAgree.conditions _ u before
    · exact statusesAgree.conditions k t there
  · rcases reader there with ⟨rfl, rfl⟩ | ⟨other, before⟩
    · obtain ⟨t, known, shown⟩ := statusesAgree.shown k x found
      refine ⟨f t, ?_, shows t shown⟩
      rw [condition, triggers, if_pos rfl, known]
      rfl
    · obtain ⟨t, known, shown⟩ := statusesAgree.shown k y before
      refine ⟨t, ?_, shown⟩
      rw [triggers, if_neg fun eq => other (statusesAgree.apart k y r x before found eq)]
      exact known
  · obtain ⟨z, before, own⟩ := old there
    obtain ⟨z', before', own'⟩ := old there'
    exact statusesAgree.apart k z k' z' before before' (own.trans (eq.trans own'.symm))
  · rw [readers]
    split
    · rename_i own
      subst own
      cases Option.some.inj (found.symm.trans there)
      exact ⟨n, rfl, condition⟩
    · exact ⟨y, there, rfl⟩
  · rw [triggers]
    split
    · rename_i own
      subst own
      rw [there]
      exact ⟨f t, rfl, tends t⟩
    · exact ⟨t, there, .refl t⟩

theorem adjust {k : ConditionId} {f : Trigger → Trigger} (h : Adjusts k f b b')
    (tends : ∀ t : Trigger, t.Tends (f t)) (shows : ∀ t, (f t).shows = t.shows) : Leads b b' := fun statusesAgree => by
  have handles := h.1.nextHandle
  have conditions := h.1.nextCondition
  have trigger {c : ConditionId} {t : Trigger} (there : b.trigger? c = some t) :
      ∃ t', b'.trigger? c = some t' ∧ t.Tends t' ∧ t'.shows = t.shows := by
    rw [h.2]
    split
    · rename_i own
      subst own
      rw [there]
      exact ⟨f t, rfl, tends t, shows t⟩
    · exact ⟨t, there, .refl t, rfl⟩
  refine ⟨⟨?_, fun c t there => ?_, fun r x found => ?_, ?_⟩, fun r x found => ?_, fun c t there => ?_⟩
  · rw [h.1.readers, handles]
    exact statusesAgree.handles
  · rw [h.2] at there
    rw [conditions]
    split at there
    · rename_i own
      obtain ⟨u, before, _⟩ := Option.map_eq_some_iff.1 there
      exact own ▸ statusesAgree.conditions _ u before
    · exact statusesAgree.conditions c t there
  · rw [h.1.readers] at found
    obtain ⟨t, known, shown⟩ := statusesAgree.shown r x found
    obtain ⟨t', known', _, same⟩ := trigger known
    exact ⟨t', known', same.trans shown⟩
  · rw [h.1.readers]
    exact statusesAgree.apart
  · rw [h.1.readers]
    exact ⟨x, found, rfl⟩
  · obtain ⟨t', there', tends', _⟩ := trigger there
    exact ⟨t', there', tends'⟩

end Leads

/-! ### Queues -/

theorem modifyReaderReaders {b : Bus} {r : InstanceHandle} {x : Reader} (f : Reader → Reader)
    (found : b.readers.get? r = some x) (k : InstanceHandle) :
    (b.modifyReader r f).readers.get? k = if k = r then some (f x) else b.readers.get? k := by
  simp only [modifyReader, Table.getModify, found, Option.map_some]

theorem lostAdjusts (c : ConditionId) (units : List Unit) (b : Bus) :
    ∃ f : Trigger → Trigger, Adjusts c f b (units.foldl (fun b _ => b.activate c .sampleLost) b) ∧
      (∀ t : Trigger, t.Tends (f t)) ∧ ∀ t, (f t).shows = t.shows := by
  induction units generalizing b with
  | nil => exact ⟨id, adjustsNothing (Option.map_id_apply ..), .refl, fun _ => rfl⟩
  | cons u rest ih =>
    obtain ⟨f, adjusts, tends, shows⟩ := ih (b.activate c .sampleLost)
    refine ⟨f ∘ Trigger.activate .sampleLost, (activateAdjusts b c .sampleLost).then adjusts,
      fun t => ?_, fun t => ?_⟩
    · exact (Trigger.Tends.activate _ t).trans (tends _)
    · exact (shows _).trans (Trigger.showsLost t)

theorem pushWaiting (history : History) (m : Mailbox) (a : Arrival) :
    (m.push history a).samples.isEmpty = false := by
  simp [Mailbox.push]

theorem enqueueLeads (b : Bus) (n : Notice) : Leads b (b.enqueue n) := by
  unfold enqueue
  cases found : b.readers.get? n.reader with
  | none => exact .refl b
  | some x =>
    dsimp only
    obtain ⟨f, lost, tends, shows⟩ := lostAdjusts x.condition
      (List.replicate (x.mailbox.overflow x.history) ())
      (b.modifyReader n.reader fun r => { r with mailbox := r.mailbox.push r.history n.arrival })
    have fed := lost.then (activateAdjusts _ x.condition .dataAvailable)
    refine .retune (n := { x with mailbox := x.mailbox.push x.history n.arrival }) found rfl
      (fun k => ?_) ?_ ?_ (f := Trigger.activate .dataAvailable ∘ f) fed.2 (fun t => ?_)
      (fun t shown => ?_)
    · rw [fed.1.readers]
      exact modifyReaderReaders _ found k
    · exact fed.1.nextHandle
    · exact fed.1.nextCondition
    · exact (tends t).trans (.activate _ _)
    · rw [Reader.waiting, pushWaiting]
      exact Trigger.showsFed ((shows t).trans shown)

theorem drawLeads {b : Bus} {r : InstanceHandle} {x x' : Reader} {f : Reader → Reader}
    (found : b.readers.get? r = some x) (becomes : f x = x') (condition : x'.condition = x.condition)
    (empty : x'.waiting = false) :
    Leads b ((b.modifyReader r f).deactivate x.condition .dataAvailable) := by
  have lowered := deactivateAdjusts (b.modifyReader r f) x.condition .dataAvailable
  refine .retune (n := x') found condition (fun k => ?_) ?_ ?_ (f := Trigger.deactivate .dataAvailable)
    lowered.2 (fun t => .deactivate _ t) (fun t shown => ?_)
  · rw [lowered.1.readers, ← becomes]
    exact modifyReaderReaders f found k
  · exact lowered.1.nextHandle
  · exact lowered.1.nextCondition
  · rw [empty]
    exact Trigger.showsEmptied shown

theorem takeLeads (b : Bus) (r : InstanceHandle) : Leads b (b.take r).2 := by
  unfold take
  cases found : b.readers.get? r with
  | none => exact .refl b
  | some x =>
    dsimp only
    cases waiting : x.mailbox.samples with
    | nil =>
      simp only [Mailbox.take?, waiting]
      have lowered := deactivateAdjusts b x.condition .dataAvailable
      refine .retune (n := x) found rfl (fun k => ?_) lowered.1.nextHandle lowered.1.nextCondition
        (f := Trigger.deactivate .dataAvailable) lowered.2 (fun t => .deactivate _ t)
        (fun t shown => ?_)
      · rw [lowered.1.readers]
        split
        · rename_i own
          rw [own, found]
        · rfl
      · rw [Reader.waiting, waiting]
        exact Trigger.showsEmptied shown
    | cons s rest =>
      simp only [Mailbox.take?, waiting]
      split
      · rename_i last
        exact drawLeads found rfl rfl (by rw [Reader.waiting, last]; rfl)
      · rename_i more
        refine .retune (n := { x with mailbox := { x.mailbox with samples := rest } }) found rfl
          (modifyReaderReaders _ found) rfl rfl (f := id) (fun k => ?_) .refl (fun t shown => ?_)
        · rw [Option.map_id_fun, id]
          split
          · rename_i own
            rw [own]
            rfl
          · rfl
        · have before : x.waiting = true := by rw [Reader.waiting, waiting]; rfl
          have after : rest.isEmpty = false := Bool.eq_false_iff.2 more
          rw [id, shown, before, Reader.waiting, after]
          rfl

theorem takeAllLeads (b : Bus) (r : InstanceHandle) : Leads b (b.takeAll r).2 := by
  unfold takeAll
  cases found : b.readers.get? r with
  | none => exact .refl b
  | some x => exact drawLeads found rfl rfl rfl

/-! ### What shows nowhere -/

theorem setListenerLeads (b : Bus) (r : InstanceHandle) (l : Option ListenerId) :
    Leads b (b.setListener r l) := by
  refine .same (fun k => ?_) (fun _ => rfl) (Nat.le_refl _) (Nat.le_refl _)
  simp only [setListener, modifyReader, Table.getModify]
  split
  · rename_i own
    rw [own, Option.map_map]
    rfl
  · rfl

theorem modifyScriptLeads (b : Bus) (l : ListenerId) (f : Script → Script) :
    Leads b (b.modifyScript l f) :=
  .same (fun _ => rfl) (fun _ => rfl) (Nat.le_refl _) (Nat.le_refl _)

theorem setGuardLeads (b : Bus) (c : ConditionId) (value : Bool) : Leads b (b.setGuard c value) :=
  .adjust (setGuardAdjusts b c value) (.assign value) (Trigger.showsAssigned value)

theorem drainLeads (b : Bus) (side : Side) (graph : GraphId) (guard : ConditionId) (r : InstanceHandle) :
    Leads b (b.drain side graph guard r).2 := by
  have taken := takeAllLeads b r
  unfold drain
  dsimp only
  split
  · exact taken
  · rename_i g found
    have drawn : Leads (b.takeAll r).2
        ((b.takeAll r).2.setGraph graph (g.absorb side (b.takeAll r).1).1) :=
      .same (fun _ => rfl) (fun _ => rfl) (Nat.le_refl _) (Nat.le_refl _)
    dsimp only
    split
    · exact (taken.trans drawn).trans (setGuardLeads _ _ _)
    · exact taken.trans drawn

/-! ### Births -/

theorem newReaderLeads (b : Bus) (p : InstanceHandle) (topic type : String) (history : History) :
    Leads b (b.newReader p topic type history).2 := fun statusesAgree => by
  have readers (k : InstanceHandle) : (b.newReader p topic type history).2.readers.get? k =
      if k = b.nextHandle then some
        { participant := p, topic, type, history, condition := b.nextCondition }
      else b.readers.get? k := by
    simp only [newReader, takeHandle, newCondition, Table.getInsert]
  have triggers (k : ConditionId) : (b.newReader p topic type history).2.trigger? k =
      if k = b.nextCondition then some (.status .none .none) else b.trigger? k := by
    simp only [trigger?, newReader, takeHandle, newCondition, Table.getInsert]
    split <;> rfl
  have older {k : InstanceHandle} {x : Reader} (found : b.readers.get? k = some x) :
      k ≠ b.nextHandle ∧ x.condition ≠ b.nextCondition := by
    obtain ⟨t, known, _⟩ := statusesAgree.shown k x found
    exact ⟨Nat.ne_of_lt (statusesAgree.handles k x found), Nat.ne_of_lt (statusesAgree.conditions _ t known)⟩
  refine ⟨⟨fun k x found => ?_, fun k t found => ?_, fun k x found => ?_,
    fun k x k' x' found found' eq => ?_⟩, fun k x found => ?_, fun k t found => ?_⟩
  · change k < b.nextHandle + 1
    rw [readers] at found
    split at found
    · lia
    · exact Nat.lt_succ_of_lt (statusesAgree.handles k x found)
  · change k < b.nextCondition + 1
    rw [triggers] at found
    split at found
    · lia
    · exact Nat.lt_succ_of_lt (statusesAgree.conditions k t found)
  · rw [readers] at found
    rw [triggers]
    split at found
    · cases Option.some.inj found
      exact ⟨_, if_pos rfl, rfl⟩
    · rw [if_neg (older found).2]
      exact statusesAgree.shown k x found
  · rw [readers] at found found'
    split at found <;> split at found'
    · rename_i own own'
      exact own.trans own'.symm
    · cases Option.some.inj found
      exact absurd eq.symm (older found').2
    · cases Option.some.inj found'
      exact absurd eq (older found).2
    · exact statusesAgree.apart k x k' x' found found' eq
  · rw [readers, if_neg (older found).1]
    exact ⟨x, found, rfl⟩
  · rw [triggers, if_neg (Nat.ne_of_lt (statusesAgree.conditions k t found))]
    exact ⟨t, found, .refl t⟩

theorem newGuardTriggers (b : Bus) (k : ConditionId) : (b.newCondition .newGuard).2.trigger? k =
    if k = b.nextCondition then some (.guard false) else b.trigger? k := by
  simp only [trigger?, newCondition, Table.getInsert]
  split <;> rfl

theorem newGuardLeads (b : Bus) : Leads b (b.newCondition .newGuard).2 := fun statusesAgree => by
  have older {k : ConditionId} {t : Trigger} (found : b.trigger? k = some t) : k ≠ b.nextCondition :=
    Nat.ne_of_lt (statusesAgree.conditions k t found)
  refine ⟨⟨statusesAgree.handles, fun k t found => ?_, fun r x found => ?_, statusesAgree.apart⟩,
    fun r x found => ⟨x, found, rfl⟩, fun k t found => ?_⟩
  · change k < b.nextCondition + 1
    rw [newGuardTriggers] at found
    split at found
    · lia
    · exact Nat.lt_succ_of_lt (statusesAgree.conditions k t found)
  · obtain ⟨t, known, shown⟩ := statusesAgree.shown r x found
    refine ⟨t, ?_, shown⟩
    rw [newGuardTriggers, if_neg (older known)]
    exact known
  · rw [newGuardTriggers, if_neg (older found)]
    exact ⟨t, found, .refl t⟩

/-! ### Every request -/

theorem tablesLeads {b b' : Bus} (h : OnlyTables b b') : Leads b b' :=
  .same (fun r => by rw [h.readers]) (triggerSame h.conditions) h.handles (Nat.le_of_eq h.nextCondition.symm)

theorem newGraphLeads (b : Bus) : Leads b b.newGraph.2 :=
  .same (fun _ => rfl) (fun _ => rfl) (Nat.le_refl _) (Nat.le_refl _)

theorem newListenerLeads (b : Bus) (l : Listener) : Leads b (b.newListener l).2 :=
  .same (fun _ => rfl) (fun _ => rfl) (Nat.le_refl _) (Nat.le_refl _)

theorem leadsCarries : Carries Leads where
  refl := .refl
  trans := .trans
  tables := tablesLeads
  enqueue := enqueueLeads
  take := takeLeads
  takeAll := takeAllLeads
  script := modifyScriptLeads
  install := setListenerLeads
  drain r _ := drainLeads _ _ _ _ r
  newReader := newReaderLeads
  newGuard := newGuardLeads
  newGraph := newGraphLeads

theorem requestLeads (b : Bus) (q : Request) : Leads b (b.request q) :=
  leadsCarries.request (fun l _ => newListenerLeads b l) fun _ _ _ r _ => drainLeads b _ _ _ r

theorem runLeads (b : Bus) (requests : List Request) : Leads b (b.run requests) :=
  List.foldlRecOn (motive := Leads b) requests request (.refl b) fun b' leads q _ =>
    leads.trans (requestLeads b' q)

end Bus
end Databus
