import Databus.Proofs.BusRequests

/-! What traffic can change: queues and listeners of readers, listeners' own state, graphs, signals.
A scope says which readers and graphs traffic stays among; settling never leaves it. -/
namespace Databus

def Action.isPlain : Action → Bool
  | .install _ => false
  | _ => true

def Script.isPlain (s : Script) : Bool :=
  s.actions.all Action.isPlain && s.plan.all (·.all Action.isPlain)

def Reader.identity (r : Reader) : Reader := { r with mailbox := {}, listener := none }

def Listener.face : Listener → Listener
  | .scripted _ => .scripted { actions := [], budget := 0 }
  | l => l

theorem faceDiscovery {l : Listener} {side graph guard} :
    l.face = .discovery side graph guard ↔ l = .discovery side graph guard := by
  cases l <;> simp [Listener.face]

theorem currentPlain {s : Script} (h : s.isPlain) : ∀ a ∈ s.current, a.isPlain := by
  simp only [Script.isPlain, Bool.and_eq_true, List.all_eq_true] at h
  intro a mem
  unfold Script.current at mem
  cases plan : s.plan with
  | nil => exact h.1 a (by simpa [plan] using mem)
  | cons now later => exact h.2 now (by simp [plan]) a (by simpa [plan] using mem)

theorem calledPlain {s : Script} (h : s.isPlain) : s.called.isPlain := by
  simp only [Script.isPlain, Bool.and_eq_true, List.all_eq_true] at h ⊢
  exact ⟨h.1, fun actions mem => h.2 actions (List.mem_of_mem_tail mem)⟩

namespace Bus

theorem settleInvariant {P : Bus → List Task → Prop}
    (step : ∀ b t rest, P b (t :: rest) → P (t.step b).1 ((t.step b).2 ++ rest))
    {b : Bus} {tasks : List Task} (start : P b tasks) : P (b.settle tasks) [] := by
  fun_induction settle b tasks with
  | case1 b => exact start
  | case2 b t rest ih => exact ih (step b t rest start)

/-! ### What stays -/

structure Steady (b b' : Bus) : Prop where
  traffic : OnlyTraffic b b'
  readers : ∀ r, (b'.readers.get? r).map Reader.identity = (b.readers.get? r).map Reader.identity
  listeners : ∀ l, (b'.listeners.get? l).map Listener.face = (b.listeners.get? l).map Listener.face
  graphs : ∀ g, (b'.graphs.get? g).isSome = (b.graphs.get? g).isSome

theorem OnlyTraffic.participants {b b' : Bus} (h : OnlyTraffic b b') :
    b'.participants = b.participants := by
  have e := congrArg Bus.participants h.same
  exact e

theorem OnlyTraffic.members {b b' : Bus} (h : OnlyTraffic b b') : b'.members = b.members := by
  have e := congrArg Bus.members h.same
  exact e

theorem OnlyTraffic.groups {b b' : Bus} (h : OnlyTraffic b b') : b'.groups = b.groups := by
  have e := congrArg Bus.groups h.same
  exact e

theorem OnlyTraffic.nextHandle {b b' : Bus} (h : OnlyTraffic b b') :
    b'.nextHandle = b.nextHandle := by
  have e := congrArg Bus.nextHandle h.same
  exact e

theorem OnlyTraffic.nextKey {b b' : Bus} (h : OnlyTraffic b b') : b'.nextKey = b.nextKey := by
  have e := congrArg Bus.nextKey h.same
  exact e

namespace Steady

variable {b b' c : Bus}

theorem refl (b : Bus) : Steady b b := ⟨.refl b, fun _ => rfl, fun _ => rfl, fun _ => rfl⟩

theorem trans (h : Steady b b') (h' : Steady b' c) : Steady b c :=
  ⟨h.traffic.trans h'.traffic, fun r => (h'.readers r).trans (h.readers r),
    fun l => (h'.listeners l).trans (h.listeners l), fun g => (h'.graphs g).trans (h.graphs g)⟩

theorem ofSignals (h : OnlySignals b b') : Steady b b' :=
  ⟨.ofSignals h, fun r => by rw [h.readers], fun l => by rw [h.listeners], fun g => by rw [h.graphs]⟩

theorem modifyReader {r : InstanceHandle} {f : Reader → Reader}
    (same : ∀ x, b.readers.get? r = some x → (f x).identity = x.identity) :
    Steady b (b.modifyReader r f) := by
  refine ⟨rfl, fun r' => ?_, fun _ => rfl, fun _ => rfl⟩
  simp only [Bus.modifyReader, Table.getModify]
  split
  · rename_i eq
    subst eq
    cases found : b.readers.get? r' with
    | none => rfl
    | some x => exact congrArg some (same x found)
  · rfl

theorem setListener (b : Bus) (r : InstanceHandle) (l : Option ListenerId) :
    Steady b (b.setListener r l) :=
  .modifyReader fun _ _ => rfl

theorem modifyScript {l : ListenerId} {f : Script → Script} : Steady b (b.modifyScript l f) := by
  refine ⟨rfl, fun _ => rfl, fun l' => ?_, fun _ => rfl⟩
  simp only [Bus.modifyScript, Table.getModify]
  split
  · rename_i eq
    subst eq
    cases b.listeners.get? l' with
    | none => rfl
    | some x => cases x <;> rfl
  · rfl

theorem setGraph {g : GraphId} {x : Graph} (known : (b.graphs.get? g).isSome) :
    Steady b (b.setGraph g x) := by
  refine ⟨rfl, fun _ => rfl, fun _ => rfl, fun g' => ?_⟩
  simp only [Bus.setGraph, Table.getInsert]
  split
  · rename_i eq
    subst eq
    exact known.symm
  · rfl

theorem discovery (h : Steady b b') {l side graph guard} :
    b'.listeners.get? l = some (.discovery side graph guard) ↔
      b.listeners.get? l = some (.discovery side graph guard) := by
  have face : ∀ x : Option Listener, x.map Listener.face = some (.discovery side graph guard) ↔
      x = some (.discovery side graph guard) := fun x => by
    cases x with
    | none => simp
    | some y => simp [faceDiscovery]
  rw [← face, h.listeners, face]

theorem scripted (h : Steady b b') {l s} (found : b.listeners.get? l = some (.scripted s)) :
    ∃ s', b'.listeners.get? l = some (.scripted s') := by
  have same := h.listeners l
  rw [found] at same
  obtain ⟨x, found', face⟩ := Option.map_eq_some_iff.1 same
  cases x with
  | scripted s' => exact ⟨s', found'⟩
  | discovery => cases face

end Steady

/-! ### One step -/

structure Scope where
  readers : InstanceHandle → Prop
  graphs : GraphId → Prop
  installs : Prop

def Scope.all : Scope := ⟨fun _ => True, fun _ => True, True⟩

inductive Affects (z : Scope) : Bus → Bus → Prop
  | refl (b) : Affects z b b
  | signals {b b'} (h : OnlySignals b b') : Affects z b b'
  | read {b r f} (inside : z.readers r)
      (less : ∀ x, b.readers.get? r = some x → ∃ rest, rest <:+ x.mailbox.samples ∧
        f x = { x with mailbox := { x.mailbox with samples := rest } }) :
      Affects z b (b.modifyReader r f)
  | install {b r l} (inside : z.readers r) (free : z.installs) : Affects z b (b.setListener r l)
  | script {b l f} (plain : ∀ s : Script, s.isPlain → (f s).isPlain) : Affects z b (b.modifyScript l f)
  | draw {b g x} (inside : z.graphs g) (known : (b.graphs.get? g).isSome) :
      Affects z b (b.setGraph g x)
  | trans {a b c} (first : Affects z a b) (second : Affects z b c) : Affects z a c

theorem Affects.steady {z : Scope} {b b' : Bus} (h : Affects z b b') : Steady b b' := by
  induction h with
  | refl b => exact .refl b
  | signals h => exact .ofSignals h
  | read inside less =>
    refine .modifyReader fun x found => ?_
    obtain ⟨rest, _, eq⟩ := less x found
    rw [eq]
    rfl
  | install inside free => exact .modifyReader fun _ _ => rfl
  | script plain => exact .modifyScript
  | draw inside known => exact .setGraph known
  | trans first second ih ih' => exact ih.trans ih'

theorem takeAffects {z : Scope} {b : Bus} {r : InstanceHandle} (inside : z.readers r) :
    Affects z b (b.take r).2 := by
  unfold take
  cases found : b.readers.get? r with
  | none => exact .refl b
  | some x =>
    dsimp only
    cases taken : x.mailbox.take? with
    | none => exact .signals (deactivateFrame b _ _)
    | some p =>
      have read : Affects z b (b.modifyReader r ({ · with mailbox := p.2 })) := by
        refine .read inside fun y same => ?_
        cases Option.some.inj (found.symm.trans same)
        unfold Mailbox.take? at taken
        split at taken
        · contradiction
        · rename_i s rest eq
          cases Option.some.inj taken
          exact ⟨rest, eq ▸ List.suffix_cons s rest, rfl⟩
      dsimp only
      split
      · exact read.trans (.signals (deactivateFrame _ _ _))
      · exact read

theorem takeAllAffects {z : Scope} {b : Bus} {r : InstanceHandle} (inside : z.readers r) :
    Affects z b (b.takeAll r).2 := by
  unfold takeAll
  cases b.readers.get? r with
  | none => exact .refl b
  | some x =>
    have read : Affects z b (b.modifyReader r fun y => { y with mailbox := y.mailbox.empty }) :=
      .read inside fun y _ => ⟨[], List.nil_suffix, rfl⟩
    exact read.trans (.signals (deactivateFrame _ _ _))

theorem drainAffects {z : Scope} {b : Bus} {side : Side} {graph : GraphId} {guard : ConditionId}
    {r : InstanceHandle} (inside : z.readers r) (drawn : z.graphs graph) :
    Affects z b (b.drain side graph guard r).2 := by
  have taken : Affects z b (b.takeAll r).2 := takeAllAffects inside
  unfold drain
  dsimp only
  split
  · exact taken
  · rename_i g found
    refine taken.trans (Affects.trans
      (b := (b.takeAll r).2.setGraph graph (g.absorb side (b.takeAll r).1).1)
      (.draw drawn (by rw [found]; rfl)) ?_)
    dsimp only
    split
    · exact .signals (setGuardFrame _ _ _)
    · exact .refl _

theorem noteAffects {z : Scope} (b : Bus) (l : ListenerId) (n : Note) : Affects z b (b.note l n) :=
  .script fun _ plain => plain

theorem notesAffects {z : Scope} (l : ListenerId) (samples : List Sample) (b : Bus) :
    Affects z b (samples.foldl (fun b s => b.note l (.payload s.payload)) b) := by
  induction samples generalizing b with
  | nil => exact .refl b
  | cons s rest ih => exact (noteAffects b l _).trans (ih _)

theorem writeFromAffects {z : Scope} (b : Bus) (l : ListenerId) (w : InstanceHandle)
    (payload : Octets) : Affects z b (b.writeFrom l w payload).1 := by
  unfold writeFrom
  cases b.route w payload with
  | ok news => exact .refl b
  | error f => exact noteAffects b l _

theorem actAffects {z : Scope} {b : Bus} {r : InstanceHandle} {l : ListenerId} {a : Action}
    (inside : z.readers r) (plain : z.installs ∨ a.isPlain) : Affects z b (b.act r l a).1 := by
  have spend : Affects z b (b.spend l) := .script fun _ plain => plain
  cases a with
  | noteUnread =>
    unfold act
    cases b.readers.get? r with
    | none => exact .refl b
    | some x => exact noteAffects b l _
  | install l' =>
    rcases plain with free | plain
    · exact .install inside free
    · cases plain
  | takeOne =>
    have taken : Affects z b (b.take r).2 := takeAffects inside
    unfold act
    dsimp only
    split
    · rename_i s b' eq
      rw [eq] at taken
      exact taken.trans (noteAffects _ _ _)
    · rename_i b' eq
      rw [eq] at taken
      exact taken
  | takeAll => exact (takeAllAffects inside).trans (notesAffects l _ _)
  | forward w =>
    have taken : Affects z (b.spend l) ((b.spend l).take r).2 := takeAffects inside
    unfold act
    dsimp only
    split
    · exact noteAffects b l _
    · split
      · rename_i s b' eq
        rw [eq] at taken
        cases w with
        | none => exact spend.trans (taken.trans (noteAffects _ _ _))
        | some w => exact spend.trans (taken.trans ((noteAffects _ _ _).trans (writeFromAffects _ _ _ _)))
      · rename_i b' eq
        rw [eq] at taken
        exact spend.trans taken
  | emit w payload =>
    unfold act
    dsimp only
    split
    · exact noteAffects b l _
    · exact spend.trans (writeFromAffects _ _ _ _)

theorem takeListeners (b : Bus) (r : InstanceHandle) : (b.take r).2.listeners = b.listeners := by
  unfold take
  cases b.readers.get? r with
  | none => rfl
  | some x =>
    dsimp only
    cases x.mailbox.take? with
    | none => exact (deactivateFrame b _ _).listeners
    | some p =>
      dsimp only
      split
      · exact (deactivateFrame _ _ _).listeners
      · rfl

theorem drainListeners (b : Bus) (side : Side) (graph : GraphId) (guard : ConditionId)
    (r : InstanceHandle) : (b.drain side graph guard r).2.listeners = b.listeners := by
  have taken : (b.takeAll r).2.listeners = b.listeners := by
    unfold takeAll
    cases b.readers.get? r with
    | none => rfl
    | some x => exact (deactivateFrame _ _ _).listeners
  unfold drain
  dsimp only
  split
  · exact taken
  · dsimp only
    split
    · exact (setGuardFrame _ _ _).listeners.trans taken
    · exact taken

/-! ### Staying within a scope -/

structure Confined (z : Scope) (b : Bus) : Prop where
  scripts : z.installs ∨ ∀ l s, b.listeners.get? l = some (.scripted s) → s.isPlain
  free : z.installs → ∀ g, z.graphs g
  writes : ∀ l s, b.listeners.get? l = some (.scripted s) →
    ∀ k e, b.endpoints.get? k = some e → e.side = .subscription → z.readers k
  feeds : ∀ r x l side g guard, z.readers r → b.readers.get? r = some x → x.listener = some l →
    b.listeners.get? l = some (.discovery side g guard) → z.graphs g

def Task.Within (z : Scope) (b : Bus) : Task → Prop
  | .deliver n => z.readers n.reader
  | .call r l => z.readers r ∧
    ∀ side g guard, b.listeners.get? l = some (.discovery side g guard) → z.graphs g
  | .act r l a => z.readers r ∧ (z.installs ∨ a.isPlain) ∧
    ∃ s, b.listeners.get? l = some (.scripted s)

structure Kept (z : Scope) (b b' : Bus) : Prop where
  steady : Steady b b'
  readers : ∀ r, ¬ z.readers r → b'.readers.get? r = b.readers.get? r
  graphs : ∀ g, ¬ z.graphs g → b'.graphs.get? g = b.graphs.get? g
  listeners : z.installs ∨
    ∀ r, (b'.readers.get? r).map (·.listener) = (b.readers.get? r).map (·.listener)
  plain : (∀ l s, b.listeners.get? l = some (.scripted s) → s.isPlain) →
    ∀ l s, b'.listeners.get? l = some (.scripted s) → s.isPlain

namespace Kept

variable {z : Scope} {a b c b' : Bus}

theorem refl (b : Bus) : Kept z b b :=
  ⟨.refl b, fun _ _ => rfl, fun _ _ => rfl, .inr fun _ => rfl, fun h => h⟩

theorem trans (h : Kept z a b) (h' : Kept z b c) : Kept z a c where
  steady := h.steady.trans h'.steady
  readers r outside := (h'.readers r outside).trans (h.readers r outside)
  graphs g outside := (h'.graphs g outside).trans (h.graphs g outside)
  listeners := by
    rcases h.listeners with free | same
    · exact .inl free
    · exact h'.listeners.imp id fun same' r => (same' r).trans (same r)
  plain start := h'.plain (h.plain start)

theorem ofSignals (h : OnlySignals b b') : Kept z b b' :=
  ⟨.ofSignals h, fun r _ => by rw [h.readers], fun g _ => by rw [h.graphs],
    .inr fun r => by rw [h.readers], fun plain => by rwa [h.listeners]⟩

theorem modifyReader {r : InstanceHandle} {f : Reader → Reader} (inside : z.readers r)
    (same : ∀ x, b.readers.get? r = some x → (f x).identity = x.identity)
    (listener : z.installs ∨ ∀ x, b.readers.get? r = some x → (f x).listener = x.listener) :
    Kept z b (b.modifyReader r f) where
  steady := .modifyReader same
  readers r' outside := by
    simp only [Bus.modifyReader, Table.getModify]
    rw [if_neg]
    rintro rfl
    exact outside inside
  graphs _ _ := rfl
  listeners := by
    refine listener.imp id fun keeps r' => ?_
    simp only [Bus.modifyReader, Table.getModify]
    split
    · rename_i eq
      subst eq
      cases found : b.readers.get? r' with
      | none => rfl
      | some x => exact congrArg some (keeps x found)
    · rfl
  plain h := h

theorem modifyScript {l : ListenerId} {f : Script → Script}
    (plain : ∀ s : Script, s.isPlain → (f s).isPlain) : Kept z b (b.modifyScript l f) where
  steady := .modifyScript
  readers _ _ := rfl
  graphs _ _ := rfl
  listeners := .inr fun _ => rfl
  plain h l' s found := by
    simp only [Bus.modifyScript, Table.getModify] at found
    split at found
    · obtain ⟨x, old, eq⟩ := Option.map_eq_some_iff.1 found
      cases x with
      | scripted s' =>
        cases eq
        exact plain s' (h _ _ old)
      | discovery => cases eq
    · exact h _ _ found

theorem setGraph {g : GraphId} {x : Graph} (inside : z.graphs g) (known : (b.graphs.get? g).isSome) :
    Kept z b (b.setGraph g x) where
  steady := .setGraph known
  readers _ _ := rfl
  graphs g' outside := by
    simp only [Bus.setGraph, Table.getInsert]
    rw [if_neg]
    rintro rfl
    exact outside inside
  listeners := .inr fun _ => rfl
  plain h := h

theorem ofAffects (h : Affects z b b') : Kept z b b' := by
  induction h with
  | refl b => exact .refl b
  | signals h => exact .ofSignals h
  | read inside less =>
    refine .modifyReader inside (fun x found => ?_) (.inr fun x found => ?_)
    · obtain ⟨rest, _, eq⟩ := less x found
      rw [eq]
      rfl
    · obtain ⟨rest, _, eq⟩ := less x found
      rw [eq]
  | install inside free => exact .modifyReader inside (fun _ _ => rfl) (.inl free)
  | script plain => exact .modifyScript plain
  | draw inside known => exact .setGraph inside known
  | trans first second ih ih' => exact ih.trans ih'

theorem confined (h : Kept z b b') (start : Confined z b) : Confined z b' where
  scripts := start.scripts.imp id fun plain => h.plain plain
  free := start.free
  writes l s found k e enrolled side := by
    have face := h.steady.listeners l
    rw [found] at face
    obtain ⟨x, old, eq⟩ := Option.map_eq_some_iff.1 face.symm
    cases x with
    | scripted s' =>
      rw [h.steady.traffic.endpoints] at enrolled
      exact start.writes l s' old k e enrolled side
    | discovery => cases eq
  feeds r x l side g guard inside found listener known := by
    rcases h.listeners with free | same
    · exact start.free free g
    · have old := same r
      rw [found] at old
      obtain ⟨y, before, eq⟩ := Option.map_eq_some_iff.1 old.symm
      exact start.feeds r y l side g guard inside before (eq.trans listener)
        (h.steady.discovery.1 known)

theorem within (h : Kept z b b') {t : Task} (start : t.Within z b) : t.Within z b' := by
  cases t with
  | deliver n => exact start
  | call r l =>
    exact ⟨start.1, fun side g guard known => start.2 side g guard (h.steady.discovery.1 known)⟩
  | act r l a =>
    obtain ⟨inside, plain, s, found⟩ := start
    exact ⟨inside, plain, h.steady.scripted found⟩

end Kept

theorem enqueueReaders (b : Bus) (n : Notice) :
    OnlySignals (b.modifyReader n.reader fun r =>
      { r with mailbox := r.mailbox.push r.history n.arrival }) (b.enqueue n) := by
  unfold enqueue
  cases found : b.readers.get? n.reader with
  | none =>
    have absent : b.readers.modify n.reader (fun r =>
        { r with mailbox := r.mailbox.push r.history n.arrival }) = b.readers :=
      Table.sameLookup fun k => by
        rw [Table.getModify]
        split
        · rename_i eq
          rw [eq, found]
          rfl
        · rfl
    unfold modifyReader
    rw [absent]
    rfl
  | some r =>
    refine OnlySignals.trans ?_ (activateFrame _ _ _)
    generalize b.modifyReader n.reader _ = b'
    generalize List.replicate _ () = units
    induction units generalizing b' with
    | nil => exact .refl b'
    | cons u rest ih => exact (activateFrame b' _ _).trans (ih _)

theorem enqueueKept {z : Scope} {b : Bus} {n : Notice} (inside : z.readers n.reader) :
    Kept z b (b.enqueue n) :=
  Kept.trans
    (b := b.modifyReader n.reader fun r => { r with mailbox := r.mailbox.push r.history n.arrival })
    (.modifyReader inside (fun _ _ => rfl) (.inr fun _ _ => rfl)) (.ofSignals (enqueueReaders b n))

theorem routeExact {b : Bus} {w : InstanceHandle} {payload : Octets} {news : List Notice}
    (ok : b.route w payload = .ok news) :
    ∃ x, b.writers.get? w = some x ∧ x.deleted = false ∧ payload.length ≤ x.maxPayload ∧
      news = ((b.endpoints.filter fun _ e => e.side = .subscription && e.domain = x.domain &&
        e.matchesTopic x.topic x.type).keys.map
          fun r => ⟨r, InstanceHandle.nil, w, .alive, some payload⟩) := by
  unfold route at ok
  split at ok <;> try contradiction
  rename_i x found
  split at ok <;> try contradiction
  rename_i alive
  split at ok <;> try contradiction
  rename_i fits
  exact ⟨x, found, Bool.eq_false_iff.2 alive, Nat.not_lt.1 fits, (Except.ok.inj ok).symm⟩

theorem routeReaders {b : Bus} {w : InstanceHandle} {payload : Octets} {news : List Notice}
    (ok : b.route w payload = .ok news) {n : Notice} (mem : n ∈ news) :
    ∃ e, b.endpoints.get? n.reader = some e ∧ e.side = .subscription := by
  obtain ⟨x, _, _, _, rfl⟩ := routeExact ok
  obtain ⟨r, key, rfl⟩ := List.mem_map.1 mem
  obtain ⟨e, found⟩ := Option.isSome_iff_exists.1 (Table.memKeys.1 key)
  rw [Table.getFilter, Option.filter_eq_some_iff] at found
  simp only [Bool.and_eq_true, decide_eq_true_eq] at found
  exact ⟨e, found.1, found.2.1.1⟩

theorem writeFromWithin {z : Scope} {b : Bus} {l : ListenerId} {w : InstanceHandle}
    {payload : Octets} (writes : ∀ k e, b.endpoints.get? k = some e → e.side = .subscription → z.readers k) :
    ∀ t ∈ (b.writeFrom l w payload).2, t.Within z (b.writeFrom l w payload).1 := by
  unfold writeFrom
  cases routed : b.route w payload with
  | error f => simp
  | ok news =>
    intro t mem
    obtain ⟨n, old, rfl⟩ := List.mem_map.1 mem
    obtain ⟨e, found, side⟩ := routeReaders routed old
    exact writes _ e found side

theorem actWithin {z : Scope} {b : Bus} {r : InstanceHandle} {l : ListenerId} {a : Action}
    (writes : ∀ k e, b.endpoints.get? k = some e → e.side = .subscription → z.readers k) :
    ∀ t ∈ (b.act r l a).2, t.Within z (b.act r l a).1 := by
  cases a with
  | noteUnread =>
    unfold act
    cases b.readers.get? r <;> simp
  | install l' => simp [act]
  | takeOne =>
    unfold act
    dsimp only
    split <;> simp
  | takeAll => simp [act]
  | forward w =>
    have taken := takeFrame (b.spend l) r
    unfold act
    dsimp only
    split
    · simp
    · split
      · rename_i s b' eq
        rw [eq] at taken
        cases w with
        | none => simp
        | some w =>
          refine writeFromWithin fun k e found side => writes k e ?_ side
          rw [(noteFrame b' l _).endpoints, taken.endpoints] at found
          exact found
      · simp
  | emit w payload =>
    unfold act
    dsimp only
    split
    · simp
    · exact writeFromWithin writes

theorem stepKept {z : Scope} {b : Bus} {t : Task} (confined : Confined z b)
    (within : t.Within z b) :
    Kept z b (t.step b).1 ∧ ∀ t' ∈ (t.step b).2, t'.Within z (t.step b).1 := by
  cases t with
  | deliver n =>
    have kept : Kept z b (b.enqueue n) := enqueueKept within
    unfold Task.step
    dsimp only
    split
    · rename_i l found
      refine ⟨kept, fun t' mem => ?_⟩
      rw [List.mem_singleton.1 mem]
      exact ⟨within, fun side g guard known =>
        (kept.confined confined).feeds _ _ _ side g guard within found rfl known⟩
    · exact ⟨kept, by simp⟩
  | call r l =>
    unfold Task.step
    dsimp only
    split
    · rename_i side g guard found
      exact ⟨.ofAffects (drainAffects within.1 (within.2 side g guard found)), by simp⟩
    · rename_i s found
      have kept : Kept z b (b.modifyScript l Script.called) := .modifyScript fun _ => calledPlain
      refine ⟨kept, fun t' mem => ?_⟩
      obtain ⟨a, now, rfl⟩ := List.mem_map.1 mem
      exact ⟨within.1, confined.scripts.imp id fun plain => currentPlain (plain l s found) a now,
        kept.steady.scripted found⟩
    · exact ⟨.refl b, by simp⟩
  | act r l a =>
    obtain ⟨inside, plain, s, found⟩ := within
    exact ⟨.ofAffects (actAffects inside plain), actWithin (confined.writes l s found)⟩

theorem settleKept {z : Scope} {b : Bus} {tasks : List Task} (confined : Confined z b)
    (within : ∀ t ∈ tasks, t.Within z b) : Kept z b (b.settle tasks) := by
  refine (settleInvariant (P := fun b' tasks => Kept z b b' ∧ ∀ t ∈ tasks, t.Within z b')
    (fun b' t rest ⟨kept, within⟩ => ?_) ⟨.refl b, within⟩).1
  obtain ⟨step, new⟩ := stepKept (kept.confined confined) (within t (List.mem_cons_self ..))
  refine ⟨kept.trans step, fun t' mem => ?_⟩
  rcases List.mem_append.1 mem with fresh | old
  · exact new t' fresh
  · exact step.within (within t' (List.mem_cons_of_mem _ old))

theorem deliverKept {z : Scope} {b : Bus} {news : List Notice} (confined : Confined z b)
    (inside : ∀ n ∈ news, z.readers n.reader) : Kept z b (b.deliver news) := by
  refine settleKept confined fun t mem => ?_
  obtain ⟨n, old, rfl⟩ := List.mem_map.1 mem
  exact inside n old

theorem confinedToAll (b : Bus) : Confined .all b :=
  ⟨.inl trivial, fun _ _ => trivial, fun _ _ _ _ _ _ _ => trivial, fun _ _ _ _ _ _ _ _ _ _ => trivial⟩

theorem deliverSteady (b : Bus) (news : List Notice) : Steady b (b.deliver news) :=
  (deliverKept (confinedToAll b) fun _ _ => trivial).steady

theorem deliverAppend (b : Bus) (first second : List Notice) :
    b.deliver (first ++ second) = (b.deliver first).deliver second := by
  unfold deliver
  rw [List.map_append, settleAppend]

end Bus
end Databus
