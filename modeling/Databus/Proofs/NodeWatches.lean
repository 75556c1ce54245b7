import Databus.Proofs.GraphReflection

/-! A node watches its domain: both discovery readers of its participant feed its graph as soon as a sample
comes, and nothing else does. So its graph reflects what is in sight, whatever the others do. -/
namespace Databus

structure NodeWatch where
  participant : InstanceHandle
  graph : GraphId
  guard : ConditionId
  publicationListener : ListenerId
  subscriptionListener : ListenerId
  deriving DecidableEq, Repr

def NodeWatch.listener (w : NodeWatch) : Side → ListenerId
  | .publication => w.publicationListener
  | .subscription => w.subscriptionListener

namespace Bus

def Plain (b : Bus) : Prop := ∀ l s, b.listeners.get? l = some (.scripted s) → s.isPlain

structure Fed (b : Bus) (w : NodeWatch) (m : Member) (g : Graph) (pending : Side → List Sample) :
    Prop where
  member : b.members.get? w.participant = some m
  reader : ∀ side, ∃ x, b.readers.get? (m.inbox side) = some x ∧
    x.listener = some (w.listener side) ∧ x.mailbox.samples = pending side
  listener : ∀ side, b.listeners.get? (w.listener side) = some (.discovery side w.graph w.guard)
  sole : ∀ k x l side guard, b.readers.get? k = some x → x.listener = some l →
    b.listeners.get? l = some (.discovery side w.graph guard) → ∃ side', k = m.inbox side'
  graph : b.graphs.get? w.graph = some g

variable {b b' : Bus} {w : NodeWatch} {m : Member} {g g' : Graph} {pending : Side → List Sample}

theorem Fed.frame (h : Fed b w m g pending) (member : b'.members.get? w.participant = some m)
    (reader : ∀ side, b'.readers.get? (m.inbox side) = b.readers.get? (m.inbox side))
    (others : ∀ k x l, b'.readers.get? k = some x → x.listener = some l →
      (∃ y, b.readers.get? k = some y ∧ y.listener = some l) ∨
        ∀ side guard, b'.listeners.get? l ≠ some (.discovery side w.graph guard))
    (listeners : ∀ l side guard, b'.listeners.get? l = some (.discovery side w.graph guard) ↔
      b.listeners.get? l = some (.discovery side w.graph guard))
    (graph : b'.graphs.get? w.graph = b.graphs.get? w.graph) : Fed b' w m g pending where
  member := member
  reader side := by
    rw [reader side]
    exact h.reader side
  listener side := (listeners _ side w.guard).2 (h.listener side)
  sole k x l side guard found listens known := by
    rcases others k x l found listens with ⟨y, there, same⟩ | none
    · exact h.sole k y l side guard there same ((listeners l side guard).1 known)
    · exact absurd known (none side guard)
  graph := graph.trans h.graph

theorem Fed.signals (h : Fed b w m g pending) (s : OnlySignals b b') : Fed b' w m g pending := by
  refine h.frame ((OnlyTraffic.ofSignals s).members ▸ h.member) (fun side => by rw [s.readers])
    (fun k x l found listens => .inl ⟨x, s.readers ▸ found, listens⟩) (fun l side guard => ?_)
    (by rw [s.graphs])
  rw [s.listeners]

theorem signalsGraph (s : OnlySignals b b') (graph : GraphId) (g : Graph) :
    OnlySignals (b.setGraph graph g) (b'.setGraph graph g) := by
  have same := congrArg (·.setGraph graph g) s.same
  exact same

theorem drainExact {r : InstanceHandle} {x : Reader} (side : Side) {graph : GraphId}
    (guard : ConditionId) (found : b.readers.get? r = some x) (there : b.graphs.get? graph = some g) :
    OnlySignals
      ((b.modifyReader r fun x => { x with mailbox := x.mailbox.empty }).setGraph graph
        (g.absorb side x.mailbox.samples).1)
      (b.drain side graph guard r).2 := by
  have taken : OnlySignals (b.modifyReader r fun x => { x with mailbox := x.mailbox.empty })
      (b.takeAll r).2 := by
    unfold takeAll
    rw [found]
    exact deactivateFrame _ _ _
  have samples : (b.takeAll r).1 = x.mailbox.samples := by
    unfold takeAll
    rw [found]
  have known : (b.takeAll r).2.graphs.get? graph = some g := taken.graphs ▸ there
  unfold drain
  dsimp only
  rw [known, samples]
  refine (signalsGraph taken graph _).trans ?_
  dsimp only
  split
  · exact setGuardFrame _ _ _
  · exact .refl _

theorem inboxApart {side side' : Side} (apart : m.publications ≠ m.subscriptions) :
    m.inbox side' = m.inbox side ↔ side' = side := by
  cases side <;> cases side' <;> simp [Member.inbox, apart, apart.symm]

theorem Fed.drain (h : Fed b w m g pending) (apart : m.publications ≠ m.subscriptions) (side : Side)
    (guard : ConditionId) :
    Fed (b.drain side w.graph guard (m.inbox side)).2 w m (g.absorb side (pending side)).1
      fun s => if s = side then [] else pending s := by
  obtain ⟨x, found, listens, samples⟩ := h.reader side
  have exact := drainExact side guard found h.graph
  rw [samples] at exact
  refine Fed.signals ?_ exact
  have readers : ∀ k, ((b.modifyReader (m.inbox side) fun x =>
      { x with mailbox := x.mailbox.empty }).readers.get? k) =
        if k = m.inbox side then some { x with mailbox := x.mailbox.empty }
        else b.readers.get? k := fun k => by
    simp only [modifyReader, Table.getModify, found, Option.map_some]
  refine ⟨h.member, fun side' => ?_, h.listener, fun k y l s guard' there listens' known => ?_, ?_⟩
  · simp only [setGraph]
    rw [readers]
    split
    · rename_i own
      have same := (inboxApart apart).1 own
      rw [same, if_pos rfl]
      exact ⟨_, rfl, listens, rfl⟩
    · rename_i other
      rw [if_neg fun same => other ((inboxApart apart).2 same)]
      exact h.reader side'
  · simp only [setGraph] at there
    rw [readers] at there
    split at there
    · exact ⟨side, ‹_›⟩
    · exact h.sole k y l s guard' there listens' known
  · simp only [setGraph, Table.getInsert, if_pos]

theorem Fed.enqueue (membersAgree : MembersAgree b) (h : Fed b w m g pending) {side : Side} {n : Notice}
    (own : n.reader = m.inbox side) :
    ∃ view, Fed (b.enqueue n) w m g
      fun s => if s = side then pending s ++ [n.arrival.seen view] else pending s := by
  have apart := membersAgree.apart _ m h.member
  obtain ⟨x, found, listens, samples⟩ := h.reader side
  obtain ⟨x', found', _, keeps⟩ := membersAgree.inbox _ m side h.member
  rw [found] at found'
  cases Option.some.inj found'
  refine ⟨x.mailbox.viewOf n.arrival.subject, ?_⟩
  refine Fed.signals ?_ (enqueueReaders b n)
  have readers : ∀ k, ((b.modifyReader n.reader fun r =>
      { r with mailbox := r.mailbox.push r.history n.arrival }).readers.get? k) =
        if k = m.inbox side then some { x with mailbox := x.mailbox.push x.history n.arrival }
        else b.readers.get? k := fun k => by
    simp only [modifyReader, Table.getModify, own, found, Option.map_some]
  refine ⟨h.member, fun side' => ?_, h.listener, fun k y l s guard' there listens' known => ?_,
    h.graph⟩
  · rw [readers]
    split
    · rename_i same
      have same := (inboxApart apart).1 same
      rw [same, if_pos rfl]
      refine ⟨_, rfl, listens, ?_⟩
      rw [← samples]
      simp only [Mailbox.push, keeps, Mailbox.overflow, History.limit, List.drop_zero]
      rfl
    · rename_i other
      rw [if_neg fun same => other ((inboxApart apart).2 same)]
      exact h.reader side'
  · rw [readers] at there
    split at there
    · exact ⟨side, ‹_›⟩
    · exact h.sole k y l s guard' there listens' known

/-! ### News -/

def elsewhere (w : NodeWatch) (m : Member) : Scope :=
  ⟨fun k => ∀ side, k ≠ m.inbox side, fun g => g ≠ w.graph, False⟩

theorem Fed.kept (h : Fed b w m g pending) (kept : Kept (elsewhere w m) b b') :
    Fed b' w m g pending := by
  refine h.frame (kept.steady.traffic.members ▸ h.member)
    (fun side => kept.readers _ fun other => other side rfl) (fun k x l found listens => .inl ?_)
    (fun l side guard => kept.steady.discovery) (kept.graphs _ fun other => other rfl)
  obtain free | same := kept.listeners
  · cases free
  · have before := same k
    rw [found] at before
    obtain ⟨y, there, eq⟩ := Option.map_eq_some_iff.1 before.symm
    exact ⟨y, there, eq.trans listens⟩

theorem Fed.confined (membersAgree : MembersAgree b) (plain : b.Plain) (h : Fed b w m g pending) :
    Confined (elsewhere w m) b where
  scripts := .inr plain
  free free := nomatch free
  writes _ _ _ k e enrolled _ side same :=
    (membersAgree.endpoints k e enrolled).1.2 _ m side h.member same.symm
  feeds k x l side graph guard inside found listens known same := by
    obtain ⟨side', own⟩ := h.sole k x l side guard found listens (same ▸ known)
    exact inside side' own

theorem Fed.deliverOther (membersAgree : MembersAgree b) (plain : b.Plain) (h : Fed b w m g pending)
    {news : List Notice} (other : ∀ n ∈ news, ∀ side, n.reader ≠ m.inbox side) :
    Fed (b.deliver news) w m g pending :=
  h.kept (deliverKept (h.confined membersAgree plain) other)

theorem Fed.deliverOwn (membersAgree : MembersAgree b) (h : Fed b w m g fun _ => []) {side : Side} {n : Notice}
    (own : n.reader = m.inbox side) :
    ∃ view, Fed (b.deliver [n]) w m (g.apply side (n.arrival.seen view)).1 fun _ => [] := by
  obtain ⟨view, queued⟩ := h.enqueue membersAgree own
  obtain ⟨x, found, listens, _⟩ := queued.reader side
  have delivered : b.deliver [n] = ((b.enqueue n).drain side w.graph w.guard (m.inbox side)).2 := by
    have first : Task.step b (.deliver n) =
        (b.enqueue n, [.call (m.inbox side) (w.listener side)]) := by
      obtain ⟨participant, topic, type, history, condition, mailbox, listener⟩ := x
      cases listens
      simp only [Task.step, own, found]
    have second : Task.step (b.enqueue n) (.call (m.inbox side) (w.listener side)) =
        (((b.enqueue n).drain side w.graph w.guard (m.inbox side)).2, []) := by
      simp only [Task.step, queued.listener side]
    simp only [deliver, List.map_cons, List.map_nil, settle, first, List.append_nil, second]
  have drained := queued.drain (membersAgree.apart _ m h.member) side w.guard
  rw [delivered]
  refine ⟨view, ?_⟩
  simp only [if_pos, List.nil_append] at drained
  have none : (fun s => if s = side then [] else if s = side then ([n.arrival.seen view] : List Sample)
      else []) = fun _ => [] := funext fun s => by split <;> rfl
  rw [none] at drained
  exact drained

theorem deliverPlain (plain : b.Plain) (news : List Notice) : (b.deliver news).Plain :=
  (deliverKept (confinedToAll b) fun _ _ => trivial).plain plain

structure Absorbs (g g' : Graph) (samples : Side → List Sample) : Prop where
  records : ∀ side, g'.records side = (samples side).foldl (Graph.recorded side) (g.records side)
  version : g'.version = g.version +
    Side.total fun side => Graph.shifts side (g.records side) (samples side)

theorem Absorbs.refl (g : Graph) : Absorbs g g fun _ => [] := ⟨fun _ => rfl, rfl⟩

theorem Absorbs.append {g'' : Graph} {first second : Side → List Sample} (h : Absorbs g g' first)
    (h' : Absorbs g' g'' second) : Absorbs g g'' fun side => first side ++ second side where
  records side := by rw [h'.records, h.records, List.foldl_append]
  version := by
    simp only [h'.version, h.version, h.records, Side.total, Graph.shiftsAppend]
    lia

theorem absorbsArrival (g : Graph) (side : Side) (a : Arrival) (view : View) :
    Absorbs g (g.apply side (a.seen view)).1 fun side' => if side' = side then [a.seen .new] else [] where
  records side' := by
    rw [Graph.applyRecords]
    split
    · rename_i own
      rw [own]
      rfl
    · rfl
  version := by
    rw [Graph.applyShifts]
    cases side
    · exact (Nat.add_zero _).symm
    · exact congrArg (g.version + ·) (Nat.zero_add _).symm

theorem absorbsAll (g : Graph) (side : Side) (samples : List Sample) :
    Absorbs g (g.absorb side samples).1 fun side' => if side' = side then samples else [] where
  records side' := by
    rw [Graph.absorbRecords]
    split
    · rename_i own
      rw [own]
    · rfl
  version := by
    rw [Graph.absorbShifts]
    cases side
    · exact (Nat.add_zero _).symm
    · exact congrArg (g.version + ·) (Nat.zero_add _).symm

theorem Fed.deliver (membersAgree : MembersAgree b) (plain : b.Plain) (h : Fed b w m g fun _ => [])
    (sound : g.Sound) (news : List Notice) :
    ∃ g', Fed (b.deliver news) w m g' (fun _ => []) ∧ g'.Sound ∧ Absorbs g g' fun side =>
      (news.flatMap (Notice.arrivals (m.inbox side))).map (·.seen .new) := by
  induction news generalizing b g with
  | nil => exact ⟨g, (deliverNothing b).symm ▸ h, sound, .refl g⟩
  | cons n rest ih =>
    have apart := membersAgree.apart _ m h.member
    have step : ∃ g', Fed (b.deliver [n]) w m g' (fun _ => []) ∧ g'.Sound ∧
        Absorbs g g' fun side => (n.arrivals (m.inbox side)).map (·.seen .new) := by
      by_cases own : ∃ side, n.reader = m.inbox side
      · obtain ⟨side, own⟩ := own
        obtain ⟨view, fed⟩ := h.deliverOwn membersAgree own
        have told : (fun side => (n.arrivals (m.inbox side)).map (·.seen .new)) =
            fun side' => if side' = side then [n.arrival.seen .new] else [] := funext fun side' => by
          rw [Notice.arrivals, own]
          by_cases same : side' = side
          · rw [if_pos (by rw [same]), if_pos same]
            rfl
          · rw [if_neg fun eq => same ((inboxApart apart).1 eq.symm), if_neg same]
            rfl
        rw [told]
        exact ⟨_, fed, Graph.soundApply sound side _, absorbsArrival g side n.arrival view⟩
      · have other : ∀ side, n.reader ≠ m.inbox side := fun side eq => own ⟨side, eq⟩
        have none : (fun side => (n.arrivals (m.inbox side)).map (·.seen .new)) = fun _ => [] :=
          funext fun side => by rw [Notice.arrivals, if_neg (other side)]; rfl
        rw [none]
        refine ⟨g, h.deliverOther membersAgree plain ?_, sound, .refl g⟩
        intro n' mem
        rw [List.mem_singleton.1 mem]
        exact other
    obtain ⟨g', fed, sound', absorbs⟩ := step
    obtain ⟨g'', fed', sound'', absorbs'⟩ :=
      ih (membersAgree.steady (deliverSteady b [n])) (deliverPlain plain [n]) fed sound'
    refine ⟨g'', ?_, sound'', ?_⟩
    · rw [← List.singleton_append, deliverAppend]
      exact fed'
    · have both := absorbs.append absorbs'
      simp only [← List.map_append] at both
      exact both

end Bus

/-! ### Requests of others -/

def Request.Spares (b : Bus) (w : NodeWatch) (m : Member) : Request → Prop
  | .leave p => p ≠ w.participant
  | .take r => ∀ side, r ≠ m.inbox side
  | .drain _ graph _ r => graph ≠ w.graph ∧ ∀ side, r ≠ m.inbox side
  | .setListener r l => (∀ side, r ≠ m.inbox side) ∧
    ∀ l' side guard, l = some l' → b.listeners.get? l' ≠ some (.discovery side w.graph guard)
  | .newListener l => ∀ side guard, l ≠ .discovery side w.graph guard
  | _ => True

def Request.Named (names : String → String → Prop) : Request → Prop
  | .createWriter _ t _ | .createReader _ t _ => names t.name t.type
  | _ => True

def Request.Proper (names : String → String → Prop) (b : Bus) : Request → Prop
  | .createWriter _ t _ | .createReader _ t _ => names t.name t.type
  | .newListener (.scripted s) => s.isPlain
  | .newListener (.discovery _ graph _) => graph < b.nextKey
  | .setListener _ (some l) => l < b.nextKey
  | _ => True

namespace Bus

structure Orderly (names : String → String → Prop) (b : Bus) : Prop where
  membersAgree : b.MembersAgree
  plain : b.Plain
  named : ∀ k e, b.endpoints.get? k = some e → names e.topic e.type
  drawn : ∀ l side graph guard, b.listeners.get? l = some (.discovery side graph guard) →
    graph < b.nextKey
  attached : ∀ k x l, b.readers.get? k = some x → x.listener = some l → l < b.nextKey

variable {names : String → String → Prop} {b b' : Bus} {w : NodeWatch} {m : Member} {g : Graph}
  {pending : Side → List Sample}

theorem orderlyEmpty : Orderly names {} :=
  ⟨membersAgreeEmpty, fun _ _ found => (nomatch found), fun _ _ found => (nomatch found),
    fun _ _ _ _ found => (nomatch found), fun _ _ _ found => (nomatch found)⟩

section Opened

variable {q : Request} {news : List Notice} (opened : q.Opened b b' news)
include opened

theorem openedKeys : b.nextKey ≤ b'.nextKey := by
  cases opened with
  | refused | joined | writer | reader | sent | attached | guard => exact Nat.le_refl _
  | roster roster => exact Nat.le_of_eq (rosterFrame roster).nextKey.symm
  | left =>
    simp only [vacated, marksGroups]
    exact Nat.le_refl _
  | unwritten => exact Nat.le_of_eq (writerWithdrew b _ _).nextKey.symm
  | unread => exact Nat.le_of_eq (readerWithdrew b _ _).nextKey.symm
  | took => exact Nat.le_of_eq (takeFrame b _).nextKey.symm
  | drained => exact Nat.le_of_eq (drainFrame b _ _ _ _).nextKey.symm
  | listener | graph => exact Nat.le_succ _

theorem openedListeners {l : ListenerId} {x : Listener} (found : b'.listeners.get? l = some x) :
    b.listeners.get? l = some x ∨ q = .newListener x := by
  have same : ∀ {c : Bus}, c.listeners = b.listeners → c.listeners.get? l = some x →
      b.listeners.get? l = some x ∨ q = .newListener x := fun eq found => .inl (eq ▸ found)
  cases opened with
  | refused | joined | writer | reader | sent | attached | graph | guard => exact .inl found
  | roster roster => exact same (rosterFrame roster).listeners found
  | left =>
    simp only [vacated, marksGroups] at found
    exact .inl found
  | unwritten => exact same (writerWithdrew b _ _).listeners found
  | unread => exact same (readerWithdrew b _ _).listeners found
  | took => exact same (takeListeners b _) found
  | drained => exact same (drainListeners b _ _ _ _) found
  | listener =>
    simp only [newListener, Table.getInsert] at found
    split at found
    · cases Option.some.inj found
      exact .inr rfl
    · exact .inl found

theorem openedListens {k : InstanceHandle} {x : Reader} {l : ListenerId}
    (found : b'.readers.get? k = some x) (listens : x.listener = some l) :
    (∃ y, b.readers.get? k = some y ∧ y.listener = some l) ∨ q = .setListener k (some l) := by
  have same : ∀ {c : Bus}, c.readers = b.readers → c.readers.get? k = some x →
      (∃ y, b.readers.get? k = some y ∧ y.listener = some l) ∨ q = .setListener k (some l) :=
    fun eq found => .inl ⟨x, eq ▸ found, listens⟩
  have kept : ∀ {c}, Affects ⟨fun _ => True, fun _ => True, False⟩ b c → c.readers.get? k = some x →
      (∃ y, b.readers.get? k = some y ∧ y.listener = some l) ∨ q = .setListener k (some l) :=
    fun affects found => by
      rcases (Kept.ofAffects affects).listeners with free | keeps
      · cases free
      · have before := keeps k
        rw [found] at before
        obtain ⟨y, there, eq⟩ := Option.map_eq_some_iff.1 before.symm
        exact .inl ⟨y, there, eq.trans listens⟩
  have detached : ∀ {c : Bus} {r}, (c.setListener r none).readers.get? k = some x →
      c.readers.get? k = some x := fun {c r} found => by
    simp only [setListener, modifyReader, Table.getModify] at found
    split at found
    · obtain ⟨y, _, rfl⟩ := Option.map_eq_some_iff.1 found
      cases listens
    · exact found
  cases opened with
  | refused | writer | sent | listener | graph | guard => exact same rfl found
  | roster roster => exact same (rosterFrame roster).readers found
  | joined =>
    -- the two discovery readers of a newcomer have no listeners yet
    rw [welcomeReaders] at found
    split at found
    · cases Option.some.inj found
      cases listens
    · split at found
      · cases Option.some.inj found
        cases listens
      · exact same rfl found
  | left =>
    have marked := detached (detached found)
    rw [marksGroups] at marked
    exact same rfl marked
  | reader =>
    simp only [enrolled, withReader, newReader, takeHandle, newCondition, addChild,
      Table.getInsert] at found
    split at found
    · cases Option.some.inj found
      cases listens
    · exact same rfl found
  | unwritten => exact same (writerWithdrew b _ _).readers found
  | unread => exact same (readerWithdrew b _ _).readers found
  | took => exact kept (takeAffects trivial) found
  | drained => exact kept (drainAffects trivial trivial) found
  | attached =>
    simp only [setListener, modifyReader, Table.getModify] at found
    split at found
    · rename_i own
      obtain ⟨y, _, rfl⟩ := Option.map_eq_some_iff.1 found
      rw [own, ← listens]
      exact .inr rfl
    · exact same rfl found

theorem openedPlain (plain : b.Plain) (proper : q.Proper names b) : b'.Plain := by
  intro l s found
  rcases openedListeners opened found with old | new
  · exact plain l s old
  · rw [new] at proper
    exact proper

end Opened

theorem namedRequest (named : ∀ k e, b.endpoints.get? k = some e → names e.topic e.type) {q : Request}
    (proper : q.Proper names b) : ∀ k e, (b.request q).endpoints.get? k = some e → names e.topic e.type := by
  intro k e found
  rcases endpointNew found with old | ⟨_, t, topic, name, type⟩
  · exact named k e old
  · cases q <;> cases topic <;> exact name ▸ type ▸ proper

theorem closingListeners (b b' : Bus) (q : Request) :
    (q.closing b b').listeners = b'.listeners := by
  cases q with
  | deleteReader g r =>
    simp only [Request.closing]
    split <;> rfl
  | _ => rfl

theorem closingListens {q : Request} {k : InstanceHandle} {x : Reader} {l : ListenerId}
    (found : (q.closing b b').readers.get? k = some x) (listens : x.listener = some l) :
    b'.readers.get? k = some x := by
  cases q with
  | deleteReader g r =>
    simp only [Request.closing] at found
    split at found
    · simp only [setListener, modifyReader, Table.getModify] at found
      split at found
      · obtain ⟨y, _, rfl⟩ := Option.map_eq_some_iff.1 found
        cases listens
      · exact found
    · exact found
  | _ => exact found

theorem orderlyRequest (h : b.Orderly names) {q : Request} (proper : q.Proper names b) :
    (b.request q).Orderly names := by
  have steady := requestSteady b q
  have keys : b.nextKey ≤ (b.request q).nextKey := by
    rw [steady.traffic.nextKey]
    exact openedKeys (q.opened b)
  have plain := openedPlain (q.opened b) h.plain proper
  refine ⟨membersAgreeRequest h.membersAgree q, ?_, namedRequest h.named proper, fun l side graph guard found => ?_,
    fun k x l found listens => ?_⟩
  · unfold Plain
    rw [Request.opens b q, closingListeners]
    exact deliverPlain plain _
  · refine Nat.lt_of_lt_of_le ?_ keys
    rcases openedListeners (q.opened b) (steady.discovery.1 found) with old | new
    · exact h.drawn l side graph guard old
    · rw [new] at proper
      exact proper
  · refine Nat.lt_of_lt_of_le ?_ keys
    have within : Confined ⟨fun _ => True, fun _ => True, False⟩ (q.opening b).1 :=
      ⟨.inr plain, fun free => (nomatch free), fun _ _ _ _ _ _ _ => trivial,
        fun _ _ _ _ _ _ _ _ _ _ => trivial⟩
    rw [Request.opens b q] at found
    have delivered := closingListens found listens
    rcases (deliverKept within fun _ _ => trivial).listeners with free | keeps
    · cases free
    · have before := keeps k
      rw [delivered] at before
      obtain ⟨y, there, eq⟩ := Option.map_eq_some_iff.1 before.symm
      rcases openedListens (q.opened b) there (eq.trans listens) with ⟨z, old, same⟩ | new
      · exact h.attached k z l old same
      · rw [new] at proper
        exact proper

theorem Fed.setListener (h : Fed b w m g pending) {r : InstanceHandle} {l : Option ListenerId}
    (other : ∀ side, r ≠ m.inbox side) (foreign : ∀ l' side guard, l = some l' →
      b.listeners.get? l' ≠ some (.discovery side w.graph guard)) :
    Fed (b.setListener r l) w m g pending := by
  have readers : ∀ k, k ≠ r → (b.setListener r l).readers.get? k = b.readers.get? k := fun k ne => by
    simp only [Bus.setListener, modifyReader, Table.getModify, if_neg ne]
  refine h.frame h.member (fun side => readers _ (other side).symm)
    (fun k x l' found listens => ?_) (fun _ _ _ => .rfl) rfl
  by_cases own : k = r
  · rw [own] at found
    simp only [Bus.setListener, modifyReader, Table.getModify, if_pos, Option.map_eq_some_iff] at found
    obtain ⟨y, _, rfl⟩ := found
    exact .inr fun side guard => foreign l' side guard listens
  · exact .inl ⟨x, readers k own ▸ found, listens⟩

theorem Fed.tables (h : Fed b w m g pending) (members : b'.members.get? w.participant = some m)
    (readers : b'.readers = b.readers) (listeners : b'.listeners = b.listeners)
    (graphs : b'.graphs = b.graphs) : Fed b' w m g pending :=
  h.frame members (fun _ => by rw [readers]) (fun k x l found listens => .inl ⟨x, readers ▸ found, listens⟩)
    (fun _ _ _ => by rw [listeners]) (by rw [graphs])

theorem Fed.newReader (membersAgree : MembersAgree b) (h : Fed b w m g pending) (p : InstanceHandle)
    (topic type : String) (history : History) :
    Fed (b.newReader p topic type history).2 w m g pending := by
  have readers : ∀ k, (b.newReader p topic type history).2.readers.get? k =
      if k = b.nextHandle then some
        { participant := p, topic, type, history, condition := b.nextCondition }
      else b.readers.get? k := fun k => by
    simp only [Bus.newReader, takeHandle, newCondition, Table.getInsert]
  refine h.frame h.member (fun side => ?_) (fun k x l found listens => ?_) (fun _ _ _ => .rfl) rfl
  · obtain ⟨x, there, _⟩ := h.reader side
    rw [readers, if_neg (Nat.ne_of_lt (membersAgree.readers _ x there))]
  · rw [readers] at found
    split at found
    · cases Option.some.inj found
      cases listens
    · exact .inl ⟨x, found, listens⟩

theorem Fed.welcome (membersAgree : MembersAgree b) (h : Fed b w m g pending) (domain : DomainId) :
    Fed (b.welcome domain) w m g pending := by
  have old := membersAgree.old _ m h.member
  refine h.frame ?_ (fun side => ?_) (fun k x l found listens => ?_) (fun _ _ _ => .rfl) rfl
  · rw [welcomeMembers, if_neg (Nat.ne_of_lt old)]
    exact h.member
  · obtain ⟨x, there, _⟩ := h.reader side
    have below := membersAgree.readers _ x there
    rw [welcomeReaders, if_neg (by lia), if_neg (by lia)]
  · rw [welcomeReaders] at found
    split at found
    · cases Option.some.inj found
      cases listens
    · split at found
      · cases Option.some.inj found
        cases listens
      · exact .inl ⟨x, found, listens⟩

theorem Fed.vacated (membersAgree : MembersAgree b) (h : Fed b w m g pending) {p : InstanceHandle}
    {x : Participant} (found : b.participants.get? p = some x) (other : p ≠ w.participant) :
    Fed (b.vacated p x) w m g pending := by
  have member : b.members.get? p = some x.member := by
    rw [membersAgree.members, found]
    rfl
  have apart : ∀ side side', x.member.inbox side ≠ m.inbox side' := fun side side' same =>
    other (membersAgree.inboxOwn h.member member same).1
  have marked : Fed (x.groups.foldl markDeleted b) w m g pending := by
    rw [marksGroups]
    exact h.tables h.member rfl rfl rfl
  have first := marked.setListener (r := x.publications) (l := none)
    (fun side => apart .publication side) (fun _ _ _ none => nomatch none)
  have second := first.setListener (r := x.subscriptions) (l := none)
    (fun side => apart .subscription side) (fun _ _ _ none => nomatch none)
  refine second.tables ?_ rfl rfl rfl
  simp only [Bus.vacated, Table.getErase, if_neg other.symm]
  exact second.member

theorem Fed.opened (membersAgree : MembersAgree b) (h : Fed b w m g pending) {q : Request}
    (spares : q.Spares b w m) {news : List Notice} (opened : q.Opened b b' news) :
    Fed b' w m g pending := by
  cases opened with
  | refused | sent => exact h
  | roster roster =>
    have frame := rosterFrame (b := b) roster
    exact h.tables (frame.members ▸ h.member) frame.readers frame.listeners frame.graphs
  | joined => exact h.welcome membersAgree _
  | left found => exact h.vacated membersAgree found spares
  | writer | guard => exact h.tables h.member rfl rfl rfl
  | @reader _ _ topic history =>
    exact (h.newReader membersAgree _ topic.name topic.type history).tables h.member rfl rfl rfl
  | @unwritten g' k =>
    have frame := writerWithdrew b g' k
    exact h.tables (frame.members ▸ h.member) frame.readers frame.listeners frame.graphs
  | @unread g' k =>
    have frame := readerWithdrew b g' k
    exact h.tables (frame.members ▸ h.member) frame.readers frame.listeners frame.graphs
  | took => exact h.kept (.ofAffects (takeAffects spares))
  | drained => exact h.kept (.ofAffects (drainAffects spares.2 spares.1))
  | attached => exact h.setListener spares.1 spares.2
  | listener =>
    refine h.frame h.member (fun _ => rfl) (fun k x _ found listens => .inl ⟨x, found, listens⟩)
      (fun l' side guard => ?_) rfl
    simp only [newListener, Table.getInsert]
    split
    · rename_i own
      constructor
      · exact fun known => absurd (Option.some.inj known) (spares side guard)
      · exact fun known => absurd own (Nat.ne_of_lt (membersAgree.listeners l' _ known))
    · exact .rfl
  | graph =>
    refine h.frame h.member (fun _ => rfl) (fun k x _ found listens => .inl ⟨x, found, listens⟩)
      (fun _ _ _ => .rfl) ?_
    simp only [newGraph, Table.getInsert]
    rw [if_neg (Nat.ne_of_lt (membersAgree.graphs _ g h.graph))]

theorem Fed.closing (membersAgree : MembersAgree b) (h : Fed b' w m g pending)
    (member : b.members.get? w.participant = some m) (q : Request) :
    Fed (q.closing b b') w m g pending := by
  cases q with
  | deleteReader g' r =>
    simp only [Request.closing]
    split
    · rename_i b'' deleted
      obtain ⟨_, ⟨y, found, child⟩, _⟩ := deleteReaderOpens deleted
      refine h.setListener (fun side same => (membersAgree.children g' y r found child).2 _ m side member same.symm)
        fun _ _ _ none => ?_
      cases none
    · exact h
  | _ => exact h

/-! ### A watched domain -/

def Watched (b : Bus) (w : NodeWatch) (m : Member) : Prop :=
  ∃ g, Fed b w m g (fun _ => []) ∧ g.Sound ∧
    ∀ side, Reflects side (g.records side) (b.visible w.participant m side)

theorem fedRequest (orderly : b.Orderly names) (fed : Fed b w m g fun _ => []) (sound : g.Sound) {q : Request}
    (spares : q.Spares b w m) (proper : q.Proper names b) :
    ∃ g', Fed (b.request q) w m g' (fun _ => []) ∧ g'.Sound ∧ Absorbs g g' fun side =>
      (changes q.ending (b.visible w.participant m side) ((b.request q).visible w.participant m side)).map
        (·.seen .new) := by
  have membersAgree := orderly.membersAgree
  have opened := fed.opened membersAgree spares (q.opened b)
  obtain ⟨g', delivered, sound', absorbs⟩ := opened.deliver (membersAgreeOpened membersAgree (q.opened b))
    (openedPlain (q.opened b) orderly.plain proper) sound (q.opening b).2
  refine ⟨g', Request.opens b q ▸ delivered.closing membersAgree fed.member q, sound', ?_⟩
  have news (side : Side) : (q.opening b).2.flatMap (Notice.arrivals (m.inbox side)) =
      changes q.ending (b.visible w.participant m side) ((b.request q).visible w.participant m side) := by
    rw [newsExact membersAgree (q.opened b) fed.member opened.member, visibleSame (requestEndpoints b q)]
  simp only [news] at absorbs
  exact absorbs

theorem sightAgrees (membersAgree : MembersAgree b) {q : Request} {p : InstanceHandle} {side : Side}
    (k : InstanceHandle) (e e' : Endpoint) (old : (b.visible p m side).get? k = some e)
    (new : ((b.request q).visible p m side).get? k = some e') : e = e' := by
  have before := (memVisible.1 old).1
  rcases endpointNew (memVisible.1 new).1 with same | ⟨fresh, _⟩
  · exact Option.some.inj (before.symm.trans same)
  · exact absurd fresh (Nat.ne_of_lt (membersAgree.endpoints k e before).1.1)

theorem watchedRequest (orderly : b.Orderly names) (h : b.Watched w m) {q : Request}
    (spares : q.Spares b w m) (proper : q.Proper names b) : (b.request q).Watched w m := by
  obtain ⟨g, fed, sound, reflects⟩ := h
  obtain ⟨g', fed', sound', absorbs⟩ := fedRequest orderly fed sound spares proper
  refine ⟨g', fed', sound', fun side => ?_⟩
  rw [absorbs.records]
  exact reflectChanges (reflects side) (endingGone q) (sightAgrees orderly.membersAgree)

end Bus
end Databus
