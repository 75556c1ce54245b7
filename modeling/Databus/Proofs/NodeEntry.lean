import Databus.Middleware.Nodes
import Databus.Proofs.RequestMoves

/-! How a node enters a domain: it joins, what was announced to it waits in its readers, and only then do its
listeners take over. Its graph starts out as what is in sight, and no other watch notices. -/
namespace Databus

namespace Bus

variable {b b' : Bus}

theorem unheardSamples (news : List Notice) {r : InstanceHandle} {x : Reader}
    (silent : ∀ n ∈ news, ∀ y, b.readers.get? n.reader = some y → y.listener = none)
    (found : b.readers.get? r = some x) (keeps : x.history = .keepAll) :
    ∃ x', (b.deliver news).readers.get? r = some x' ∧ x'.listener = x.listener ∧
      x'.mailbox.samples = x.mailbox.samples ++ heard r b (news.map .deliver) := by
  induction news generalizing b x with
  | nil => exact ⟨x, (deliverNothing b).symm ▸ found, rfl, by simp [heard]⟩
  | cons n rest ih =>
    have there : ∀ {k y}, b.readers.get? k = some y →
        (b.enqueue n).readers.get? k = some (if n.reader = k then
          { y with mailbox := y.mailbox.push y.history n.arrival } else y) := enqueueMailbox
    have listeners : ∀ {k y}, (b.enqueue n).readers.get? k = some y →
        ∃ y', b.readers.get? k = some y' ∧ y'.listener = y.listener := fun {k y} now => by
      cases before : b.readers.get? k with
      | none =>
        have same := ((enqueueKept (z := .all) trivial : Kept .all b (b.enqueue n)).steady.readers k)
        rw [now, before] at same
        cases same
      | some y' =>
        rw [there before] at now
        cases Option.some.inj now
        exact ⟨y', rfl, by split <;> rfl⟩
    -- no reader on the way has a listener, so nothing comes before the rest
    have quiet : Task.step b (.deliver n) = (b.enqueue n, []) := by
      simp only [Task.step]
      cases known : (b.enqueue n).readers.get? n.reader with
      | none => rfl
      | some y =>
        obtain ⟨y', before, same⟩ := listeners known
        have none := same.symm.trans (silent n (List.mem_cons_self ..) y' before)
        obtain ⟨participant, topic, type, history, condition, mailbox, listener⟩ := y
        cases none
        rfl
    have first : b.deliver (n :: rest) = (b.enqueue n).deliver rest := by
      simp only [deliver, List.map_cons, settle, quiet, List.nil_append]
    obtain ⟨x', last, listener, samples⟩ := ih
      (fun n' mem y now => by
        obtain ⟨y', before, same⟩ := listeners now
        exact same.symm.trans (silent n' (List.mem_cons_of_mem _ mem) y' before))
      (there found) (by split <;> exact keeps)
    refine ⟨x', first ▸ last, listener.trans (by split <;> rfl), ?_⟩
    rw [samples, List.map_cons, heard, quiet, List.nil_append, ← List.append_assoc]
    congr 1
    simp only [Task.sample, found, Task.arrivals]
    split
    · simp [Mailbox.push, Mailbox.overflow, keeps, History.limit]
    · simp

theorem joinSamples (h : MembersAgree b) {domain : DomainId} (fits : domain ≤ maxDomainId) (side : Side) :
    ∃ x, (b.request (.join domain)).readers.get? ((b.newMember domain).inbox side) = some x ∧
      x.listener = none ∧ x.mailbox.samples =
        ((b.request (.join domain)).visible b.nextHandle (b.newMember domain) side).entries.map
          fun y => (appeared y.1 y.2).seen .new := by
  have opening := Request.openingJoin b fits
  obtain ⟨topic, condition, found⟩ := welcomeInbox b domain side
  obtain ⟨x, there, listener, samples⟩ := unheardSamples (b.replay (b.newMember domain))
    (fun n mem y now => by
      obtain ⟨⟨k, e⟩, _, told⟩ := List.mem_flatMap.1 mem
      simp only [announce, List.map_cons, List.map_nil, List.mem_singleton] at told
      obtain ⟨topic, condition, known⟩ := welcomeInbox b domain e.side
      rw [told, known] at now
      rw [← Option.some.inj now]
      rfl) found rfl
  have heard := (attentiveJoin h fits side).1
  rw [heardRun, heardRun, List.append_nil, opening] at heard
  refine ⟨x, ?_, listener, ?_⟩
  · rw [Request.opens, opening]
    exact there
  · rw [samples, heard]
    rfl

end Bus

namespace Middleware

def NodeRecord.watch (n : NodeRecord) : NodeWatch :=
  ⟨n.participant, n.graph, n.guard, n.publicationListener, n.subscriptionListener⟩

namespace Site

open Bus (Orderly Watched Moves Gentle Allowed Fed)

variable {names : String → String → Prop}

def nextWatch (joined : Bus) (participant : InstanceHandle) : NodeWatch :=
  ⟨participant, joined.nextKey, joined.nextCondition, joined.nextKey + 1, joined.nextKey + 2⟩

def equip (w : NodeWatch) (m : Member) : List Request :=
  [.newGraph, .newGuard, .newListener (.discovery .publication w.graph w.guard),
    .newListener (.discovery .subscription w.graph w.guard),
    .setListener m.publications (some w.publicationListener),
    .setListener m.subscriptions (some w.subscriptionListener),
    .drain .publication w.graph w.guard m.publications,
    .drain .subscription w.graph w.guard m.subscriptions]

theorem joinNodeOpens {b b' : Bus} {name : String} {domain : DomainId} {n : NodeRecord}
    (ok : joinNode b name domain = .ok (n, b')) :
    domain ≤ maxDomainId ∧ n.name = name ∧ n.endpoints = 0 ∧
      n.watch = nextWatch (b.request (.join domain)) b.nextHandle ∧
      b' = (b.request (.join domain)).run (equip n.watch (b.newMember domain)) := by
  unfold joinNode at ok
  by_cases large : maxDomainId < domain
  · rw [Bus.joinRefused large] at ok
    contradiction
  · have fits := Nat.not_lt.1 large
    have joins := Bus.joinOpens (b := b) fits
    have joined : b.request (.join domain) =
        (b.welcome domain).deliver (b.replay (b.newMember domain)) := by
      rw [Bus.request, joins]
      rfl
    rw [← joined] at joins
    have there : (b.request (.join domain)).participants.get? b.nextHandle = some
        { domain, publications := b.nextHandle + 1, subscriptions := b.nextHandle + 2 } := by
      rw [(Bus.requestSteady b (.join domain)).traffic.participants, Request.openingJoin b fits]
      exact (Bus.welcomeParticipants b domain b.nextHandle).trans (if_pos rfl)
    rw [joins] at ok
    dsimp only at ok
    split at ok
    · rename_i absent
      exact absurd (there.symm.trans absent) (by simp)
    · rename_i p found
      cases Option.some.inj (there.symm.trans found)
      cases Except.ok.inj ok
      exact ⟨fits, rfl, rfl, rfl, rfl⟩

theorem equipProper (names : String → String → Prop) (joined : Bus) (p : InstanceHandle) (m : Member) :
    Allowed (fun b q => q.Proper names b) joined (equip (nextWatch joined p) m) :=
  ⟨trivial, trivial, Nat.lt_succ_self _, Nat.lt_add_of_pos_right (k := 2) (by decide),
    Nat.lt_add_of_pos_right (k := 2) (by decide), Nat.lt_add_of_pos_right (k := 1) (by decide),
    trivial, trivial, trivial⟩

theorem equipSpares {joined : Bus} {w : NodeWatch} {m m' : Member} (p : InstanceHandle)
    (older : w.graph < joined.nextKey) (apart : ∀ side side', m'.inbox side ≠ m.inbox side') :
    Allowed (fun b q => q.Spares b w m) joined (equip (nextWatch joined p) m') := by
  have new : joined.nextKey ≠ w.graph := Nat.ne_of_gt older
  have foreign : ∀ side, ∀ l' side' guard, some ((nextWatch joined p).listener side) = some l' →
      ((joined.listeners.insert (joined.nextKey + 1)
        (.discovery .publication joined.nextKey joined.nextCondition)).insert (joined.nextKey + 2)
        (.discovery .subscription joined.nextKey joined.nextCondition)).get? l' ≠
          some (.discovery side' w.graph guard) := fun side l' side' guard eq known => by
    cases Option.some.inj eq
    cases side <;> simp [nextWatch, NodeWatch.listener, Table.getInsert, new] at known
  refine ⟨trivial, trivial, ?_, ?_, ⟨apart .publication, foreign .publication⟩,
    ⟨apart .subscription, foreign .subscription⟩, ⟨new, apart .publication⟩,
    ⟨new, apart .subscription⟩, trivial⟩
  · exact fun side guard eq => new (Listener.discovery.inj eq).2.1
  · exact fun side guard eq => new (Listener.discovery.inj eq).2.1

def listening (joined : Bus) (m : Member) : Bus :=
  { joined with
    nextKey := joined.nextKey + 3
    nextCondition := joined.nextCondition + 1
    conditions := joined.conditions.insert joined.nextCondition .newGuard
    graphs := joined.graphs.insert joined.nextKey {}
    listeners := (joined.listeners.insert (joined.nextKey + 1)
      (.discovery .publication joined.nextKey joined.nextCondition)).insert (joined.nextKey + 2)
      (.discovery .subscription joined.nextKey joined.nextCondition)
    readers := (joined.readers.modify m.publications
      ({ · with listener := some (joined.nextKey + 1) })).modify m.subscriptions
      ({ · with listener := some (joined.nextKey + 2) }) }

theorem equipListens (joined : Bus) (p : InstanceHandle) (m : Member) :
    joined.run (equip (nextWatch joined p) m) = (listening joined m).run
      [.drain .publication joined.nextKey joined.nextCondition m.publications,
        .drain .subscription joined.nextKey joined.nextCondition m.subscriptions] := by
  simp only [equip, Bus.run, List.foldl_cons]
  rfl

section Listening

variable {joined : Bus} {p : InstanceHandle} {m : Member} (apart : m.publications ≠ m.subscriptions)
include apart

theorem listeningReaders (side : Side) : (listening joined m).readers.get? (m.inbox side) =
    (joined.readers.get? (m.inbox side)).map
      ({ · with listener := some ((nextWatch joined p).listener side) }) := by
  cases side
  · simp only [listening, Member.inbox, Table.getModify, if_neg apart, if_pos]
    rfl
  · simp only [listening, Member.inbox, Table.getModify, if_neg apart.symm, if_pos]
    rfl

omit apart in
theorem listeningOthers {k : InstanceHandle} (other : ∀ side, k ≠ m.inbox side) :
    (listening joined m).readers.get? k = joined.readers.get? k := by
  have first : k ≠ m.publications := other .publication
  have second : k ≠ m.subscriptions := other .subscription
  simp only [listening, Table.getModify, if_neg first, if_neg second]

theorem listeningFed (orderly : Orderly names joined) (member : joined.members.get? p = some m)
    {pending : Side → List Sample} (waiting : ∀ side, ∃ x,
      joined.readers.get? (m.inbox side) = some x ∧ x.mailbox.samples = pending side) :
    Fed (listening joined m) (nextWatch joined p) m {} pending := by
  refine ⟨member, fun side => ?_, fun side => ?_, fun k z l side guard found listens known => ?_, ?_⟩
  · obtain ⟨x, found, samples⟩ := waiting side
    rw [listeningReaders (p := p) apart, found]
    exact ⟨_, rfl, rfl, samples⟩
  · cases side <;> simp [listening, nextWatch, NodeWatch.listener, Table.getInsert]
  · by_cases own : ∃ side', k = m.inbox side'
    · exact own
    · -- any other reader listens as before, and no old listener feeds a graph that is new
      have old : joined.readers.get? k = some z := by
        rw [listeningOthers fun side eq => own ⟨side, eq⟩] at found
        exact found
      have below := orderly.attached k z l old listens
      simp only [listening, Table.getInsert] at known
      rw [if_neg (by lia), if_neg (by lia)] at known
      exact absurd (orderly.drawn l side _ guard known) (Nat.lt_irrefl _)
  · simp [listening, nextWatch, Table.getInsert]

end Listening

theorem equipFed {joined : Bus} (orderly : Orderly names joined) {p : InstanceHandle} {m : Member}
    (member : joined.members.get? p = some m) {pending : Side → List Sample} (waiting : ∀ side, ∃ x,
      joined.readers.get? (m.inbox side) = some x ∧ x.mailbox.samples = pending side) :
    ∃ g, Fed (joined.run (equip (nextWatch joined p) m)) (nextWatch joined p) m g (fun _ => []) ∧
      g.Sound ∧ Bus.Absorbs {} g pending := by
  have apart := orderly.membersAgree.apart p m member
  have fed := listeningFed apart orderly member waiting
  have drained := (fed.drain apart .publication (nextWatch joined p).guard).drain apart .subscription
    (nextWatch joined p).guard
  have absorbs := (Bus.absorbsAll {} .publication (pending .publication)).append
    (Bus.absorbsAll _ .subscription (pending .subscription))
  have sides : (fun side => (if side = .publication then pending .publication else []) ++
      if side = .subscription then pending .subscription else []) = pending := funext fun side => by
    cases side
    · exact List.append_nil _
    · rfl
  rw [sides] at absorbs
  refine ⟨_, ?_, Graph.soundAbsorb (Graph.soundAbsorb Graph.soundEmpty .publication (pending .publication))
    .subscription (pending .subscription), absorbs⟩
  refine cast ?_ drained
  congr 1
  funext side
  cases side <;> rfl

theorem equipStill (w : NodeWatch) (m : Member) (b : Bus) : ∀ q ∈ equip w m,
    (b.request q).members = b.members ∧ (b.request q).endpoints = b.endpoints := by
  intro q mem
  have drained (side : Side) (r : InstanceHandle) : (b.drain side w.graph w.guard r).2.members = b.members ∧
      (b.drain side w.graph w.guard r).2.endpoints = b.endpoints :=
    have frame := Bus.drainFrame b side w.graph w.guard r
    ⟨frame.members, frame.endpoints⟩
  simp only [equip, List.mem_cons, List.not_mem_nil, or_false] at mem
  rcases mem with rfl | rfl | rfl | rfl | rfl | rfl | rfl | rfl <;>
    first | exact ⟨rfl, rfl⟩ | exact drained ..

theorem equipWatched {joined : Bus} (orderly : Orderly names joined) {p : InstanceHandle} {m : Member}
    (member : joined.members.get? p = some m)
    (waiting : ∀ side, ∃ x, joined.readers.get? (m.inbox side) = some x ∧
      x.mailbox.samples = (joined.visible p m side).entries.map
        fun y => (Bus.appeared y.1 y.2).seen .new) :
    Watched (joined.run (equip (nextWatch joined p) m)) (nextWatch joined p) m := by
  obtain ⟨g, fed, sound, absorbs⟩ := equipFed orderly member waiting
  refine ⟨g, fed, sound, fun side => ?_⟩
  have sight : (joined.run (equip (nextWatch joined p) m)).visible p m side = joined.visible p m side := by
    refine Bus.visibleSame ?_ p m side
    rw [equipListens]
    exact (Bus.drainFrame _ .subscription joined.nextKey joined.nextCondition _).endpoints.trans
      (Bus.drainFrame _ .publication joined.nextKey joined.nextCondition _).endpoints
  have empty : ({} : Graph).records side = .empty := by cases side <;> rfl
  change Bus.Reflects side _ ((joined.run (equip (nextWatch joined p) m)).visible p m side)
  rw [sight, absorbs.records, empty]
  exact Bus.reflectAll side (joined.visible p m side)

theorem joinNodeWatched {b b' : Bus} {name : String} {domain : DomainId} {n : NodeRecord}
    (orderly : Orderly names b) (ok : joinNode b name domain = .ok (n, b')) :
    n.participant = b.nextHandle ∧ Orderly names b' ∧ Watched b' n.watch (b.newMember domain) ∧
      ∀ w m, Watched b w m → Moves (Gentle names w m) b b' := by
  obtain ⟨fits, _, _, watch, rfl⟩ := joinNodeOpens ok
  have participant : n.participant = b.nextHandle := congrArg NodeWatch.participant watch
  have membersAgree := orderly.membersAgree
  have joins : Orderly names (b.request (.join domain)) := Bus.orderlyRequest orderly trivial
  rw [watch]
  have proper := equipProper names (b.request (.join domain)) b.nextHandle (b.newMember domain)
  refine ⟨participant, Bus.orderlyMoves (fun _ _ proper => proper) (Bus.movesRun proper) joins,
    equipWatched joins (Bus.attentiveJoin membersAgree fits .publication).2.member
    fun side => ?_, fun w m watched => ?_⟩
  · obtain ⟨x, found, _, samples⟩ := Bus.joinSamples membersAgree fits side
    exact ⟨x, found, samples⟩
  · refine .trans (.ask (q := .join domain) ⟨trivial, trivial⟩)
      (Bus.movesRun (Bus.allowedBoth proper (equipSpares _ ?_ fun side side' => ?_)))
    · obtain ⟨g, fed, _⟩ := Bus.watchedRequest (q := .join domain) orderly watched trivial trivial
      exact joins.membersAgree.graphs _ g fed.graph
    · obtain ⟨g, fed, _⟩ := watched
      obtain ⟨x, found, _⟩ := fed.reader side'
      exact Nat.ne_of_gt (Nat.lt_trans (membersAgree.readers _ x found) (Bus.memberInbox b domain side))

end Site
end Middleware
end Databus
