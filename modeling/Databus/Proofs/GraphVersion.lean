import Databus.Proofs.NodeEntry
import Databus.Proofs.GraphGuards

/-! How often the graph of a watch changes: its version counts each endpoint that came into sight or left it,
request by request, as long as announcements can be read. -/
namespace Databus

namespace Bus

/-! ### What changes by a request -/

def legible (side : Side) (endpoints : Table InstanceHandle Endpoint) : Table InstanceHandle Endpoint :=
  endpoints.filter fun k e => (read side k e).isSome

def turnover (side : Side) (old new : Table InstanceHandle Endpoint) : Nat :=
  (legible side (departures old new)).size + (legible side (departures new old)).size

theorem turnoverSame (side : Side) (t : Table InstanceHandle Endpoint) : turnover side t t = 0 := by
  have none : departures t t = .empty := departuresNone fun k e found => by rw [found]; rfl
  rw [turnover, none]
  rfl

theorem turnoverNew (side : Side) (t : Table InstanceHandle Endpoint) :
    turnover side .empty t = (legible side t).size := by
  have gone : departures .empty t = .empty := departuresNone fun _ _ found => nomatch found
  have came : departures t .empty = t := Table.sameLookup fun k => getDepartures t .empty k
  rw [turnover, gone, came]
  exact Nat.zero_add _

theorem shiftsVanished (side : Side) {state : Liveness} (ended : state.isGone = true) (view : View)
    {l : List (InstanceHandle × Endpoint)} {t : Table InstanceHandle GraphRecord}
    (known : ∀ x ∈ l, t.get? x.1 = read side x.1 x.2) (once : (l.map (·.1)).Nodup) :
    Graph.shifts side t (l.map fun x => (vanished state x.1).seen view) =
      (l.filter fun x => (read side x.1 x.2).isSome).length := by
  induction l generalizing t with
  | nil => rfl
  | cons x rest ih =>
    obtain ⟨absent, once⟩ := List.nodup_cons.1 once
    have alters : Graph.alters t ((vanished state x.1).seen view) = (read side x.1 x.2).isSome :=
      (if_pos ended).trans (congrArg Option.isSome (known x List.mem_cons_self))
    rw [List.map_cons, Graph.shifts, recordVanished ended, alters, ih (fun y mem => ?_) once, List.filter_cons]
    · split
      · exact Nat.add_comm ..
      · exact Nat.zero_add _
    · have other : y.1 ≠ x.1 := fun eq => absent (List.mem_map.2 ⟨y, mem, eq⟩)
      rw [Table.getErase, if_neg other]
      exact known y (List.mem_cons_of_mem _ mem)

theorem altersAppeared {t : Table InstanceHandle GraphRecord} {k : InstanceHandle} (side : Side)
    (fresh : t.get? k = none) (e : Endpoint) (view : View) :
    Graph.alters t ((appeared k e).seen view) = (read side k e).isSome := by
  have absent : t.contains k = false := by rw [Table.contains, fresh]; rfl
  unfold Graph.alters read
  simp only [Arrival.seen, appeared, Option.map_some, absent]
  cases Announcement.decode (e.announcement k).encode <;> rfl

theorem shiftsAppeared {side : Side} (view : View) {l : List (InstanceHandle × Endpoint)}
    {t : Table InstanceHandle GraphRecord} (fresh : ∀ x ∈ l, t.get? x.1 = none)
    (once : (l.map (·.1)).Nodup) :
    Graph.shifts side t (l.map fun x => (appeared x.1 x.2).seen view) =
      (l.filter fun x => (read side x.1 x.2).isSome).length := by
  induction l generalizing t with
  | nil => rfl
  | cons x rest ih =>
    obtain ⟨absent, once⟩ := List.nodup_cons.1 once
    have first := fresh x List.mem_cons_self
    rw [List.map_cons, Graph.shifts, altersAppeared side first, recordAppeared side first,
      ih (fun y mem => ?_) once, List.filter_cons]
    · split
      · exact Nat.add_comm ..
      · exact Nat.zero_add _
    · have other : y.1 ≠ x.1 := fun eq => absent (List.mem_map.2 ⟨y, mem, eq⟩)
      have later := fresh y (List.mem_cons_of_mem _ mem)
      cases read side x.1 x.2 with
      | none => exact later
      | some r => exact (Table.getInsert ..).trans ((if_neg other).trans later)

theorem shiftsChanges {side : Side} {t : Table InstanceHandle GraphRecord}
    {old new : Table InstanceHandle Endpoint} {state : Liveness} (reflects : Reflects side t old)
    (ended : state.isGone = true) :
    Graph.shifts side t ((changes state old new).map (·.seen .new)) = turnover side old new := by
  rw [changes, List.map_append, List.map_map, List.map_map, Graph.shiftsAppend]
  refine congr (congrArg HAdd.hAdd (shiftsVanished side ended .new (fun x mem => ?_) ?_))
    (shiftsAppeared .new (fun x mem => ?_) ?_)
  · have entry := memDepartures.1 (Table.memEntries.1 mem)
    rw [reflects, entry.1]
    rfl
  · exact Table.keysNodup (departures old new)
  · have entry := memDepartures.1 (Table.memEntries.1 mem)
    refine (recordsVanished side ended .new t (departures old new).entries x.1).trans ?_
    rw [reflects, entry.2]
    split <;> rfl
  · exact Table.keysNodup (departures new old)

/-! ### What a participant has seen -/

def sight (b : Bus) (p : InstanceHandle) (side : Side) : Table InstanceHandle Endpoint :=
  match b.members.get? p with
  | some m => b.visible p m side
  | none => .empty

def applied (p : InstanceHandle) (b : Bus) : List Request → Nat
  | [] => 0
  | q :: rest => (Side.total fun side => turnover side (b.sight p side) ((b.request q).sight p side)) +
    applied p (b.request q) rest

variable {names : String → String → Prop} {b b' : Bus} {w : NodeWatch} {m : Member} {p : InstanceHandle}

theorem sightMember (member : b.members.get? p = some m) (side : Side) :
    b.sight p side = b.visible p m side := by
  rw [sight, member]

theorem sightSame (members : b'.members = b.members) (endpoints : b'.endpoints = b.endpoints) (side : Side) :
    b'.sight p side = b.sight p side := by
  simp only [sight, visible, members, endpoints]

theorem sightNone (absent : b.members.get? p = none) (side : Side) : b.sight p side = .empty := by
  rw [sight, absent]

theorem appliedAppend (p : InstanceHandle) (b : Bus) (requests later : List Request) :
    b.applied p (requests ++ later) = b.applied p requests + (b.run requests).applied p later := by
  induction requests generalizing b with
  | nil => exact (Nat.zero_add _).symm
  | cons q rest ih => rw [List.cons_append, applied, ih, applied, Nat.add_assoc, runFirst]

theorem appliedFuture {requests : List Request} (membersAgree : b.MembersAgree)
    (future : (b.run requests).nextHandle ≤ p) :
    b.applied p requests = 0 := by
  have absent {c : Bus} (membersAgree : c.MembersAgree) (future : c.nextHandle ≤ p) : c.members.get? p = none :=
    Option.eq_none_iff_forall_ne_some.2 fun m found => Nat.not_lt.2 future (membersAgree.old p m found)
  induction requests generalizing b with
  | nil => rfl
  | cons q rest ih =>
    have next := handlesGrowRun (b.request q) rest
    have membersAgree' := membersAgreeRequest membersAgree q
    have still (side : Side) : turnover side (b.sight p side) ((b.request q).sight p side) = 0 := by
      rw [sightNone (absent membersAgree (Nat.le_trans (Nat.le_trans (handlesGrow b q) next) future)),
        sightNone (absent membersAgree' (Nat.le_trans next future)), turnoverSame]
    rw [applied, ih membersAgree' future, Side.total, still, still]

theorem appliedStill {requests : List Request} (still : ∀ (b : Bus), ∀ q ∈ requests,
    (b.request q).members = b.members ∧ (b.request q).endpoints = b.endpoints) : b.applied p requests = 0 := by
  induction requests generalizing b with
  | nil => rfl
  | cons q rest ih =>
    obtain ⟨members, endpoints⟩ := still b q List.mem_cons_self
    rw [applied, ih fun b q mem => still b q (List.mem_cons_of_mem _ mem)]
    simp only [sightSame members endpoints, turnoverSame, Side.total]

/-! ### The version of a watched graph -/

theorem versionFed {g : Graph} {pending : Side → List Sample} (fed : Fed b w m g pending) :
    b.version w.graph = g.version := by
  rw [version, fed.graph]
  rfl

theorem versionRequest (orderly : b.Orderly names) (h : b.Watched w m) {q : Request}
    (spares : q.Spares b w m) (proper : q.Proper names b) :
    (b.request q).version w.graph = b.version w.graph + b.applied w.participant [q] := by
  obtain ⟨g, fed, sound, reflects⟩ := h
  obtain ⟨g', fed', _, absorbs⟩ := fedRequest orderly fed sound spares proper
  rw [versionFed fed', versionFed fed, absorbs.version]
  simp only [applied, Nat.add_zero, shiftsChanges (reflects _) (endingGone q), sightMember fed.member,
    sightMember fed'.member]

theorem versionRun {requests : List Request} (orderly : b.Orderly names) (h : b.Watched w m)
    (gentle : Allowed (Gentle names w m) b requests) :
    (b.run requests).version w.graph = b.version w.graph + b.applied w.participant requests := by
  induction requests generalizing b with
  | nil => rfl
  | cons q rest ih =>
    obtain ⟨⟨proper, spares⟩, gentle⟩ := gentle
    have later := ih (orderlyRequest orderly proper) (watchedRequest orderly h spares proper) gentle
    rw [runFirst, later, versionRequest orderly h spares proper, ← List.singleton_append, appliedAppend,
      Nat.add_assoc]
    rfl

end Bus

open Bus (Orderly Watched)

theorem Middleware.Site.enterVersion {names : String → String → Prop} {b : Bus} (orderly : b.Orderly names)
    {domain : DomainId} (fits : domain ≤ maxDomainId) :
    let w := nextWatch (b.request (.join domain)) b.nextHandle
    let requests := .join domain :: equip w (b.newMember domain)
    (b.run requests).version w.graph = b.applied b.nextHandle requests := by
  intro w requests
  have joins : Orderly names (b.request (.join domain)) := Bus.orderlyRequest orderly trivial
  have member := (Bus.attentiveJoin orderly.membersAgree fits .publication).2.member
  have absent : b.members.get? b.nextHandle = none :=
    Option.eq_none_iff_forall_ne_some.2 fun m found => Nat.lt_irrefl _ (orderly.membersAgree.old _ m found)
  obtain ⟨g, fed, _, absorbs⟩ := equipFed joins member fun side => by
    obtain ⟨x, found, _, samples⟩ := Bus.joinSamples orderly.membersAgree fits side
    exact ⟨x, found, samples⟩
  have empty (side : Side) : ({} : Graph).records side = .empty := by cases side <;> rfl
  have counted (side : Side) : Graph.shifts side (({} : Graph).records side)
      (((b.request (.join domain)).visible b.nextHandle (b.newMember domain) side).entries.map fun y =>
        (Bus.appeared y.1 y.2).seen .new) =
      Bus.turnover side (b.sight b.nextHandle side) ((b.request (.join domain)).sight b.nextHandle side) := by
    rw [Bus.sightNone absent, Bus.sightMember member, Bus.turnoverNew, empty]
    exact Bus.shiftsAppeared .new (fun _ _ => rfl) (Table.keysNodup _)
  have equips : (b.request (.join domain)).applied b.nextHandle (equip w (b.newMember domain)) = 0 :=
    Bus.appliedStill (equipStill w (b.newMember domain))
  rw [Bus.runFirst, Bus.applied, equips]
  refine (Bus.versionFed fed).trans (absorbs.version.trans ?_)
  simp only [counted]
  exact Nat.zero_add _

end Databus
