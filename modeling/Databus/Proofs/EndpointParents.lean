import Databus.Proofs.EndpointCreation
import Databus.Proofs.DiscoveryHistory

/-! A parent with one endpoint, put up and taken down: exactly these two come and go, in every table that knows
them, and nothing that is taken down in order is ever refused. -/
namespace Databus.Bus

variable {b : Bus} {side : Side} {p : InstanceHandle} {x : Participant}

def withGroup (b : Bus) (side : Side) (p : InstanceHandle) (x : Participant) : Bus :=
  { b.takeHandle.2 with
    groups := b.groups.insert b.nextHandle { side, participant := p, domain := x.domain }
    participants := b.participants.modify p fun x =>
      { x with groups := x.groups ++ [b.nextHandle] } }

theorem createGroupTables (found : b.participants.get? p = some x) :
    b.request (.createGroup side p) = b.withGroup side p x := by
  simp only [request, createGroup, found]
  rfl

structure PutsUp (b : Bus) (side : Side) (p : InstanceHandle) (x : Participant) (t : Topic)
    (history : History) (b' : Bus) : Prop where
  handle : b'.nextHandle = b.nextHandle + 2
  members : b'.members = b.members
  participants : b'.participants = b.participants.modify p fun x =>
    { x with groups := x.groups ++ [b.nextHandle] }
  groups : ∀ g, b'.groups.get? g = if g = b.nextHandle then
    some { side, participant := p, domain := x.domain, endpoints := [b.nextHandle + 1] }
    else b.groups.get? g
  endpoints : b'.endpoints = b.endpoints.insert (b.nextHandle + 1)
    ⟨side, x.domain, p, t.name, t.type⟩
  writers : ∀ w, b'.writers.get? w = if side = .publication ∧ w = b.nextHandle + 1 then
    some { publisher := b.nextHandle, domain := x.domain, topic := t.name, type := t.type,
           maxPayload := standardPayloadLimit }
    else b.writers.get? w
  readers : ∀ r, (b'.readers.get? r).map Reader.identity =
    if side = .subscription ∧ r = b.nextHandle + 1 then
      some { participant := p, topic := t.name, type := t.type, history,
             condition := b.nextCondition }
    else (b.readers.get? r).map Reader.identity

theorem PutsUp.steady {t : Topic} {history : History} {b' c : Bus}
    (h : PutsUp b side p x t history b') (s : Steady b' c) : PutsUp b side p x t history c where
  handle := s.traffic.nextHandle.trans h.handle
  members := s.traffic.members.trans h.members
  participants := s.traffic.participants.trans h.participants
  groups g := by rw [s.traffic.groups, h.groups]
  endpoints := s.traffic.endpoints.trans h.endpoints
  writers w := by rw [s.traffic.writers, h.writers]
  readers r := (s.readers r).trans (h.readers r)

theorem adoptOnly (b : Bus) (y : Group) (g k : InstanceHandle) (bare : y.endpoints = []) (g' : InstanceHandle) :
    ((b.groups.insert g y).modify g fun y => { y with endpoints := y.endpoints ++ [k] }).get? g' =
      if g' = g then some { y with endpoints := [k] } else b.groups.get? g' := by
  simp only [Table.getModify, Table.getInsert]
  by_cases own : g' = g
  · simp [own, bare]
  · simp [own]

theorem putUpMakes (side : Side) (found : b.participants.get? p = some x) (t : Topic) (history : History) :
    PutsUp b side p x t history (b.putUp side p t history) := by
  obtain ⟨_, isOpen, _⟩ := createGroupMakes side found
  have steady := requestSteady (b.request (.createGroup side p)) (.child b.nextHandle t history side)
  refine .steady ?_ steady
  cases side with
  | publication =>
    have opened : ((Request.child b.nextHandle t history .publication).opening
        (b.request (.createGroup .publication p))).1 =
        ((b.withGroup .publication p x).withWriter b.nextHandle
          { side := .publication, participant := p, domain := x.domain } t standardPayloadLimit).enrolled
          (b.nextHandle + 1) ⟨.publication, x.domain, p, t.name, t.type⟩ := by
      rw [createGroupTables found] at isOpen ⊢
      simp only [Request.child, Request.opening, isOpen]
      rfl
    rw [opened]
    refine ⟨rfl, rfl, rfl, adoptOnly b _ _ _ rfl, rfl, fun w => ?_, fun r => ?_⟩
    · refine (Table.getInsert ..).trans ?_
      simp
      rfl
    · simp
      rfl
  | subscription =>
    have opened : ((Request.child b.nextHandle t history .subscription).opening
        (b.request (.createGroup .subscription p))).1 =
        ((b.withGroup .subscription p x).withReader b.nextHandle
          { side := .subscription, participant := p, domain := x.domain } t history).enrolled
          (b.nextHandle + 1) ⟨.subscription, x.domain, p, t.name, t.type⟩ := by
      rw [createGroupTables found] at isOpen ⊢
      simp only [Request.child, Request.opening, isOpen]
      rfl
    rw [opened]
    refine ⟨rfl, rfl, rfl, adoptOnly b _ _ _ rfl, rfl, fun w => ?_, fun r => ?_⟩
    · simp
      rfl
    · refine (congrArg (Option.map Reader.identity) (Table.getInsert ..)).trans ?_
      have handle : (b.withGroup .subscription p x).nextHandle = b.nextHandle + 1 := rfl
      simp only [handle, true_and]
      split <;> rfl

/-! ### Down again -/

structure OwnsEndpoint (b : Bus) (side : Side) (p : InstanceHandle) (d : DomainId) (t : Topic)
    (g k : InstanceHandle) : Prop where
  listed : ∃ x, b.participants.get? p = some x ∧ x.domain = d ∧ g ∈ x.groups
  group : b.groups.get? g = some { side, participant := p, domain := d, endpoints := [k] }
  endpoint : b.endpoints.get? k = some ⟨side, d, p, t.name, t.type⟩
  writer : side = .publication → b.writers.get? k = some
    { publisher := g, domain := d, topic := t.name, type := t.type,
      maxPayload := standardPayloadLimit }
  reader : side = .subscription → ∃ y, b.readers.get? k = some y ∧ y.participant = p

theorem OwnsEndpoint.keep {b' : Bus} {d : DomainId} {t : Topic} {g k : InstanceHandle}
    (h : OwnsEndpoint b side p d t g k) (listed : ∀ x, b.participants.get? p = some x → g ∈ x.groups →
      ∃ x', b'.participants.get? p = some x' ∧ x'.domain = x.domain ∧ g ∈ x'.groups)
    (group : b'.groups.get? g = b.groups.get? g)
    (endpoint : b'.endpoints.get? k = b.endpoints.get? k)
    (writer : b'.writers.get? k = b.writers.get? k)
    (reader : (b'.readers.get? k).map Reader.identity = (b.readers.get? k).map Reader.identity) :
    OwnsEndpoint b' side p d t g k where
  listed := by
    obtain ⟨x, found, domain, mem⟩ := h.listed
    obtain ⟨x', found', same, mem'⟩ := listed x found mem
    exact ⟨x', found', same.trans domain, mem'⟩
  group := group.trans h.group
  endpoint := endpoint.trans h.endpoint
  writer own := writer.trans (h.writer own)
  reader own := by
    obtain ⟨y, found, participant⟩ := h.reader own
    rw [found] at reader
    obtain ⟨y', found', same⟩ := Option.map_eq_some_iff.1 reader
    exact ⟨y', found', (congrArg Reader.participant same).trans participant⟩

structure TakesDown (b : Bus) (side : Side) (p g k : InstanceHandle) (b' : Bus) : Prop where
  handle : b'.nextHandle = b.nextHandle
  members : b'.members = b.members
  participants : b'.participants = b.participants.modify p fun x =>
    { x with groups := x.groups.erase g }
  groups : ∀ g', b'.groups.get? g' = if g' = g then
    (b.groups.get? g).map fun y => { y with endpoints := y.endpoints.erase k, deleted := true }
    else b.groups.get? g'
  endpoints : b'.endpoints = b.endpoints.erase k
  writers : ∀ w, b'.writers.get? w = if side = .publication ∧ w = k then
    (b.writers.get? w).map ({ · with deleted := true }) else b.writers.get? w
  readers : ∀ r, (b'.readers.get? r).map Reader.identity = (b.readers.get? r).map Reader.identity

def deleteChild (b : Bus) (g k : InstanceHandle) : Side → Except Fault Bus
  | .publication => b.deleteWriter g k
  | .subscription => b.deleteReader g k

variable {d : DomainId} {t : Topic} {g k : InstanceHandle}

theorem PutsUp.ownsEndpoint {history : History} {b' : Bus} (found : b.participants.get? p = some x)
    (h : PutsUp b side p x t history b') :
    OwnsEndpoint b' side p x.domain t b.nextHandle (b.nextHandle + 1) where
  listed := ⟨{ x with groups := x.groups ++ [b.nextHandle] },
    by rw [h.participants, Table.getModify, if_pos rfl, found]; rfl, rfl, by simp⟩
  group := (h.groups _).trans (if_pos rfl)
  endpoint := by rw [h.endpoints, Table.getInsert, if_pos rfl]
  writer own := (h.writers _).trans (if_pos ⟨own, rfl⟩)
  reader own := by
    have there := (h.readers (b.nextHandle + 1)).trans (if_pos ⟨own, rfl⟩)
    obtain ⟨y, found, same⟩ := Option.map_eq_some_iff.1 there
    exact ⟨y, found, congrArg Reader.participant same⟩

structure EndpointRemoved (b : Bus) (side : Side) (g k : InstanceHandle) (b' : Bus) : Prop where
  handle : b'.nextHandle = b.nextHandle
  members : b'.members = b.members
  participants : b'.participants = b.participants
  groups : b'.groups = b.groups.modify g fun y => { y with endpoints := y.endpoints.erase k }
  endpoints : b'.endpoints = b.endpoints.erase k
  writers : ∀ w, b'.writers.get? w = if side = .publication ∧ w = k then
    (b.writers.get? w).map ({ · with deleted := true }) else b.writers.get? w
  readers : ∀ r, (b'.readers.get? r).map Reader.identity = (b.readers.get? r).map Reader.identity

theorem EndpointRemoved.steady {b' c : Bus} (h : EndpointRemoved b side g k b') (s : Steady b' c) :
    EndpointRemoved b side g k c where
  handle := s.traffic.nextHandle.trans h.handle
  members := s.traffic.members.trans h.members
  participants := s.traffic.participants.trans h.participants
  groups := s.traffic.groups.trans h.groups
  endpoints := s.traffic.endpoints.trans h.endpoints
  writers w := by rw [s.traffic.writers, h.writers]
  readers r := (s.readers r).trans (h.readers r)

theorem deleteChildBares (h : OwnsEndpoint b side p d t g k) :
    ∃ b', b.deleteChild g k side = .ok b' ∧ b.request (.unchild g k side) = b' ∧
      EndpointRemoved b side g k b' := by
  have enrolled := h.endpoint
  cases side with
  | publication =>
    have deleted : b.deleteWriter g k = .ok ((b.withoutWriter g k).withdraw k).2 := by
      simp only [deleteWriter, h.writer rfl, h.group]
      simp
      rfl
    refine ⟨_, deleted, by rw [Request.unchild, request, deleted, after], ?_⟩
    have withdrawal : ((b.withoutWriter g k).withdrawal k).1 = (b.withoutWriter g k).withdrawn k := by
      simp only [Bus.withdrawal, withoutWriter, removeChild, enrolled]
    rw [withdrawOpens, withdrawal]
    refine .steady ?_ (deliverSteady _ _)
    refine ⟨rfl, rfl, rfl, rfl, rfl, fun w => ?_, fun _ => rfl⟩
    refine (Table.getModify ..).trans ?_
    simp only [true_and]
    split
    · rename_i own
      rw [own]
      rfl
    · rfl
  | subscription =>
    obtain ⟨y, found, _⟩ := h.reader rfl
    have deleted : b.deleteReader g k =
        .ok (((b.removeChild g k).withdraw k).2.setListener k none) := by
      simp only [deleteReader, found, h.group]
      simp
    refine ⟨_, deleted, by rw [Request.unchild, request, deleted, after], ?_⟩
    have withdrawal : ((b.removeChild g k).withdrawal k).1 = (b.removeChild g k).withdrawn k := by
      simp only [Bus.withdrawal, removeChild, enrolled]
    rw [withdrawOpens, withdrawal]
    refine .steady ?_ ((deliverSteady _ _).trans (.modifyReader fun _ _ => rfl))
    refine ⟨rfl, rfl, rfl, rfl, rfl, fun w => ?_, fun _ => rfl⟩
    simp
    rfl

theorem takeDownRuns (h : OwnsEndpoint b side p d t g k) :
    ∃ b', b.deleteChild g k side = .ok b' ∧ b'.deleteGroup p g = .ok (b.takeDown side p g k) ∧
      TakesDown b side p g k (b.takeDown side p g k) := by
  obtain ⟨b', deleted, requested, endpointRemoved⟩ := deleteChildBares h
  obtain ⟨x, found, _, listed⟩ := h.listed
  have group : b'.groups.get? g = some { side, participant := p, domain := d } := by
    rw [endpointRemoved.groups, Table.getModify, if_pos rfl, h.group]
    simp
  have owns : b'.owns p g = true := by
    simp only [owns, endpointRemoved.participants, found]
    simpa using listed
  have last : b'.deleteGroup p g = .ok { b'.markDeleted g with
      participants := b'.participants.modify p fun x => { x with groups := x.groups.erase g } } := by
    simp only [deleteGroup, group, owns]
    simp
  have runs : b.takeDown side p g k = { b'.markDeleted g with
      participants := b'.participants.modify p fun x => { x with groups := x.groups.erase g } } := by
    simp only [takeDown, run, List.foldl_cons, List.foldl_nil, requested]
    rw [request, last, after]
  rw [runs]
  refine ⟨b', deleted, last, endpointRemoved.handle, endpointRemoved.members, ?_, fun g' => ?_,
    endpointRemoved.endpoints,
    endpointRemoved.writers, endpointRemoved.readers⟩
  · rw [← endpointRemoved.participants]
  · refine (Table.getModify ..).trans ?_
    rw [endpointRemoved.groups]
    simp only [Table.getModify]
    by_cases own : g' = g
    · subst own
      rw [if_pos rfl, if_pos trivial, if_pos rfl, Option.map_map]
      rfl
    · rw [if_neg own, if_neg own, if_neg own]

end Databus.Bus
