import Databus.Proofs.RefusedCalls

/-! What has been put up and taken down again leaves the tables of the domains, what participants list and the readers
of others as they were; and a graph shows the same again once its records are the same. -/
namespace Databus

namespace Graph

theorem topicsSame {g g' : Graph} (tallied : g.Tallied) (tallied' : g'.Tallied)
    (records : ∀ side, g'.records side = g.records side) : g'.topics = g.topics := by
  have tallies (topic : String) : g'.tally topic = g.tally topic := by
    have count (side : Side) : (g'.tally topic).count side = (g.tally topic).count side := by
      rw [tallied'.count, tallied.count, number, records, number]
    have types : (g'.tally topic).types = (g.tally topic).types := Table.sameLookup fun type => by
      rw [tallied'.types, tallied.types, typed, typed, records, records, typed, typed]
    have publishers := count .publication
    have subscribers := count .subscription
    generalize g'.tally topic = t' at types publishers subscribers ⊢
    obtain ⟨_, _, _⟩ := t'
    cases types
    cases publishers
    cases subscribers
    rfl
  -- a topic without a tally has one with no types, and no listed topic has that
  have listed {f f' : Graph} (full : f'.Tallied) {topic : String} (same : f'.tally topic = f.tally topic)
      {t : Tally} (found : f'.topics.get? topic = some t) : f.topics.get? topic = some t := by
    rw [tally, tally, found, Option.getD_some] at same
    cases there : f.topics.get? topic with
    | none =>
      rw [there] at same
      exact absurd (same ▸ rfl) (full.full topic t found)
    | some u =>
      rw [there, Option.getD_some] at same
      rw [same]
  refine Table.sameLookup fun topic => Option.ext fun t => ⟨?_, ?_⟩
  · exact listed tallied' (tallies topic)
  · exact listed tallied (tallies topic).symm

end Graph

namespace Bus

variable {b b' : Bus}

structure Restored (b b' : Bus) : Prop where
  members : b'.members = b.members
  endpoints : b'.endpoints = b.endpoints
  lists : ∀ p, (b'.participants.get? p).map Participant.groups = (b.participants.get? p).map Participant.groups
  groups : ∀ g < b.nextHandle, b'.groups.get? g = b.groups.get? g

namespace Restored

theorem ofMembers (membersAgree : b.MembersAgree) (membersAgree' : b'.MembersAgree) (members : b'.members = b.members)
    (endpoints : b'.endpoints = b.endpoints) (groups : ∀ g < b.nextHandle, b'.groups.get? g = b.groups.get? g)
    (stay : ∀ p x, b.participants.get? p = some x →
      ∃ x', b'.participants.get? p = some x' ∧ x'.groups = x.groups) : Restored b b' := by
  refine ⟨members, endpoints, fun p => ?_, groups⟩
  cases found : b.participants.get? p with
  | none =>
    have absent := membersAgree'.members p
    rw [members, membersAgree.members, found] at absent
    rw [Option.map_eq_none_iff.1 absent.symm]
  | some x =>
    obtain ⟨x', there, same⟩ := stay p x found
    rw [there, Option.map_some, same, Option.map_some]

theorem retained (membersAgree : b.MembersAgree) (membersAgree' : b'.MembersAgree) (retains : Retains b b')
    (members : b'.members = b.members) : Restored b b' := by
  refine ofMembers membersAgree membersAgree' members retains.endpoints retains.groups fun p x found => ?_
  obtain ⟨x', there, _, groups⟩ := retains.participants p x found
  exact ⟨x', there, groups⟩

theorem refl (membersAgree : b.MembersAgree) : Restored b b := .retained membersAgree membersAgree (.refl b) rfl

theorem steady (membersAgree : b.MembersAgree) (steady : Steady b b') : Restored b b' :=
  .retained membersAgree (membersAgree.steady steady) (.steady steady) steady.traffic.members

end Restored

/-! ### Who comes and goes -/

theorem openedStill {q : Request} {news : List Notice} (opened : q.Opened b b' news)
    (joins : ∀ domain, q ≠ .join domain) (leaves : ∀ p, q ≠ .leave p) : b'.members = b.members := by
  cases opened with
  | refused | writer | reader | sent | attached | listener | graph | guard => rfl
  | roster roster => exact (rosterFrame roster).members
  | joined => exact absurd rfl (joins _)
  | left => exact absurd rfl (leaves _)
  | unwritten => exact (writerWithdrew b _ _).members
  | unread => exact (readerWithdrew b _ _).members
  | took => exact (takeFrame b _).members
  | drained => exact (drainFrame b _ _ _ _).members

theorem membersStill {q : Request} (joins : ∀ domain, q ≠ .join domain) (leaves : ∀ p, q ≠ .leave p) :
    (b.request q).members = b.members :=
  (requestMembers b q).trans (openedStill (q.opened b) joins leaves)

theorem runStill {requests : List Request}
    (still : ∀ q ∈ requests, (∀ domain, q ≠ .join domain) ∧ ∀ p, q ≠ .leave p) :
    (b.run requests).members = b.members := by
  induction requests generalizing b with
  | nil => rfl
  | cons q rest ih =>
    obtain ⟨joins, leaves⟩ := still q List.mem_cons_self
    exact (ih fun q mem => still q (List.mem_cons_of_mem _ mem)).trans (membersStill joins leaves)

theorem leaveMembers {p : InstanceHandle} {x : Participant} (found : b.participants.get? p = some x) :
    (b.leave p).members = b.members.erase p := by
  rw [leaveOpens found, (deliverSteady _ _).traffic.members]
  simp only [vacated, marksGroups]
  rfl

end Bus

namespace Middleware

open Bus (Departed Moves Restored Retains Spare)

variable {K : Type}

theorem bindingMembers (b : Bus) (p : InstanceHandle) (ts : TypeSupport K) (topic : String) :
    (b.run (Site.binding p ts topic)).members = b.members := by
  refine Bus.runStill fun q mem => ?_
  simp only [Site.binding, List.mem_append, List.mem_singleton] at mem
  rcases mem with mem | rfl
  · split at mem
    · obtain rfl := List.mem_singleton.1 mem
      exact ⟨nofun, nofun⟩
    · cases mem
  · exact ⟨nofun, nofun⟩

theorem joinedLeft {b b' : Bus} (membersAgree : b.MembersAgree) {name : String} {domain : DomainId} {n : NodeRecord}
    (joined : Site.joinNode b name domain = .ok (n, b')) : Restored b (b'.leave n.participant) := by
  obtain ⟨membersAgree', retains, participant, _, x, found, _, bare⟩ := joinRetains membersAgree joined
  have members' : b'.members = (b.welcome domain).members := by
    obtain ⟨fits, _, _, _, rfl⟩ := Site.joinNodeOpens joined
    have still : ∀ q ∈ Site.equip n.watch (b.newMember domain), (∀ domain, q ≠ .join domain) ∧ ∀ p, q ≠ .leave p := by
      simp [Site.equip]
    rw [Bus.runStill still, Bus.requestMembers, Request.openingJoin b fits]
  have departed := Departed.leave membersAgree' n.participant
  have others {p : InstanceHandle} {m : Member} (member : b.members.get? p = some m) : p ≠ n.participant :=
    participant ▸ Nat.ne_of_lt (membersAgree.old p m member)
  have members : (b'.leave n.participant).members = b.members := by
    refine (Bus.leaveMembers found).trans (Table.sameLookup fun p => ?_)
    rw [members', Table.getErase, Bus.welcomeMembers, participant]
    split
    · rename_i own
      exact own ▸ (membersAgree.fresh (Nat.le_refl _)).1.symm
    · rfl
  have endpoints : (b'.leave n.participant).endpoints = b.endpoints := by
    refine Table.sameLookup fun k => Option.ext fun e => ?_
    rw [departed.endpoints, retains.endpoints]
    refine ⟨And.left, fun there => ⟨there, ?_⟩⟩
    obtain ⟨_, m, member, _⟩ := membersAgree.endpoints k e there
    exact others member
  refine .ofMembers membersAgree (Bus.membersAgreeRequest membersAgree' (.leave n.participant)) members endpoints
    (fun g old => ?_) fun p x there => ?_
  · refine (departed.groups g fun p y own here => ?_).trans (retains.groups g old)
    cases own
    cases Option.some.inj (found.symm.trans here)
    exact bare ▸ List.not_mem_nil
  · obtain ⟨x', there', _, same⟩ := retains.participants p x there
    have member : b.members.get? p = some x.member := by rw [membersAgree.members, there, Option.map_some]
    exact ⟨x', (departed.participants p x').2 ⟨there', others member⟩, same⟩

/-! ### A site -/

namespace Site.Undone

variable {b : Bus} {observed : List ConditionId} {c : Context K} {s' : Site K} {t : Table ContextId (Context K)}

theorem restored (linked : Linked b (.of t)) (undone : Site.Undone ⟨b, observed, c⟩ s') : Restored b s'.bus := by
  have membersAgree := linked.membersAgree
  cases undone with
  | idle => exact .refl membersAgree
  | guard =>
    have retains : Retains b (b.request .newGuard) := .request membersAgree rfl
    exact .retained membersAgree (Bus.membersAgreeRequest membersAgree .newGuard) retains (Bus.membersStill nofun nofun)
  | nodeCreation joined => exact joinedLeft membersAgree joined
  | @grants side _ ts topic history _ how =>
    cases how with
    | refused => exact .refl membersAgree
    | @bound n found =>
      obtain ⟨membersAgree', retains⟩ := bindingRetains membersAgree n.participant ts topic
      exact .retained membersAgree membersAgree' retains (bindingMembers b _ _ _)
    | @full n _ t' x found binds named there =>
      subst binds
      obtain ⟨membersAgree', retains⟩ := bindingRetains membersAgree n.participant ts topic
      have bound := linked.retain membersAgree' retains
      have up := Bus.putUpMakes side there t' history
      obtain ⟨_, _, _, down⟩ := Bus.takeDownRuns (up.ownsEndpoint there)
      refine .retained membersAgree (Bus.membersAgreeRun (Bus.membersAgreeRun membersAgree' _) _)
        (retains.trans (Bus.retainsUndone membersAgree' there (bound.groupsOld there) up down)) ?_
      rw [down.members, up.members, bindingMembers]

theorem spares (undone : Site.Undone ⟨b, observed, c⟩ s') : Moves (Spare (· < b.nextHandle)) b s'.bus := by
  cases undone with
  | idle => exact .refl b
  | guard => exact .ask (q := .newGuard) ⟨rfl, fun _ _ _ _ => trivial⟩
  | nodeCreation joined => exact .trans (joinSpares joined) (Bus.leaveSpares _ _ _)
  | @grants _ _ ts topic history _ how =>
    cases how with
    | refused => exact .refl b
    | @bound n found => exact bindingSpares _ b n.participant ts topic
    | @full n _ t' x found binds =>
      subst binds
      have older := Bus.handlesGrowRun b (Site.binding n.participant ts topic)
      refine .trans (bindingSpares _ b n.participant ts topic) (.trans (Bus.putUpSpares _ _ _ _ _ _)
        (Bus.movesWeaken (fun _ _ spare => ⟨spare.1, fun membersAgree r old outer => spare.2 membersAgree r ?_ outer⟩)
          (Bus.takeDownSpares _ _ _ _ _)))
      exact Nat.ne_of_lt (Nat.lt_succ_of_lt (Nat.lt_of_lt_of_le old older))

theorem stands (undone : Site.Undone ⟨b, observed, c⟩ s') : c.nodes.Stands s'.context.nodes ∧
    s'.context = { c with nodes := s'.context.nodes } := by
  have same : c.nodes.Stands c.nodes := ⟨rfl, fun _ => rfl⟩
  cases undone with
  | idle | guard => exact ⟨same, rfl⟩
  | nodeCreation joined stands => exact ⟨stands, rfl⟩
  | grants how => cases how <;> exact ⟨same, rfl⟩

end Site.Undone
end Middleware
end Databus
