import Databus.Proofs.WaitSetHooks
import Databus.Proofs.NoticeCommutation

/-! Members of a domain are told of endpoints one after the other, in no order they could rely on. Where only discovery
listens, and each graph is fed by one member, whoever is told first makes no difference to anything. -/
namespace Databus

instance {P : Side → Prop} [DecidablePred P] : Decidable (∀ side, P side) :=
  decidable_of_iff (P .publication ∧ P .subscription)
    ⟨fun both side => by cases side <;> simp only [both], fun all => ⟨all _, all _⟩⟩

namespace Bus

/-! ### Routes -/

def peersAlong (route : List (InstanceHandle × Member)) (domain : DomainId) (owner : InstanceHandle) : List Member :=
  (route.filter fun e => e.2.domain = domain && e.1 ≠ owner).map (·.2)

def enrollAlong (b : Bus) (route : List (InstanceHandle × Member)) (key : InstanceHandle) (e : Endpoint) : Bus :=
  let news := announce (peersAlong route e.domain e.owner) key e .alive
  { b with endpoints := b.endpoints.insert key e }.deliver news

def withdrawAlong (b : Bus) (route : List (InstanceHandle × Member)) (key : InstanceHandle) : Bool × Bus :=
  match b.endpoints.get? key with
  | none => (false, b)
  | some e =>
    let news := announce (peersAlong route e.domain e.owner) key e .disposed
    (true, { b with endpoints := b.endpoints.erase key }.deliver news)

def farewellAlong (b : Bus) (route : List (InstanceHandle × Member)) (p : InstanceHandle) (domain : DomainId) :
    List Notice :=
  (b.endpoints.filter fun _ e => e.owner = p).entries.flatMap fun (key, e) =>
    announce (peersAlong route domain p) key e .noWriters

def leaveAlong (b : Bus) (route : List (InstanceHandle × Member)) (p : InstanceHandle) : Bus :=
  match b.participants.get? p with
  | none => b
  | some x => (b.vacated p x).deliver (b.farewellAlong route p x.domain)

variable {b b' : Bus}

/-! ### Conditions of their own -/

structure Private (b : Bus) : Prop where
  conditions : ∀ r x, b.readers.get? r = some x → x.condition < b.nextCondition
  apart : ∀ r x r' x', b.readers.get? r = some x → b.readers.get? r' = some x' →
    x.condition = x'.condition → r = r'

theorem OnlyTraffic.nextCondition (h : OnlyTraffic b b') : b'.nextCondition = b.nextCondition := by
  have e := congrArg Bus.nextCondition h.same
  exact e

namespace Private

theorem kept (h : Private b) (readers : ∀ r, (b'.readers.get? r).map Reader.condition =
      (b.readers.get? r).map Reader.condition) (next : b.nextCondition ≤ b'.nextCondition) : Private b' := by
  have old {r : InstanceHandle} {x : Reader} (found : b'.readers.get? r = some x) :
      ∃ y, b.readers.get? r = some y ∧ y.condition = x.condition := by
    have same := readers r
    rw [found] at same
    exact Option.map_eq_some_iff.1 same.symm
  refine ⟨fun r x found => ?_, fun r x r' x' found found' eq => ?_⟩
  · obtain ⟨y, there, same⟩ := old found
    exact Nat.lt_of_lt_of_le (same ▸ h.conditions r y there) next
  · obtain ⟨y, there, same⟩ := old found
    obtain ⟨y', there', same'⟩ := old found'
    exact h.apart r y r' y' there there' (same.trans (eq.trans same'.symm))

theorem steady (h : Private b) (s : Steady b b') : Private b' := by
  refine h.kept (fun r => ?_) (Nat.le_of_eq s.traffic.nextCondition.symm)
  have same := congrArg (Option.map Reader.condition) (s.readers r)
  rw [Option.map_map, Option.map_map] at same
  exact same

theorem newReader (h : Private b) (p : InstanceHandle) (topic type : String) (history : History) :
    Private (b.newReader p topic type history).2 := by
  have readers (r : InstanceHandle) : (b.newReader p topic type history).2.readers.get? r =
      if r = b.nextHandle then some { participant := p, topic, type, history, condition := b.nextCondition }
      else b.readers.get? r := by
    simp only [Bus.newReader, takeHandle, newCondition, Table.getInsert]
  refine ⟨fun r x found => ?_, fun r x r' x' found found' eq => ?_⟩
  · rw [readers] at found
    split at found
    · cases found
      exact Nat.lt_succ_self _
    · exact Nat.lt_succ_of_lt (h.conditions r x found)
  · rw [readers] at found found'
    split at found <;> split at found'
    · rename_i own own'
      exact own.trans own'.symm
    · cases found
      exact absurd eq.symm (Nat.ne_of_lt (h.conditions r' x' found'))
    · cases found'
      exact absurd eq (Nat.ne_of_lt (h.conditions r x found))
    · exact h.apart r x r' x' found found' eq

theorem carries : Carries fun b b' => Private b → Private b' where
  refl _ h := h
  trans first second h := second (first h)
  tables t h := h.kept (fun r => by rw [t.readers]) (Nat.le_of_eq t.nextCondition.symm)
  enqueue b n h := by
    have queued : Steady b (b.modifyReader n.reader fun r =>
        { r with mailbox := r.mailbox.push r.history n.arrival }) := .modifyReader fun _ _ => rfl
    exact h.steady (queued.trans (.ofSignals (enqueueReaders b n)))
  take b r h := h.steady (takeAffects (z := .all) trivial).steady
  takeAll b r h := h.steady (takeAllAffects (z := .all) trivial).steady
  script b l f h := h.steady .modifyScript
  install b r l h := h.steady (.setListener b r l)
  drain r _ h := h.steady (drainAffects (z := .all) trivial trivial).steady
  newReader b p topic type history h := h.newReader p topic type history
  newGuard b h := h.kept (fun _ => rfl) (Nat.le_succ _)
  newGraph b h := h.kept (fun _ => rfl) (Nat.le_refl _)

theorem request (h : Private b) (q : Request) : Private (b.request q) :=
  carries.request (fun _ _ h => h.kept (fun _ => rfl) (Nat.le_refl _))
    (fun _ _ _ _ _ h => h.steady (drainAffects (z := .all) trivial trivial).steady) h

end Private

end Bus

/-! ### What may have happened before -/

inductive ApplicationStep
  | ask (q : Request)
  | waitSet (m : WaitSetStep)
  | signalStep (s : SignalStep)
  | release (c : ConditionId)
  deriving DecidableEq, Repr

def ApplicationStep.act (b : Bus) : ApplicationStep → Bus
  | ask q => b.request q
  | waitSet m => m.act b
  | signalStep s => (SignalRegistry.step { bus := b } s).bus
  | release c => b.release c

namespace Bus

variable {b b' c : Bus} {route route' : List (InstanceHandle × Member)}

def runSteps (b : Bus) (steps : List ApplicationStep) : Bus := steps.foldl ApplicationStep.act b

theorem besideWaits (b' : Bus) (frame : OnlySignals b b') :
    OnlyWaits b { b' with nextCondition := b.nextCondition } ∧ b.nextCondition ≤ b'.nextCondition := by
  have same := frame.nextCondition
  refine ⟨?_, Nat.le_of_eq same.symm⟩
  rw [← same]
  exact .ofSignals frame

theorem stepWaits {m : ApplicationStep} (other : ∀ q, m ≠ .ask q) :
    OnlyWaits b { m.act b with nextCondition := b.nextCondition } ∧ b.nextCondition ≤ (m.act b).nextCondition := by
  cases m with
  | ask q => exact absurd rfl (other q)
  | release c => exact besideWaits _ rfl
  | waitSet m =>
    cases m with
    | newWaitSet => exact ⟨newWaitSetWaits b, Nat.le_refl _⟩
    | newStatus | newGuard => exact ⟨⟨rfl, Nat.le_refl _⟩, Nat.le_succ _⟩
    | attach ws k =>
      simp only [ApplicationStep.act, WaitSetStep.act]
      split
      · unfold after
        split
        · rename_i ok
          exact besideWaits _ (attachQuiet ok).signals
        · exact besideWaits _ rfl
      · exact besideWaits _ rfl
    | detach ws k =>
      simp only [ApplicationStep.act, WaitSetStep.act]
      unfold after
      split
      · rename_i ok
        exact besideWaits _ (detachQuiet ok).signals
      · exact besideWaits _ rfl
    | drop ws => exact besideWaits _ (dropWaitSetQuiet b ws).signals
    | adjust k p => exact besideWaits _ (performFrame b k p)
    | scan ws => exact besideWaits _ rfl
  | signalStep s =>
    cases s with
    | newStatus | newGuard => exact ⟨⟨rfl, Nat.le_refl _⟩, Nat.le_succ _⟩
    | newSignal => exact ⟨⟨rfl, Nat.le_succ _⟩, Nat.le_refl _⟩
    | adjust c p => exact besideWaits _ (performFrame b c p)
    | add key id c =>
      simp only [ApplicationStep.act, SignalRegistry.step]
      split
      · exact besideWaits _ (addHookFrame b c _)
      · exact besideWaits _ rfl
    | remove c id => exact besideWaits _ rfl
    | drop key => exact besideWaits _ rfl

theorem stepKeeps (membersAgree : MembersAgree b) (own : Private b) (m : ApplicationStep) :
    MembersAgree (m.act b) ∧ Private (m.act b) := by
  by_cases asks : ∃ q, m = .ask q
  · obtain ⟨q, rfl⟩ := asks
    exact ⟨membersAgreeRequest membersAgree q, own.request q⟩
  · obtain ⟨waits, next⟩ := stepWaits (b := b) fun q same => asks ⟨q, same⟩
    have there := membersAgree.waits waits
    refine ⟨⟨there.members, there.old, there.inbox, there.apart, there.readers, there.endpoints, there.children,
      there.listed, there.listeners, there.graphs⟩, own.kept (fun r => ?_) next⟩
    have same := waits.readers
    dsimp only at same
    rw [same]

theorem runStepsKeeps (steps : List ApplicationStep) :
    MembersAgree (({} : Bus).runSteps steps) ∧ Private (({} : Bus).runSteps steps) :=
  List.foldlRecOn (motive := fun b : Bus => MembersAgree b ∧ Private b) steps ApplicationStep.act
    ⟨membersAgreeEmpty, ⟨fun _ _ found => (nomatch found), fun _ _ _ _ found => (nomatch found)⟩⟩
    fun _ both m _ => stepKeeps both.1 both.2 m

/-- Where the domain is told within an operation: endpoints are made before they are enrolled and given up before they
are withdrawn. -/
inductive AnnouncementPoint (b : Bus) : Bus → Prop
  | idle : AnnouncementPoint b b
  | writer (g : InstanceHandle) (x : Group) (topic : Topic) (n : Nat) : AnnouncementPoint b (b.withWriter g x topic n)
  | reader (g : InstanceHandle) (x : Group) (topic : Topic) (history : History) :
    AnnouncementPoint b (b.withReader g x topic history)
  | unwritten (g w : InstanceHandle) : AnnouncementPoint b (b.withoutWriter g w)
  | unread (g r : InstanceHandle) : AnnouncementPoint b (b.removeChild g r)

theorem AnnouncementPoint.members (h : AnnouncementPoint b b') : b'.members = b.members := by
  cases h <;> rfl

theorem AnnouncementPoint.keeps (h : AnnouncementPoint b b') (own : Private b) : Private b' := by
  cases h with
  | idle => exact own
  | reader g x topic history =>
    exact (own.newReader x.participant topic.name topic.type history).kept (fun _ => rfl) (Nat.le_refl _)
  | writer | unwritten | unread => exact own.kept (fun _ => rfl) (Nat.le_refl _)

/-! ### Told along any route -/

def feeds? (b : Bus) (r : InstanceHandle) : Option GraphId :=
  match b.wiring r with
  | some (_, some (.discovery _ γ _)) => some γ
  | _ => none

def hasScript (b : Bus) (r : InstanceHandle) : Bool :=
  match b.wiring r with
  | some (_, some (.scripted _)) => true
  | _ => false

structure Listening (b : Bus) : Prop where
  unscripted : ∀ e ∈ b.members.entries, ∀ side, b.hasScript (e.2.inbox side) = false
  own : ∀ e ∈ b.members.entries, ∀ f ∈ b.members.entries, ∀ side side', (b.feeds? (e.2.inbox side)).isSome →
    b.feeds? (e.2.inbox side) = b.feeds? (f.2.inbox side') → e.1 = f.1

instance : Decidable b.Listening :=
  decidable_of_iff (_ ∧ _) ⟨fun both => ⟨both.1, both.2⟩, fun both => ⟨both.unscripted, both.own⟩⟩

def InboxesApart (b : Bus) : Prop := ∀ p q m n side side', b.members.get? p = some m → b.members.get? q = some n →
  n.inbox side' = m.inbox side → q = p

theorem independentOf (own : Private b) (inboxesApart : b.InboxesApart) (listening : b.Listening)
    {e f : InstanceHandle × Member} (here : e ∈ b.members.entries) (there : f ∈ b.members.entries) (apart : e.1 ≠ f.1)
    {n n' : Notice} {side side' : Side} (inbox : n.reader = e.2.inbox side)
    (inbox' : n'.reader = f.2.inbox side') : b.Independent n n' := by
  have readers : n.reader ≠ n'.reader := fun same => apart
    (inboxesApart f.1 e.1 f.2 e.2 side' side (Table.memEntries.1 there) (Table.memEntries.1 here)
    (inbox ▸ inbox' ▸ same))
  refine ⟨readers, fun c l l' wired wired' => ?_, fun γ c s guard c' s' guard' wired wired' => ?_⟩
  · obtain ⟨x, found, eq⟩ := Option.map_eq_some_iff.1 wired
    obtain ⟨x', found', eq'⟩ := Option.map_eq_some_iff.1 wired'
    exact readers (own.apart _ x _ x' found found'
      ((Prod.mk.inj eq).1.trans (Prod.mk.inj eq').1.symm))
  · have feeds : b.feeds? (e.2.inbox side) = some γ := by rw [feeds?, ← inbox, wired]
    have feeds' : b.feeds? (f.2.inbox side') = some γ := by rw [feeds?, ← inbox', wired']
    exact apart (listening.own e here f there side side' (by rw [feeds]; rfl) (feeds.trans feeds'.symm))

theorem scriptFreeOf (listening : b.Listening) {e : InstanceHandle × Member} (here : e ∈ b.members.entries) {n : Notice}
    (side : Side) (inbox : n.reader = e.2.inbox side) : b.ScriptFree n := fun c s wired => by
  have none := listening.unscripted e here side
  rw [hasScript, ← inbox, wired] at none
  cases none

theorem tellsScriptFree (listening : b.Listening) (mutes : b.Mutes c)
    (perm : route.Perm b.members.entries) {domain : DomainId} {owner key : InstanceHandle} {e : Endpoint}
    {state : Liveness} {n : Notice} (mem : n ∈ announce (peersAlong route domain owner) key e state) :
    c.ScriptFree n := by
  obtain ⟨m, listed, rfl⟩ := List.mem_map.1 mem
  obtain ⟨f, kept, rfl⟩ := List.mem_map.1 listed
  exact (scriptFreeOf listening (perm.mem_iff.1 (List.mem_filter.1 kept).1) e.side rfl).leavesGuards mutes

theorem announcePermutes (own : Private b) (inboxesApart : b.InboxesApart) (listening : b.Listening) (mutes : b.Mutes c)
    (perm : route.Perm b.members.entries) (domain : DomainId)
    (owner key : InstanceHandle) (e : Endpoint) (state : Liveness) :
    c.deliver (announce (peersAlong route domain owner) key e state) =
      c.deliver (announce (peersAlong b.members.entries domain owner) key e state) := by
  have told : (announce (peersAlong route domain owner) key e state).Perm
      (announce (peersAlong b.members.entries domain owner) key e state) := ((perm.filter _).map _).map _
  have distinct : route.Pairwise fun e f => e.1 ≠ f.1 :=
    List.pairwise_map.1 ((perm.map Prod.fst).nodup_iff.2 (Table.keysNodup b.members))
  refine independentPermute told (fun n mem => tellsScriptFree listening mutes perm mem) ?_
  rw [announce, peersAlong, List.map_map, List.pairwise_map]
  refine ((distinct.filter _).imp_of_mem fun {e f} here there apart => Independent.leavesGuards ?_ mutes)
  exact independentOf own inboxesApart listening (perm.mem_iff.1 (List.mem_filter.1 here).1)
    (perm.mem_iff.1 (List.mem_filter.1 there).1) apart rfl rfl

theorem farewellPermutes (own : Private b) (inboxesApart : b.InboxesApart) (listening : b.Listening) (mutes : b.Mutes c)
    (perm : route.Perm b.members.entries) (domain : DomainId) (p : InstanceHandle)
    (left : List (InstanceHandle × Endpoint)) :
    c.deliver (left.flatMap fun (key, e) => announce (peersAlong route domain p) key e .noWriters) =
      c.deliver (left.flatMap fun (key, e) =>
        announce (peersAlong b.members.entries domain p) key e .noWriters) := by
  induction left generalizing c with
  | nil => rfl
  | cons x rest ih =>
    rw [List.flatMap_cons, List.flatMap_cons, deliverAppend, deliverAppend,
      announcePermutes own inboxesApart listening mutes perm]
    exact ih (mutes.trans (deliverMutes fun n mem => tellsScriptFree listening mutes (.refl _) mem))

theorem vacatedMutes (b : Bus) (p : InstanceHandle) (x : Participant) : b.Mutes (b.vacated p x) := by
  have silenced (b : Bus) (r : InstanceHandle) : b.Mutes (b.setListener r none) := fun r' => by
    simp only [wiring, setListener, modifyReader, Table.getModify]
    split
    · rename_i own
      rw [own, Option.map_map, Option.map_map]
      exact .inr rfl
    · exact .inl rfl
  rw [vacated, marksGroups]
  exact (silenced _ x.publications).trans (silenced _ x.subscriptions)

/-- Whatever has happened, and wherever within an operation the domain is told: where only discovery listens and each
graph is fed by one member, endpoints are enrolled and withdrawn and participants leave to the same state, to the last
queue, count, guard and flag, in whatever order the members are visited. -/
theorem announcementOrdersAgree (steps : List ApplicationStep) (point : AnnouncementPoint (({} : Bus).runSteps steps) b)
    (listening : b.Listening) (perm : route.Perm b.members.entries) (perm' : route'.Perm b.members.entries) :
    (∀ key e, b.enrollAlong route key e = b.enrollAlong route' key e ∧ b.enrollAlong route key e = b.enroll key e) ∧
      (∀ key, b.withdrawAlong route key = b.withdrawAlong route' key ∧ b.withdrawAlong route key = b.withdraw key) ∧
      ∀ p, b.leaveAlong route p = b.leaveAlong route' p ∧ b.leaveAlong route p = b.leave p := by
  obtain ⟨membersAgree, own⟩ := runStepsKeeps steps
  have own := point.keeps own
  have inboxesApart : b.InboxesApart := fun p q m n side side' here there same => by
    rw [point.members] at here there
    exact (membersAgree.inboxOwn here there same).1
  have enrolls {route : List (InstanceHandle × Member)} (perm : route.Perm b.members.entries) (key : InstanceHandle)
      (e : Endpoint) : b.enrollAlong route key e = b.enroll key e :=
    announcePermutes own inboxesApart listening (c := { b with endpoints := b.endpoints.insert key e })
      (fun _ => .inl rfl) perm e.domain e.owner key e .alive
  have withdraws {route : List (InstanceHandle × Member)} (perm : route.Perm b.members.entries)
      (key : InstanceHandle) : b.withdrawAlong route key = b.withdraw key := by
    unfold withdrawAlong withdraw
    cases b.endpoints.get? key with
    | none => rfl
    | some e =>
      exact congrArg (Prod.mk true) (announcePermutes own inboxesApart listening
        (c := { b with endpoints := b.endpoints.erase key }) (fun _ => .inl rfl) perm e.domain e.owner key e .disposed)
  have leaves {route : List (InstanceHandle × Member)} (perm : route.Perm b.members.entries) (p : InstanceHandle) :
      b.leaveAlong route p = b.leave p := by
    cases found : b.participants.get? p with
    | none => simp only [leaveAlong, leave, found]
    | some x =>
      rw [leaveOpens found, leaveAlong, found]
      exact farewellPermutes own inboxesApart listening (vacatedMutes b p x) perm x.domain p _
  refine ⟨fun key e => ⟨?_, enrolls perm key e⟩, fun key => ⟨?_, withdraws perm key⟩, fun p => ⟨?_, leaves perm p⟩⟩
  · rw [enrolls perm, enrolls perm']
  · rw [withdraws perm, withdraws perm']
  · rw [leaves perm, leaves perm']

def threeWatch : List ApplicationStep :=
  [.ask (.join 0), .ask (.join 0), .ask (.join 0), .ask .newGraph, .ask .newGraph, .ask .newGraph,
    .ask .newGuard, .ask .newGuard, .ask .newGuard,
    .ask (.newListener (.discovery .publication 1 7)), .ask (.newListener (.discovery .subscription 1 7)),
    .ask (.newListener (.discovery .publication 2 8)), .ask (.newListener (.discovery .subscription 2 8)),
    .ask (.newListener (.discovery .publication 3 9)),
    .ask (.setListener 2 (some 4)), .ask (.setListener 3 (some 5)), .ask (.setListener 5 (some 6)),
    .ask (.setListener 6 (some 7)), .ask (.setListener 8 (some 8)),
    .waitSet .newWaitSet, .waitSet (.attach 9 7), .waitSet (.attach 9 8), .signalStep .newSignal,
      .signalStep (.add 10 1 9)]

theorem announcementOrdersAgreeThree :
    let b := ({} : Bus).runSteps threeWatch
    let e : Endpoint := ⟨.publication, 0, 10, "rt/chatter", "String_"⟩
    b.Listening ∧ b.enrollAlong b.members.entries.reverse 11 e = b.enroll 11 e ∧
      [7, 8, 9].map (b.enroll 11 e).trigger? = List.replicate 3 (some (.guard true)) ∧
      (b.enroll 11 e).isPending 9 ∧ (b.enroll 11 e).signals.get? 10 = some 1 := by
  have listening : (({} : Bus).runSteps threeWatch).Listening := by decide +kernel
  have agree := announcementOrdersAgree threeWatch .idle listening (List.reverse_perm _) (.refl _)
  exact ⟨listening, (agree.1 11 _).2, by decide +kernel, by decide +kernel, by decide +kernel⟩

end Bus
end Databus
