import Databus.Proofs.WaitInvariants

/-! What a wait that was woken reports. Readiness is told twice, as the wait set is scanned and as it is collected, and
in between others go on: guards stay raised, and what is unread stays unread unless somebody takes it. -/
namespace Databus

namespace Bus

variable {b : Bus} {k : ConditionId}

def SampleWaits (b : Bus) (k : ConditionId) : Prop :=
  ∃ r x, b.readers.get? r = some x ∧ x.condition = k ∧ x.waiting = true

theorem listenedExact (statusesAgree : b.StatusesAgree) (unserved : b.Unserved k) (listens : b.Listens k) :
    b.conditionValue k = true ↔ b.SampleWaits k := by
  obtain ⟨r, x, found, rfl, _⟩ := unserved
  obtain ⟨t, there, data⟩ := listens
  obtain ⟨_, known, shown⟩ := statusesAgree.shown r x found
  cases Option.some.inj (known.symm.trans there)
  rw [conditionTrigger, there, Option.any_some, Trigger.valueShown data shown]
  refine ⟨fun waiting => ⟨r, x, found, rfl, waiting⟩, fun ⟨r', x', found', own, waiting⟩ => ?_⟩
  obtain rfl := statusesAgree.apart r' x' r x found' found own
  cases Option.some.inj (found.symm.trans found')
  exact waiting

theorem guardExact (guard : b.IsGuard k) : b.conditionValue k = true ↔ b.Raised k := by
  obtain ⟨raised, there⟩ := guard
  rw [conditionTrigger, there, Raised, there]
  simp [Trigger.value]

theorem scanExact (b : Bus) (ws : WaitSetId) : (b.scan ws).1 = b.triggered ws := by
  have attached : (b.scan ws).2.attachedTo ws = b.attachedTo ws := by
    rw [attachedMap, attachedMap]
    exact congrArg (Option.getD · []) (Table.modifySame b.waitSets ws ws fun _ => rfl)
  have values (k : ConditionId) : (b.scan ws).2.conditionValue k = b.conditionValue k := rfl
  change (b.scan ws).2.triggered ws = b.triggered ws
  rw [triggered, attached, triggered]
  exact List.filter_congr fun k _ => values k

end Bus

namespace Middleware

variable {K : Type}

theorem System.turnWoken {s : System K} {t : Ticket} {now : Nat} (ended : (s.turn t now).1 = .over false) :
    s.bus.triggered t.waitSet ≠ [] := fun none => by
  have scanned : s.bus.scan t.waitSet = ([], (s.bus.scan t.waitSet).2) :=
    Prod.ext ((Bus.scanExact s.bus t.waitSet).trans none) rfl
  have empty : s.bus.poll t.waitSet = (.error .timeout, (s.bus.scan t.waitSet).2) := by rw [Bus.poll, scanned]
  rw [turn, empty] at ended
  dsimp only at ended
  split at ended <;> cases ended

theorem System.turnExpired {s : System K} {t : Ticket} {now : Nat} (ended : (s.turn t now).1 = .over true) :
    t.pace.timeout ≠ .infinite := fun forever => by
  have never : t.pace.isOver now = false := by
    unfold Pace.isOver
    rw [forever]
  unfold turn at ended
  rw [never] at ended
  split at ended <;> cases ended

theorem System.keptCounts {kind : Kind} {slots : Slots kind} {b : Bus} {h : Handle kind} {k : ConditionId}
    (mem : some (h, k) ∈ slots) (value : b.conditionValue k = true) : 0 < System.countReady (slots.kept b) := by
  refine Nat.pos_of_ne_zero fun none => ?_
  have kept : some h ∈ slots.kept b :=
    List.mem_map.2 ⟨some (h, k), mem, by simp only [Option.filter_some, value, if_true, Option.map_some]⟩
  cases (System.countNone _).1 none _ kept

namespace WaitingSystem

variable [Catalog K] [DecidableEq K] {l : WaitingSystem K} {n : Nat} {v : WaitCall} {t : Ticket} {expired : Bool}
    {k : ConditionId}

/-! ### Others in between -/

omit [Catalog K] [DecidableEq K] in
theorem overOpens (h : l.WaitInvariant) (found : l.waits[n]? = some v) (stage : v.stage = .over t expired) :
    v.held = v.conditions ∧ (l.system.endWait t expired).1.subscriptions = v.subscriptions.kept l.system.bus ∧
      (l.system.endWait t expired).1.guards = v.guards.kept l.system.bus ∧
      l.system.Touches (Trigger.lowering v.guards.conditions) (l.system.endWait t expired).2 := by
  have fit := h.fit v (List.mem_of_getElem? found)
  rw [WaitCall.Fit, stage] at fit
  obtain ⟨held, subscriptions, guards⟩ := fit
  have nodup : v.guards.conditions.Nodup := by
    have once := h.exact.once n
    rw [heldThere found, held] at once
    exact (List.nodup_append.1 once).2.1
  have kinds : ∀ c ∈ v.guards.conditions, l.system.bus.IsGuard c := fun c mem => by
    obtain ⟨h', mem⟩ := Site.memConditions.1 mem
    exact (h.sees v (List.mem_of_getElem? found)).guards h' c mem
  rw [← subscriptions]
  rw [← guards] at nodup kinds ⊢
  exact ⟨held, System.endWaitOpens expired nodup kinds⟩

theorem stepRaised (h : l.WaitInvariant) (held : k ∈ l.held n) (raised : l.system.bus.Raised k) {e : Event K}
    (other : e ≠ .collect n) : (l.step e).system.bus.Raised k := by
  have acts {m : Nat} {f : System K → WaitCall → System K × WaitCall}
      (stays : ∀ s v, s.bus.Raised k → (f s v).1.bus.Raised k) : (l.act m f).system.bus.Raised k := by
    unfold act
    split
    · exact raised
    · exact stays _ _ raised
  cases e with
  | call c =>
    simp only [step]
    split
    · exact raised
    · rename_i plain
      have kept : (⟨l.system, []⟩ : World K).Kept := ⟨h.sound, h.conditionsAgree, h.wired⟩
      have admits : (⟨l.system, []⟩ : World K).Admits (.call c) := by
        cases c with
        | endWait t expired => exact absurd rfl plain
        | _ => trivial
      refine ((World.actFollows kept admits).raised k).2 (.inl ⟨raised, ?_⟩)
      rintro ⟨t, expired, own, _⟩
      cases own
      exact plain rfl
  | enter ctx timeout subscriptions guards =>
    simp only [step, enter]
    split
    · exact raised
    · split
      · exact raised
      · split <;> exact raised
  | claim m => exact acts fun s v up => WaitCall.claimBus s v ▸ up
  | block m clock => exact acts fun s v up => ((WaitCall.blockLeavesGuards clock s v).raised k).2 up
  | turn m now => exact acts fun s v up => ((WaitCall.turnLeavesGuards now s v).raised k).2 up
  | release m => exact acts fun s v up => WaitCall.releaseBus s v ▸ up
  | leave m => exact acts fun s v up => WaitCall.leaveBus s v ▸ up
  | collect m =>
    simp only [step, act]
    split
    · exact raised
    · rename_i u found
      unfold WaitCall.collect
      split
      · rename_i t expired stage
        obtain ⟨all, _, _, touches⟩ := overOpens h found stage
        -- the other wait lowers what it has claimed itself
        have absent : k ∉ u.guards.conditions := fun mem => by
          have mine : k ∈ l.held m := heldThere found ▸ all ▸ List.mem_append_right _ mem
          exact other (congrArg _ (h.exact.sole m n k mine held))
        change Bus.trigger? _ k = _
        rw [touches.triggers, Trigger.lowering, if_neg absent, Option.map_id_fun, id]
        exact raised
      · exact raised

theorem stepReaders {e : Event K} (quiet : ∀ c, e ≠ .call c) :
    (l.step e).system.bus.readers = l.system.bus.readers := by
  have acts {m : Nat} {f : System K → WaitCall → System K × WaitCall}
      (moves : ∀ s v, WaitCall.Moved s v (f s v).1 (f s v).2) :
      (l.act m f).system.bus.readers = l.system.bus.readers := by
    unfold act
    split
    · rfl
    · exact (moves _ _).waits.readers
  cases e with
  | call c => exact absurd rfl (quiet c)
  | enter ctx timeout subscriptions guards =>
    simp only [step, enter]
    split
    · rfl
    · split
      · rfl
      · split <;> rfl
  | claim m => exact acts WaitCall.claimMoves
  | block m clock => exact acts (WaitCall.blockMoves clock)
  | turn m now => exact acts (WaitCall.turnMoves now)
  | collect m => exact acts WaitCall.collectMoves
  | release m => exact acts WaitCall.releaseMoves
  | leave m => exact acts WaitCall.leaveMoves

theorem stepUnread (h : l.WaitInvariant) (unserved : l.system.bus.Unserved k) (unread : l.system.bus.SampleWaits k)
    {e : Event K} (left : ∀ c, e = .call c → ¬ l.system.Takes k c) : (l.step e).system.bus.SampleWaits k := by
  obtain ⟨r, x, found, rfl, waiting⟩ := unread
  by_cases quiet : ∀ c, e ≠ .call c
  · exact ⟨r, x, by rw [stepReaders quiet, found], rfl, waiting⟩
  · obtain ⟨c, own⟩ := Classical.not_forall.1 quiet
    obtain rfl := Classical.not_not.1 own
    obtain ⟨ledger, ledgerHolds⟩ := h.ledgerHolds
    obtain ⟨r', x', found', same, quiet, outer⟩ := unserved
    obtain rfl := h.conditionsAgree.statusesAgree.apart r' x' r x found' found same
    cases Option.some.inj (found.symm.trans found')
    simp only [step]
    split
    · exact ⟨r', x, found, rfl, waiting⟩
    · obtain ⟨_, evolves⟩ := h.conditionsAgree.serve h.sound c
      obtain ⟨lasts, _⟩ := serveLasts h.linked.membersAgree ledgerHolds.silent outer c
      obtain ⟨y, there, _, stays⟩ := lasts x found quiet
      obtain ⟨y', there', condition⟩ := evolves.readers r' x found
      cases Option.some.inj (there.symm.trans there')
      exact ⟨r', y, there, condition,
        stays (fun asked => left c rfl (takesAsked h.conditionsAgree found asked)) waiting⟩

def Taken (l : WaitingSystem K) (k : ConditionId) (events : List (Event K)) : Prop :=
  ∃ before c after, events = before ++ .call c :: after ∧ (l.run before).system.Takes k c

theorem Taken.later {e : Event K} {rest : List (Event K)} (taken : (l.step e).Taken k rest) :
    l.Taken k (e :: rest) := by
  obtain ⟨before, c, after, rfl, takes⟩ := taken
  exact ⟨e :: before, c, after, rfl, takes⟩

theorem stepStands (found : l.waits[n]? = some v) (e : Event K) : ∃ u, (l.step e).waits[n]? = some u := by
  have inside : n < l.waits.length := (List.getElem?_eq_some_iff.1 found).1
  have steps := l.stepSteps e
  generalize l.step e = l' at steps
  cases steps with
  | idle | calls => exact ⟨v, found⟩
  | away | joins => exact ⟨v, (List.getElem?_append_left inside).trans found⟩
  | @moves m w w' s' there moved => exact ⟨_, List.getElem?_eq_getElem (by rwa [List.length_set])⟩

theorem overStays {e : Event K} {rest : List (Event K)} {v' : WaitCall} (found : l.waits[n]? = some v)
    (stage : v.stage = .over t expired) (found' : (l.run (e :: rest)).waits[n]? = some v')
    (stage' : v'.stage = .over t expired) :
    ∃ u, (l.step e).waits[n]? = some u ∧ v.Goes u ∧ u.stage = .over t expired ∧ e ≠ .collect n := by
  have inside : n < l.waits.length := (List.getElem?_eq_some_iff.1 found).1
  have other : e ≠ .collect n := by
    rintro rfl
    have leaves : (l.step (.collect n)).waits[n]? =
        some { v with stage := .leaving (.ok (l.system.endWait t expired).1) } := by
      simp only [step, act, found, WaitCall.collect, stage, List.getElem?_set_self inside]
    obtain ⟨w, there, departs⟩ := runDeparts leaves ⟨List.suffix_refl _, .inl rfl⟩ rest
    cases Option.some.inj (there.symm.trans found')
    rcases departs.answers with leaving | ⟨gone, _⟩
    · cases leaving.symm.trans stage'
    · cases gone.symm.trans stage'
  obtain ⟨u, there⟩ := stepStands found e
  rcases stepPasses there with ⟨none, _⟩ | ⟨w, before, goes, passes⟩
  · cases none.symm.trans found
  · cases Option.some.inj (before.symm.trans found)
    refine ⟨u, there, goes, ?_, other⟩
    generalize u.stage = now at passes
    cases passes with
    | stays => exact stage
    | collects own => exact absurd own other
    | ends _ blocked => cases blocked.symm.trans stage
    | blocks _ claiming | claims _ claiming | fails _ claiming => cases claiming.symm.trans stage
    | leaves leaving => cases leaving.symm.trans stage

theorem runKeeps (h : l.WaitInvariant) (found : l.waits[n]? = some v) (stage : v.stage = .over t expired)
    {gap : List (Event K)} {v' : WaitCall} (found' : (l.run gap).waits[n]? = some v')
    (stage' : v'.stage = .over t expired) :
    (∀ c ∈ v.guards.conditions, l.system.bus.Raised c → (l.run gap).system.bus.Raised c) ∧
      ∀ c ∈ v.subscriptions.conditions, l.system.bus.SampleWaits c → (l.run gap).system.bus.SampleWaits c ∨
        l.Taken c gap := by
  induction gap generalizing l v with
  | nil => exact ⟨fun _ _ => id, fun _ _ => .inl⟩
  | cons e rest ih =>
    obtain ⟨held, _⟩ := overOpens h found stage
    obtain ⟨u, there, goes, stays, other⟩ := overStays found stage found' stage'
    have sees := h.sees v (List.mem_of_getElem? found)
    obtain ⟨guards, subscriptions⟩ := ih (h.step e) there stays found'
    rw [goes] at guards subscriptions
    refine ⟨fun c mem raised => guards c mem (stepRaised h ?_ raised other), fun c mem unread => ?_⟩
    · exact heldThere found ▸ held ▸ List.mem_append_right _ mem
    · by_cases taken : ∃ call, e = .call call ∧ l.system.Takes c call
      · obtain ⟨call, rfl, takes⟩ := taken
        exact .inr ⟨[], call, rest, rfl, takes⟩
      · obtain ⟨h', mem'⟩ := Site.memConditions.1 mem
        have still := stepUnread h (sees.readers h' c mem') unread fun call own takes => taken ⟨call, own, takes⟩
        exact (subscriptions c mem still).imp_right Taken.later

/-! ### What is reported -/

def Overtaken (n : Nat) (v : WaitCall) (events : List (Event K)) : Prop :=
  ∃ before now gap after u t, events = before ++ .turn n now :: gap ++ .collect n :: after ∧
    (({} : WaitingSystem K).run before).waits[n]? = some u ∧ u.Goes v ∧ u.stage = .blocked t ∧
    (({} : WaitingSystem K).run before).system.bus.triggered t.waitSet ≠ [] ∧
    ∀ k ∈ (({} : WaitingSystem K).run before).system.bus.triggered t.waitSet,
      k ∈ v.subscriptions.conditions ∧ (({} : WaitingSystem K).run (before ++ [.turn n now])).Taken k gap

theorem turnOver {now : Nat} (found : l.waits[n]? = some v) (blocked : v.stage = .blocked t)
    (ended : (l.system.turn t now).1 = .over expired) :
    (l.step (.turn n now)).waits[n]? = some { v with stage := .over t expired } := by
  have inside : n < l.waits.length := (List.getElem?_eq_some_iff.1 found).1
  simp only [step, act, found, WaitCall.turn, blocked]
  split <;> rename_i eq <;> rw [eq] at ended <;> cases ended
  exact List.getElem?_set_self inside

theorem wokenReady (h : l.WaitInvariant) {now : Nat} (found : l.waits[n]? = some v) (blocked : v.stage = .blocked t)
    (ended : (l.system.turn t now).1 = .over expired) {gap : List (Event K)} {u : WaitCall}
    (found' : ((l.step (.turn n now)).run gap).waits[n]? = some u) (stage : u.stage = .over t expired)
    (goes : v.Goes u) {k : ConditionId} (woke : k ∈ l.system.bus.triggered t.waitSet)
    (left : ¬ (k ∈ v.subscriptions.conditions ∧ (l.step (.turn n now)).Taken k gap)) :
    0 < System.countReady (u.subscriptions.kept ((l.step (.turn n now)).run gap).system.bus) +
      System.countReady (u.guards.kept ((l.step (.turn n now)).run gap).system.bus) := by
  have mem := List.mem_of_getElem? found
  have mem' := List.mem_of_getElem? found'
  obtain ⟨_, attached, _⟩ := (h.watches v mem).attached t blocked
  obtain ⟨here, value⟩ := List.mem_filter.1 woke
  have h' := h.step (.turn n now)
  have ends := h'.run gap
  have kept := runKeeps h' (turnOver found blocked ended) rfl found' stage
  generalize (l.step (.turn n now)).run gap = l' at found' ends kept mem' ⊢
  have sees := h.sees v mem
  have sees' := ends.sees u mem'
  have subscriptions : u.subscriptions = v.subscriptions := by rw [goes]
  have guards : u.guards = v.guards := by rw [goes]
  by_cases guarded : k ∈ v.guards.conditions
  · obtain ⟨g, listed⟩ := Site.memConditions.1 guarded
    have held : k ∈ l.held n := by
      have fit := h.fit v mem
      rw [WaitCall.Fit, blocked] at fit
      exact heldThere found ▸ fit.1 ▸ attached here
    have raised := (Bus.guardExact (sees.guards g k listed)).1 value
    have stays := kept.1 k guarded (stepRaised h held raised (by simp))
    have ready := System.keptCounts (guards ▸ listed) ((Bus.guardExact (sees'.guards g k (guards ▸ listed))).2 stays)
    exact Nat.add_pos_right _ ready
  · have subscribed := (List.mem_append.1 (attached here)).resolve_right guarded
    obtain ⟨g, listed⟩ := Site.memConditions.1 subscribed
    have listens := (h.watches v mem).listens t (.inl blocked) g k listed
    have listens' := (ends.watches u mem').listens t (.inr ⟨expired, stage⟩) g k (subscriptions ▸ listed)
    have sampleWaits := (Bus.listenedExact h.conditionsAgree.statusesAgree (sees.readers g k listed) listens).1 value
    have still : (l.step (.turn n now)).system.bus.SampleWaits k := by
      refine stepUnread h (sees.readers g k listed) sampleWaits fun c own => ?_
      cases own
    have stays := (kept.2 k subscribed still).resolve_right fun taken => left ⟨subscribed, taken⟩
    have ready := (Bus.listenedExact ends.conditionsAgree.statusesAgree (sees'.readers g k (subscriptions ▸ listed))
      listens').2 stays
    exact Nat.add_pos_left (System.keptCounts (subscriptions ▸ listed) ready) _

/-- A wait that answers other than that time is up reports something, unless all that woke it was taken from it. -/
theorem wokenReports {events : List (Event K)} {o : Outcome}
    (there : (({} : WaitingSystem K).run events).waits[n]? = some v) (answered : v.outcome? = some o)
    (awake : o.report.timedOut = false ∨ v.timeout = .infinite) :
    o.report.timedOut = false ∧ o.report.readySubscriptions = System.countReady o.subscriptions ∧
      o.report.readyGuards = System.countReady o.guards ∧
      (0 < o.report.readySubscriptions + o.report.readyGuards ∨ Overtaken n v events) := by
  obtain ⟨woken, after, u, t, expired, rfl, found, goes, stage, rfl⟩ := answeredSince there answered
  obtain ⟨before, now, gap, w, rfl, found', goes', blocked, ended⟩ := overSince found stage
  have split : ({} : WaitingSystem K).run (before ++ .turn n now :: gap) =
      ((({} : WaitingSystem K).run before).step (.turn n now)).run gap := runAppend _ _ _
  have h : (({} : WaitingSystem K).run before).WaitInvariant := waitInvariantFresh.run before
  have ends := waitInvariantFresh.run (before ++ .turn n now :: gap)
  obtain ⟨_, subscriptions, guards, _⟩ := overOpens ends found stage
  cases expired with
  | true =>
    -- the time of the wait was up, so it answers so unless something is ready
    obtain ⟨_, _, pace⟩ := (h.watches w (List.mem_of_getElem? found')).attached t blocked
    have timed : w.timeout ≠ .infinite := pace ▸ System.turnExpired ended
    have same : v.timeout = w.timeout := by rw [goes, goes']
    have awake := awake.resolve_right (same ▸ timed)
    refine ⟨awake, rfl, rfl, .inl (Nat.pos_of_ne_zero fun none => ?_)⟩
    cases (beq_iff_eq.2 none).symm.trans awake
  | false =>
    refine ⟨rfl, rfl, rfl, ?_⟩
    by_cases missed : ∀ k ∈ (({} : WaitingSystem K).run before).system.bus.triggered t.waitSet,
        k ∈ w.subscriptions.conditions ∧ ((({} : WaitingSystem K).run before).step (.turn n now)).Taken k gap
    · refine .inr ⟨before, now, gap, after, w, t, by simp, found', goes'.trans goes, blocked,
        System.turnWoken ended, fun k woke => ?_⟩
      have same : v.subscriptions = w.subscriptions := by rw [goes, goes']
      rw [same, runAppend]
      exact missed k woke
    · obtain ⟨k, others⟩ := Classical.not_forall.1 missed
      obtain ⟨woke, left⟩ := Classical.not_imp.1 others
      rw [split] at found subscriptions guards
      have ready := wokenReady h found' blocked ended found stage goes' woke left
      rw [← subscriptions, ← guards] at ready
      exact .inl (split ▸ ready)

def emptied : List (Event ExampleCarrier) :=
  [.call (.init {}), .call (.createNode 1 "node"),
    .call (.createPublisher 1 ⟨implementationIdentifier, 1, 0, 0⟩ (.of .blob) "chatter"),
    .call (.createSubscription 1 ⟨implementationIdentifier, 1, 0, 0⟩ (.of .blob) "chatter" 2),
    .enter 1 .infinite [some ⟨implementationIdentifier, 1, 0, 0⟩] [], .claim 0, .block 0 ⟨0, 100⟩,
    .call (.publish 1 ⟨implementationIdentifier, 1, 0, 0⟩ (.of .blob [1])), .turn 0 1,
    .call (.take 1 ⟨implementationIdentifier, 1, 0, 0⟩ (some .blob)), .collect 0]

theorem emptiedOvertaken :
    ∃ v o, (({} : WaitingSystem ExampleCarrier).run emptied).waits[0]? = some v ∧ v.outcome? = some o ∧
    o.report.timedOut = false ∧ Overtaken 0 v emptied := by
  have left : ((({} : WaitingSystem ExampleCarrier).run emptied).waits[0]?.bind WaitCall.outcome?) =
    some ⟨{}, [none], []⟩ := by
    decide +kernel
  obtain ⟨v, there, answered⟩ := Option.bind_eq_some_iff.1 left
  exact ⟨v, _, there, answered, rfl, (wokenReports there answered (.inl rfl)).2.2.2.resolve_left (by decide)⟩

theorem emptiedReportsNothing : ∃ v o, (({} : WaitingSystem ExampleCarrier).run emptied).waits[0]? = some v ∧
    v.timeout = .infinite ∧ v.outcome? = some o ∧ o.report.timedOut = false ∧
    o.report.readySubscriptions + o.report.readyGuards = 0 ∧ o.subscriptions = [none] ∧ o.guards = [] := by
  have left : ((({} : WaitingSystem ExampleCarrier).run emptied).waits[0]?.map fun v => (v.timeout, v.outcome?)) =
      some (.infinite, some ⟨{}, [none], []⟩) := by
    decide +kernel
  obtain ⟨v, there, same⟩ := Option.map_eq_some_iff.1 left
  obtain ⟨forever, answered⟩ := Prod.mk.inj same
  exact ⟨v, _, there, forever, answered, rfl, rfl, rfl, rfl⟩

end WaitingSystem
end Middleware
end Databus
