import Databus.Proofs.GuardRaising

/-! Every raise of a guard is reported exactly once. Waits of a run are told apart by the positions where they begin and
are collected; a guard is up where it was raised before and no wait that lists it was collected since. -/
namespace Databus.Middleware

open Bus (Evolves)

variable {K : Type} [Catalog K] [DecidableEq K]

namespace World

def stage (acts : List (Act K)) (i : Nat) : World K := ({} : World K).run (acts.take i)

variable {acts : List (Act K)} {i : Nat}

theorem stageNext {a : Act K} (here : acts[i]? = some a) : stage acts (i + 1) = (stage acts i).act a := by
  rw [stage, List.take_add_one, here, Option.toList_some, run, List.foldl_append]
  rfl

theorem stageOver (ended : acts[i]? = none) : stage acts (i + 1) = stage acts i := by
  rw [stage, List.take_add_one, ended, Option.toList_none, List.append_nil, stage]

end World

open World (stage)

structure Wait (acts : List (Act K)) where
  ctx : ContextId
  clock : Clock
  timeout : Timeout
  subscriptions : List (Option (Handle .subscription))
  guards : List (Option (Handle .guardCondition))
  ticket : Ticket
  expired : Bool
  start : Nat
  stop : Nat
  begun : acts[start]? = some (.call (.beginWait ctx clock timeout subscriptions guards))
  granted : ((stage acts start).system.beginWait ctx clock timeout subscriptions guards).2 = .ok ticket
  ended : acts[stop]? = some (.call (.endWait ticket expired))
  later : start < stop
  once : ∀ i expired, start < i → i < stop → acts[i]? ≠ some (.call (.endWait ticket expired))

structure Regular (acts : List (Act K)) : Prop where
  asks : ∀ (i : Nat) q, acts[i]? = some (.ask q) → q.isCommon
  ends : ∀ (i : Nat) t expired, acts[i]? = some (.call (.endWait t expired)) →
    ∃ w : Wait acts, w.stop = i ∧ w.ticket = t

variable {acts : List (Act K)} {i : Nat} {k : ConditionId}

def RaisedAt (acts : List (Act K)) (i : Nat) (k : ConditionId) : Prop :=
  ∃ a, acts[i]? = some a ∧ (stage acts i).Raises a k

namespace Wait

def outcome (w : Wait acts) : Outcome := ((stage acts w.stop).system.endWait w.ticket w.expired).1

def Names (w : Wait acts) (slot : Nat) (h : Handle .guardCondition) (k : ConditionId) : Prop :=
  w.guards[slot]? = some (some h) ∧ (stage acts w.start).guard? w.ctx h = some k

def Lists (w : Wait acts) (k : ConditionId) : Prop := ∃ slot h, w.Names slot h k

def Keeps (w : Wait acts) (k : ConditionId) : Prop :=
  ∃ slot h, w.Names slot h k ∧ w.outcome.guards[slot]? = some (some h)

def Runs (w : Wait acts) (i : Nat) : Prop := w.start < i ∧ i ≤ w.stop

theorem sameStart {v w : Wait acts} (same : v.start = w.start) : v.ticket = w.ticket ∧ v.stop = w.stop := by
  have begins := (same ▸ v.begun).symm.trans w.begun
  simp only [Option.some.injEq, Act.call.injEq, Call.beginWait.injEq] at begins
  obtain ⟨ctx, clock, timeout, subscriptions, guards⟩ := begins
  have ticket : v.ticket = w.ticket := by
    have granted := v.granted
    rw [same, ctx, clock, timeout, subscriptions, guards, w.granted] at granted
    exact (Except.ok.inj granted).symm
  refine ⟨ticket, ?_⟩
  rcases Nat.lt_trichotomy v.stop w.stop with less | equal | less
  · exact absurd (ticket ▸ v.ended) (w.once v.stop v.expired (same ▸ v.later) less)
  · exact equal
  · exact absurd (ticket ▸ w.ended) (v.once w.stop w.expired (same ▸ w.later) less)

theorem began (w : Wait acts) : ∃ c, (stage acts w.start).system.contexts.get? w.ctx = some c ∧
    Site.Begun ⟨(stage acts w.start).system.bus, (stage acts w.start).system.observed, c⟩ w.subscriptions w.guards
      w.ticket ⟨(stage acts (w.start + 1)).system.bus, (stage acts (w.start + 1)).system.observed, c⟩ := by
  obtain ⟨c, known, _, begun⟩ := System.beginWaitBegun (Prod.ext rfl w.granted :
    (stage acts w.start).system.beginWait w.ctx w.clock w.timeout w.subscriptions w.guards = (_, .ok w.ticket))
  rw [World.stageNext w.begun]
  exact ⟨c, known, begun⟩

theorem listsExact {w : Wait acts} : w.Lists k ↔ k ∈ w.ticket.guards.conditions := by
  obtain ⟨c, known, begun⟩ := w.began
  rw [Slots.conditionsFilled begun.guards, Arena.conditionsOf]
  simp only [Lists, Names, World.guard?, known, Option.bind_some, List.mem_filterMap]
  constructor
  · rintro ⟨slot, h, listed, guard⟩
    exact ⟨some h, List.mem_of_getElem? listed, guard⟩
  · rintro ⟨_ | h, listed, guard⟩
    · cases guard
    · obtain ⟨slot, listed⟩ := List.mem_iff_getElem?.1 listed
      exact ⟨slot, h, listed, guard⟩

end Wait

namespace Regular

/-! ### The law at every position -/

theorem collects {w : Wait acts} (kept : (stage acts w.start).Kept)
    (evolves : (stage acts w.start).system.bus.Evolves (stage acts w.stop).system.bus) :
    w.ticket.guards.conditions.Nodup ∧
      ∀ k ∈ w.ticket.guards.conditions, (stage acts w.stop).system.bus.IsGuard k := by
  obtain ⟨c, known, begun⟩ := w.began
  exact ⟨(List.nodup_append.1 begun.apart).2.1, fun k claimed =>
    claimedGuard kept.conditionsAgree known begun evolves claimed⟩

theorem admits (regular : Regular acts) {a : Act K} (here : acts[i]? = some a)
    (before : ∀ j ≤ i, (stage acts j).Kept ∧ (stage acts j).system.bus.Evolves (stage acts i).system.bus) :
    (stage acts i).Admits a := by
  cases a with
  | ask q => exact regular.asks i q here
  | call call =>
    cases call with
    | endWait t expired =>
      obtain ⟨w, rfl, rfl⟩ := regular.ends i t expired here
      obtain ⟨kept, evolves⟩ := before w.start (Nat.le_of_lt w.later)
      exact collects kept evolves
    | _ => trivial

theorem before (regular : Regular acts) (i : Nat) :
    ∀ j ≤ i, (stage acts j).Kept ∧ (stage acts j).system.bus.Evolves (stage acts i).system.bus := by
  induction i with
  | zero =>
    rintro j le
    obtain rfl := Nat.le_zero.1 le
    exact ⟨World.keptFresh, .refl _⟩
  | succ i ih =>
    cases here : acts[i]? with
    | none =>
      intro j le
      rw [World.stageOver here]
      rcases Nat.le_succ_iff.1 le with le | rfl
      · exact ih j le
      · exact (World.stageOver here).symm ▸ ih i (Nat.le_refl i)
    | some a =>
      have follows := World.actFollows (ih i (Nat.le_refl i)).1 (regular.admits here ih)
      intro j le
      rw [World.stageNext here]
      rcases Nat.le_succ_iff.1 le with le | rfl
      · exact ⟨(ih j le).1, (ih j le).2.trans follows.evolves⟩
      · exact (World.stageNext here).symm ▸ ⟨follows.kept, .refl _⟩

theorem follows (regular : Regular acts) {a : Act K} (here : acts[i]? = some a) : (stage acts i).Follows a :=
  World.actFollows (regular.before i i (Nat.le_refl i)).1 (regular.admits here (regular.before i))

theorem lowersExact (regular : Regular acts) {a : Act K} (here : acts[i]? = some a) :
    a.Lowers k ↔ ∃ w : Wait acts, w.Lists k ∧ w.stop = i := by
  constructor
  · rintro ⟨t, expired, rfl, listed⟩
    obtain ⟨w, stop, rfl⟩ := regular.ends i t expired here
    exact ⟨w, Wait.listsExact.2 listed, stop⟩
  · rintro ⟨w, lists, rfl⟩
    exact ⟨w.ticket, w.expired, Option.some.inj (here.symm.trans w.ended), Wait.listsExact.1 lists⟩

theorem raisedExact (regular : Regular acts) (i : Nat) : (stage acts i).Raised k ↔
    ∃ p < i, RaisedAt acts p k ∧ ∀ w : Wait acts, w.Lists k → ¬ (p < w.stop ∧ w.stop < i) := by
  induction i with
  | zero =>
    refine iff_of_false (fun up => ?_) fun ⟨_, before, _⟩ => nomatch before
    exact nomatch (up : none = _)
  | succ i ih =>
    cases here : acts[i]? with
    | none =>
      -- nothing is raised or collected where there is no act
      have other {p : Nat} (raisedAt : RaisedAt acts p k) : p ≠ i := fun own => by
        obtain ⟨a, there, _⟩ := raisedAt
        exact nomatch (own ▸ there).symm.trans here
      have live (w : Wait acts) : w.stop ≠ i := fun own => nomatch (own ▸ w.ended).symm.trans here
      rw [World.stageOver here, ih]
      constructor
      · rintro ⟨p, before, raisedAt, free⟩
        refine ⟨p, Nat.lt_succ_of_lt before, raisedAt, fun w lists ⟨after, until'⟩ => free w lists ⟨after, ?_⟩⟩
        exact Nat.lt_of_le_of_ne (Nat.le_of_lt_succ until') (live w)
      · rintro ⟨p, before, raisedAt, free⟩
        refine ⟨p, Nat.lt_of_le_of_ne (Nat.le_of_lt_succ before) (other raisedAt), raisedAt, fun w lists between => ?_⟩
        exact free w lists ⟨between.1, Nat.lt_succ_of_lt between.2⟩
    | some a =>
      have law := (regular.follows here).raised k
      rw [World.stageNext here, law, ih, regular.lowersExact here]
      constructor
      · rintro (⟨⟨p, before, raisedAt, free⟩, high⟩ | raises)
        · refine ⟨p, Nat.lt_succ_of_lt before, raisedAt, fun w lists ⟨after, until'⟩ => free w lists ⟨after, ?_⟩⟩
          exact Nat.lt_of_le_of_ne (Nat.le_of_lt_succ until') fun own => high ⟨w, lists, own⟩
        · exact ⟨i, Nat.lt_succ_self i, ⟨a, here, raises⟩, fun w _ ⟨after, until'⟩ =>
            Nat.lt_irrefl _ (Nat.lt_of_lt_of_le after (Nat.le_of_lt_succ until'))⟩
      · rintro ⟨p, before, ⟨a', there, raises⟩, free⟩
        rcases Nat.lt_or_eq_of_le (Nat.le_of_lt_succ before) with less | rfl
        · refine .inl ⟨⟨p, less, ⟨a', there, raises⟩, fun w lists between =>
            free w lists ⟨between.1, Nat.lt_succ_of_lt between.2⟩⟩, ?_⟩
          rintro ⟨w, lists, rfl⟩
          exact free w lists ⟨less, Nat.lt_succ_self _⟩
        · cases Option.some.inj (there.symm.trans here)
          exact .inr raises

/-! ### Waits apart -/

theorem observedNext (regular : Regular acts) {c : ConditionId} (claimed : c ∈ (stage acts i).system.observed)
    (stays : ∀ v : Wait acts, v.stop = i → c ∉ v.ticket.conditions) :
    c ∈ (stage acts (i + 1)).system.observed := by
  cases here : acts[i]? with
  | none => exact (World.stageOver here).symm ▸ claimed
  | some a =>
    rw [World.stageNext here]
    cases a with
    | ask q => exact claimed
    | call call =>
      have same (begins : ∀ ctx clock timeout subscriptions guards,
          call ≠ .beginWait ctx clock timeout subscriptions guards) (ends : ∀ t expired, call ≠ .endWait t expired) :
          c ∈ ((stage acts i).system.serve call).observed :=
        (System.serveObserved _ begins ends).symm ▸ claimed
      cases call with
      | beginWait ctx clock timeout subscriptions guards =>
        change c ∈ ((stage acts i).system.beginWait ctx clock timeout subscriptions guards).1.observed
        cases result : ((stage acts i).system.beginWait ctx clock timeout subscriptions guards).2 with
        | error f =>
          rw [System.beginWaitRefused result]
          exact claimed
        | ok t =>
          obtain ⟨_, _, _, begun⟩ := System.beginWaitBegun (Prod.ext rfl result :
            (stage acts i).system.beginWait ctx clock timeout subscriptions guards = (_, .ok t))
          exact Eq.mpr (congrArg (c ∈ ·) begun.claimed) (List.mem_append_right _ claimed)
      | endWait t expired =>
        obtain ⟨v, stop, rfl⟩ := regular.ends i t expired here
        exact List.mem_filter.2 ⟨claimed, decide_eq_true (stays v stop)⟩
      | _ => exact same (fun _ _ _ _ _ own => nomatch own) fun _ _ own => nomatch own

theorem observes (regular : Regular acts) (i : Nat) {w : Wait acts} (runs : w.Runs i) :
    ∀ c ∈ w.ticket.conditions, c ∈ (stage acts i).system.observed := by
  induction i using Nat.strongRecOn generalizing w with
  | ind i ih =>
    intro c own
    obtain ⟨j, rfl⟩ := Nat.exists_eq_add_one.2 (Nat.zero_lt_of_lt runs.1)
    rcases Nat.lt_or_eq_of_le (Nat.le_of_lt_succ runs.1) with less | rfl
    · have before := ih j (Nat.lt_succ_self j) ⟨less, Nat.le_of_succ_le runs.2⟩ c own
      refine regular.observedNext before fun v stop other => ?_
      -- whichever began later has found the other's conditions observed
      rcases Nat.lt_trichotomy v.start w.start with first | same | first
      · obtain ⟨_, _, begun⟩ := w.began
        exact begun.free c own (ih w.start (Nat.lt_succ_of_lt less) ⟨first, stop ▸ Nat.le_of_lt less⟩ c other)
      · have stops : w.stop = j := (Wait.sameStart same).2.symm.trans stop
        exact Nat.not_succ_le_self j (Nat.le_trans runs.2 (Nat.le_of_eq stops))
      · obtain ⟨_, _, begun⟩ := v.began
        have before : v.start < j := stop ▸ v.later
        exact begun.free c other (ih v.start (Nat.lt_succ_of_lt before)
          ⟨first, Nat.le_of_lt (Nat.lt_trans before runs.2)⟩ c own)
    · obtain ⟨_, _, begun⟩ := w.began
      exact Eq.mpr (congrArg (c ∈ ·) begun.claimed) (List.mem_append_left _ (List.mem_reverse.2 own))

theorem apart (regular : Regular acts) {v w : Wait acts} (lists : v.Lists k) (lists' : w.Lists k)
    (first : v.start < w.start) : v.stop < w.start := by
  refine Decidable.byContradiction fun overlap => ?_
  obtain ⟨_, _, begun⟩ := w.began
  have listed {u : Wait acts} (lists : u.Lists k) : k ∈ u.ticket.conditions :=
    List.mem_append_right _ (Wait.listsExact.1 lists)
  exact begun.free k (listed lists') (regular.observes w.start ⟨first, Nat.le_of_not_lt overlap⟩ k (listed lists))

/-! ### Reports -/

theorem keepsRaised (regular : Regular acts) {w : Wait acts} {slot : Nat} {h : Handle .guardCondition}
    (names : w.Names slot h k) :
    w.outcome.guards[slot]? = some (some h) ↔ (stage acts w.stop).Raised k := by
  obtain ⟨kept, evolves⟩ := regular.before w.stop w.start (Nat.le_of_lt w.later)
  obtain ⟨nodup, guards⟩ := collects kept evolves
  obtain ⟨c, known, begun⟩ := w.began
  obtain ⟨_, outcome, _⟩ := System.endWaitOpens w.expired nodup guards
  obtain ⟨listed, guard⟩ := names
  rw [World.guard?, known, Option.bind_some, Option.map_eq_some_iff] at guard
  obtain ⟨g, found, rfl⟩ := guard
  obtain ⟨raised, there⟩ := guards g.condition (Wait.listsExact.1 ⟨slot, h, listed, by
    rw [World.guard?, known, Option.bind_some, found, Option.map_some]⟩)
  have value : (stage acts w.stop).system.bus.conditionValue g.condition = raised := by
    rw [Bus.conditionTrigger, there]
    rfl
  rw [Wait.outcome, outcome, Slots.keptFilled begun.guards, List.getElem?_map, listed, World.Raised, Bus.Raised, there]
  simp [found, value, Option.filter]

theorem keepsExact (regular : Regular acts) {w : Wait acts} (lists : w.Lists k) :
    w.Keeps k ↔ (stage acts w.stop).Raised k := by
  obtain ⟨slot, h, names⟩ := lists
  exact ⟨fun ⟨_, _, names', kept⟩ => (regular.keepsRaised names').1 kept,
    fun up => ⟨slot, h, names, (regular.keepsRaised names).2 up⟩⟩

theorem reporter (regular : Regular acts) {p : Nat} (raisedAt : RaisedAt acts p k) {w : Wait acts} (lists : w.Lists k)
    (after : p < w.stop) : w.Keeps k ∨ ∃ v : Wait acts, v.Keeps k ∧ p < v.stop ∧ v.stop < w.stop := by
  induction stop : w.stop using Nat.strongRecOn generalizing w with
  | ind i ih =>
    subst stop
    by_cases up : (stage acts w.stop).Raised k
    · exact .inl ((regular.keepsExact lists).2 up)
    · rw [regular.raisedExact] at up
      have collected : ∃ v : Wait acts, v.Lists k ∧ p < v.stop ∧ v.stop < w.stop :=
        Classical.byContradiction fun none => up ⟨p, after, raisedAt, fun v lists' between => none ⟨v, lists', between⟩⟩
      obtain ⟨v, lists', after', before⟩ := collected
      rcases ih v.stop before lists' after' rfl with keeps | ⟨u, keeps, later, earlier⟩
      · exact .inr ⟨v, keeps, after', before⟩
      · exact .inr ⟨u, keeps, later, Nat.lt_trans earlier before⟩

end Regular

theorem Wait.Keeps.lists {w : Wait acts} (keeps : w.Keeps k) : w.Lists k :=
  let ⟨slot, h, names, _⟩ := keeps
  ⟨slot, h, names⟩

theorem silent {a : Act K} (here : acts[i]? = some a) (presses : ∀ ctx h, a ≠ .call (.triggerGuard ctx h))
    (graphs : ((stage acts i).act a).system.bus.graphs = (stage acts i).system.bus.graphs) : ¬ RaisedAt acts i k := by
  rintro ⟨a', there, raises⟩
  cases Option.some.inj (there.symm.trans here)
  rcases raises with ⟨ctx, h, own, _⟩ | changes
  · exact presses ctx h own
  · exact World.changesNothing graphs k changes

namespace Wait

theorem startSilent (w : Wait acts) : ¬ RaisedAt acts w.start k := by
  obtain ⟨_, _, begun⟩ := w.began
  rw [World.stageNext w.begun] at begun
  exact silent w.begun (fun _ _ own => nomatch own) begun.waits.graphs

theorem stopSilent (w : Wait acts) : ¬ RaisedAt acts w.stop k :=
  silent w.ended (fun _ _ own => nomatch own) (System.endWaitWaits _ w.ticket w.expired).graphs

end Wait

structure Reported (acts : List (Act K)) (k : ConditionId) : Prop where
  first : ∀ p (w : Wait acts), RaisedAt acts p k → p < w.start → w.Lists k →
    (∀ v : Wait acts, v.Lists k → p < v.start → w.start ≤ v.start) →
    w.Keeps k ∨ ∃ v : Wait acts, v.Keeps k ∧ v.start < p ∧ p < v.stop ∧ v.stop < w.start
  between : ∀ v w : Wait acts, v.Keeps k → w.Keeps k → v.stop < w.stop →
    ∃ p, v.stop < p ∧ p < w.stop ∧ RaisedAt acts p k
  once : ∀ p q, RaisedAt acts p k → RaisedAt acts q k → p < q →
    (∀ v : Wait acts, v.Lists k → ¬ (p < v.stop ∧ v.stop < q)) → ∀ v w : Wait acts, v.Keeps k → w.Keeps k →
    p < v.stop → v.stop < w.stop → ∃ r, q < r ∧ r < w.stop ∧ RaisedAt acts r k
  exact : ∀ w : Wait acts, w.Lists k → (w.Keeps k ↔
    ∃ p < w.stop, RaisedAt acts p k ∧ ∀ v : Wait acts, v.Lists k → ¬ (p < v.stop ∧ v.stop < w.stop))
  refused : ∀ (i : Nat) ctx clock timeout subscriptions guards f,
    acts[i]? = some (.call (.beginWait ctx clock timeout subscriptions guards)) →
    ((stage acts i).system.beginWait ctx clock timeout subscriptions guards).2 = .error f →
    ((stage acts (i + 1)).Raised k ↔ (stage acts i).Raised k)
  others : ∀ w : Wait acts, ¬ w.Lists k → ¬ w.Keeps k ∧
    ((stage acts (w.start + 1)).Raised k ↔ (stage acts w.start).Raised k) ∧
    ((stage acts (w.stop + 1)).Raised k ↔ (stage acts w.stop).Raised k)
  turns : ∀ (i : Nat) t now, acts[i]? = some (.call (.turn t now)) →
    ((stage acts (i + 1)).Raised k ↔ (stage acts i).Raised k)

namespace Regular

theorem latest (regular : Regular acts) {v w : Wait acts} (keeps : v.Keeps k) (keeps' : w.Keeps k)
    (before : v.stop < w.stop) : ∃ p, v.stop < p ∧ p < w.stop ∧ RaisedAt acts p k := by
  obtain ⟨p, until', raisedAt, free⟩ := (regular.raisedExact w.stop).1 ((regular.keepsExact keeps'.lists).1 keeps')
  have after : v.stop ≤ p := Nat.le_of_not_lt fun less => free v keeps.lists ⟨less, before⟩
  exact ⟨p, Nat.lt_of_le_of_ne after fun own => v.stopSilent (own ▸ raisedAt), until', raisedAt⟩

theorem first (regular : Regular acts) {p : Nat} (raisedAt : RaisedAt acts p k) {w : Wait acts} (lists : w.Lists k)
    (after : p < w.start) (earliest : ∀ v : Wait acts, v.Lists k → p < v.start → w.start ≤ v.start) :
    w.Keeps k ∨ ∃ v : Wait acts, v.Keeps k ∧ v.start < p ∧ p < v.stop ∧ v.stop < w.start := by
  rcases regular.reporter raisedAt lists (Nat.lt_trans after w.later) with keeps | ⟨v, keeps, later, before⟩
  · exact .inl keeps
  · have running : v.start < p := by
      refine Nat.lt_of_le_of_ne (Nat.le_of_not_lt fun late => ?_) fun own => v.startSilent (own.symm ▸ raisedAt)
      rcases Nat.lt_or_eq_of_le (earliest v keeps.lists late) with less | same
      · exact Nat.lt_asymm (Nat.lt_trans (regular.apart lists keeps.lists less) v.later) before
      · exact Nat.ne_of_lt before (Wait.sameStart same).2.symm
    exact .inr ⟨v, keeps, running, later, regular.apart keeps.lists lists (Nat.lt_trans running after)⟩

theorem unchanged (regular : Regular acts) {a : Act K} (here : acts[i]? = some a) (high : ¬ a.Lowers k)
    (silent : ¬ RaisedAt acts i k) : (stage acts (i + 1)).Raised k ↔ (stage acts i).Raised k := by
  rw [World.stageNext here, (regular.follows here).raised]
  exact (or_iff_left fun raises => silent ⟨a, here, raises⟩).trans (and_iff_left high)

end Regular

/-- Along every regular run each guard's raises are reported exactly once. -/
theorem raisesReported (regular : Regular acts) (k : ConditionId) : Reported acts k where
  first _ _ raisedAt after lists earliest := regular.first raisedAt lists after earliest
  between v w keeps keeps' before := regular.latest keeps keeps' before
  once p q _ _ _ free v w keeps keeps' after before := by
    obtain ⟨r, later, until', raisedAt⟩ := regular.latest keeps keeps' before
    have collected : q ≤ v.stop := Nat.le_of_not_lt fun less => free v keeps.lists ⟨after, less⟩
    exact ⟨r, Nat.lt_of_le_of_lt collected later, until', raisedAt⟩
  exact w lists := (regular.keepsExact lists).trans (regular.raisedExact w.stop)
  refused i ctx clock timeout subscriptions guards f here refused := by
    have same := congrArg System.bus (System.beginWaitRefused refused)
    rw [World.stageNext here]
    change ((stage acts i).system.beginWait ctx clock timeout subscriptions guards).1.bus.Raised k ↔ _
    rw [same]
    exact .rfl
  others w unlisted := by
    refine ⟨fun keeps => unlisted keeps.lists, ?_, ?_⟩
    · exact regular.unchanged w.begun (fun ⟨_, _, own, _⟩ => nomatch own) w.startSilent
    · refine regular.unchanged w.ended (fun ⟨_, _, own, listed⟩ => ?_) w.stopSilent
      cases own
      exact unlisted (Wait.listsExact.2 listed)
  turns _ t now here := regular.unchanged here (fun ⟨_, _, own, _⟩ => nomatch own)
    (silent here (fun _ _ own => nomatch own) (System.turnTouches _ t now).1.bus.graphs)

def chime : List (Act ExampleCarrier) :=
  let guard : Handle .guardCondition := ⟨implementationIdentifier, 1, 0, 0⟩
  let wait : Act ExampleCarrier := .call (.beginWait 1 ⟨0, 100⟩ .nonBlocking [] [some guard])
  let collect (ws : WaitSetId) (expired : Bool) : Act ExampleCarrier :=
    .call (.endWait ⟨⟨.nonBlocking, 1000000000, none⟩, ws, [], [some (guard, 3)]⟩ expired)
  [.call (.init {}), .call (.createNode 1 "watcher"), .call (.init {}), .call (.createNode 2 "talker"),
    .call (.createPublisher 2 ⟨implementationIdentifier, 2, 0, 0⟩ (.of .blob) "chatter"),
    wait, collect 7 false, wait, collect 8 true]

theorem grantedSome {α : Type} {result : Except Failure α} {a : α} (some' : result.toOption = some a) :
    result = .ok a := by
  cases result with
  | error f => cases some'
  | ok a' => exact congrArg Except.ok (Option.some.inj some')

theorem chimeReported : Regular chime ∧ Reported chime 3 := by
  have regular : Regular chime := by
    constructor
    · intro i q here
      rcases i with _ | _ | _ | _ | _ | _ | _ | _ | _ | i <;> nomatch here
    · intro i t expired here
      rcases i with _ | _ | _ | _ | _ | _ | _ | _ | _ | i
      case succ.succ.succ.succ.succ.succ.zero =>
        cases here
        exact ⟨⟨1, ⟨0, 100⟩, .nonBlocking, [], [some ⟨implementationIdentifier, 1, 0, 0⟩], _, _, 5, 6, rfl,
          grantedSome (by decide +kernel), rfl, by decide,
          fun i _ after before => absurd before (Nat.not_lt.2 after)⟩, rfl, rfl⟩
      case succ.succ.succ.succ.succ.succ.succ.succ.zero =>
        cases here
        exact ⟨⟨1, ⟨0, 100⟩, .nonBlocking, [], [some ⟨implementationIdentifier, 1, 0, 0⟩], _, _, 7, 8, rfl,
          grantedSome (by decide +kernel), rfl, by decide,
          fun i _ after before => absurd before (Nat.not_lt.2 after)⟩, rfl, rfl⟩
      all_goals nomatch here
  exact ⟨regular, raisesReported regular 3⟩

end Databus.Middleware
