import Databus.Proofs.WaitSlices

/-! Deadlines of waits. A wait that comes to no good ends after the slices its span takes, no sooner than its deadline,
and says that it timed out only if nothing it claimed is ready as it collects. -/
namespace Databus

namespace Bus

theorem takeRaised (b : Bus) (c : ConditionId) : (b.takeGuard c).1 = true ↔ b.Raised c := by
  unfold takeGuard Raised trigger?
  split
  · rename_i raised _ _ found
    rw [found]
    cases raised <;> simp
  · rename_i other
    refine ⟨nofun, fun up => ?_⟩
    obtain ⟨⟨_, hooks, held⟩, found, rfl⟩ := Option.map_eq_some_iff.1 up
    exact absurd found (other _ _ _)

theorem takeLowers (b : Bus) (c k : ConditionId) : (b.takeGuard c).2.Raised k ↔ b.Raised k ∧ k ≠ c := by
  have lowered := (takeGuardAdjusts b c).2 k
  unfold Raised
  rw [lowered]
  split
  · rename_i own
    refine ⟨fun up => ?_, fun up => absurd own up.2⟩
    obtain ⟨t, _, assigned⟩ := Option.map_eq_some_iff.1 up
    cases t <;> cases assigned
  · rename_i other
    exact ⟨fun up => ⟨up, other⟩, And.left⟩

end Bus

namespace Middleware

variable {K : Type}

theorem System.loweredSilent {s : System K} {ws : WaitSetId} (silent : s.bus.triggered ws = []) :
    (s.lowered ws).bus.triggered ws = [] := (Bus.scanExact s.bus ws).trans silent

namespace BlockingWait

variable {s s' : BlockingWait K} {e : BlockingStep K} {steps : Nat → BlockingStep K}

/-! ### Ending -/

structure Untriggered (s : BlockingWait K) : Prop where
  silent : s.system.bus.triggered s.ticket.waitSet = []
  calm : ∀ till, s.phase = .blocked till → s.system.bus.isPending s.ticket.waitSet = false
  unheard : s.phase ≠ .answered false

theorem afterUntriggered (quiet : s.Quiet steps) (fresh : s.phase = .between) (n : Nat) :
    (s.after steps n).Untriggered := by
  induction n with
  | zero =>
    exact ⟨quiet.opens, fun till phase => (nomatch fresh.symm.trans phase), fun phase => nomatch fresh.symm.trans phase⟩
  | succ n ih =>
    obtain ⟨silent, calm, unheard⟩ := ih
    have effect := afterEffect s steps n
    have own := afterTicket s steps n
    generalize step : steps n = e at effect
    generalize s.after steps (n + 1) = t at effect
    cases effect with
    | idle | tick => exact ⟨silent, calm, unheard⟩
    | others system =>
      obtain ⟨none, pending⟩ := quiet.stays n system step
      rw [← own] at none pending
      have still (till : Nat) (phase : (s.after steps n).phase = .blocked till) :
          system.bus.isPending (s.after steps n).ticket.waitSet = false :=
        Bool.eq_false_iff.2 fun up => nomatch (pending up).symm.trans (calm till phase)
      exact ⟨none, still, unheard⟩
    | miss phase _ =>
      exact ⟨System.loweredSilent silent, fun till _ => Bus.lowerPending .., nofun⟩
    | hit phase found => exact absurd silent found
    | cut | enter | burst | wake | elapse | expire | retry => exact ⟨silent, nofun, nofun⟩

def weight (most : Nat) (s : BlockingWait K) : Nat := 6 * (most - s.slices.length) + s.phase.rank

theorem StepEffect.lighter {most : Nat} (effect : StepEffect s e s') (untriggered : s.Untriggered)
    (limited : s'.slices.length ≤ most) :
    s'.weight most < s.weight most ∨ s'.phase = s.phase ∧ s'.weight most = s.weight most := by
  cases effect with
  | idle | others | tick => exact .inr ⟨rfl, rfl⟩
  | cut phase =>
    have more : s.slices.length + 1 ≤ most := limited
    refine .inl ?_
    rw [weight, weight, phase, List.length_cons, SlicePhase.rank, SlicePhase.rank]
    omega
  | wake phase pending => exact nomatch (untriggered.calm _ phase).symm.trans pending
  | enter phase | burst phase | miss phase | hit phase | elapse phase | expire phase | retry phase =>
    refine .inl (Nat.add_lt_add_left ?_ _)
    simp only [phase, SlicePhase.rank, Nat.reduceLT]

theorem fairEnds {w : Nat → Nat} (fair : s.Fair steps)
    (lighter : ∀ n, w (n + 1) < w n ∨ (s.after steps (n + 1)).phase = (s.after steps n).phase ∧ w (n + 1) = w n) :
    ∃ n, (s.after steps n).phase.ended = true := by
  have falls {n m : Nat} (le : n ≤ m) : w m ≤ w n := by
    induction le with
    | refl => exact Nat.le_refl _
    | step _ ih =>
      rcases lighter _ with less | ⟨_, same⟩
      · exact Nat.le_trans (Nat.le_of_lt less) ih
      · exact Nat.le_trans (Nat.le_of_eq same) ih
  suffices ends : ∀ k n, w n < k → ∃ n, (s.after steps n).phase.ended = true from ends _ 0 (Nat.lt_succ_self _)
  intro k
  induction k with
  | zero => exact fun n less => absurd less (Nat.not_lt_zero _)
  | succ k ih =>
    intro n less
    cases ended : (s.after steps n).phase.ended with
    | true => exact ⟨n, ended⟩
    | false =>
      obtain ⟨m, le, moved⟩ := fair n ended
      rcases lighter m with nearer | ⟨same, _⟩
      · exact ih (m + 1) (Nat.lt_of_lt_of_le nearer (Nat.le_trans (falls le) (Nat.le_of_lt_succ less)))
      · exact absurd same moved

/-! ### What is answered -/

def answer? (s : BlockingWait K) : Option (Except Failure Outcome) :=
  match s.phase with
  | .answered expired => some (.ok (s.system.endWait s.ticket expired).1)
  | .failed f => some (.error f)
  | _ => none

def TimesOut (s : BlockingWait K) : Prop := ∃ o, s.answer? = some (.ok o) ∧ o.report.timedOut = true

structure Unready (s : BlockingWait K) : Prop where
  subscriptions : ∀ c ∈ s.ticket.subscriptions.conditions, s.system.bus.conditionValue c = false
  guards : ∀ c ∈ s.ticket.guards.conditions, ¬ s.system.bus.Raised c

end BlockingWait

namespace System

theorem countCons {kind : Kind} (slot : Option (Handle kind)) (kept : List (Option (Handle kind))) :
    countReady (slot :: kept) = 0 ↔ slot = none ∧ countReady kept = 0 := by
  rw [countNone, countNone, List.forall_mem_cons]

theorem collectRaised {kind : Kind} (slots : Slots kind) (b : Bus) :
    countReady (collect Bus.takeGuard b slots).1 = 0 ↔ ∀ c ∈ slots.conditions, ¬ b.Raised c := by
  induction slots generalizing b with
  | nil => exact ⟨fun _ => List.forall_mem_nil _, fun _ => rfl⟩
  | cons slot rest ih =>
    cases slot with
    | none =>
      rw [collect, countCons, ih]
      exact and_iff_right rfl
    | some p =>
      obtain ⟨h, c⟩ := p
      have first : Slots.conditions (some (h, c) :: rest) = c :: Slots.conditions rest := rfl
      rw [collect, countCons, ih, first, List.forall_mem_cons, ← Bus.takeRaised]
      cases taken : (b.takeGuard c).1 with
      | true => exact iff_of_false (fun none => Option.some_ne_none h none.1) fun none => none.1 rfl
      | false =>
        have low : ¬ b.Raised c := fun up =>
          Bool.false_ne_true (taken.symm.trans ((Bus.takeRaised b c).2 up))
        have same (k : ConditionId) : ¬ (b.takeGuard c).2.Raised k ↔ ¬ b.Raised k := by
          rw [Bus.takeLowers]
          refine not_congr ⟨And.left, fun up => ⟨up, ?_⟩⟩
          rintro rfl
          exact low up
        simp only [same, Bool.false_eq_true, if_false, not_false_eq_true]

theorem collectShownNone {kind : Kind} (slots : Slots kind) (b : Bus) :
    countReady (collect (fun b c => (b.conditionValue c, b)) b slots).1 = 0 ↔
      ∀ c ∈ slots.conditions, b.conditionValue c = false := by
  rw [Slots.collectShown, countNone]
  constructor
  · intro none c mem
    obtain ⟨h, listed⟩ := Site.memConditions.1 mem
    have kept := none _ (List.mem_map_of_mem listed)
    rw [Option.map_eq_none_iff, Option.filter_some, ite_eq_right_iff] at kept
    exact Bool.eq_false_iff.2 fun up => nomatch kept up
  · intro none slot mem
    obtain ⟨_ | ⟨h, c⟩, listed, rfl⟩ := List.mem_map.1 mem
    · rfl
    · rw [Option.filter_some, if_neg (Bool.eq_false_iff.1 (none c (Site.memConditions.2 ⟨h, listed⟩)))]
      rfl

end System

namespace BlockingWait

theorem timesOutExact (s : BlockingWait K) : s.TimesOut ↔ s.phase = .answered true ∧ s.Unready := by
  have collected : ∀ expired, (s.system.endWait s.ticket expired).1.report.timedOut = true ↔
      expired = true ∧ s.Unready := by
    intro expired
    have bus := Slots.collectShown s.system.bus s.ticket.subscriptions
    have unread := System.collectShownNone s.ticket.subscriptions s.system.bus
    have low := System.collectRaised s.ticket.guards s.system.bus
    rw [bus] at unread
    simp only [System.endWait, bus, Bool.and_eq_true, beq_iff_eq, Nat.add_eq_zero_iff, unread, low]
    exact and_congr_right fun _ => ⟨fun none => ⟨none.1, none.2⟩, fun none => ⟨none.1, none.2⟩⟩
  constructor
  · rintro ⟨o, answered, late⟩
    unfold answer? at answered
    split at answered <;> cases answered
    rename_i expired phase
    obtain ⟨rfl, unready⟩ := (collected expired).1 late
    exact ⟨phase, unready⟩
  · rintro ⟨phase, unready⟩
    refine ⟨(s.system.endWait s.ticket true).1, ?_, (collected true).2 ⟨rfl, unready⟩⟩
    rw [answer?, phase]

end BlockingWait

/-! ### Blocking in one go -/

theorem Pace.isOverFirst {p : Pace} {now now' : Nat} (early : p.isOver now = false)
    (within : now' < now + p.slice now) : p.isOver now' = false := by
  obtain ⟨_ | span | _, poll, _ | deadline⟩ := p
  · cases early
  · cases early
  · rfl
  · have ahead : ¬ deadline ≤ now := of_decide_eq_false early
    have within : now' < now + min (deadline - now) poll := within
    exact decide_eq_false (by omega)
  · rfl
  · rfl

namespace System

variable {s : System K} {t : Ticket} {now limit : Nat}

theorem loweredTwice (s : System K) (ws : WaitSetId) : (s.lowered ws).lowered ws = s.lowered ws := by
  refine congrArg (fun waitSets => { s with bus := { s.bus with waitSets } }) ?_
  exact Table.modifyTwice (f := ({ · with pending := false })) s.bus.waitSets ws fun _ => rfl

theorem turnMissed (silent : s.bus.triggered t.waitSet = []) (now : Nat) :
    s.turn t now = (if t.pace.isOver now then .over true else .again, s.lowered t.waitSet) := by
  rw [turn, Bus.poll, Bus.scanSilent silent]
  rfl

theorem turnHit (found : s.bus.triggered t.waitSet ≠ []) (now : Nat) :
    s.turn t now = (.over false, s.lowered t.waitSet) := by
  obtain ⟨k, rest, scanned⟩ := Bus.scanFound found
  rw [turn, Bus.poll, scanned]
  rfl

theorem blockHit (found : s.bus.triggered t.waitSet ≠ []) (now limit : Nat) :
    s.block t now limit = (some false, s.lowered t.waitSet) := by
  rw [block, turnHit found]

theorem blockMissed (silent : s.bus.triggered t.waitSet = []) (now limit : Nat) : s.block t now limit =
    if t.pace.isOver now then (some true, s.lowered t.waitSet)
    else if now < min (now + t.pace.slice now) limit then
      (s.lowered t.waitSet).block t (min (now + t.pace.slice now) limit) limit
    else (none, s.lowered t.waitSet) := by
  rw [block, turnMissed silent]
  cases t.pace.isOver now <;> rfl

theorem blockStops (silent : s.bus.triggered t.waitSet = []) (early : t.pace.isOver now = false)
    (within : limit < now + t.pace.slice now) : (s.block t now limit).1 = none := by
  have last : ¬ limit < min (limit + t.pace.slice limit) limit := Nat.not_lt.2 (Nat.min_le_right ..)
  rw [blockMissed silent, early, if_neg Bool.false_ne_true, Nat.min_eq_right (Nat.le_of_lt within)]
  split
  · rw [blockMissed (loweredSilent silent), Pace.isOverFirst early within, if_neg Bool.false_ne_true, if_neg last]
  · rfl

end System

namespace BlockingWait

variable {s : BlockingWait K} {limit : Nat} {expired : Bool}

def quietSlice (s : BlockingWait K) : List (BlockingStep K) :=
  [.cut, .enter, .scan, .tick (s.clock.now + s.next.length), .elapse, .judge]

theorem quietSliceRuns (phase : s.phase = .between) (silent : s.system.bus.triggered s.ticket.waitSet = [])
    (room : s.clock.now + s.next.length ≤ s.clock.last) : s.quietSlice.foldl step s =
      ⟨s.system.lowered s.ticket.waitSet, s.ticket, ⟨s.clock.now + s.next.length, s.clock.last⟩, s.next :: s.slices,
        if s.ticket.pace.isOver (s.clock.now + s.next.length) then .answered true else .between⟩ := by
  have scanned := Bus.scanSilent silent
  have low := Bus.lowerPending s.system.bus s.ticket.waitSet
  simp only [quietSlice, List.foldl_cons, List.foldl_nil, step, phase, room, if_true, scanned, Nat.le_add_right,
    and_self, Nat.le_refl, low, SlicePhase.ofSlice]
  rfl

theorem foundRuns (phase : s.phase = .between) (found : s.system.bus.triggered s.ticket.waitSet ≠ [])
    (room : s.clock.now + s.next.length ≤ s.clock.last) : [.cut, .enter, .scan].foldl step s =
      ⟨s.system.lowered s.ticket.waitSet, s.ticket, s.clock, s.next :: s.slices, .answered false⟩ := by
  obtain ⟨k, rest, scanned⟩ := Bus.scanFound found
  simp only [List.foldl_cons, List.foldl_nil, step, phase, room, if_true, scanned]
  rfl

theorem blockSteps (phase : s.phase = .between) (room : limit + s.ticket.pace.pollInterval ≤ s.clock.last)
    (before : s.clock.now ≤ limit) (ended : (s.system.block s.ticket s.clock.now limit).1 = some expired) :
    ∃ steps : List (BlockingStep K), (steps.foldl step s).phase = .answered expired ∧
      (steps.foldl step s).system = (s.system.block s.ticket s.clock.now limit).2 := by
  generalize left : limit - s.clock.now = k
  induction k using Nat.strongRecOn generalizing s with
  | ind k ih =>
    have short : s.next.length ≤ s.ticket.pace.pollInterval := Pace.sliceShort s.ticket.pace s.clock.now
    have enough : s.clock.now + s.next.length ≤ s.clock.last := by omega
    by_cases silent : s.system.bus.triggered s.ticket.waitSet = []
    · have round := quietSliceRuns phase silent enough
      cases due : s.ticket.pace.isOver s.clock.now with
      | true =>
        have none : s.next.length = 0 := Pace.sliceOver due
        rw [System.blockMissed silent, due, if_pos rfl] at ended ⊢
        cases ended
        rw [none, Nat.add_zero, due] at round
        exact ⟨s.quietSlice, by rw [round]; rfl, by rw [round]⟩
      | false =>
        by_cases within : limit < s.clock.now + s.next.length
        · exact nomatch (System.blockStops silent due within).symm.trans ended
        · have whole : min (s.clock.now + s.ticket.pace.slice s.clock.now) limit = s.clock.now + s.next.length :=
            Nat.min_eq_left (Nat.le_of_not_lt within)
          rw [System.blockMissed silent, due, if_neg Bool.false_ne_true, whole] at ended ⊢
          split at ended
          · rename_i more
            rw [if_pos more]
            cases judged : s.ticket.pace.isOver (s.clock.now + s.next.length) with
            | true =>
              rw [System.blockMissed (System.loweredSilent silent), judged, if_pos rfl, System.loweredTwice] at ended ⊢
              cases ended
              exact ⟨s.quietSlice, by rw [round, judged]; rfl, by rw [round]⟩
            | false =>
              rw [judged] at round
              obtain ⟨steps, finished, system⟩ := ih (limit - (s.clock.now + s.next.length)) (by omega)
                (s := s.quietSlice.foldl step s) (by rw [round]; rfl) (by rw [round]; exact room)
                (by rw [round]; exact Nat.le_of_not_lt within) (by rw [round]; exact ended) (by rw [round])
              refine ⟨s.quietSlice ++ steps, List.foldl_append ▸ finished, ?_⟩
              rw [List.foldl_append, system, round]
          · cases ended
    · rw [System.blockHit silent] at ended ⊢
      cases ended
      have round := foundRuns phase silent enough
      exact ⟨_, by rw [round], by rw [round]⟩

end BlockingWait

/-! ### From the call on -/

theorem Site.beginWaitPace {s s' : Site K} {clock : Clock} {timeout : Timeout}
    {subscriptions : List (Option (Handle .subscription))} {guards : List (Option (Handle .guardCondition))}
    {t : Ticket} (ok : s.beginWait clock timeout subscriptions guards = (s', .ok t)) :
    t.pace = .start clock timeout s.context.settings.pollInterval := by
  unfold beginWait at ok
  split at ok
  · cases ok
  · split at ok
    · cases ok
    · dsimp only at ok
      split at ok
      · cases ok
      · split at ok <;> cases ok
        rfl

theorem System.beginWaitPace {s s' : System K} {ctx : ContextId} {c : Context K} {clock : Clock} {timeout : Timeout}
    {subscriptions : List (Option (Handle .subscription))} {guards : List (Option (Handle .guardCondition))}
    {t : Ticket} (known : s.contexts.get? ctx = some c)
    (ok : s.beginWait ctx clock timeout subscriptions guards = (s', .ok t)) :
    t.pace = .start clock timeout c.settings.pollInterval := by
  simp only [beginWait, perform, known] at ok
  generalize begun : Site.beginWait clock timeout subscriptions guards ⟨s.bus, s.observed, c⟩ = result at ok
  obtain ⟨site, f | t'⟩ := result
  · cases ok
  · cases ok
    exact Site.beginWaitPace begun

structure Punctual (clock : Clock) (timeout : Timeout) (poll : Nat) (s : BlockingWait K)
    (steps : Nat → BlockingStep K) : Prop where
  sliced : ∀ n, ∀ c ∈ (s.after steps n).slices, c.length ≤ poll ∧
    ∀ span, timeout = .finite span → timeout.Comes clock → c.length ≤ clock.now + span - c.reading
  due : ∀ n, (s.after steps n).TimesOut → timeout.Comes clock ∧
    ∀ span, timeout = .finite span → clock.now + span ≤ (s.after steps n).clock.now
  unready : ∀ n, (s.after steps n).TimesOut → (s.after steps n).Unready
  limited : timeout.Comes clock → ∀ n, (s.after steps n).slices.length ≤ timeout.most poll
  ends : timeout.Comes clock → s.Quiet steps → s.Fair steps → s.ClockLasts steps →
    ∃ n, (s.after steps n).phase = .answered true
  once : timeout = .nonBlocking → ∀ n, (s.after steps n).phase.ended = true →
    ∃ reading, (s.after steps n).slices = [⟨reading, 0⟩]
  unfailed : ∀ n f, (s.after steps n).answer? ≠ some (.error f)
  unbroken : s.ClockLasts steps → ∀ n, (s.after steps n).phase ≠ .broken

theorem Pace.overComes {clock : Clock} {timeout : Timeout} {poll now : Nat}
    (late : (Pace.start clock timeout poll).isOver now = true) :
    timeout.Comes clock ∧ ∀ span, timeout = .finite span → clock.now + span ≤ now := by
  cases timeout with
  | nonBlocking => exact ⟨trivial, nofun⟩
  | infinite => cases late
  | finite span =>
    by_cases inside : clock.now + span ≤ clock.last
    · rw [Pace.start, if_pos inside] at late
      refine ⟨inside, fun span' own => ?_⟩
      cases own
      exact of_decide_eq_true late
    · rw [Pace.start, if_neg inside] at late
      cases late

namespace BlockingWait

variable {s : BlockingWait K} {steps : Nat → BlockingStep K} {clock : Clock} {timeout : Timeout} {poll start : Nat}
    {c : Slice}

/-! ### What the timing of a wait says -/

theorem Timed.sliced (h : s.Timed start) (own : s.ticket.pace = .start clock timeout poll) (mem : c ∈ s.slices) :
    c.length ≤ poll ∧
      ∀ span, timeout = .finite span → timeout.Comes clock → c.length ≤ clock.now + span - c.reading := by
  rw [(h.cuts.cut c mem).2, own]
  refine ⟨Pace.sliceShort _ _, fun span finite comes => ?_⟩
  subst finite
  have inside : clock.now + span ≤ clock.last := comes
  rw [Pace.startComes inside]
  exact Nat.min_le_left ..

theorem Timed.due (h : s.Timed start) (own : s.ticket.pace = .start clock timeout poll)
    (ended : s.phase = .answered true) :
    timeout.Comes clock ∧ ∀ span, timeout = .finite span → clock.now + span ≤ s.clock.now := by
  have fits := h.fits
  rw [Fits, ended, own] at fits
  exact Pace.overComes (fits.2 rfl)

theorem Timed.limited (h : s.Timed clock.now) (own : s.ticket.pace = .start clock timeout poll) (positive : 0 < poll)
    (comes : timeout.Comes clock) : s.slices.length ≤ timeout.most poll := by
  have cuts := h.cuts
  rw [own] at cuts
  exact cuts.limited positive comes

theorem Timed.once (h : s.Timed start) (own : s.ticket.pace = .start clock .nonBlocking poll)
    (ended : s.phase.ended = true) : ∃ reading, s.slices = [⟨reading, 0⟩] := by
  have fits := h.fits
  rcases h.cuts.single (by rw [own]; rfl) with none | once
  · unfold Fits at fits
    split at fits
    case h_6 => exact absurd none fits.1
    case h_8 => exact absurd none fits
    all_goals rename_i phase; rw [phase] at ended; contradiction
  · exact once

theorem Timed.unfailed (h : s.Timed start) (f : Failure) : s.answer? ≠ some (.error f) := fun failed => by
  have fits := h.fits
  unfold answer? at failed
  split at failed <;> cases failed
  rename_i phase
  rw [Fits, phase] at fits
  exact fits

theorem untriggeredEnds (h : s.Timed clock.now) (own : s.ticket.pace = .start clock timeout poll)
    (fresh : s.phase = .between)
    (positive : 0 < poll) (comes : timeout.Comes clock) (quiet : s.Quiet steps) (fair : s.Fair steps)
    (clockLasts : s.ClockLasts steps) : ∃ n, (s.after steps n).phase = .answered true := by
  have always := afterTimed h steps
  have untriggered := afterUntriggered quiet fresh
  have most (n : Nat) : (s.after steps n).slices.length ≤ timeout.most poll :=
    (always n).limited ((congrArg _ (afterTicket ..)).trans own) positive comes
  obtain ⟨n, ended⟩ := fairEnds (w := fun n => (s.after steps n).weight (timeout.most poll)) fair fun n =>
    (afterEffect s steps n).lighter (untriggered n) (most (n + 1))
  refine ⟨n, ?_⟩
  have whole := afterUnbroken h (fun phase => nomatch fresh.symm.trans phase) clockLasts n
  have fits := (always n).fits
  cases phase : (s.after steps n).phase with
  | answered expired =>
    cases expired with
    | true => rfl
    | false => exact absurd phase (untriggered n).unheard
  | failed f =>
    rw [Fits, phase] at fits
    cases fits
  | broken => exact absurd phase whole
  | between | cut | scanning | blocked | judging =>
    rw [phase] at ended
    cases ended

/-- Every wait that has begun is punctual. -/
theorem keepsTime {s s' : System K} {ctx : ContextId} {c : Context K} {clock : Clock} {timeout : Timeout}
    {subscriptions : List (Option (Handle .subscription))} {guards : List (Option (Handle .guardCondition))}
    {t : Ticket} (known : s.contexts.get? ctx = some c) (positive : 0 < c.settings.pollInterval)
    (begun : s.beginWait ctx clock timeout subscriptions guards = (s', .ok t)) (steps : Nat → BlockingStep K) :
    Punctual clock timeout c.settings.pollInterval ⟨s', t, clock, [], .between⟩ steps := by
  have pace : (BlockingWait.mk s' t clock [] .between).ticket.pace = .start clock timeout c.settings.pollInterval :=
    System.beginWaitPace known begun
  have timed : Timed clock.now (BlockingWait.mk s' t clock [] .between) := ⟨Nat.le_refl _, .nil _ _, fun _ => nofun⟩
  have fresh : (BlockingWait.mk s' t clock [] .between).phase = .between := rfl
  generalize BlockingWait.mk s' t clock [] .between = blockingWait at pace timed fresh
  have always := afterTimed timed steps
  have paced (n : Nat) := (congrArg Ticket.pace (afterTicket blockingWait steps n)).trans pace
  constructor
  case sliced => exact fun n c mem => (always n).sliced (paced n) mem
  case due => exact fun n out => (always n).due (paced n) ((timesOutExact _).1 out).1
  case unready => exact fun n out => ((timesOutExact _).1 out).2
  case limited => exact fun comes n => (always n).limited (paced n) positive comes
  case ends => exact fun comes => untriggeredEnds timed pace fresh positive comes
  case once =>
    intro blocking n
    subst blocking
    exact (always n).once (paced n)
  case unfailed => exact fun n => (always n).unfailed
  case unbroken => exact afterUnbroken timed fun phase => nomatch fresh.symm.trans phase

theorem StepEffect.stays {s s' : BlockingWait K} {e : BlockingStep K} {expired : Bool} (effect : StepEffect s e s')
    (ended : s.phase = .answered expired) : s'.phase = .answered expired := by
  cases effect with
  | idle | others | tick => exact ended
  | cut phase | enter phase | burst phase | miss phase | hit phase | wake phase | elapse phase | expire phase
  | retry phase =>
    exact nomatch ended.symm.trans phase

theorem answerStays {s : BlockingWait K} {n m : Nat} {expired : Bool}
    (ended : (s.after steps n).phase = .answered expired)
    (le : n ≤ m) : (s.after steps m).phase = .answered expired := by
  induction le with
  | refl => exact ended
  | step _ ih => exact (afterEffect s steps _).stays ih

def quietSteps : List (BlockingStep ExampleCarrier) :=
  [.cut, .enter, .scan, .tick 12, .elapse, .judge, .cut, .enter, .scan, .tick 13, .elapse, .tick 14, .elapse, .judge,
    .cut, .enter, .scan, .tick 15, .elapse, .judge]

def quietCall : System ExampleCarrier × Except Failure Ticket :=
  (({} : System ExampleCarrier).serveAll [.init { pollInterval := 2 }, .createGuard 1]).beginWait 1 ⟨10, 100⟩
    (.finite 5) []
    [some ⟨implementationIdentifier, 1, 0, 0⟩]

def quietTicket : Ticket :=
  ⟨.start ⟨10, 100⟩ (.finite 5) 2, 1, [], [some (⟨implementationIdentifier, 1, 0, 0⟩, 1)]⟩

theorem keepsTimeThrice :
    let steps n := (quietSteps[n]?).getD .wake
    let s : BlockingWait ExampleCarrier := ⟨quietCall.1, quietTicket, ⟨10, 100⟩, [], .between⟩
    Punctual ⟨10, 100⟩ (.finite 5) 2 s steps ∧ s.Quiet steps ∧ s.Fair steps ∧ s.ClockLasts steps ∧
      (s.after steps 20).TimesOut ∧ (s.after steps 20).slices = [⟨14, 1⟩, ⟨12, 2⟩, ⟨10, 2⟩] := by
  intro steps s
  have begun : quietCall = (quietCall.1, .ok quietTicket) := by decide +kernel
  have interval : ((({} : System ExampleCarrier).serveAll [.init { pollInterval := 2 }, .createGuard 1]).contexts.get?
    1).map
      (·.settings.pollInterval) = some 2 := by decide +kernel
  obtain ⟨c, known, poll⟩ := Option.map_eq_some_iff.1 interval
  have last : (s.after steps 19).phase = .judging ∧ (s.after steps 20).phase = .answered true := by decide +kernel
  have rooms : ∀ n < 20, steps n = .enter → (s.after steps n).clock.now + 2 ≤ 100 := by decide +kernel
  have idle {n : Nat} (past : 20 ≤ n) : steps n = .wake := by
    simp only [steps, List.getElem?_eq_none (show quietSteps.length ≤ n from past), Option.getD_none]
  refine ⟨poll ▸ keepsTime known (poll ▸ Nat.zero_lt_two) begun steps, ⟨by decide +kernel, fun n system own => ?_⟩,
    fun n going => ?_, fun n own => ?_, (timesOutExact _).2 ⟨last.2, by decide +kernel, ?_⟩, by decide +kernel⟩
  · cases found : quietSteps[n]? with
    | none => cases (congrArg (Option.getD · _) found).symm.trans own
    | some e =>
      have mem : BlockingStep.others system ∈ quietSteps :=
        ((congrArg (Option.getD · _) found).symm.trans own) ▸ List.mem_of_getElem? found
      simp [quietSteps] at mem
  · by_cases past : 20 ≤ n
    · rw [answerStays last.2 past] at going
      cases going
    · exact ⟨19, by omega, by rw [last.1, last.2]; nofun⟩
  · by_cases past : 20 ≤ n
    · cases (idle past).symm.trans own
    · exact rooms n (Nat.lt_of_not_le past) own
  · simp only [Bus.Raised]
    decide +kernel

end BlockingWait
end Middleware
end Databus
