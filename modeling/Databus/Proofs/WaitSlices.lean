import Databus.Proofs.WaitSetCallers
import Databus.Proofs.WokenWaits
import Mathlib.Data.List.Chain

/-! How long a wait blocks. It blocks in slices on its wait set and reads the clock as it cuts a slice, as the slice
begins and once it has run out, while others and the clock go on in between: the deadline is kept all the same. -/
namespace Databus

namespace Bus

variable {b : Bus} {ws : WaitSetId}

theorem scanSilent (silent : b.triggered ws = []) : b.scan ws = ([], b.lower ws) :=
  Prod.ext ((scanExact b ws).trans silent) rfl

theorem scanFound (found : b.triggered ws ≠ []) : ∃ k rest, b.scan ws = (k :: rest, b.lower ws) := by
  obtain ⟨k, rest, first⟩ := List.exists_cons_of_ne_nil found
  exact ⟨k, rest, Prod.ext ((scanExact b ws).trans first) rfl⟩

end Bus

namespace Middleware

/-! ### Slices -/

structure Slice where
  reading : Nat
  length : Nat
  deriving DecidableEq, Repr

namespace Timeout

def Comes (clock : Clock) : Timeout → Prop
  | nonBlocking => True
  | finite span => clock.now + span ≤ clock.last
  | infinite => False

def most (poll : Nat) : Timeout → Nat
  | nonBlocking => 1
  | finite span => (span + poll - 1) / poll + 1
  | infinite => 0

end Timeout

namespace Pace

variable {p : Pace} {c : Slice} {slices rest : List Slice} {start last now now' span poll deadline : Nat}
  {timeout : Timeout}

theorem startComes (inside : start + span ≤ last) :
    Pace.start ⟨start, last⟩ (.finite span) poll = ⟨.finite span, poll, some (start + span)⟩ := by
  rw [Pace.start, if_pos inside]

theorem sliceShort (p : Pace) (now : Nat) : p.slice now ≤ p.pollInterval := by
  unfold slice
  split
  · exact Nat.zero_le _
  · exact Nat.le_refl _
  · exact Nat.le_refl _
  · exact Nat.min_le_right ..

theorem sliceOver (late : p.isOver now = true) : p.slice now = 0 := by
  unfold isOver at late
  unfold slice
  split at late
  · rfl
  · cases late
  · cases late
  · have past := of_decide_eq_true late
    simp only [Nat.sub_eq_zero_of_le past, Nat.zero_min]

theorem isOverLater (late : p.isOver now = true) (follows : now ≤ now') : p.isOver now' = true := by
  unfold isOver at late ⊢
  split at late
  · rfl
  · cases late
  · cases late
  · exact decide_eq_true (Nat.le_trans (of_decide_eq_true late) follows)

def RanOut (p : Pace) (c : Slice) (now : Nat) : Prop :=
  ∃ judged, c.reading + c.length ≤ judged ∧ judged ≤ now ∧ p.isOver judged = false

structure Cuts (p : Pace) (start : Nat) (slices : List Slice) : Prop where
  cut : ∀ c ∈ slices, start ≤ c.reading ∧ c.length = p.slice c.reading
  chained : slices.IsChain fun next c => p.RanOut c next.reading

theorem RanOut.later (ran : p.RanOut c now) (follows : now ≤ now') : p.RanOut c now' :=
  let ⟨judged, out, before, early⟩ := ran
  ⟨judged, out, Nat.le_trans before follows, early⟩

theorem RanOut.blocking (ran : p.RanOut c now) : p.timeout ≠ .nonBlocking := fun once => by
  obtain ⟨_, _, _, early⟩ := ran
  unfold isOver at early
  rw [once] at early
  cases early

theorem RanOut.whole (ran : RanOut ⟨.finite span, poll, some deadline⟩ c now)
    (cut : c.length = slice ⟨.finite span, poll, some deadline⟩ c.reading) :
    c.reading + poll ≤ now ∧ c.reading + poll < deadline := by
  obtain ⟨judged, out, before, early⟩ := ran
  have early : judged < deadline := Nat.lt_of_not_le (of_decide_eq_false early)
  have length : c.length = min (deadline - c.reading) poll := cut
  omega

namespace Cuts

theorem nil (p : Pace) (start : Nat) : p.Cuts start [] := ⟨fun _ => nofun, .nil⟩

theorem cons (cuts : p.Cuts start slices) (started : start ≤ now) (ran : ∀ c ∈ slices.head?, p.RanOut c now) :
    p.Cuts start (⟨now, p.slice now⟩ :: slices) := by
  refine ⟨fun c mem => ?_, List.isChain_cons.2 ⟨ran, cuts.chained⟩⟩
  rcases List.mem_cons.1 mem with rfl | old
  · exact ⟨started, rfl⟩
  · exact cuts.cut c old

theorem spread (cuts : Cuts ⟨.finite span, poll, some deadline⟩ start (c :: rest)) :
    start + rest.length * poll ≤ c.reading ∧ (rest = [] ∨ start + rest.length * poll < deadline) := by
  induction rest generalizing c with
  | nil =>
    rw [List.length_nil, Nat.zero_mul]
    exact ⟨(cuts.cut c List.mem_cons_self).1, .inl rfl⟩
  | cons before rest ih =>
    obtain ⟨ran, chained⟩ := List.isChain_cons_cons.1 cuts.chained
    obtain ⟨spread, _⟩ := ih ⟨fun c mem => cuts.cut c (List.mem_cons_of_mem _ mem), chained⟩
    obtain ⟨whole, early⟩ := ran.whole (cuts.cut before (List.mem_cons_of_mem _ List.mem_cons_self)).2
    rw [List.length_cons, Nat.succ_mul]
    exact ⟨by omega, .inr (by omega)⟩

theorem single (cuts : p.Cuts start slices) (once : p.timeout = .nonBlocking) :
    slices = [] ∨ ∃ reading, slices = [⟨reading, 0⟩] := by
  cases slices with
  | nil => exact .inl rfl
  | cons c rest =>
    have length : c.length = 0 := by
      rw [(cuts.cut c List.mem_cons_self).2, slice]
      split <;> first | rfl | simp_all only [reduceCtorEq]
    cases rest with
    | nil => exact .inr ⟨c.reading, by rw [← length]⟩
    | cons before rest => exact absurd once (List.isChain_cons_cons.1 cuts.chained).1.blocking

theorem limited (cuts : (Pace.start ⟨start, last⟩ timeout poll).Cuts start slices) (positive : 0 < poll)
    (comes : timeout.Comes ⟨start, last⟩) : slices.length ≤ timeout.most poll := by
  cases timeout with
  | infinite => cases comes
  | nonBlocking =>
    obtain rfl | ⟨reading, rfl⟩ := cuts.single rfl
    · exact Nat.zero_le _
    · exact Nat.le_refl _
  | finite span =>
    have inside : start + span ≤ last := comes
    rw [startComes inside] at cuts
    cases slices with
    | nil => exact Nat.zero_le _
    | cons c rest =>
      refine Nat.succ_le_succ ((Nat.le_div_iff_mul_le positive).2 ?_)
      obtain ⟨_, rfl | early⟩ := cuts.spread
      · rw [List.length_nil, Nat.zero_mul]
        exact Nat.zero_le _
      · omega

end Cuts
end Pace

/-! ### Steps -/

inductive SlicePhase
  | between
  | cut (length : Nat)
  | scanning (till : Nat)
  | blocked (till : Nat)
  | judging
  | answered (expired : Bool)
  | failed (f : Failure)
  | broken
  deriving DecidableEq, Repr

namespace SlicePhase

def ofSlice : Except Fault (List ConditionId) → SlicePhase
  | .ok _ => answered false
  | .error .timeout => judging
  | .error f => failed (.transportFailure s!"wait failed: {f.message}")

def ended : SlicePhase → Bool
  | answered _ | failed _ | broken => true
  | _ => false

def rank : SlicePhase → Nat
  | cut _ => 5
  | scanning _ => 4
  | blocked _ => 3
  | judging => 2
  | between => 1
  | answered _ | failed _ | broken => 0

end SlicePhase

def System.lowered {K : Type} (s : System K) (ws : WaitSetId) : System K := { s with bus := s.bus.lower ws }

/-- A wait as it blocks. What the clock reads is the latest that anyone has read. -/
structure BlockingWait (K : Type) where
  system : System K
  ticket : Ticket
  clock : Clock
  slices : List Slice := []
  phase : SlicePhase := .between
  deriving DecidableEq, Repr

inductive BlockingStep (K : Type)
  | others (system : System K)
  | tick (now : Nat)
  | cut
  | enter
  | scan
  | wake
  | elapse
  | judge
  deriving DecidableEq, Repr

namespace BlockingWait

variable {K : Type} {s s' : BlockingWait K} {e : BlockingStep K} {steps : Nat → BlockingStep K} {start now : Nat}

def next (s : BlockingWait K) : Slice := ⟨s.clock.now, s.ticket.pace.slice s.clock.now⟩

def step (s : BlockingWait K) : BlockingStep K → BlockingWait K
  | .others system => { s with system }
  | .tick now => if s.clock.now ≤ now ∧ now ≤ s.clock.last then { s with clock := ⟨now, s.clock.last⟩ } else s
  | .cut =>
    match s.phase with
    | .between => { s with slices := s.next :: s.slices, phase := .cut s.next.length }
    | _ => s
  | .enter =>
    match s.phase with
    | .cut length =>
      if s.clock.now + length ≤ s.clock.last then { s with phase := .scanning (s.clock.now + length) }
      else { s with phase := .broken }
    | _ => s
  | .scan =>
    match s.phase with
    | .scanning till =>
      match s.system.bus.scan s.ticket.waitSet with
      | ([], b) => { s with system := { s.system with bus := b }, phase := .blocked till }
      | (found, b) => { s with system := { s.system with bus := b }, phase := .ofSlice (.ok found) }
    | _ => s
  | .wake =>
    match s.phase with
    | .blocked till => if s.system.bus.isPending s.ticket.waitSet then { s with phase := .scanning till } else s
    | _ => s
  | .elapse =>
    match s.phase with
    | .blocked till =>
      if till ≤ s.clock.now ∧ s.system.bus.isPending s.ticket.waitSet = false then
        { s with phase := .ofSlice (.error .timeout) }
      else s
    | _ => s
  | .judge =>
    match s.phase with
    | .judging => { s with phase := if s.ticket.pace.isOver s.clock.now then .answered true else .between }
    | _ => s

inductive StepEffect (s : BlockingWait K) : BlockingStep K → BlockingWait K → Prop
  | idle {e : BlockingStep K} (own : ∀ system, e ≠ .others system) : StepEffect s e s
  | others (system : System K) : StepEffect s (.others system) { s with system }
  | tick {now : Nat} (follows : s.clock.now ≤ now) : StepEffect s (.tick now) { s with clock := ⟨now, s.clock.last⟩ }
  | cut (phase : s.phase = .between) :
    StepEffect s .cut { s with slices := s.next :: s.slices, phase := .cut s.next.length }
  | enter {length : Nat} (phase : s.phase = .cut length) :
    StepEffect s .enter { s with phase := .scanning (s.clock.now + length) }
  | burst {length : Nat} (phase : s.phase = .cut length) (full : s.clock.last < s.clock.now + length) :
    StepEffect s .enter { s with phase := .broken }
  | miss {till : Nat} (phase : s.phase = .scanning till) (silent : s.system.bus.triggered s.ticket.waitSet = []) :
    StepEffect s .scan { s with system := s.system.lowered s.ticket.waitSet, phase := .blocked till }
  | hit {till : Nat} (phase : s.phase = .scanning till) (found : s.system.bus.triggered s.ticket.waitSet ≠ []) :
    StepEffect s .scan { s with system := s.system.lowered s.ticket.waitSet, phase := .answered false }
  | wake {till : Nat} (phase : s.phase = .blocked till) (pending : s.system.bus.isPending s.ticket.waitSet = true) :
    StepEffect s .wake { s with phase := .scanning till }
  | elapse {till : Nat} (phase : s.phase = .blocked till) (due : till ≤ s.clock.now) :
    StepEffect s .elapse { s with phase := .judging }
  | expire (phase : s.phase = .judging) (late : s.ticket.pace.isOver s.clock.now = true) :
    StepEffect s .judge { s with phase := .answered true }
  | retry (phase : s.phase = .judging) (early : s.ticket.pace.isOver s.clock.now = false) :
    StepEffect s .judge { s with phase := .between }

theorem stepEffect (s : BlockingWait K) (e : BlockingStep K) : StepEffect s e (s.step e) := by
  cases e with
  | others system => exact .others system
  | tick now =>
    simp only [step]
    split
    · rename_i valid
      exact .tick valid.1
    · exact .idle nofun
  | cut =>
    simp only [step]
    split
    · rename_i phase
      exact .cut phase
    · exact .idle nofun
  | enter =>
    simp only [step]
    split
    · rename_i phase
      split
      · exact .enter phase
      · rename_i full
        exact .burst phase (Nat.lt_of_not_le full)
    · exact .idle nofun
  | scan =>
    simp only [step]
    split
    · rename_i phase
      by_cases silent : s.system.bus.triggered s.ticket.waitSet = []
      · rw [Bus.scanSilent silent]
        exact .miss phase silent
      · obtain ⟨k, rest, scanned⟩ := Bus.scanFound silent
        rw [scanned]
        exact .hit phase silent
    · exact .idle nofun
  | wake =>
    simp only [step]
    split
    · rename_i phase
      split
      · rename_i pending
        exact .wake phase pending
      · exact .idle nofun
    · exact .idle nofun
  | elapse =>
    simp only [step]
    split
    · rename_i phase
      split
      · rename_i due
        exact .elapse phase due.1
      · exact .idle nofun
    · exact .idle nofun
  | judge =>
    simp only [step]
    split
    · rename_i phase
      split
      · rename_i late
        exact .expire phase late
      · rename_i early
        exact .retry phase (Bool.eq_false_iff.2 early)
    · exact .idle nofun

/-! ### What holds at every step -/

theorem StepEffect.ticket (effect : StepEffect s e s') : s'.ticket = s.ticket := by cases effect <;> rfl

theorem StepEffect.last (effect : StepEffect s e s') : s'.clock.last = s.clock.last := by cases effect <;> rfl

def Fits (s : BlockingWait K) : Prop :=
  match s.phase with
  | .between => ∀ c ∈ s.slices.head?, s.ticket.pace.RanOut c s.clock.now
  | .cut length => ∃ c ∈ s.slices.head?, c.length = length ∧ c.reading ≤ s.clock.now
  | .scanning till | .blocked till => ∃ c ∈ s.slices.head?, c.reading + c.length ≤ till
  | .judging => ∃ c ∈ s.slices.head?, c.reading + c.length ≤ s.clock.now
  | .answered expired => s.slices ≠ [] ∧ (expired = true → s.ticket.pace.isOver s.clock.now = true)
  | .failed _ => False
  | .broken => s.slices ≠ []

structure Timed (start : Nat) (s : BlockingWait K) : Prop where
  started : start ≤ s.clock.now
  cuts : s.ticket.pace.Cuts start s.slices
  fits : s.Fits

theorem Fits.tick (fits : s.Fits) (follows : s.clock.now ≤ now) :
    Fits { s with clock := ⟨now, s.clock.last⟩ } := by
  obtain ⟨system, ticket, clock, slices, phase⟩ := s
  cases phase with
  | between => exact fun c latest => (fits c latest).later follows
  | cut length =>
    obtain ⟨c, latest, own, before⟩ := fits
    exact ⟨c, latest, own, Nat.le_trans before follows⟩
  | judging =>
    obtain ⟨c, latest, out⟩ := fits
    exact ⟨c, latest, Nat.le_trans out follows⟩
  | answered expired => exact ⟨fits.1, fun up => Pace.isOverLater (fits.2 up) follows⟩
  | scanning till | blocked till | failed f | broken => exact fits

theorem StepEffect.timed (effect : StepEffect s e s') (h : s.Timed start) : s'.Timed start := by
  obtain ⟨started, cuts, fits⟩ := h
  unfold Fits at fits
  cases effect with
  | idle => exact ⟨started, cuts, fits⟩
  | others system => exact ⟨started, cuts, fits⟩
  | tick follows => exact ⟨Nat.le_trans started follows, cuts, Fits.tick fits follows⟩
  | cut phase =>
    rw [phase] at fits
    exact ⟨started, cuts.cons started fits, s.next, rfl, rfl, Nat.le_refl _⟩
  | enter phase =>
    rw [phase] at fits
    obtain ⟨c, latest, rfl, before⟩ := fits
    exact ⟨started, cuts, c, latest, Nat.add_le_add_right before _⟩
  | burst phase full =>
    rw [phase] at fits
    obtain ⟨c, latest, _⟩ := fits
    exact ⟨started, cuts, List.ne_nil_of_mem (List.mem_of_mem_head? latest)⟩
  | miss phase silent | wake phase pending =>
    rw [phase] at fits
    exact ⟨started, cuts, fits⟩
  | hit phase found =>
    rw [phase] at fits
    obtain ⟨c, latest, _⟩ := fits
    exact ⟨started, cuts, ⟨List.ne_nil_of_mem (List.mem_of_mem_head? latest), nofun⟩⟩
  | elapse phase due =>
    rw [phase] at fits
    obtain ⟨c, latest, out⟩ := fits
    exact ⟨started, cuts, c, latest, Nat.le_trans out due⟩
  | expire phase late =>
    rw [phase] at fits
    obtain ⟨c, latest, _⟩ := fits
    exact ⟨started, cuts, ⟨List.ne_nil_of_mem (List.mem_of_mem_head? latest), fun _ => late⟩⟩
  | retry phase early =>
    rw [phase] at fits
    obtain ⟨c, latest, out⟩ := fits
    refine ⟨started, cuts, fun c' latest' => ?_⟩
    cases Option.mem_unique latest latest'
    exact ⟨_, out, Nat.le_refl _, early⟩

/-! ### Runs -/

def after (s : BlockingWait K) (steps : Nat → BlockingStep K) : Nat → BlockingWait K
  | 0 => s
  | n + 1 => (s.after steps n).step (steps n)

theorem afterEffect (s : BlockingWait K) (steps : Nat → BlockingStep K) (n : Nat) :
    StepEffect (s.after steps n) (steps n) (s.after steps (n + 1)) := stepEffect ..

theorem afterTicket (s : BlockingWait K) (steps : Nat → BlockingStep K) (n : Nat) :
    (s.after steps n).ticket = s.ticket := by
  induction n with
  | zero => rfl
  | succ n ih => exact (afterEffect s steps n).ticket.trans ih

theorem afterLast (s : BlockingWait K) (steps : Nat → BlockingStep K) (n : Nat) :
    (s.after steps n).clock.last = s.clock.last := by
  induction n with
  | zero => rfl
  | succ n ih => exact (afterEffect s steps n).last.trans ih

theorem afterTimed (h : s.Timed start) (steps : Nat → BlockingStep K) (n : Nat) : (s.after steps n).Timed start := by
  induction n with
  | zero => exact h
  | succ n ih => exact (afterEffect s steps n).timed ih

structure Quiet (s : BlockingWait K) (steps : Nat → BlockingStep K) : Prop where
  opens : s.system.bus.triggered s.ticket.waitSet = []
  stays : ∀ n system, steps n = .others system → system.bus.triggered s.ticket.waitSet = [] ∧
    (system.bus.isPending s.ticket.waitSet = true → (s.after steps n).system.bus.isPending s.ticket.waitSet = true)

def Fair (s : BlockingWait K) (steps : Nat → BlockingStep K) : Prop :=
  ∀ n, (s.after steps n).phase.ended = false → ∃ m, n ≤ m ∧ (s.after steps (m + 1)).phase ≠ (s.after steps m).phase

def ClockLasts (s : BlockingWait K) (steps : Nat → BlockingStep K) : Prop :=
  ∀ n, steps n = .enter → (s.after steps n).clock.now + s.ticket.pace.pollInterval ≤ s.clock.last

theorem afterUnbroken (h : s.Timed start) (whole : s.phase ≠ .broken) (clockLasts : s.ClockLasts steps) (n : Nat) :
    (s.after steps n).phase ≠ .broken := by
  induction n with
  | zero => exact whole
  | succ n ih =>
    have effect := afterEffect s steps n
    have timed := afterTimed h steps n
    generalize step : steps n = e at effect
    generalize s.after steps (n + 1) = t at effect
    cases effect with
    | idle | others | tick => exact ih
    | cut | enter | miss | hit | wake | elapse | expire | retry => exact nofun
    | burst phase full =>
      obtain ⟨_, cuts, fits⟩ := timed
      rw [Fits, phase] at fits
      obtain ⟨c, latest, rfl, _⟩ := fits
      have short := Pace.sliceShort (s.after steps n).ticket.pace c.reading
      rw [← (cuts.cut c (List.mem_of_mem_head? latest)).2, afterTicket] at short
      rw [afterLast] at full
      have room := clockLasts n step
      omega

end BlockingWait
end Middleware
end Databus
