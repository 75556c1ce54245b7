import Databus.Proofs.GuardRaising

/-! Waits of many callers at once, step by step. A wait looks its resources up, claims them one at a time, blocks on a
wait set of its own, collects what is ready and gives its claims back one at a time; any call of another caller may
come between two steps. -/
namespace Databus.Middleware

inductive Stage
  | claiming (rest : List (Waitable × ConditionId))
  | blocked (t : Ticket)
  | over (t : Ticket) (expired : Bool)
  | leaving (answer : Except Failure Outcome)
  | gone (answer : Except Failure Outcome)

structure WaitCall where
  ctx : ContextId
  timeout : Timeout := .infinite
  pollInterval : Nat := 0
  subscriptions : Slots .subscription := []
  guards : Slots .guardCondition := []
  held : List ConditionId := []
  stage : Stage

structure WaitingSystem (K : Type) where
  system : System K := {}
  waits : List WaitCall := []

inductive Event (K : Type) [Catalog K]
  | call (c : Call K)
  | enter (ctx : ContextId) (timeout : Timeout) (subscriptions : List (Option (Handle .subscription)))
    (guards : List (Option (Handle .guardCondition)))
  | claim (n : Nat)
  | block (n : Nat) (clock : Clock)
  | turn (n : Nat) (now : Nat)
  | collect (n : Nat)
  | release (n : Nat)
  | leave (n : Nat)

def Event.waitCall? {K : Type} [Catalog K] : Event K → Option Nat
  | .call _ | .enter .. => none
  | .claim n | .block n _ | .turn n _ | .collect n | .release n | .leave n => some n

def Call.waits {K : Type} [Catalog K] : Call K → Bool
  | .beginWait .. | .turn .. | .endWait .. => true
  | _ => false

variable {K : Type}

namespace WaitCall

def claims (v : WaitCall) : List (Waitable × ConditionId) :=
  v.subscriptions.conditions.map (.subscription, ·) ++ v.guards.conditions.map (.guardCondition, ·)

def conditions (v : WaitCall) : List ConditionId := v.subscriptions.conditions ++ v.guards.conditions

def claim (s : System K) (v : WaitCall) : System K × WaitCall :=
  match v.stage with
  | .claiming ((w, c) :: rest) =>
    if c ∈ s.observed then (s, { v with stage := .leaving (.error (inUse w)) })
    else ({ s with observed := c :: s.observed }, { v with held := v.held ++ [c], stage := .claiming rest })
  | _ => (s, v)

def ticket (v : WaitCall) (clock : Clock) (s : System K) : Ticket :=
  ⟨.start clock v.timeout v.pollInterval, s.bus.newWaitSet.1, v.subscriptions, v.guards⟩

def block (clock : Clock) (s : System K) (v : WaitCall) : System K × WaitCall :=
  match v.stage with
  | .claiming [] =>
    let (ws, b) := s.bus.newWaitSet
    match Site.attachAll b ws v.claims with
    | (b, .error f) => ({ s with bus := b.dropWaitSet ws }, { v with stage := .leaving (.error f) })
    | (b, .ok ()) => ({ s with bus := b }, { v with stage := .blocked (v.ticket clock s) })
  | _ => (s, v)

def turn (now : Nat) (s : System K) (v : WaitCall) : System K × WaitCall :=
  match v.stage with
  | .blocked t =>
    match s.turn t now with
    | (.over expired, s) => (s, { v with stage := .over t expired })
    | (.again, s) => (s, v)
  | _ => (s, v)

def collect (s : System K) (v : WaitCall) : System K × WaitCall :=
  match v.stage with
  | .over t expired =>
    ({ (s.endWait t expired).2 with observed := s.observed },
      { v with stage := .leaving (.ok (s.endWait t expired).1) })
  | _ => (s, v)

def release (s : System K) (v : WaitCall) : System K × WaitCall :=
  match v.stage, v.held with
  | .leaving _, c :: held => ({ s with observed := s.observed.filter (· ≠ c) }, { v with held := held })
  | _, _ => (s, v)

def leave (s : System K) (v : WaitCall) : System K × WaitCall :=
  match v.stage, v.held with
  | .leaving answer, [] => ((s.report "wait" answer).1, { v with stage := .gone answer })
  | _, _ => (s, v)

end WaitCall

theorem System.reportAnswer {α : Type} (s : System K) (operation : String) (result : Except Failure α) :
    (s.report operation result).2 = result := by
  cases result <;> rfl

namespace WaitingSystem

def act (l : WaitingSystem K) (n : Nat) (f : System K → WaitCall → System K × WaitCall) : WaitingSystem K :=
  match l.waits[n]? with
  | none => l
  | some v => ⟨(f l.system v).1, l.waits.set n (f l.system v).2⟩

def turnAway (l : WaitingSystem K) (ctx : ContextId) (f : Failure) : WaitingSystem K :=
  ⟨l.system.setError s!"wait: {f.message}", l.waits ++ [{ ctx, stage := .gone (.error f) }]⟩

def enter (l : WaitingSystem K) (ctx : ContextId) (timeout : Timeout)
    (subscriptions : List (Option (Handle .subscription)))
    (guards : List (Option (Handle .guardCondition))) : WaitingSystem K :=
  match l.system.contexts.get? ctx with
  | none => l.turnAway ctx (.invalidArgument "context is shut down")
  | some c =>
    match Site.resolve c.subscriptions (·.condition) subscriptions with
    | .error f => l.turnAway ctx f
    | .ok subscriptions =>
      match Site.resolve c.guards (·.condition) guards with
      | .error f => l.turnAway ctx f
      | .ok guards =>
        let v : WaitCall := { ctx, timeout, pollInterval := c.settings.pollInterval, subscriptions, guards,
                              stage := .claiming [] }
        ⟨l.system, l.waits ++ [{ v with stage := .claiming v.claims }]⟩

variable [Catalog K] [DecidableEq K]

def step (l : WaitingSystem K) : Event K → WaitingSystem K
  | .call c => if c.waits then l else { l with system := l.system.serve c }
  | .enter ctx timeout subscriptions guards => l.enter ctx timeout subscriptions guards
  | .claim n => l.act n WaitCall.claim
  | .block n clock => l.act n (WaitCall.block clock)
  | .turn n now => l.act n (WaitCall.turn now)
  | .collect n => l.act n WaitCall.collect
  | .release n => l.act n WaitCall.release
  | .leave n => l.act n WaitCall.leave

def run (l : WaitingSystem K) (events : List (Event K)) : WaitingSystem K := events.foldl step l

theorem runAppend (l : WaitingSystem K) (events later : List (Event K)) :
    l.run (events ++ later) = (l.run events).run later := List.foldl_append

end WaitingSystem

/-! ### A wait alone

With nobody in between, the steps of a wait make up the calls that begin and end it. -/

namespace WaitingSystem

variable {vs : List WaitCall} {n : Nat}

theorem actSet (inside : n < vs.length) (s : System K) (v : WaitCall) (f : System K → WaitCall → System K × WaitCall) :
    (⟨s, vs.set n v⟩ : WaitingSystem K).act n f = ⟨(f s v).1, vs.set n (f s v).2⟩ := by
  simp only [act, List.getElem?_set_self inside, List.set_set]

variable [Catalog K] [DecidableEq K]

theorem claimSet (inside : n < vs.length) (s : System K) {v : WaitCall} {w : Waitable} {c : ConditionId}
    {rest : List (Waitable × ConditionId)} (stage : v.stage = .claiming ((w, c) :: rest)) (free : c ∉ s.observed) :
    (⟨s, vs.set n v⟩ : WaitingSystem K).step (.claim n) = ⟨{ s with observed := c :: s.observed },
      vs.set n { v with held := v.held ++ [c], stage := .claiming rest }⟩ := by
  simp only [step, actSet inside, WaitCall.claim, stage, if_neg free]

theorem claimsGranted (inside : n < vs.length) {s : System K} {v : WaitCall}
    {claims : List (Waitable × ConditionId)} {observed : List ConditionId} (stage : v.stage = .claiming claims)
    (ok : Site.claim s.observed claims = .ok observed) :
    (⟨s, vs.set n v⟩ : WaitingSystem K).run (.replicate claims.length (.claim n)) =
      ⟨{ s with observed := observed },
        vs.set n { v with held := v.held ++ claims.map Prod.snd, stage := .claiming [] }⟩ := by
  induction claims generalizing s v with
  | nil =>
    cases ok
    simp [run, ← stage]
  | cons first rest ih =>
    obtain ⟨w, c⟩ := first
    rw [Site.claim] at ok
    split at ok
    · cases ok
    · rename_i free
      rw [List.length_cons, List.replicate_succ, run, List.foldl_cons, claimSet inside s stage free]
      refine (ih (s := { s with observed := c :: s.observed }) rfl ok).trans ?_
      simp

theorem claimsRefused (inside : n < vs.length) {s : System K} {v : WaitCall}
    {claims : List (Waitable × ConditionId)} {f : Failure} (stage : v.stage = .claiming claims)
    (refused : Site.claim s.observed claims = .error f) :
    ∃ made : List ConditionId, (∀ c ∈ made, c ∉ s.observed) ∧
      (⟨s, vs.set n v⟩ : WaitingSystem K).run (.replicate (made.length + 1) (.claim n)) =
        ⟨{ s with observed := made.reverse ++ s.observed },
          vs.set n { v with held := v.held ++ made, stage := .leaving (.error f) }⟩ := by
  induction claims generalizing s v with
  | nil => cases refused
  | cons first rest ih =>
    obtain ⟨w, c⟩ := first
    rw [Site.claim] at refused
    split at refused
    · rename_i taken
      cases refused
      refine ⟨[], fun _ mem => absurd mem List.not_mem_nil, ?_⟩
      simp [run, step, actSet inside, WaitCall.claim, stage, taken]
    · rename_i free
      obtain ⟨made, apart, ran⟩ := ih (s := { s with observed := c :: s.observed })
        (v := { v with held := v.held ++ [c], stage := .claiming rest }) rfl refused
      refine ⟨c :: made, fun k mem => ?_, ?_⟩
      · rcases List.mem_cons.1 mem with rfl | mem
        · exact free
        · exact fun held => apart k mem (List.mem_cons_of_mem _ held)
      · rw [List.length_cons, List.replicate_succ, run, List.foldl_cons, claimSet inside s stage free]
        refine ran.trans ?_
        simp

def leaves (n : Nat) (held : List ConditionId) : List (Event K) := .replicate held.length (.release n) ++ [.leave n]

theorem leavesAlone (inside : n < vs.length) {s : System K} {v : WaitCall} {answer : Except Failure Outcome}
    (stage : v.stage = .leaving answer) : (⟨s, vs.set n v⟩ : WaitingSystem K).run (leaves n v.held) =
      ⟨(System.report { s with observed := s.observed.filter (· ∉ v.held) } "wait" answer).1,
        vs.set n { v with held := [], stage := .gone answer }⟩ := by
  obtain ⟨ctx, timeout, pollInterval, subscriptions, guards, held, _⟩ := v
  obtain rfl := stage
  unfold leaves
  induction held generalizing s with
  | nil =>
    have all : s.observed.filter (fun _ => true) = s.observed := List.filter_eq_self.2 fun _ _ => rfl
    simp [run, step, actSet inside, WaitCall.leave, all]
  | cons c held ih =>
    rw [List.length_cons, List.replicate_succ, List.cons_append, run, List.foldl_cons]
    simp only [step, actSet inside, WaitCall.release]
    refine ih.trans ?_
    simp only [List.filter_filter, List.mem_cons, not_or, Bool.decide_and, ne_eq, Bool.and_comm]

def Alone (n : Nat) (l l' : WaitingSystem K) : Prop :=
  ∃ events : List (Event K), (∀ e ∈ events, e.waitCall? = some n) ∧ l.run events = l'

theorem Alone.refl (l : WaitingSystem K) : Alone n l l := ⟨[], nofun, rfl⟩

theorem Alone.trans {a b c : WaitingSystem K} (h : Alone n a b) (h' : Alone n b c) : Alone n a c := by
  obtain ⟨first, own, rfl⟩ := h
  obtain ⟨second, own', rfl⟩ := h'
  exact ⟨first ++ second, fun e mem => (List.mem_append.1 mem).elim (own e) (own' e), runAppend a first second⟩

theorem Alone.act (inside : n < vs.length) (s : System K) (v : WaitCall) {e : Event K}
    {f : System K → WaitCall → System K × WaitCall} (own : e.waitCall? = some n)
    (steps : ∀ l : WaitingSystem K, l.step e = l.act n f) :
    Alone n ⟨s, vs.set n v⟩ ⟨(f s v).1, vs.set n (f s v).2⟩ :=
  ⟨[e], fun _ mem => List.mem_singleton.1 mem ▸ own, (steps _).trans (actSet inside s v f)⟩

theorem Alone.claims {l l' : WaitingSystem K} {k : Nat} (ran : l.run (.replicate k (.claim n)) = l') : Alone n l l' :=
  ⟨_, fun _ mem => (List.eq_of_mem_replicate mem) ▸ rfl, ran⟩

theorem Alone.leaves (inside : n < vs.length) (s : System K) {v : WaitCall} {answer : Except Failure Outcome}
    (stage : v.stage = .leaving answer) : Alone n ⟨s, vs.set n v⟩
      ⟨(System.report { s with observed := s.observed.filter (· ∉ v.held) } "wait" answer).1,
        vs.set n { v with held := [], stage := .gone answer }⟩ := by
  refine ⟨_, fun e mem => ?_, leavesAlone inside stage⟩
  rcases List.mem_append.1 mem with mem | mem
  · rw [List.eq_of_mem_replicate mem]
    rfl
  · rw [List.mem_singleton.1 mem]
    rfl

theorem filterMade {made observed : List ConditionId} (apart : ∀ c ∈ made, c ∉ observed) :
    (made.reverse ++ observed).filter (· ∉ made) = observed := by
  have own : made.reverse.filter (· ∉ made) = [] :=
    List.filter_eq_nil_iff.2 fun c mem other => of_decide_eq_true other (List.mem_reverse.1 mem)
  have others : observed.filter (· ∉ made) = observed :=
    List.filter_eq_self.2 fun c mem => decide_eq_true fun listed => apart c listed mem
  rw [List.filter_append, own, others, List.nil_append]

def Answers (v : WaitCall) : Except Failure Ticket → Prop
  | .ok t => v.stage = .blocked t ∧ v.held = t.conditions
  | .error f => v.stage = .gone (.error f) ∧ v.held = []

def receive (clock : Clock) (s : System K) (v : WaitCall) : System K × Except Failure Ticket :=
  match Site.claim s.observed v.claims with
  | .error f => (s, .error f)
  | .ok observed =>
    match Site.attachAll s.bus.newWaitSet.2 s.bus.newWaitSet.1 v.claims with
    | (b, .error f) => ({ s with bus := b.dropWaitSet s.bus.newWaitSet.1 }, .error f)
    | (b, .ok ()) => ({ s with bus := b, observed := observed }, .ok (v.ticket clock s))

theorem receiveAlone (inside : n < vs.length) (clock : Clock) (s : System K) {v : WaitCall}
    (stage : v.stage = .claiming v.claims) (bare : v.held = []) : ∃ v',
    Alone n ⟨s, vs.set n v⟩
      ⟨((receive clock s v).1.report "wait" (receive clock s v).2).1, vs.set n v'⟩ ∧
    Answers v' (receive clock s v).2 := by
  unfold receive
  cases claimed : Site.claim s.observed v.claims with
  | error f =>
    obtain ⟨made, apart, ran⟩ := claimsRefused inside stage claimed
    have left := Alone.leaves inside { s with observed := made.reverse ++ s.observed }
      (v := { v with held := v.held ++ made, stage := .leaving (.error f) }) rfl
    rw [bare, List.nil_append] at ran left
    simp only [filterMade apart] at left
    exact ⟨_, (Alone.claims ran).trans left, rfl, rfl⟩
  | ok observed =>
    have ran := claimsGranted inside stage claimed
    obtain ⟨rfl, _, apart⟩ := Site.claimExact claimed
    rw [bare, List.nil_append] at ran
    have blocks := Alone.act inside { s with observed := (v.claims.map Prod.snd).reverse ++ s.observed }
      { v with held := v.claims.map Prod.snd, stage := .claiming [] } (e := .block n clock) rfl fun _ => rfl
    simp only [WaitCall.block] at blocks
    rw [show WaitCall.claims { v with held := v.claims.map Prod.snd, stage := .claiming [] } =
      v.claims from rfl] at blocks
    rcases attached : Site.attachAll s.bus.newWaitSet.2 s.bus.newWaitSet.1 v.claims with ⟨b, f | _⟩
    · rw [attached] at blocks
      have left := Alone.leaves inside (System.mk (b.dropWaitSet s.bus.newWaitSet.1) s.contexts s.nextContext
        ((v.claims.map Prod.snd).reverse ++ s.observed) s.lastError)
        (v := { v with held := v.claims.map Prod.snd, stage := .leaving (.error f) }) rfl
      simp only [filterMade apart] at left
      exact ⟨_, ((Alone.claims ran).trans blocks).trans left, rfl, rfl⟩
    · rw [attached] at blocks
      exact ⟨_, (Alone.claims ran).trans blocks, rfl, Site.claimsConditions (v.ticket clock s)⟩

omit [Catalog K] [DecidableEq K] in
theorem beginWaitReceives {s : System K} {ctx : ContextId} {c : Context K} {v : WaitCall} (clock : Clock)
    {subscriptions : List (Option (Handle .subscription))} {guards : List (Option (Handle .guardCondition))}
    (known : s.contexts.get? ctx = some c) (poll : v.pollInterval = c.settings.pollInterval)
    (resolved : Site.resolve c.subscriptions (·.condition) subscriptions = .ok v.subscriptions)
    (resolved' : Site.resolve c.guards (·.condition) guards = .ok v.guards) :
    s.beginWait ctx clock v.timeout subscriptions guards =
      ((receive clock s v).1.report "wait" (receive clock s v).2) := by
  have ticket : Ticket.mk (.start clock v.timeout c.settings.pollInterval) s.bus.newWaitSet.1 v.subscriptions
      v.guards = v.ticket clock s := by rw [WaitCall.ticket, poll]
  have claims : (v.ticket clock s).claims = v.claims := rfl
  simp only [System.beginWait, System.perform, known, Site.beginWait, resolved, resolved', ticket, claims, receive]
  cases Site.claim s.observed v.claims with
  | error f => simp only [Table.insertSame known]
  | ok observed =>
    rcases Site.attachAll s.bus.newWaitSet.2 s.bus.newWaitSet.1 v.claims with ⟨b, f | _⟩ <;>
      simp only [Table.insertSame known]

theorem enterAlone (l : WaitingSystem K) (ctx : ContextId) (clock : Clock) (timeout : Timeout)
    (subscriptions : List (Option (Handle .subscription)))
    (guards : List (Option (Handle .guardCondition))) : ∃ v,
    Alone l.waits.length (l.enter ctx timeout subscriptions guards)
      ⟨(l.system.beginWait ctx clock timeout subscriptions guards).1, l.waits ++ [v]⟩ ∧
    Answers v (l.system.beginWait ctx clock timeout subscriptions guards).2 := by
  obtain ⟨s, vs⟩ := l
  cases known : s.contexts.get? ctx with
  | none =>
    simp only [enter, System.beginWait, System.perform, known, System.report]
    exact ⟨_, .refl _, rfl, rfl⟩
  | some c =>
    cases resolved : Site.resolve c.subscriptions (·.condition) subscriptions with
    | error f =>
      simp only [enter, System.beginWait, System.perform, known, Site.beginWait, resolved, System.report,
        Table.insertSame known]
      exact ⟨_, .refl _, rfl, rfl⟩
    | ok slots =>
      cases resolved' : Site.resolve c.guards (·.condition) guards with
      | error f =>
        simp only [enter, System.beginWait, System.perform, known, Site.beginWait, resolved, resolved',
          System.report, Table.insertSame known]
        exact ⟨_, .refl _, rfl, rfl⟩
      | ok slots' =>
        let v : WaitCall := { ctx, timeout, pollInterval := c.settings.pollInterval, subscriptions := slots,
                              guards := slots', stage := .claiming [] }
        have enters : (⟨s, vs⟩ : WaitingSystem K).enter ctx timeout subscriptions guards =
            ⟨s, vs ++ [{ v with stage := .claiming v.claims }]⟩ := by
          simp only [enter, known, resolved, resolved', v]
        have last (v v' : WaitCall) : (vs ++ [v]).set vs.length v' = vs ++ [v'] := by simp
        have inside : vs.length < (vs ++ [v]).length := by simp
        obtain ⟨v', alone, answers⟩ := receiveAlone inside clock s (v := { v with stage := .claiming v.claims }) rfl rfl
        rw [last, last] at alone
        rw [enters, beginWaitReceives (v := { v with stage := .claiming v.claims }) clock known rfl resolved resolved',
          System.reportAnswer]
        exact ⟨v', alone, answers⟩

theorem collectAlone (inside : n < vs.length) (s : System K) {v : WaitCall} {t : Ticket} {expired : Bool}
    (stage : v.stage = .over t expired) (held : v.held = t.conditions) : Alone n ⟨s, vs.set n v⟩
      ⟨(s.endWait t expired).2,
        vs.set n { v with held := [], stage := .gone (.ok (s.endWait t expired).1) }⟩ := by
  obtain ⟨ctx, timeout, pollInterval, subscriptions, guards, _, _⟩ := v
  obtain rfl := stage
  obtain rfl := held
  have left := Alone.leaves inside { (s.endWait t expired).2 with observed := s.observed }
    (v := ⟨ctx, timeout, pollInterval, subscriptions, guards, t.conditions,
      .leaving (.ok (s.endWait t expired).1)⟩) rfl
  exact (Alone.act inside s _ (e := .collect n) rfl fun _ => rfl).trans left

end WaitingSystem
end Databus.Middleware
