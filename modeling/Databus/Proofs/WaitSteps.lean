import Databus.Proofs.RecordCorrespondence
import Databus.Proofs.ConditionOwners
import Databus.Proofs.WaitingSystem

/-! What the steps of a waiting system can do, and what they keep: a step of a wait makes one claim or gives one back or
leaves the flags alone, so the flags are those of the claims held; and the resources that a wait lists keep their
conditions. -/
namespace Databus.Middleware

open Bus (OnlyWaits)

variable {K : Type}

/-! ### Claims -/

inductive Claimed (observed held : List ConditionId) : List ConditionId → List ConditionId → Prop
  | same : Claimed observed held observed held
  | made {c : ConditionId} (free : c ∉ observed) : Claimed observed held (c :: observed) (held ++ [c])
  | given {c : ConditionId} {rest : List ConditionId} (own : held = c :: rest) :
    Claimed observed held (observed.filter (· ≠ c)) rest

structure Exact (observed : List ConditionId) (held : Nat → List ConditionId) : Prop where
  flags : ∀ c, c ∈ observed ↔ ∃ n, c ∈ held n
  sole : ∀ n m c, c ∈ held n → c ∈ held m → n = m
  once : ∀ n, (held n).Nodup

namespace Exact

variable {observed observed' now : List ConditionId} {held held' : Nat → List ConditionId} {n : Nat}

theorem same (h : Exact observed held) (same : ∀ m, held' m = held m) : Exact observed held' :=
  funext same ▸ h

theorem claimed (h : Exact observed held) (step : Claimed observed (held n) observed' now)
    (holds : ∀ m, held' m = if m = n then now else held m) : Exact observed' held' := by
  have own : held' n = now := (holds n).trans (if_pos rfl)
  have other {m : Nat} (else' : m ≠ n) : held' m = held m := (holds m).trans (if_neg else')
  cases step with
  | same =>
    refine h.same fun m => ?_
    by_cases here : m = n
    · rw [here, own]
    · exact other here
  | @made c free =>
    have nobody (m : Nat) : c ∉ held m := fun mem => free ((h.flags c).2 ⟨m, mem⟩)
    -- who holds a claim now held it before, but for the new one
    have held {k : ConditionId} {m : Nat} : k ∈ held' m ↔ k ∈ held m ∨ m = n ∧ k = c := by
      by_cases here : m = n
      · simp [here, own]
      · simp [here, other here]
    refine ⟨fun k => ?_, fun m m' k mem mem' => ?_, fun m => ?_⟩
    · simp only [held, exists_or, exists_eq_left, List.mem_cons, h.flags, or_comm]
    · rcases held.1 mem with old | ⟨rfl, rfl⟩ <;> rcases held.1 mem' with old' | ⟨here, same⟩
      · exact h.sole m m' k old old'
      · exact absurd (same ▸ old) (nobody m)
      · exact absurd old' (nobody m')
      · exact here.symm
    · by_cases here : m = n
      · rw [here, own, List.nodup_append]
        refine ⟨h.once n, List.pairwise_singleton _ c, fun a mem b mem' same => ?_⟩
        exact nobody n (List.mem_singleton.1 mem' ▸ same ▸ mem)
      · exact other here ▸ h.once m
  | @given c rest had =>
    obtain ⟨absent, nodup⟩ := List.nodup_cons.1 (had ▸ h.once n)
    have holder : c ∈ held n := had ▸ List.mem_cons_self
    have held {k : ConditionId} {m : Nat} : k ∈ held' m ↔ k ∈ held m ∧ k ≠ c := by
      by_cases here : m = n
      · rw [here, own, had, List.mem_cons]
        refine ⟨fun mem => ⟨.inr mem, fun same => absent (same ▸ mem)⟩, fun ⟨either, ne⟩ => either.resolve_left ne⟩
      · rw [other here]
        refine ⟨fun mem => ⟨mem, fun same => here ?_⟩, And.left⟩
        exact h.sole m n c (same ▸ mem) holder
    refine ⟨fun k => ?_, fun m m' k mem mem' => h.sole m m' k (held.1 mem).1 (held.1 mem').1, fun m => ?_⟩
    · simp only [held, List.mem_filter, decide_eq_true_eq, h.flags, exists_and_right]
    · by_cases here : m = n
      · rw [here, own]
        exact nodup
      · exact other here ▸ h.once m

end Exact

/-! ### Steps of a wait -/

namespace WaitCall

def Fit (v : WaitCall) : Prop :=
  match v.stage with
  | .claiming rest => v.held ++ rest.map Prod.snd = v.conditions
  | .blocked t | .over t _ => v.held = v.conditions ∧ t.subscriptions = v.subscriptions ∧ t.guards = v.guards
  | .leaving _ => v.held ⊆ v.conditions
  | .gone _ => v.held = []

structure Moved (s : System K) (v : WaitCall) (s' : System K) (v' : WaitCall) : Prop where
  slots : v' = { v with held := v'.held, stage := v'.stage }
  claims : Claimed s.observed v.held s'.observed v'.held
  leads : s.bus.Leads s'.bus
  waits : OnlyWaits s.bus s'.bus
  rest : s' = { s with bus := s'.bus, observed := s'.observed, lastError := s'.lastError }
  fit : v.Fit → v'.Fit

variable {s : System K} {v : WaitCall}

def Lists (v : WaitCall) : Resource → ConditionId → Prop
  | .subscription h, k => some (h, k) ∈ v.subscriptions
  | .guard h, k => some (h, k) ∈ v.guards

theorem listsExact {v : WaitCall} {k : ConditionId} : k ∈ v.conditions ↔ ∃ i, v.Lists i k := by
  simp only [conditions, List.mem_append, Site.memConditions]
  constructor
  · rintro (⟨h, mem⟩ | ⟨h, mem⟩)
    · exact ⟨.subscription h, mem⟩
    · exact ⟨.guard h, mem⟩
  · rintro ⟨h | h, mem⟩
    · exact .inl ⟨h, mem⟩
    · exact .inr ⟨h, mem⟩

theorem claimsConditions (v : WaitCall) : v.claims.map Prod.snd = v.conditions := by
  simp only [claims, conditions, List.map_append, List.map_map, Function.comp_def, List.map_id']

theorem Fit.listed {v : WaitCall} (fit : v.Fit) {k : ConditionId} (mem : k ∈ v.held) : k ∈ v.conditions := by
  unfold Fit at fit
  split at fit
  · exact fit ▸ List.mem_append_left _ mem
  · exact fit.1 ▸ mem
  · exact fit.1 ▸ mem
  · exact fit mem
  · rw [fit] at mem
    cases mem

theorem Moved.refl (s : System K) (v : WaitCall) : v.Moved s s v :=
  ⟨rfl, .same, .refl _, .ofSignals (.refl _), rfl, id⟩

theorem claimMoves (s : System K) (v : WaitCall) : Moved s v (v.claim s).1 (v.claim s).2 := by
  unfold claim
  split
  · rename_i w c rest stage
    have fits (fit : v.Fit) : v.held ++ c :: rest.map Prod.snd = v.conditions := by rwa [Fit, stage] at fit
    split
    · refine ⟨rfl, .same, .refl _, .ofSignals (.refl _), rfl, fun fit => ?_⟩
      change v.held ⊆ v.conditions
      exact fits fit ▸ List.subset_append_left ..
    · rename_i free
      refine ⟨rfl, .made free, .refl _, .ofSignals (.refl _), rfl, fun fit => ?_⟩
      exact (List.append_assoc ..).trans (fits fit)
  · exact .refl s v

theorem blockKeeps {R : Bus → Bus → Prop} (refl : ∀ b, R b b) (trans : ∀ {a b c}, R a b → R b c → R a c)
    (opens : ∀ b, R b b.newWaitSet.2) (enables : ∀ b c, R b (b.setEnabled c .dataAvailable))
    (attaches : ∀ {b b' ws c}, b.attach ws c = .ok b' → R b b') (drops : ∀ b ws, R b (b.dropWaitSet ws))
    (clock : Clock) (s : System K) (v : WaitCall) : R s.bus (v.block clock s).1.bus := by
  have attached := trans (opens s.bus)
    (Site.attachAllKeeps refl trans enables attaches s.bus.newWaitSet.1 v.claims s.bus.newWaitSet.2)
  unfold block
  split
  · dsimp only
    split <;> rename_i eq <;> rw [eq] at attached
    · exact trans attached (drops _ _)
    · exact attached
  · exact refl _

theorem blockOpens (clock : Clock) (s : System K) (v : WaitCall) : v.block clock s = (s, v) ∨
    v.stage = .claiming [] ∧ ∃ b,
      (∃ f, v.block clock s = ({ s with bus := b }, { v with stage := .leaving (.error f) })) ∨
      v.block clock s = ({ s with bus := b }, { v with stage := .blocked (v.ticket clock s) }) := by
  unfold block
  split
  · rename_i stage
    dsimp only
    split
    · exact .inr ⟨stage, _, .inl ⟨_, rfl⟩⟩
    · exact .inr ⟨stage, _, .inr rfl⟩
  · exact .inl rfl

theorem blockMoves (clock : Clock) (s : System K) (v : WaitCall) :
    Moved s v (v.block clock s).1 (v.block clock s).2 := by
  have leads := blockKeeps Bus.Leads.refl .trans
    (fun _ => .same (fun _ => rfl) (fun _ => rfl) (Nat.le_refl _) (Nat.le_refl _))
    (fun b c => .adjust (Bus.setEnabledAdjusts b c _) .enable (Trigger.showsEnabled _))
    (fun ok => .quiet (Bus.attachQuiet ok)) (fun b ws => .quiet (Bus.dropWaitSetQuiet b ws)) clock s v
  have waits := blockKeeps (fun b => OnlyWaits.ofSignals (.refl b)) .trans Bus.newWaitSetWaits
    (fun b c => .ofSignals (Bus.setEnabledFrame b c _)) Bus.attachWaits Bus.dropWaitSetWaits clock s v
  rcases blockOpens clock s v with none | ⟨stage, b, opened⟩
  · rw [none]
    exact .refl s v
  · have fits (fit : v.Fit) : v.held = v.conditions := by
      simpa only [Fit, stage, List.map_nil, List.append_nil] using fit
    rcases opened with ⟨f, opened⟩ | opened <;> rw [opened] at leads waits ⊢
    · exact ⟨rfl, .same, leads, waits, rfl, fun fit _ mem => fits fit ▸ mem⟩
    · exact ⟨rfl, .same, leads, waits, rfl, fun fit => ⟨fits fit, rfl, rfl⟩⟩

theorem turnLeads (s : System K) (t : Ticket) (now : Nat) : s.bus.Leads (s.turn t now).2.bus := by
  have polled := Bus.Leads.quiet (Bus.pollQuiet s.bus t.waitSet)
  unfold System.turn
  split <;> rename_i b eq <;> rw [eq] at polled <;> exact polled

theorem turnMoves (now : Nat) (s : System K) (v : WaitCall) :
    Moved s v (v.turn now s).1 (v.turn now s).2 := by
  unfold turn
  split
  · rename_i t stage
    have leads : s.bus.Leads (s.turn t now).2.bus := turnLeads s t now
    obtain ⟨⟨rest, waits, _⟩, observed⟩ := System.turnTouches s t now
    have still : Claimed s.observed v.held (s.turn t now).2.observed v.held := observed ▸ .same
    have rest' : (s.turn t now).2 = { s with bus := (s.turn t now).2.bus, observed := (s.turn t now).2.observed,
                                             lastError := (s.turn t now).2.lastError } := by rw [rest]
    split <;> rename_i eq <;> rw [eq] at leads waits still rest'
    · exact ⟨rfl, still, leads, waits, rest', fun fit => by rwa [Fit, stage] at fit⟩
    · exact ⟨rfl, still, leads, waits, rest', id⟩
  · exact .refl s v

theorem collectMoves (s : System K) (v : WaitCall) : Moved s v (v.collect s).1 (v.collect s).2 := by
  unfold collect
  split
  · rename_i t expired stage
    refine ⟨rfl, .same, System.endWaitLeads s t expired, System.endWaitWaits s t expired, rfl, fun fit _ mem => ?_⟩
    rw [Fit, stage] at fit
    exact fit.1 ▸ mem
  · exact .refl s v

theorem releaseMoves (s : System K) (v : WaitCall) : Moved s v (v.release s).1 (v.release s).2 := by
  unfold release
  split
  · rename_i answer c held stage had
    refine ⟨by rw [stage], had ▸ .given rfl, .refl _, .ofSignals (.refl _), rfl, fun fit => ?_⟩
    rw [Fit, stage, had] at fit
    simp only [Fit, stage]
    exact fun k mem => fit (List.mem_cons_of_mem _ mem)
  · exact .refl s v

theorem leaveMoves (s : System K) (v : WaitCall) : Moved s v (v.leave s).1 (v.leave s).2 := by
  unfold leave
  split
  · rename_i answer stage had
    cases answer <;> exact ⟨rfl, had ▸ .same, .refl _, .ofSignals (.refl _), rfl, fun _ => had⟩
  · exact .refl s v

end WaitCall

/-! ### Steps of a waiting system -/

namespace WaitingSystem

def held (l : WaitingSystem K) (n : Nat) : List ConditionId :=
  match l.waits[n]? with
  | some v => v.held
  | none => []

variable [Catalog K] [DecidableEq K]

inductive Steps (l : WaitingSystem K) : WaitingSystem K → Prop
  | idle : Steps l l
  | calls (call : Call K) (plain : call.waits = false) : Steps l { l with system := l.system.serve call }
  | away (ctx : ContextId) (f : Failure) : Steps l (l.turnAway ctx f)
  | joins {c : Context K} {subscriptions : List (Option (Handle .subscription))}
    {guards : List (Option (Handle .guardCondition))} {v : WaitCall} (known : l.system.contexts.get? v.ctx = some c)
    (listed : Site.Filled c.subscriptions (·.condition) subscriptions v.subscriptions)
    (listed' : Site.Filled c.guards (·.condition) guards v.guards) (bare : v.held = []) (fit : v.Fit) :
    Steps l ⟨l.system, l.waits ++ [v]⟩
  | moves {n : Nat} {v v' : WaitCall} {s' : System K} (there : l.waits[n]? = some v)
    (moved : v.Moved l.system s' v') : Steps l ⟨s', l.waits.set n v'⟩

theorem actSteps (l : WaitingSystem K) (n : Nat) {f : System K → WaitCall → System K × WaitCall}
    (moves : ∀ s v, WaitCall.Moved s v (f s v).1 (f s v).2) : l.Steps (l.act n f) := by
  unfold act
  split
  · exact .idle
  · exact .moves ‹_› (moves _ _)

theorem enterSteps (l : WaitingSystem K) (ctx : ContextId) (timeout : Timeout)
    (subscriptions : List (Option (Handle .subscription))) (guards : List (Option (Handle .guardCondition))) :
    l.Steps (l.enter ctx timeout subscriptions guards) := by
  unfold enter
  split
  · exact .away ctx _
  · rename_i c known
    split
    · exact .away ctx _
    · rename_i slots resolved
      split
      · exact .away ctx _
      · rename_i slots' resolved'
        exact .joins known (Site.resolveFilled resolved) (Site.resolveFilled resolved') rfl
          (WaitCall.claimsConditions _)

theorem stepSteps (l : WaitingSystem K) (e : Event K) : l.Steps (l.step e) := by
  cases e with
  | call c =>
    simp only [step]
    split
    · exact .idle
    · rename_i plain
      exact .calls c (Bool.eq_false_iff.2 plain)
  | enter ctx timeout subscriptions guards => exact l.enterSteps ctx timeout subscriptions guards
  | claim n => exact l.actSteps n WaitCall.claimMoves
  | block n clock => exact l.actSteps n (WaitCall.blockMoves clock)
  | turn n now => exact l.actSteps n (WaitCall.turnMoves now)
  | collect n => exact l.actSteps n WaitCall.collectMoves
  | release n => exact l.actSteps n WaitCall.releaseMoves
  | leave n => exact l.actSteps n WaitCall.leaveMoves

/-! ### Along a run -/

omit [Catalog K] [DecidableEq K] in
theorem heldJoin {l : WaitingSystem K} {s' : System K} {v : WaitCall} (bare : v.held = []) (m : Nat) :
    held ⟨s', l.waits ++ [v]⟩ m = l.held m := by
  unfold held
  rcases Nat.lt_trichotomy m l.waits.length with less | rfl | more
  · rw [List.getElem?_append_left less]
  · simp [bare]
  · rw [List.getElem?_eq_none (by simp; omega), List.getElem?_eq_none (Nat.le_of_lt more)]

omit [Catalog K] [DecidableEq K] in
theorem heldSet {l : WaitingSystem K} {s' : System K} {n : Nat} {v v' : WaitCall} (there : l.waits[n]? = some v)
    (m : Nat) :
    held ⟨s', l.waits.set n v'⟩ m = if m = n then v'.held else l.held m := by
  have inside : n < l.waits.length := (List.getElem?_eq_some_iff.1 there).1
  unfold held
  by_cases here : m = n
  · simp [here, inside]
  · simp [here, List.getElem?_set_ne (Ne.symm here)]

omit [Catalog K] [DecidableEq K] in
theorem heldThere {l : WaitingSystem K} {n : Nat} {v : WaitCall} (there : l.waits[n]? = some v) :
    l.held n = v.held := by
  rw [held, there]

structure Orderly (l : WaitingSystem K) : Prop where
  sound : l.system.Sound
  conditionsAgree : ConditionsAgree l.system.bus l.system.contexts
  linked : Linked l.system.bus (.of l.system.contexts)
  distinct : l.system.Distinct
  exact : Exact l.system.observed l.held
  fit : ∀ v ∈ l.waits, v.Fit
  named : ∀ v ∈ l.waits, ∀ i k, v.Lists i k → l.system.bus.HasOwner k ∧
    ∀ ctx' i', l.system.condition? ctx' i' = some k → ctx' = v.ctx ∧ i' = i

omit [Catalog K] [DecidableEq K] in
theorem orderlyFresh : ({} : WaitingSystem K).Orderly where
  sound := System.soundFresh
  conditionsAgree := .fresh
  linked := .fresh
  distinct _ _ _ _ _ live := nomatch live
  exact := ⟨fun _ => ⟨nofun, fun ⟨_, mem⟩ => nomatch mem⟩, fun _ _ _ mem => (nomatch mem), fun _ => .nil⟩
  fit := nofun
  named := nofun

variable {l : WaitingSystem K}

omit [Catalog K] [DecidableEq K] in
theorem listsLive {s : System K} {c : Context K} {subscriptions : List (Option (Handle .subscription))}
    {guards : List (Option (Handle .guardCondition))} {v : WaitCall} (known : s.contexts.get? v.ctx = some c)
    (listed : Site.Filled c.subscriptions (·.condition) subscriptions v.subscriptions)
    (listed' : Site.Filled c.guards (·.condition) guards v.guards) {i : Resource} {k : ConditionId}
    (lists : v.Lists i k) : s.condition? v.ctx i = some k := by
  cases i with
  | subscription h =>
    obtain ⟨r, found, same⟩ := listed.held h k lists
    exact System.conditionSubscription.2 ⟨c, r, known, found, same⟩
  | guard h =>
    obtain ⟨g, found, same⟩ := listed'.held h k lists
    exact System.conditionGuard.2 ⟨g, by rw [System.guard?, known]; exact found, same⟩

namespace Orderly

theorem serve (h : l.Orderly) {call : Call K} (plain : call.waits = false) :
    Orderly { l with system := l.system.serve call } := by
  obtain ⟨conditionsAgree, evolves⟩ := h.conditionsAgree.serve h.sound call
  have observed : (l.system.serve call).observed = l.system.observed := by
    refine System.serveObserved l.system (fun _ _ _ _ _ own => ?_) fun _ _ own => ?_ <;>
      · rw [own] at plain
        cases plain
  exact {
    sound := System.serveSound h.sound call
    conditionsAgree
    linked := h.linked.step (System.serveSteps h.sound call).1
    distinct := distinctServe h.sound h.conditionsAgree h.linked h.distinct call
    exact := observed.symm ▸ h.exact
    fit := h.fit
    named := fun v mem i k lists => by
      obtain ⟨hasOwner, named⟩ := h.named v mem i k lists
      refine ⟨evolves.hasOwner hasOwner, fun ctx' i' live => named ctx' i' ?_⟩
      exact (serveConditions h.sound h.conditionsAgree call live).resolve_right fun new => new hasOwner }

omit [Catalog K] [DecidableEq K] in
theorem setError (h : l.Orderly) (text : String) : Orderly { l with system := l.system.setError text } :=
  { h with sound := ⟨h.sound.opened, h.sound.tables⟩ }

omit [Catalog K] [DecidableEq K] in
theorem joined (h : l.Orderly) {v : WaitCall} (bare : v.held = []) (fit : v.Fit)
    (named : ∀ i k, v.Lists i k → l.system.bus.HasOwner k ∧
      ∀ ctx' i', l.system.condition? ctx' i' = some k → ctx' = v.ctx ∧ i' = i) :
    Orderly ⟨l.system, l.waits ++ [v]⟩ where
  sound := h.sound
  conditionsAgree := h.conditionsAgree
  linked := h.linked
  distinct := h.distinct
  exact := h.exact.same fun m => heldJoin bare m
  fit w mem := by
    rcases List.mem_append.1 mem with old | new
    · exact h.fit w old
    · exact List.mem_singleton.1 new ▸ fit
  named w mem := by
    rcases List.mem_append.1 mem with old | new
    · exact h.named w old
    · exact List.mem_singleton.1 new ▸ named

omit [Catalog K] [DecidableEq K] in
theorem moved (h : l.Orderly) {n : Nat} {v v' : WaitCall} {s' : System K} (there : l.waits[n]? = some v)
    (moved : v.Moved l.system s' v') : Orderly ⟨s', l.waits.set n v'⟩ := by
  obtain ⟨statusesAgree, evolves⟩ := moved.leads h.conditionsAgree.statusesAgree
  have contexts : s'.contexts = l.system.contexts := by rw [moved.rest]
  have next : s'.nextContext = l.system.nextContext := by rw [moved.rest]
  have conditions (ctx : ContextId) (i : Resource) : s'.condition? ctx i = l.system.condition? ctx i := by
    rw [System.condition?, contexts, System.condition?]
  have mem := List.mem_of_getElem? there
  exact {
    sound := {
      opened := fun ctx c known => next.symm ▸ h.sound.opened ctx c (contexts ▸ known)
      tables := fun ctx c known => h.sound.tables ctx c (contexts ▸ known) }
    conditionsAgree := contexts.symm ▸ (h.conditionsAgree.leads moved.leads).1
    linked := contexts.symm ▸ h.linked.retain (h.linked.membersAgree.waits moved.waits) (.waits moved.waits)
    distinct := fun ctx i ctx' i' k live live' =>
      h.distinct ctx i ctx' i' k ((conditions ctx i).symm.trans live) ((conditions ctx' i').symm.trans live')
    exact := h.exact.claimed (heldThere there ▸ moved.claims) (heldSet there)
    fit := fun w mem' => by
      rcases List.mem_or_eq_of_mem_set mem' with old | rfl
      · exact h.fit w old
      · exact moved.fit (h.fit v mem)
    named := fun w mem' i k lists => by
      have listed : ∃ u ∈ l.waits, u.ctx = w.ctx ∧ u.Lists i k := by
        rcases List.mem_or_eq_of_mem_set mem' with old | rfl
        · exact ⟨w, old, rfl, lists⟩
        · rw [moved.slots] at lists ⊢
          exact ⟨v, mem, rfl, by cases i <;> exact lists⟩
      obtain ⟨u, old, ctx, lists⟩ := listed
      obtain ⟨hasOwner, named⟩ := h.named u old i k lists
      exact ⟨evolves.hasOwner hasOwner, fun ctx' i' live => ctx ▸ named ctx' i' ((conditions ctx' i').symm.trans live)⟩
        }

theorem steps {l' : WaitingSystem K} (h : l.Orderly) (step : l.Steps l') : l'.Orderly := by
  cases step with
  | idle => exact h
  | calls call plain => exact h.serve plain
  | away ctx f => exact (h.setError _).joined rfl rfl fun i k lists => by cases i <;> cases lists
  | joins known listed listed' bare fit =>
    refine h.joined bare fit fun i k lists => ?_
    have live := listsLive known listed listed' lists
    exact ⟨h.conditionsAgree.hasOwner live, fun ctx' i' other => h.distinct _ _ _ _ _ other live⟩
  | moves there moved => exact h.moved there moved

theorem run (h : l.Orderly) (events : List (Event K)) : (l.run events).Orderly := by
  induction events generalizing l with
  | nil => exact h
  | cons e rest ih => exact ih (h.steps (l.stepSteps e))

end Orderly

end WaitingSystem
end Databus.Middleware
