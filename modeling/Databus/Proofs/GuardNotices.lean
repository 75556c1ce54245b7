import Databus.Proofs.NodeGraphVersion
import Databus.Proofs.GuardReporting

/-! No change of a graph is missed: a node's guard is up exactly if the node's graph has grown, or the guard was raised
by its handle, since a wait last consumed it; and the graph's version counts all that came into the node's sight and
left it. -/
namespace Databus.Middleware

open Bus (GraphsGrow)
open World (stage)

variable {K : Type} [Catalog K] [DecidableEq K]

namespace World

def asks (w : World K) : Act K → List Request
  | .call c => w.system.asks c
  | .ask q => [q]

omit [Catalog K] [DecidableEq K] in
theorem ownRequestCommon {w : World K} {q : Request} (ownRequest : w.OwnRequest q) : q.isCommon := by
  cases q with
  | newListener l =>
    cases l with
    | scripted => rfl
    | discovery => exact ownRequest.elim
  | drain => exact ownRequest.elim
  | _ => rfl

omit [DecidableEq K] in
theorem ownRequestAbides {w : World K} {a : Act K} (ownRequest : ∀ q, a = .ask q → w.OwnRequest q) :
    w.Abides Any a := by
  cases a with
  | call c => exact fun _ _ _ => trivial
  | ask q => exact ⟨ownRequest q rfl, by cases q <;> trivial⟩

end World

/-! ### One act -/

theorem actCounts {w : World K} (sound : w.system.Sound)
    (h : Agrees Any w.system.bus (.of w.system.contexts) w.own) {a : Act K} (abides : w.Abides Any a)
    {ctx : ContextId} {k : Handle .node} {n' : NodeRecord}
    (found : (Directory.of (w.act a).system.contexts).node ctx k = some n') :
    (∃ n, (Directory.of w.system.contexts).node ctx k = some n ∧ n.watch = n'.watch ∧
      (w.act a).system.bus.version n'.graph =
        w.system.bus.version n'.graph + w.system.bus.applied n'.participant (w.asks a)) ∨
    w.system.bus.nextHandle ≤ n'.participant ∧
      (w.act a).system.bus.version n'.graph = w.system.bus.applied n'.participant (w.asks a) := by
  cases a with
  | ask q =>
    obtain ⟨ownRequest, named⟩ := abides
    obtain ⟨m, watched, _⟩ := h.watched ctx k n' found
    have spares := h.askSpares ownRequest ⟨ctx, k, n', found, rfl⟩ watched
    exact .inl ⟨n', found, rfl, Bus.versionRequest h.orderly watched spares (h.askProper ownRequest named)⟩
  | call call =>
    rcases serveNodes sound h call found with ⟨n, old, same⟩ | ⟨new, counted⟩
    · refine .inl ⟨n, old, same, ?_⟩
      change (w.system.serve call).bus.version n'.graph = _ + w.system.bus.applied n'.participant (w.system.asks call)
      cases signals : call.signals with
      | true =>
        rw [System.signalsAsk signals, Bus.version, (signalsWait w.system signals).graphs]
        rfl
      | false =>
        obtain ⟨m, watched, _⟩ := h.watched ctx k n old
        rw [same] at watched
        rw [w.system.serveRuns signals]
        exact Bus.versionRun h.orderly watched (asksGentle sound h call ⟨ctx, k, n', found, rfl⟩ watched)
    · exact .inr ⟨Nat.le_of_eq new.symm, counted⟩

theorem actHandles (w : World K) (a : Act K) :
    (w.act a).system.bus.nextHandle = (w.system.bus.run (w.asks a)).nextHandle := by
  cases a with
  | ask q => rfl
  | call call =>
    change (w.system.serve call).bus.nextHandle = (w.system.bus.run (w.system.asks call)).nextHandle
    cases signals : call.signals with
    | true =>
      rw [System.signalsAsk signals, (signalsWait w.system signals).nextHandle]
      rfl
    | false => rw [w.system.serveRuns signals]

/-! ### Along a run -/

structure OwnRequests (acts : List (Act K)) : Prop where
  asks : ∀ (i : Nat) q, acts[i]? = some (.ask q) → (stage acts i).OwnRequest q
  ends : ∀ (i : Nat) t expired, acts[i]? = some (.call (.endWait t expired)) →
    ∃ w : Wait acts, w.stop = i ∧ w.ticket = t

def appliedBy (acts : List (Act K)) (p : InstanceHandle) : Nat → Nat
  | 0 => 0
  | i + 1 => appliedBy acts p i +
    match acts[i]? with
    | some a => (stage acts i).system.bus.applied p ((stage acts i).asks a)
    | none => 0

def Pressed (acts : List (Act K)) (i : Nat) (k : ConditionId) : Prop :=
  ∃ ctx h, acts[i]? = some (.call (.triggerGuard ctx h)) ∧ (stage acts i).guard? ctx h = some k

variable {acts : List (Act K)} {i j : Nat} {k : ConditionId} {γ : GraphId}

structure Counts (acts : List (Act K)) (i : Nat) : Prop where
  sound : (stage acts i).system.Sound
  agrees : Agrees Any (stage acts i).system.bus (.of (stage acts i).system.contexts) (stage acts i).own
  future : ∀ p, (stage acts i).system.bus.nextHandle ≤ p → appliedBy acts p i = 0
  nodes : ∀ ctx h n, (Directory.of (stage acts i).system.contexts).node ctx h = some n →
    (stage acts i).system.bus.version n.graph = appliedBy acts n.participant i

namespace OwnRequests

theorem regular (ownRequests : OwnRequests acts) : Regular acts :=
  ⟨fun i q here => World.ownRequestCommon (ownRequests.asks i q here), ownRequests.ends⟩

theorem counts (ownRequests : OwnRequests acts) (i : Nat) : Counts acts i := by
  induction i with
  | zero => exact ⟨System.soundFresh, .fresh, fun _ _ => rfl, fun _ _ _ found => nomatch found⟩
  | succ i ih =>
    cases here : acts[i]? with
    | none =>
      have still (p : InstanceHandle) : appliedBy acts p (i + 1) = appliedBy acts p i := by
        rw [appliedBy, here]
        rfl
      refine ⟨?_, ?_, ?_, ?_⟩ <;> simp only [World.stageOver here, still]
      · exact ih.sound
      · exact ih.agrees
      · exact ih.future
      · exact ih.nodes
    | some a =>
      have further (p : InstanceHandle) : appliedBy acts p (i + 1) =
          appliedBy acts p i + (stage acts i).system.bus.applied p ((stage acts i).asks a) := by
        rw [appliedBy, here]
      have abides := World.ownRequestAbides fun q own => ownRequests.asks i q (here.trans (congrArg some own))
      obtain ⟨sound, agrees⟩ := ih.agrees.act ih.sound abides
      have handles := actHandles (stage acts i) a
      have grow := Bus.handlesGrowRun (stage acts i).system.bus ((stage acts i).asks a)
      refine ⟨?_, ?_, ?_, ?_⟩ <;> simp only [World.stageNext here, further]
      · exact sound
      · exact agrees
      · intro p future
        rw [handles] at future
        rw [ih.future p (Nat.le_trans grow future), Bus.appliedFuture ih.agrees.orderly.membersAgree future]
      · intro ctx h n' found
        rcases actCounts ih.sound ih.agrees abides found with ⟨n, before, same, counted⟩ | ⟨new, counted⟩
        · have graph : n.graph = n'.graph := congrArg NodeWatch.graph same
          have participant : n.participant = n'.participant := congrArg NodeWatch.participant same
          rw [counted, ← graph, ih.nodes ctx h n before, participant]
        · rw [counted, ih.future _ new, Nat.zero_add]

end OwnRequests

/-! ### Growth between positions -/

namespace Regular

theorem graphsGrow (regular : Regular acts) (le : j ≤ i) :
    GraphsGrow (stage acts j).system.bus (stage acts i).system.bus := by
  induction le with
  | refl => exact .refl _
  | @step i _ ih =>
    cases here : acts[i]? with
    | none => exact World.stageOver here ▸ ih
    | some a => exact World.stageNext here ▸ ih.trans (regular.follows here).graphsGrow

theorem grownExact (regular : Regular acts) (le : j ≤ i) :
    (stage acts j).system.bus.version γ < (stage acts i).system.bus.version γ ↔
      ∃ p, j ≤ p ∧ p < i ∧ (stage acts p).system.bus.version γ < (stage acts (p + 1)).system.bus.version γ := by
  constructor
  · induction le with
    | refl => exact fun less => absurd less (Nat.lt_irrefl _)
    | @step i after ih =>
      intro less
      by_cases last : (stage acts i).system.bus.version γ < (stage acts (i + 1)).system.bus.version γ
      · exact ⟨i, after, Nat.lt_succ_self i, last⟩
      · obtain ⟨p, later, before, grows⟩ := ih (Nat.lt_of_lt_of_le less (Nat.le_of_not_lt last))
        exact ⟨p, later, Nat.lt_succ_of_lt before, grows⟩
  · rintro ⟨p, later, before, grows⟩
    have first := (regular.graphsGrow later).versions γ
    have rest := (regular.graphsGrow (Nat.succ_le_of_lt before)).versions γ
    exact Nat.lt_of_le_of_lt first (Nat.lt_of_lt_of_le grows rest)

theorem raisedAtExact (regular : Regular acts) (feeds : (stage acts i).system.bus.Feeds γ k) {p : Nat}
    (before : p < i) :
    RaisedAt acts p k ↔ Pressed acts p k ∨
      (stage acts p).system.bus.version γ < (stage acts (p + 1)).system.bus.version γ := by
  have graphsGrow := regular.graphsGrow (Nat.succ_le_of_lt before)
  have wired := (regular.before i i (Nat.le_refl i)).1.wired
  constructor
  · rintro ⟨a, here, ⟨ctx, h, rfl, guard⟩ | ⟨γ', fed, less⟩⟩
    · exact .inl ⟨ctx, h, here, guard⟩
    · rw [← World.stageNext here] at fed less
      obtain rfl := (wired.apart γ' k γ k (graphsGrow.feeds γ' k fed) feeds).2 rfl
      exact .inr less
  · rintro (⟨ctx, h, here, guard⟩ | less)
    · exact ⟨_, here, .inl ⟨ctx, h, rfl, guard⟩⟩
    · have fed := graphsGrow.fed feeds (Nat.zero_lt_of_lt less)
      cases here : acts[p]? with
      | none =>
        rw [World.stageOver here] at less
        exact absurd less (Nat.lt_irrefl _)
      | some a =>
        rw [World.stageNext here] at fed less
        exact ⟨a, here, .inr ⟨γ, fed, less⟩⟩

theorem raisedAtBetween (regular : Regular acts) (feeds : (stage acts i).system.bus.Feeds γ k) (le : j ≤ i) :
    (∃ p, j ≤ p ∧ p < i ∧ RaisedAt acts p k) ↔
      (stage acts j).system.bus.version γ < (stage acts i).system.bus.version γ ∨
        ∃ p, j ≤ p ∧ p < i ∧ Pressed acts p k := by
  rw [regular.grownExact le]
  constructor
  · rintro ⟨p, later, before, raisedAt⟩
    rcases (regular.raisedAtExact feeds before).1 raisedAt with pressed | less
    · exact .inr ⟨p, later, before, pressed⟩
    · exact .inl ⟨p, later, before, less⟩
  · rintro (⟨p, later, before, less⟩ | ⟨p, later, before, pressed⟩)
    · exact ⟨p, later, before, (regular.raisedAtExact feeds before).2 (.inr less)⟩
    · exact ⟨p, later, before, (regular.raisedAtExact feeds before).2 (.inl pressed)⟩

theorem stands (regular : Regular acts) {p : Nat} (raisedAt : RaisedAt acts p k) (before : p < i)
    (free : ∀ v : Wait acts, v.Keeps k → p < v.stop → i ≤ v.stop) : (stage acts i).Raised k := by
  refine (regular.raisedExact i).2 ⟨p, before, raisedAt, fun w lists ⟨after, until'⟩ => ?_⟩
  rcases regular.reporter raisedAt lists after with keeps | ⟨v, keeps, after', earlier⟩
  · exact Nat.not_lt.2 (free w keeps after) until'
  · exact Nat.not_lt.2 (free v keeps after') (Nat.lt_trans earlier until')

end Regular

structure Noticed (acts : List (Act K)) (i : Nat) (n : NodeRecord) : Prop where
  counted : ∃ g, (stage acts i).system.bus.graphs.get? n.graph = some g ∧
    g.version = appliedBy acts n.participant i
  created : (∀ w : Wait acts, w.Keeps n.guard → i ≤ w.stop) → ((stage acts i).Raised n.guard ↔
    0 < (stage acts i).system.bus.version n.graph ∨ ∃ p, p < i ∧ Pressed acts p n.guard)
  consumed : ∀ w : Wait acts, w.Keeps n.guard → w.stop < i →
    (∀ v : Wait acts, v.Keeps n.guard → v.stop < i → v.stop ≤ w.stop) → ((stage acts i).Raised n.guard ↔
      (stage acts w.stop).system.bus.version n.graph < (stage acts i).system.bus.version n.graph ∨
        ∃ p, w.stop ≤ p ∧ p < i ∧ Pressed acts p n.guard)

/-- At every position of a run every live node's guard tells exactly what is yet to be noticed. -/
theorem changesNoticed (ownRequests : OwnRequests acts) {ctx : ContextId} {c : Context K} {h : Handle .node}
    {n : NodeRecord} (known : (stage acts i).system.contexts.get? ctx = some c) (live : c.nodes.find? h = some n) :
    Noticed acts i n := by
  have regular := ownRequests.regular
  have counts := ownRequests.counts i
  have node := ((Directory.ofKnown known).2.1 h).trans live
  obtain ⟨m, ⟨g, fed, _⟩, _⟩ := counts.agrees.watched ctx h n node
  have feeds : (stage acts i).system.bus.Feeds n.graph n.guard := ⟨_, _, fed.listener .publication⟩
  refine ⟨⟨g, fed.graph, (Bus.versionFed fed).symm.trans (counts.nodes ctx h n node)⟩, fun free => ?_,
    fun w keeps before last => ?_⟩
  · have between := regular.raisedAtBetween feeds (Nat.zero_le i)
    simp only [Nat.zero_le, true_and] at between
    refine Iff.trans ⟨fun up => ?_, fun ⟨p, before, raisedAt⟩ => ?_⟩ between
    · obtain ⟨p, before, raisedAt, _⟩ := (regular.raisedExact i).1 up
      exact ⟨p, before, raisedAt⟩
    · exact regular.stands raisedAt before fun v keeps _ => free v keeps
  · refine Iff.trans ⟨fun up => ?_, fun ⟨p, later, until', raisedAt⟩ => ?_⟩
      (regular.raisedAtBetween feeds (Nat.le_of_lt before))
    · obtain ⟨p, until', raisedAt, unlisted⟩ := (regular.raisedExact i).1 up
      exact ⟨p, Nat.le_of_not_lt fun less => unlisted w keeps.lists ⟨less, before⟩, until', raisedAt⟩
    · refine regular.stands raisedAt until' fun v keeps' after => Nat.le_of_not_lt fun earlier => ?_
      exact Nat.not_lt.2 (Nat.le_trans (last v keeps' earlier) later) after

def noticedWait : List (Act ExampleCarrier) :=
  let guard : Handle .guardCondition := ⟨implementationIdentifier, 1, 0, 0⟩
  [.call (.init {}), .call (.createNode 1 "watcher"), .ask (.join 0), .ask (.createGroup .publication 4),
    .ask (.createWriter 7 ⟨4, "chatter", "Blob", .standard⟩ 100),
    .call (.beginWait 1 ⟨0, 100⟩ .nonBlocking [] [some guard]),
    .call (.endWait ⟨⟨.nonBlocking, 1000000000, none⟩, 4, [], [some (guard, 3)]⟩ false), .ask (.leave 4)]

theorem waitNoticed : OwnRequests noticedWait ∧ ∃ c n, (stage noticedWait 8).system.contexts.get? 1 = some c ∧
    c.nodes.find? ⟨implementationIdentifier, 1, 0, 0⟩ = some n ∧ Noticed noticedWait 8 n := by
  have ownRequests : OwnRequests noticedWait := by
    constructor
    · intro i q here
      rcases i with _ | _ | _ | _ | _ | _ | _ | _ | i
      case succ.succ.succ.succ.succ.succ.succ.zero =>
        cases here
        change 4 ∈ (stage noticedWait 7).own
        decide +kernel
      all_goals cases here <;> trivial
    · intro i t expired here
      rcases i with _ | _ | _ | _ | _ | _ | _ | _ | i
      case succ.succ.succ.succ.succ.succ.zero =>
        cases here
        exact ⟨⟨1, ⟨0, 100⟩, .nonBlocking, [], [some ⟨implementationIdentifier, 1, 0, 0⟩], _, _, 5, 6, rfl,
          grantedSome (by decide +kernel), rfl, by decide,
          fun i _ after before => absurd before (Nat.not_lt.2 after)⟩, rfl, rfl⟩
      all_goals nomatch here
  have there : (((stage noticedWait 8).system.contexts.get? 1).bind
      (·.nodes.find? ⟨implementationIdentifier, 1, 0, 0⟩)).isSome = true := by decide +kernel
  obtain ⟨n, found⟩ := Option.isSome_iff_exists.1 there
  obtain ⟨c, known, live⟩ := Option.bind_eq_some_iff.1 found
  exact ⟨ownRequests, c, n, known, live, changesNoticed ownRequests known live⟩

end Databus.Middleware
