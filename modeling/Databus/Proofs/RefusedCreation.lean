import Databus.Proofs.ParallelCalls

/-! What a refused creation leaves behind. Any later calls of any callers, and waits that go on between them, are
granted or refused just as without it, as long as no creation on its node asks for the topic that it has bound, or for
the type that it has registered, in another way. -/
namespace Databus.Middleware

variable {K : Type}

structure Session (K : Type) where
  system : System K := {}
  waits : List (Option Ticket) := []

/-- What some caller does: a call, or a step of a wait, which goes on for as long as it may while others call. -/
inductive Operation (K : Type) [Catalog K]
  | call (c : Call K)
  | wait (ctx : ContextId) (clock : Clock) (timeout : Timeout) (subscriptions : List (Option (Handle .subscription)))
    (guards : List (Option (Handle .guardCondition)))
  | turn (n now : Nat)
  | finish (n : Nat) (expired : Bool)

namespace Session

variable [Catalog K] [DecidableEq K]

omit [Catalog K] [DecidableEq K] in
def wait? (w : Session K) (n : Nat) : Option Ticket := w.waits[n]?.join

def step (w : Session K) : Operation K → Session K
  | .call c => if c.waits then w else { w with system := w.system.serve c }
  | .wait ctx clock timeout subscriptions guards =>
    { system := (w.system.beginWait ctx clock timeout subscriptions guards).1
      waits := w.waits ++ [(w.system.beginWait ctx clock timeout subscriptions guards).2.toOption] }
  | .turn n now =>
    match w.wait? n with
    | some t => { w with system := (w.system.turn t now).2 }
    | none => w
  | .finish n expired =>
    match w.wait? n with
    | some t => { system := (w.system.endWait t expired).2, waits := w.waits.set n none }
    | none => w

def refusal (w : Session K) : Operation K → Option Failure
  | .call c => if c.waits then none else w.system.refusal c
  | .wait ctx clock timeout subscriptions guards =>
    System.refused (w.system.beginWait ctx clock timeout subscriptions guards).2
  | .turn _ _ | .finish _ _ => none

def run (w : Session K) (operations : List (Operation K)) : Session K := operations.foldl step w

def refusals (w : Session K) : List (Operation K) → List (Option Failure)
  | [] => []
  | operation :: rest => w.refusal operation :: (w.step operation).refusals rest

end Session

def System.drift (s s' : System K) (ctx : ContextId) (k : Handle .node) : BindingDrift :=
  (s.bindings ctx k).drift (s'.bindings ctx k)

def Operation.MatchesDrift [Catalog K] (δ : ContextId → Handle .node → BindingDrift) : Operation K → Prop
  | .call c => c.MatchesDrift δ
  | _ => True

def Session.DriftMatched [Catalog K] [DecidableEq K] (w w' : Session K) : List (Operation K) → Prop
  | [] => True
  | operation :: rest =>
    operation.MatchesDrift (w.system.drift w'.system) ∧ (w.step operation).DriftMatched (w'.step operation) rest

/-! ### Operation by operation -/

section Beginning

variable [Catalog K] [DecidableEq K] {δ : ContextId → Handle .node → BindingDrift} {ρ : Pairing} {s s' : System K}

theorem System.Parallel.beginWait (h : s.Parallel δ ρ s') (ctx : ContextId) (clock : Clock) (timeout : Timeout)
    (subscriptions : List (Option (Handle .subscription))) (guards : List (Option (Handle .guardCondition))) :
    ∃ σ, (∀ k k', ρ k k' → σ k k') ∧
      (s.beginWait ctx clock timeout subscriptions guards).1.Parallel δ σ
        (s'.beginWait ctx clock timeout subscriptions guards).1 ∧
      Tied (fun t t' => ρ.Matches t.conditions t'.conditions) (s.beginWait ctx clock timeout subscriptions guards).2
        (s'.beginWait ctx clock timeout subscriptions guards).2 := by
  obtain ⟨⟨σ, follows⟩, answer⟩ := h.perform ctx "wait" fun t t' hosts hosts' alike =>
    Site.beginWaitParallel h.sole alike (hosts.observed ▸ hosts'.observed ▸ h.observed) clock timeout subscriptions
      guards
  change Tied _ (s.beginWait ctx clock timeout subscriptions guards).2
    (s'.beginWait ctx clock timeout subscriptions guards).2 at answer
  have observed : ρ.Matches (s.beginWait ctx clock timeout subscriptions guards).1.observed
      (s'.beginWait ctx clock timeout subscriptions guards).1.observed := by
    rcases answer.opens with ⟨f, refused, refused'⟩ | ⟨t, t', begun, begun', same⟩
    · rw [beginWaitRefused refused, beginWaitRefused refused']
      exact h.observed
    · obtain ⟨_, _, _, fact⟩ := beginWaitBegun (Prod.ext rfl begun)
      obtain ⟨_, _, _, fact'⟩ := beginWaitBegun (Prod.ext rfl begun')
      have claimed : (s.beginWait ctx clock timeout subscriptions guards).1.observed = _ := fact.claimed
      have claimed' : (s'.beginWait ctx clock timeout subscriptions guards).1.observed = _ := fact'.claimed
      rw [claimed, claimed']
      exact same.reverse.append h.observed
  have begins : Follows ρ σ s s' (s.serve (.beginWait ctx clock timeout subscriptions guards))
      (s'.serve (.beginWait ctx clock timeout subscriptions guards)) := follows
  exact ⟨σ, follows.wider, h.step begins (fun _ => rfl)
    (h.keptBindings (fun _ _ => id) (fun _ _ => id) begins.contexts) (observed.weaken follows.wider), answer⟩

end Beginning

namespace Session

structure Parallel [Catalog K] [DecidableEq K] (δ : ContextId → Handle .node → BindingDrift) (ρ : Pairing)
    (w w' : Session K) : Prop where
  system : w.system.Parallel δ ρ w'.system
  length : w'.waits.length = w.waits.length
  waits : ∀ n, Option.Rel (fun t t' : Ticket => ρ.Matches t.conditions t'.conditions) (w.wait? n) (w'.wait? n)

namespace Parallel

variable [Catalog K] [DecidableEq K] {δ : ContextId → Handle .node → BindingDrift} {ρ σ : Pairing} {w w' : Session K}

theorem wider (h : w.Parallel δ ρ w') (wider : ∀ k k', ρ k k' → σ k k') (n : Nat) :
    Option.Rel (fun t t' : Ticket => σ.Matches t.conditions t'.conditions) (w.wait? n) (w'.wait? n) := by
  rcases relOpens (h.waits n) with ⟨none, none'⟩ | ⟨t, t', there, there', same⟩
  · rw [none, none']
    exact .none
  · rw [there, there']
    exact .some (same.weaken wider)

theorem callStep (h : w.Parallel δ ρ w') {c : Call K} (plain : c.waits = false) (matchesDrift : c.MatchesDrift δ) :
    (∃ σ, ({ w with system := w.system.serve c } : Session K).Parallel δ σ { w' with system := w'.system.serve c }) ∧
      w'.system.refusal c = w.system.refusal c := by
  obtain ⟨⟨σ, follows⟩, answer, ledger⟩ := h.system.follow plain matchesDrift
  refine ⟨⟨σ, ⟨h.system.step follows ledger ?_ ?_, h.length, h.wider follows.wider⟩⟩, answer⟩
  · exact h.system.driftMatchedBindings matchesDrift follows
  · have still : ∀ s : System K, (s.serve c).observed = s.observed := fun s =>
      System.serveObserved s (by rintro _ _ _ _ _ rfl; cases plain) (by rintro _ _ rfl; cases plain)
    rw [still, still]
    exact h.system.observed.weaken follows.wider

theorem turnStep (h : w.Parallel δ ρ w') {t t' : Ticket} (now : Nat) :
    ({ w with system := (w.system.turn t now).2 } : Session K).Parallel δ ρ
      { w' with system := (w'.system.turn t' now).2 } := by
  obtain ⟨_, contexts, next⟩ := System.turnWaits w.system t now
  obtain ⟨_, contexts', next'⟩ := System.turnWaits w'.system t' now
  have still : ∀ (s : System K) (t : Ticket), (s.serve (.turn t now)).observed = s.observed := fun s t =>
    System.serveObserved s (by rintro _ _ _ _ _ ⟨⟩) (by rintro _ _ ⟨⟩)
  have follows : System.Follows ρ ρ w.system w'.system (w.system.serve (.turn t now))
      (w'.system.serve (.turn t' now)) := by
    refine .same (next'.trans (h.system.next.trans next.symm)) fun ctx => ?_
    change Option.Rel _ ((w.system.turn t now).2.contexts.get? ctx) ((w'.system.turn t' now).2.contexts.get? ctx)
    rw [contexts, contexts']
    exact h.system.contexts ctx
  refine ⟨h.system.step follows (fun _ => rfl)
    (h.system.keptBindings (fun _ _ => id) (fun _ _ => id) follows.contexts) ?_, h.length, h.waits⟩
  rw [still, still]
  exact h.system.observed

theorem finishStep (h : w.Parallel δ ρ w') {n : Nat} {t t' : Ticket} (same : ρ.Matches t.conditions t'.conditions)
    (expired : Bool) :
    ({ system := (w.system.endWait t expired).2, waits := w.waits.set n none } : Session K).Parallel δ ρ
      { system := (w'.system.endWait t' expired).2, waits := w'.waits.set n none } := by
  have follows : System.Follows ρ ρ w.system w'.system (w.system.serve (.endWait t expired))
      (w'.system.serve (.endWait t' expired)) := .same h.system.next h.system.contexts
  refine ⟨h.system.step follows (fun _ => rfl)
    (h.system.keptBindings (fun _ _ => id) (fun _ _ => id) follows.contexts)
    (h.system.observed.drop same h.system.sole), ?_, fun m => ?_⟩
  · simp only [List.length_set, h.length]
  · simp only [wait?, List.getElem?_set, h.length]
    split
    · split
      · exact .none
      · exact .none
    · exact h.waits m

theorem waitStep (h : w.Parallel δ ρ w') (ctx : ContextId) (clock : Clock) (timeout : Timeout)
    (subscriptions : List (Option (Handle .subscription))) (guards : List (Option (Handle .guardCondition))) :
    (∃ σ, (w.step (.wait ctx clock timeout subscriptions guards)).Parallel δ σ
        (w'.step (.wait ctx clock timeout subscriptions guards))) ∧
      w'.refusal (.wait ctx clock timeout subscriptions guards) =
        w.refusal (.wait ctx clock timeout subscriptions guards) := by
  obtain ⟨σ, wider, system, answer⟩ := h.system.beginWait ctx clock timeout subscriptions guards
  have grown := h.wider wider
  refine ⟨⟨σ, system, ?_, fun n => ?_⟩, ?_⟩
  · simp only [step, List.length_append, h.length, List.length_singleton]
  · simp only [step, wait?, List.getElem?_append, h.length]
    split
    · exact grown n
    · cases n - w.waits.length with
      | zero =>
        rcases answer.opens with ⟨f, refused, refused'⟩ | ⟨t, t', begun, begun', same⟩
        · rw [refused, refused']
          exact .none
        · rw [begun, begun']
          exact .some (same.weaken wider)
      | succ m => exact .none
  · simp only [refusal]
    rcases answer.opens with ⟨f, refused, refused'⟩ | ⟨t, t', begun, begun', _⟩
    · rw [refused, refused']
    · rw [begun, begun']
      rfl

theorem step (h : w.Parallel δ ρ w') {operation : Operation K} (matchesDrift : operation.MatchesDrift δ) :
    (∃ σ, (w.step operation).Parallel δ σ (w'.step operation)) ∧ w'.refusal operation = w.refusal operation := by
  cases operation with
  | call c =>
    simp only [Session.step, refusal]
    cases plain : c.waits with
    | true => exact ⟨⟨ρ, h⟩, rfl⟩
    | false => exact h.callStep plain matchesDrift
  | wait ctx clock timeout subscriptions guards => exact h.waitStep ctx clock timeout subscriptions guards
  | turn n now =>
    refine ⟨?_, rfl⟩
    simp only [Session.step]
    rcases relOpens (h.waits n) with ⟨none, none'⟩ | ⟨t, t', there, there', _⟩
    · rw [none, none']
      exact ⟨ρ, h⟩
    · rw [there, there']
      exact ⟨ρ, h.turnStep now⟩
  | finish n expired =>
    refine ⟨?_, rfl⟩
    simp only [Session.step]
    rcases relOpens (h.waits n) with ⟨none, none'⟩ | ⟨t, t', there, there', same⟩
    · rw [none, none']
      exact ⟨ρ, h⟩
    · rw [there, there']
      exact ⟨ρ, h.finishStep same expired⟩

theorem run (h : w.Parallel δ ρ w') {operations : List (Operation K)} (driftMatched : w.DriftMatched w' operations) :
    (∃ σ, (w.run operations).Parallel δ σ (w'.run operations)) ∧ w'.refusals operations = w.refusals operations := by
  induction operations generalizing ρ w w' with
  | nil => exact ⟨⟨ρ, h⟩, rfl⟩
  | cons operation rest ih =>
    have tight : w.Parallel (w.system.drift w'.system) ρ w' :=
      ⟨{ h.system with within := fun ctx k => (h.system.within ctx k).tight }, h.length, h.waits⟩
    obtain ⟨⟨σ, stepped⟩, answer⟩ := tight.step driftMatched.1
    -- what has drifted by now had drifted before
    have after : (w.step operation).Parallel δ σ (w'.step operation) := by
      refine ⟨{ stepped.system with within := fun ctx k => ?_ }, stepped.length, stepped.waits⟩
      obtain ⟨types, topics⟩ := (h.system.within ctx k).drifted
      exact (stepped.system.within ctx k).loosen types topics
    obtain ⟨last, answers⟩ := ih after driftMatched.2
    exact ⟨last, congrArg₂ List.cons answer answers⟩

end Parallel

theorem driftMatchedSelf [Catalog K] [DecidableEq K] (w : Session K) (operations : List (Operation K)) :
    w.DriftMatched w operations := by
  have matchesDrift : ∀ (s : System K) (ts : TypeSupport K) (topic : String) (ctx : ContextId) (k : Handle .node),
      ts.MatchesDrift topic (s.drift s ctx k) := fun s ts topic ctx k =>
    ⟨fun drifted => absurd drifted ((s.bindings ctx k).driftTypes _), fun _ drifted =>
      absurd drifted ((s.bindings ctx k).driftTopics _ _)⟩
  induction operations generalizing w with
  | nil => trivial
  | cons operation rest ih =>
    refine ⟨?_, ih (w.step operation)⟩
    cases operation with
    | call c => cases c with
      | createPublisher | createSubscription => exact matchesDrift ..
      | _ => trivial
    | _ => trivial

theorem runParallel [Catalog K] [DecidableEq K] (δ : ContextId → Handle .node → BindingDrift)
    (before : List (Operation K)) :
    ∃ ρ, (({} : Session K).run before).Parallel δ ρ (({} : Session K).run before) := by
  have fresh : ({} : Session K).Parallel δ (fun _ _ => False) {} := ⟨.fresh δ, rfl, fun _ => .none⟩
  exact (fresh.run (driftMatchedSelf {} before)).1

end Session

section Creations

variable [Catalog K] [DecidableEq K] {call : Call K} {ctx : ContextId} {node : Handle .node} {ts : TypeSupport K}
  {topic : String} {f : Failure}

theorem System.creationDrift {s : System K} (systemInvariant : s.SystemInvariant)
    (creation : call.creation? = some (ctx, node, ts, topic)) (ctx' : ContextId) (k : Handle .node) :
    (∀ type, (s.drift (s.serve call) ctx' k).types type → (ctx' = ctx ∧ k = node) ∧ type = ts.type ∧ ts.registers) ∧
      ∀ name type, (s.drift (s.serve call) ctx' k).topics name type →
        (ctx' = ctx ∧ k = node) ∧ name = topic ∧ type = ts.type := by
  unfold System.drift
  rw [System.creationBindings systemInvariant creation]
  split
  · rename_i here
    obtain ⟨⟨rfl, rfl⟩, _⟩ := here
    exact ⟨fun _ drifted => ⟨⟨rfl, rfl⟩, TypeSupport.askedTypes drifted⟩,
      fun _ _ drifted => ⟨⟨rfl, rfl⟩, TypeSupport.askedTopics drifted⟩⟩
  · exact ⟨fun _ drifted => absurd drifted (Bindings.driftTypes _ _),
      fun _ _ drifted => absurd drifted (Bindings.driftTopics _ _ _)⟩

theorem System.Parallel.forgets {δ : ContextId → Handle .node → BindingDrift} {ρ : Pairing} {s : System K}
    (h : s.Parallel δ ρ s)
    (creation : call.creation? = some (ctx, node, ts, topic)) (failed : s.refusal call = some f) :
    s.Parallel (s.drift (s.serve call)) ρ (s.serve call) := by
  obtain ⟨l, ledgerHolds, _⟩ := h.books
  obtain ⟨contexts, next, observed, ledger⟩ := creationForgets h.systemInvariant.sound creation failed
  have evolves := (h.systemInvariant.conditionsAgree.serve h.systemInvariant.sound call).2
  refine { h with
    systemInvariant' := h.systemInvariant.serve call
    next := next
    contexts := contexts ▸ h.contexts
    within := fun ctx' k => ?_
    observed := observed ▸ h.observed
    books := ⟨l, ledgerHolds, ledger l ▸ ledgerHolds.serve h.systemInvariant.sound call⟩
    hasOwner := fun a b paired => ⟨(h.hasOwner a b paired).1, evolves.hasOwner (h.hasOwner a b paired).2⟩ }
  unfold System.drift
  rw [System.creationBindings h.systemInvariant creation]
  split
  · rename_i here
    obtain ⟨⟨rfl, rfl⟩, _⟩ := here
    exact ts.askedWithin topic _
  · exact .refl _ _

end Creations

/-- Nothing has been left behind but a type that was registered and a topic that was bound at one node. As long as every
later creation agrees with what is still left of these, all is granted or refused as it would have been. -/
structure Session.Forgets [Catalog K] [DecidableEq K] (w w' : Session K) (ctx : ContextId) (node : Handle .node)
    (ts : TypeSupport K) (topic : String) : Prop where
  types : ∀ operations, w.DriftMatched w' operations → ∀ ctx' k type,
    ((w.run operations).system.drift (w'.run operations).system ctx' k).types type →
      (ctx' = ctx ∧ k = node) ∧ type = ts.type ∧ ts.registers
  topics : ∀ operations, w.DriftMatched w' operations → ∀ ctx' k name type,
    ((w.run operations).system.drift (w'.run operations).system ctx' k).topics name type →
      (ctx' = ctx ∧ k = node) ∧ name = topic ∧ type = ts.type
  outcomes : ∀ operations, w.DriftMatched w' operations → w'.refusals operations = w.refusals operations

/-- After anything that has happened, a refused creation leaves no more behind. -/
theorem refusedForgotten [Catalog K] [DecidableEq K] (before : List (Operation K)) {call : Call K} {ctx : ContextId}
    {node : Handle .node} {ts : TypeSupport K} {topic : String}
    (creation : call.creation? = some (ctx, node, ts, topic)) {f : Failure}
    (failed : (({} : Session K).run before).refusal (.call call) = some f) :
    (({} : Session K).run before).Forgets ((({} : Session K).run before).step (.call call)) ctx node ts topic := by
  obtain ⟨ρ, same⟩ := Session.runParallel (fun _ _ => ⟨fun _ => False, fun _ _ => False⟩) before
  generalize ({} : Session K).run before = w at same failed
  have plain : call.waits = false := by
    cases call with
    | createPublisher | createSubscription => rfl
    | _ => cases creation
  simp only [Session.refusal, plain, Bool.false_eq_true, if_false] at failed
  have after : w.step (.call call) = { w with system := w.system.serve call } := by
    simp only [Session.step, plain, Bool.false_eq_true, if_false]
  rw [after]
  have parallel : w.Parallel (w.system.drift (w.system.serve call)) ρ { w with system := w.system.serve call } :=
    ⟨same.system.forgets creation failed, rfl, same.waits⟩
  have left := System.creationDrift same.system.systemInvariant creation
  refine ⟨fun _ driftMatched ctx' k type drifted => ?_, fun _ driftMatched ctx' k name type drifted => ?_,
    fun _ driftMatched =>
    (parallel.run driftMatched).2⟩
  · obtain ⟨⟨_, later⟩, _⟩ := parallel.run driftMatched
    exact (left ctx' k).1 type ((later.system.within ctx' k).drifted.1 type drifted)
  · obtain ⟨⟨_, later⟩, _⟩ := parallel.run driftMatched
    exact (left ctx' k).2 name type ((later.system.within ctx' k).drifted.2 name type drifted)

/-! ### One place for a publisher -/

def cramped : List (Operation ExampleCarrier) :=
  [.call (.init { maxHandles := 1 }), .call (.createNode 1 "talker"),
    .call (.createPublisher 1 ⟨implementationIdentifier, 1, 0, 0⟩ (.of .counter) "count")]

def intruder : Call ExampleCarrier := .createPublisher 1 ⟨implementationIdentifier, 1, 0, 0⟩ (.of .blob) "data"

def makingRoom (carrier : ExampleCarrier) : List (Operation ExampleCarrier) :=
  [.call (.destroyPublisher 1 (some ⟨implementationIdentifier, 1, 0, 0⟩)),
    .call (.createPublisher 1 ⟨implementationIdentifier, 1, 0, 0⟩ (.of carrier) "data")]

theorem crampedForgets :
    (({} : Session ExampleCarrier).run cramped).Forgets
    ((({} : Session ExampleCarrier).run cramped).step (.call intruder))
      1 ⟨implementationIdentifier, 1, 0, 0⟩ (.of .blob) "data" ∧
    ((({} : Session ExampleCarrier).run cramped).step (.call intruder)).refusals (makingRoom .blob) =
      (({} : Session ExampleCarrier).run cramped).refusals (makingRoom .blob) := by
  have refused : ((({} : Session ExampleCarrier).run cramped).refusal (.call intruder)).isSome = true := by
    decide +kernel
  obtain ⟨f, failed⟩ := Option.isSome_iff_exists.1 refused
  have forgets := refusedForgotten cramped rfl failed
  have bound : ((((({} : Session ExampleCarrier).run cramped).step (.call intruder)).run
      ((makingRoom .blob).take 1)).system.bindings 1 ⟨implementationIdentifier, 1, 0, 0⟩).bound "data" =
        some (TypeSupport.of ExampleCarrier.blob).type := by
    decide +kernel
  refine ⟨forgets, forgets.outcomes _ ⟨trivial, ⟨fun _ => rfl, ?_⟩, trivial⟩⟩
  rintro type ⟨_, after⟩
  exact Option.some.inj (after.symm.trans bound)

/-- The topic stays bound to the type that was asked for: without the refused creation another type would do. -/
theorem crampedRemembers :
    ((({} : Session ExampleCarrier).run cramped).refusal (.call intruder)).isSome = true ∧
    (((({} : Session ExampleCarrier).run cramped).step (.call intruder)).refusals (makingRoom .counter)).map
      Option.isSome =
      [false, true] ∧
    ((({} : Session ExampleCarrier).run cramped).refusals (makingRoom .counter)).map Option.isSome =
    [false, false] := by
  decide +kernel

end Databus.Middleware
