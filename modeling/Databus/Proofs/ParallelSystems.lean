import Databus.Proofs.BindingDrift
import Databus.Proofs.ConditionPairing
import Databus.Proofs.FailureRollback

/-! Two systems that have come the same way, but for what has drifted on some nodes. Whatever call comes next, both
grant it or refuse it with the same failure, and are as close afterwards as before. -/
namespace Databus.Middleware

variable {K : Type}

/-! ### Messages -/

namespace Site

variable [Catalog K] [DecidableEq K] {ρ : Pairing} {t t' : Table ContextId (Context K)} {ctx : ContextId}
  {s s' : Site K}

theorem publishExact (linked : Linked s.bus (.of t)) (known : t.get? ctx = some s.context) {h : Handle .publisher}
    {r : PublisherRecord K} (found : s.context.publishers.find? h = some r) (m : Message K) :
    (s.publish h m).1.context = s.context ∧ (s.publish h m).2 =
      match r.support.encode m with
      | .error f => .error f
      | .ok payload =>
        if payload.length ≤ standardPayloadLimit then .ok ()
        else .error (.transportFailure
          s!"failed to publish message: {(Fault.payloadTooLarge payload.length standardPayloadLimit).message}") := by
  have held : (Directory.of t).entry ctx (.publisher h) = some r.entry :=
    ((Directory.ofKnown known).2.2 _).trans (congrArg (Option.map PublisherRecord.entry) found)
  obtain ⟨n, domain, _, _, _, ownsEndpoint⟩ := linked.ownsEndpoint ctx _ _ held
  have writer := ownsEndpoint.writer rfl
  simp only [publish, Arena.getExact.2 found, TypeSupport.publish]
  cases r.support.encode m with
  | error f => exact ⟨rfl, rfl⟩
  | ok payload =>
    dsimp only
    by_cases fits : payload.length ≤ standardPayloadLimit
    · have written : s.bus.write r.writer payload = _ := Bus.writeGranted writer rfl fits
      rw [written, if_pos fits]
      exact ⟨rfl, rfl⟩
    · have written : s.bus.write r.writer payload = _ := Bus.writeRefused writer rfl (Nat.not_le.1 fits)
      rw [written, if_neg fits]
      exact ⟨rfl, rfl⟩

theorem publishParallel (linked : Linked s.bus (.of t)) (linked' : Linked s'.bus (.of t'))
    (known : t.get? ctx = some s.context) (known' : t'.get? ctx = some s'.context)
    (alike : s.context.Alike ρ s'.context) (h : Handle .publisher) (m : Message K) :
    ParallelOutcome ρ Eq s.context s'.context (s.publish h m) (s'.publish h m) := by
  rcases relOpens (alike.publishers.find h) with ⟨absent, absent'⟩ | ⟨r, r', found, found', related⟩
  · rcases (alike.publishers.get h).opens with ⟨f, gone, gone'⟩ | ⟨r, _, got, _⟩
    · simp only [publish, gone, gone']
      exact .plain alike (.error f)
    · cases absent.symm.trans (Arena.getExact.1 got)
  · obtain ⟨context, answer⟩ := publishExact linked known found m
    obtain ⟨context', answer'⟩ := publishExact linked' known' found' m
    refine .plain (by rw [context, context']; exact alike) ?_
    rw [answer, answer', related.support]
    cases r.support.encode m with
    | error f => exact .error f
    | ok payload =>
      dsimp only
      split
      · exact .ok rfl
      · exact .error _

theorem takeParallel {l : QueueLedger K} (books : LedgerHolds s.bus (.of t) l) (books' : LedgerHolds s'.bus (.of t') l)
    (known : t.get? ctx = some s.context) (known' : t'.get? ctx = some s'.context)
    (alike : s.context.Alike ρ s'.context) (h : Handle .subscription) (slot : Option K) :
    ParallelOutcome ρ Eq s.context s'.context (s.take h slot) (s'.take h slot) := by
  rcases relOpens (alike.subscriptions.find h) with ⟨absent, absent'⟩ | ⟨r, r', found, found', related⟩
  · rcases (alike.subscriptions.get h).opens with ⟨f, gone, gone'⟩ | ⟨r, _, got, _⟩
    · simp only [take, gone, gone']
      exact .plain alike (.error f)
    · cases absent.symm.trans (Arena.getExact.1 got)
  · have line := books.lineKnown known (.subscription h)
    rw [Context.findEntry, found, Option.map_some, Option.map_some] at line
    obtain ⟨context, answer, _⟩ := books.taking known s.observed line slot
    obtain ⟨context', answer', _⟩ := books'.taking known' s'.observed line slot
    refine .plain (by rw [context, context']; exact alike) ?_
    rw [answer, answer']
    cases LedgerLine.taken _ _ slot with
    | error f => exact .error f
    | ok taken => exact .ok rfl

end Site

/-! ### Two systems -/

namespace System

variable {δ : ContextId → Handle .node → BindingDrift} {ρ σ : Pairing} {s s' v v' : System K}

theorem performNext {α : Type} (s : System K) (ctx : ContextId) (operation : String)
    (call : Site K → Site K × Except Failure α) : (s.perform ctx operation call).1.nextContext = s.nextContext := by
  unfold perform
  split
  · rfl
  · dsimp only
    generalize (call _).2 = result
    cases result <;> rfl

structure Hosts (s : System K) (ctx : ContextId) (t : Site K) : Prop where
  known : s.contexts.get? ctx = some t.context
  bus : t.bus = s.bus
  observed : t.observed = s.observed

structure Follows (ρ σ : Pairing) (s s' v v' : System K) : Prop where
  next : v'.nextContext = v.nextContext
  contexts : ∀ ctx, Option.Rel (Context.Alike σ) (v.contexts.get? ctx) (v'.contexts.get? ctx)
  grown : σ = ρ ∨ ∃ ctx i k k', s.condition? ctx i = none ∧ s'.condition? ctx i = none ∧
    v.condition? ctx i = some k ∧ v'.condition? ctx i = some k' ∧ σ = ρ.joined k k'

theorem Follows.wider (h : Follows ρ σ s s' v v') (k k' : ConditionId) (paired : ρ k k') : σ k k' := by
  rcases h.grown with rfl | ⟨_, _, _, _, _, _, _, _, rfl⟩
  · exact paired
  · exact .inl paired

theorem Follows.same (next : v'.nextContext = v.nextContext)
    (contexts : ∀ ctx, Option.Rel (Context.Alike ρ) (v.contexts.get? ctx) (v'.contexts.get? ctx)) :
    Follows ρ ρ s s' v v' := ⟨next, contexts, .inl rfl⟩

structure Parallel (δ : ContextId → Handle .node → BindingDrift) (ρ : Pairing) (s s' : System K) : Prop where
  systemInvariant : s.SystemInvariant
  systemInvariant' : s'.SystemInvariant
  next : s'.nextContext = s.nextContext
  contexts : ∀ ctx, Option.Rel (Context.Alike ρ) (s.contexts.get? ctx) (s'.contexts.get? ctx)
  within : ∀ ctx h, (s.bindings ctx h).Within (δ ctx h) (s'.bindings ctx h)
  observed : ρ.Matches s.observed s'.observed
  books : ∃ l, LedgerHolds s.bus (.of s.contexts) l ∧ LedgerHolds s'.bus (.of s'.contexts) l
  sole : ρ.Sole
  hasOwner : ∀ k k', ρ k k' → s.bus.HasOwner k ∧ s'.bus.HasOwner k'

theorem Parallel.fresh (δ : ContextId → Handle .node → BindingDrift) :
    Parallel δ (fun _ _ => False) ({} : System K) {} where
  systemInvariant := .fresh
  systemInvariant' := .fresh
  next := rfl
  contexts _ := .none
  within _ _ := .refl _ _
  observed := ⟨fun _ mem => (nomatch mem), fun _ mem => (nomatch mem)⟩
  books := ⟨{}, .fresh, .fresh⟩
  sole := ⟨fun _ _ _ paired => paired.elim, fun _ _ _ paired => paired.elim⟩
  hasOwner _ _ paired := paired.elim

namespace Parallel

theorem perform (h : Parallel δ ρ s s') {α β : Type} {R : α → β → Prop} (ctx : ContextId) (operation : String)
    {call : Site K → Site K × Except Failure α} {call' : Site K → Site K × Except Failure β}
    (parallel : ∀ t t' : Site K, s.Hosts ctx t → s'.Hosts ctx t' → t.context.Alike ρ t'.context →
      ParallelOutcome ρ R t.context t'.context (call t) (call' t')) :
    (∃ σ, Follows ρ σ s s' (s.perform ctx operation call).1 (s'.perform ctx operation call').1) ∧
      Tied R (s.perform ctx operation call).2 (s'.perform ctx operation call').2 := by
  rcases relOpens (h.contexts ctx) with ⟨unknown, unknown'⟩ | ⟨c, c', known, known', alike⟩
  · simp only [System.perform, unknown, unknown', report]
    exact ⟨⟨ρ, .same h.next h.contexts⟩, .error _⟩
  · obtain ⟨⟨σ, grown, alike'⟩, answer⟩ :=
      parallel ⟨s.bus, s.observed, c⟩ ⟨s'.bus, s'.observed, c'⟩ ⟨known, rfl, rfl⟩ ⟨known', rfl, rfl⟩ alike
    rcases performSplit s ctx operation call with ⟨unknown, _⟩ | ⟨_, there, _, contexts, answered⟩
    · cases unknown.symm.trans known
    cases Option.some.inj (there.symm.trans known)
    rcases performSplit s' ctx operation call' with ⟨unknown, _⟩ | ⟨_, there', _, contexts', answered'⟩
    · cases unknown.symm.trans known'
    cases Option.some.inj (there'.symm.trans known')
    rw [answered, answered']
    refine ⟨⟨σ, ?_, fun ctx' => ?_, ?_⟩, answer⟩
    · rw [performNext, performNext, h.next]
    · rw [contexts, contexts', Table.getInsert, Table.getInsert]
      split
      · exact .some alike'
      · rcases relOpens (h.contexts ctx') with ⟨none, none'⟩ | ⟨e, e', there, there', related⟩
        · rw [none, none']
          exact .none
        · rw [there, there']
          exact .some (related.weaken grown.wider)
    · cases grown with
      | same => exact .inl rfl
      | @joined i k k' vacant vacant' live live' =>
        refine .inr ⟨ctx, i, k, k', ?_, ?_, ?_, ?_, rfl⟩
        · rw [condition?, known]
          exact vacant
        · rw [condition?, known']
          exact vacant'
        · rw [condition?, contexts, Table.getInsert, if_pos rfl]
          exact live
        · rw [condition?, contexts', Table.getInsert, if_pos rfl]
          exact live'

variable [Catalog K] [DecidableEq K]

theorem step (h : Parallel δ ρ s s') {call call' : Call K} (follows : Follows ρ σ s s' (s.serve call) (s'.serve call'))
    (ledger : ∀ l : QueueLedger K, l.serve s' call' = l.serve s call)
    (within : ∀ ctx k, ((s.serve call).bindings ctx k).Within (δ ctx k) ((s'.serve call').bindings ctx k))
    (observed : σ.Matches (s.serve call).observed (s'.serve call').observed) :
    Parallel δ σ (s.serve call) (s'.serve call') := by
  obtain ⟨l, ledgerHolds, ledgerHolds'⟩ := h.books
  obtain ⟨conditionsAgree, evolves⟩ := h.systemInvariant.conditionsAgree.serve h.systemInvariant.sound call
  obtain ⟨conditionsAgree', evolves'⟩ := h.systemInvariant'.conditionsAgree.serve h.systemInvariant'.sound call'
  have sole : σ.Sole := by
    rcases follows.grown with rfl | ⟨ctx, i, k, k', vacant, vacant', live, live', rfl⟩
    · exact h.sole
    · -- nobody had either condition before, so neither goes with another one
      refine h.sole.joined (fun a paired => ?_) fun a paired => ?_
      · rcases serveConditions h.systemInvariant.sound h.systemInvariant.conditionsAgree call live with old | new
        · cases vacant.symm.trans old
        · exact new (h.hasOwner _ _ paired).1
      · rcases serveConditions h.systemInvariant'.sound h.systemInvariant'.conditionsAgree call' live' with old | new
        · cases vacant'.symm.trans old
        · exact new (h.hasOwner _ _ paired).2
  have hasOwner : ∀ k k', σ k k' → (s.serve call).bus.HasOwner k ∧ (s'.serve call').bus.HasOwner k' := by
    have old : ∀ k k', ρ k k' → (s.serve call).bus.HasOwner k ∧ (s'.serve call').bus.HasOwner k' := fun k k' paired =>
      ⟨evolves.hasOwner (h.hasOwner k k' paired).1, evolves'.hasOwner (h.hasOwner k k' paired).2⟩
    rcases follows.grown with rfl | ⟨ctx, i, k, k', _, _, live, live', rfl⟩
    · exact old
    · rintro a a' (paired | ⟨rfl, rfl⟩)
      · exact old a a' paired
      · exact ⟨conditionsAgree.hasOwner live, conditionsAgree'.hasOwner live'⟩
  exact {
    systemInvariant := h.systemInvariant.serve call
    systemInvariant' := h.systemInvariant'.serve call'
    next := follows.next
    contexts := follows.contexts
    within := within
    observed := observed
    books := ⟨l.serve s call, ledgerHolds.serve h.systemInvariant.sound call,
      ledger l ▸ ledgerHolds'.serve h.systemInvariant'.sound call'⟩
    sole := sole
    hasOwner := hasOwner }

end Parallel
end System
end Databus.Middleware
