import Databus.Proofs.GraphAgreement
import Databus.Proofs.ContextEdits

/-! Handles expire: the generation of a slot goes up by one as often as it is emptied, and nothing else moves it. A
resource that is gone is refused by every call until its slot has been emptied through all generations. -/
namespace Databus.Middleware

variable {K : Type}

namespace Arena

variable {kind : Kind} {α : Type} {a a' a'' : Arena kind α}

def age (a : Arena kind α) (i : Nat) : Option UInt32 := (a.slots[i]?).map (·.generation)

structure Lasts (a a' : Arena kind α) : Prop where
  context : a'.context = a.context
  ages : ∀ i g, a.age i = some g → a'.age i = some g

structure SlotsAge (a a' : Arena kind α) : Prop where
  context : a'.context = a.context
  ages : ∀ i g, a.age i = some g → a'.age i = some g ∨ a'.age i = some (g + 1)

theorem Lasts.slotsAge (h : a.Lasts a') : a.SlotsAge a' := ⟨h.context, fun i g there => .inl (h.ages i g there)⟩

theorem Lasts.then (h : a.Lasts a') (h' : a'.SlotsAge a'') : a.SlotsAge a'' :=
  ⟨h'.context.trans h.context, fun i g there => h'.ages i g (h.ages i g there)⟩

theorem SlotsAge.refl (a : Arena kind α) : a.SlotsAge a := ⟨rfl, fun _ _ there => .inl there⟩

theorem putAge (a : Arena kind α) (i : Nat) (generation : UInt32) (value : Option α) (j : Nat) :
    (a.put i generation value).age j = if j = i then (a.age j).map fun _ => generation else a.age j := by
  simp only [age, put, List.getElem?_set]
  by_cases here : j = i
  · subst here
    by_cases inside : j < a.slots.length
    · simp [inside]
    · simp [inside]
  · simp [here, Ne.symm here]

theorem insertLasts {v : α} {h : Handle kind} (ok : a.insert v = .ok (h, a')) : a.Lasts a' := by
  unfold insert at ok
  split at ok
  · cases ok
  · split at ok
    · rename_i i rest free
      cases Except.ok.inj ok
      refine ⟨rfl, fun j g there => (putAge a i _ _ j).trans ?_⟩
      split
      · rename_i here
        have own : (a.slots[i]?).map (·.generation) = some g := here ▸ there
        rw [there, own]
        rfl
      · exact there
    · split at ok
      · cases ok
      · cases Except.ok.inj ok
        refine ⟨rfl, fun j g there => ?_⟩
        obtain ⟨slot, old, _⟩ := Option.map_eq_some_iff.1 there
        rw [age, List.getElem?_append_left (List.getElem?_eq_some_iff.1 old).1]
        exact there

theorem modifyLasts (a : Arena kind α) (h : Handle kind) (f : α → α) : a.Lasts (a.modify h f) := by
  unfold modify
  split
  · rename_i v found
    refine ⟨rfl, fun j g there => (putAge a _ _ _ j).trans ?_⟩
    split
    · rename_i here
      rw [here, age, (findExact.1 found).2.2] at there
      cases Option.some.inj there
      rw [here, age, (findExact.1 found).2.2]
      rfl
    · exact there
  · exact ⟨rfl, fun _ _ there => there⟩

theorem removeSlotsAge {v : α} {h : Handle kind} (ok : a.remove h = .ok (v, a')) :
    a.SlotsAge a' ∧ a'.age h.index = some (h.generation + 1) := by
  have own : a.age h.index = some h.generation := by
    rw [age, (findExact.1 (getExact.1 (removeExact.1 ⟨_, ok⟩))).2.2]
    rfl
  unfold remove at ok
  split at ok
  · cases ok
  · cases Except.ok.inj ok
    have ages := putAge a h.index (h.generation + 1) none
    refine ⟨⟨rfl, fun j g there => ?_⟩, ?_⟩
    · refine (Decidable.em (j = h.index)).symm.imp (fun other => ?_) fun here => ?_
      · exact (ages j).trans ((if_neg other).trans there)
      · subst here
        cases Option.some.inj (own.symm.trans there)
        exact (ages _).trans ((if_pos rfl).trans (by rw [own]; rfl))
    · exact (ages _).trans ((if_pos rfl).trans (by rw [own]; rfl))

theorem outworn {h : Handle kind} (other : ∀ g, a.age h.index = some g → g ≠ h.generation) : a.find? h = none :=
  Option.eq_none_iff_forall_ne_some.2 fun _ found => by
    refine other h.generation ?_ rfl
    rw [age, (findExact.1 found).2.2]
    rfl

theorem getMissing {h : Handle kind} (own : h.implementation = implementationIdentifier) (none : a.find? h = none) :
    ∃ text, a.get h = .error (.invalidArgument text) := by
  have stale : a.get h = .error (a.stale h) := by
    simp only [get, Handle.check, checkImplementation, own, if_true, none]
  rw [stale, Arena.stale]
  split <;> exact ⟨_, rfl⟩

end Arena

/-! ### Entities -/

inductive Entity
  | node (h : Handle .node)
  | publisher (h : Handle .publisher)
  | subscription (h : Handle .subscription)
  | guard (h : Handle .guardCondition)
  deriving DecidableEq, Repr

namespace Entity

def generation : Entity → UInt32
  | node h => h.generation
  | publisher h => h.generation
  | subscription h => h.generation
  | guard h => h.generation

def context : Entity → ContextId
  | node h => h.context
  | publisher h => h.context
  | subscription h => h.context
  | guard h => h.context

def implementation : Entity → String
  | node h => h.implementation
  | publisher h => h.implementation
  | subscription h => h.implementation
  | guard h => h.implementation

def destroy [Catalog K] (ctx : ContextId) : Entity → Call K
  | node h => .destroyNode ctx (some h)
  | publisher h => .destroyPublisher ctx (some h)
  | subscription h => .destroySubscription ctx (some h)
  | guard h => .destroyGuard ctx (some h)

end Entity

def Call.names [Catalog K] : Call K → List Entity
  | .destroyNode _ h => (h.map .node).toList
  | .graphGuard _ h | .topicNamesAndTypes _ h | .countPublishers _ h _ | .countSubscribers _ h _
  | .createPublisher _ h _ _ | .createSubscription _ h _ _ _ => [.node h]
  | .destroyPublisher _ h => (h.map .publisher).toList
  | .publisherGid _ h | .publish _ h _ => [.publisher h]
  | .destroySubscription _ h => (h.map .subscription).toList
  | .take _ h _ => [.subscription h]
  | .destroyGuard _ h => (h.map .guard).toList
  | .triggerGuard _ h => [.guard h]
  | .beginWait _ _ _ subscriptions guards =>
    subscriptions.filterMap (·.map .subscription) ++ guards.filterMap (·.map .guard)
  | _ => []

namespace Context

def age (c : Context K) : Entity → Option UInt32
  | .node h => c.nodes.age h.index
  | .publisher h => c.publishers.age h.index
  | .subscription h => c.subscriptions.age h.index
  | .guard h => c.guards.age h.index

def Lacks (c : Context K) : Entity → Prop
  | .node h => c.nodes.find? h = none
  | .publisher h => c.publishers.find? h = none
  | .subscription h => c.subscriptions.find? h = none
  | .guard h => c.guards.find? h = none

structure Placed (c : Context K) (ctx : ContextId) : Prop where
  nodes : c.nodes.context = ctx
  publishers : c.publishers.context = ctx
  subscriptions : c.subscriptions.context = ctx
  guards : c.guards.context = ctx

structure SlotsAge (c c' : Context K) : Prop where
  nodes : c.nodes.SlotsAge c'.nodes
  publishers : c.publishers.SlotsAge c'.publishers
  subscriptions : c.subscriptions.SlotsAge c'.subscriptions
  guards : c.guards.SlotsAge c'.guards

variable {c c' : Context K} {d : Entity}

theorem SlotsAge.refl (c : Context K) : c.SlotsAge c := ⟨.refl _, .refl _, .refl _, .refl _⟩

theorem SlotsAge.age (h : c.SlotsAge c') {g : UInt32} (there : c.age d = some g) :
    c'.age d = some g ∨ c'.age d = some (g + 1) := by
  cases d with
  | node k => exact h.nodes.ages _ g there
  | publisher k => exact h.publishers.ages _ g there
  | subscription k => exact h.subscriptions.ages _ g there
  | guard k => exact h.guards.ages _ g there

theorem SlotsAge.placed (h : c.SlotsAge c') {ctx : ContextId} (placed : c.Placed ctx) : c'.Placed ctx :=
  ⟨h.nodes.context.trans placed.nodes, h.publishers.context.trans placed.publishers,
    h.subscriptions.context.trans placed.subscriptions, h.guards.context.trans placed.guards⟩

theorem removeGraphGuardSlotsAge (s : Site K) (h : Handle .node) : s.context.SlotsAge (s.removeGraphGuard h) := by
  unfold Site.removeGraphGuard
  split
  · exact .refl _
  · dsimp only
    split
    · rename_i removed
      exact { SlotsAge.refl s.context with guards := (Arena.removeSlotsAge removed).1 }
    · exact { SlotsAge.refl s.context with }

theorem Edits.slotsAge (edits : c.Edits c') : c.SlotsAge c' := by
  have counted (c : Context K) (h : Handle .node) (f : Nat → Nat) : c.nodes.SlotsAge (Site.countEndpoint c h f).nodes :=
    (Arena.modifyLasts c.nodes h _).slotsAge
  cases edits with
  | same => exact .refl c
  | nodeAdded inserted guarded =>
    exact { SlotsAge.refl c with
      nodes := (Arena.insertLasts inserted).slotsAge
      guards := (Arena.insertLasts guarded).slotsAge }
  | unlodged inserted removed =>
    exact { SlotsAge.refl c with nodes := (Arena.insertLasts inserted).then (Arena.removeSlotsAge removed).1 }
  | parted own removed =>
    subst own
    exact { removeGraphGuardSlotsAge _ _ with nodes := (Arena.removeSlotsAge removed).1 }
  | guarded inserted => exact { SlotsAge.refl c with guards := (Arena.insertLasts inserted).slotsAge }
  | unguarded own removed => exact { SlotsAge.refl c with guards := (Arena.removeSlotsAge removed).1 }
  | @published _ r publishers inserted =>
    exact { SlotsAge.refl c with
      nodes := counted { c with publishers := publishers } r.node _
      publishers := (Arena.insertLasts inserted).slotsAge }
  | @unpublished _ r publishers removed =>
    exact { SlotsAge.refl c with
      nodes := counted { c with publishers := publishers } r.node _
      publishers := (Arena.removeSlotsAge removed).1 }
  | @subscribed _ r subscriptions inserted =>
    exact { SlotsAge.refl c with
      nodes := counted { c with subscriptions := subscriptions } r.node _
      subscriptions := (Arena.insertLasts inserted).slotsAge }
  | @unsubscribed _ r subscriptions removed =>
    exact { SlotsAge.refl c with
      nodes := counted { c with subscriptions := subscriptions } r.node _
      subscriptions := (Arena.removeSlotsAge removed).1 }

theorem lacksElsewhere {ctx : ContextId} (placed : c.Placed ctx) (other : d.context ≠ ctx) : c.Lacks d := by
  have elsewhere {kind : Kind} {α : Type} {a : Arena kind α} (own : a.context = ctx) (h : Handle kind)
      (away : h.context ≠ ctx) : a.find? h = none := Option.eq_none_iff_forall_ne_some.2 fun _ found =>
    away ((Arena.findExact.1 found).2.1.trans own)
  cases d with
  | node k => exact elsewhere placed.nodes k other
  | publisher k => exact elsewhere placed.publishers k other
  | subscription k => exact elsewhere placed.subscriptions k other
  | guard k => exact elsewhere placed.guards k other

theorem lacksOutworn (other : ∀ g, c.age d = some g → g ≠ d.generation) : c.Lacks d := by
  cases d <;> exact Arena.outworn other

end Context

/-! ### Runs -/

namespace System

def age (s : System K) (d : Entity) : Option UInt32 := (s.contexts.get? d.context).bind (·.age d)

theorem ageKnown {s : System K} {d : Entity} {c : Context K} (known : s.contexts.get? d.context = some c) :
    s.age d = c.age d := by
  rw [age, known, Option.bind_some]

def Placed (s : System K) : Prop := ∀ ctx c, s.contexts.get? ctx = some c → c.Placed ctx

/-- The slot of a resource that is gone has been emptied `n` times since the resource came. -/
structure Retired (s : System K) (d : Entity) (n : Nat) : Prop where
  placed : s.Placed
  opened : d.context < s.nextContext
  worn : ∀ c, s.contexts.get? d.context = some c → c.age d = some (d.generation + UInt32.ofNat n)

theorem Retired.lacks {s : System K} {d : Entity} {n : Nat} (h : s.Retired d n) (turning : ¬ UInt32.size ∣ n)
    {ctx : ContextId} {c : Context K} (known : s.contexts.get? ctx = some c) : c.Lacks d := by
  by_cases own : d.context = ctx
  · refine Context.lacksOutworn fun g there same => ?_
    have worn := h.worn c (own ▸ known)
    rw [there, same] at worn
    have wrapped := congrArg UInt32.toNat (Option.some.inj worn)
    rw [UInt32.toNat_add, UInt32.toNat_ofNat'] at wrapped
    have bound := d.generation.toNat_lt
    change ¬ 4294967296 ∣ n at turning
    omega
  · exact Context.lacksElsewhere (h.placed ctx c known) own

variable [Catalog K] [DecidableEq K]

def emptied (s : System K) (d : Entity) (call : Call K) : Nat :=
  match s.age d, (s.serve call).age d with
  | some g, some g' => if g' = g then 0 else 1
  | _, _ => 0

def removals (s : System K) (d : Entity) : List (Call K) → Nat
  | [] => 0
  | call :: rest => s.emptied d call + (s.serve call).removals d rest

variable {s : System K} {d : Entity} {n : Nat}

theorem wornServe (sound : s.Sound) (opened : d.context < s.nextContext) (call : Call K) {g : UInt32}
    (worn : ∀ c, s.contexts.get? d.context = some c → c.age d = some g) (c : Context K)
    (known : (s.serve call).contexts.get? d.context = some c) :
    c.age d = some (g + UInt32.ofNat (s.emptied d call)) := by
  have still (before : s.contexts.get? d.context = some c) : c.age d = some (g + UInt32.ofNat (s.emptied d call)) := by
    have there := worn c before
    rw [emptied, ageKnown before, ageKnown known, there]
    simp
  cases serveEdited sound call with
  | idle contexts => exact still (contexts ▸ known)
  | opened settings contexts =>
    refine still ?_
    rw [contexts, Table.getInsert, if_neg (Nat.ne_of_lt opened)] at known
    exact known
  | closed contexts =>
    refine still ?_
    rw [contexts, Table.getErase] at known
    split at known
    · cases known
    · exact known
  | @acted ctx c₀ c' there edits contexts =>
    by_cases own : d.context = ctx
    · have after := known
      rw [contexts, Table.getInsert, if_pos own] at after
      cases Option.some.inj after
      have before := worn c₀ (own ▸ there)
      rw [emptied, ageKnown (own ▸ there : s.contexts.get? d.context = some c₀), ageKnown known, before]
      rcases edits.slotsAge.age before with same | next
      · simp [same]
      · rw [next]
        dsimp only
        split
        · rename_i same
          rw [same]
          simp
        · rfl
    · refine still ?_
      rw [contexts, Table.getInsert, if_neg own] at known
      exact known

omit [Catalog K] [DecidableEq K] in
theorem placedFresh : ({} : System K).Placed := fun _ _ known => nomatch known

theorem Placed.serve (h : s.Placed) (sound : s.Sound) (call : Call K) : (s.serve call).Placed :=
  (serveEdited sound call).keeps (fun _ => ⟨rfl, rfl, rfl, rfl⟩)
    (fun _ _ _ _ edits placed => edits.slotsAge.placed placed) h

theorem Placed.serveAll (h : s.Placed) (sound : s.Sound) (calls : List (Call K)) : (s.serveAll calls).Placed := by
  induction calls generalizing s with
  | nil => exact h
  | cons call rest ih => exact ih (h.serve sound call) (serveSound sound call)

theorem Retired.serve (h : s.Retired d n) (sound : s.Sound) (call : Call K) :
    (s.serve call).Retired d (n + s.emptied d call) where
  placed := h.placed.serve sound call
  opened := by
    have opened := h.opened
    cases serveEdited sound call with
    | idle _ next | closed _ next | acted _ _ _ next => exact next ▸ opened
    | opened _ _ next => exact next ▸ Nat.lt_succ_of_lt opened
  worn c known := by
    rw [wornServe sound h.opened call h.worn c known, UInt32.ofNat_add, UInt32.add_assoc]

theorem Retired.serveAll (h : s.Retired d n) (sound : s.Sound) (calls : List (Call K)) :
    (s.serveAll calls).Retired d (n + s.removals d calls) := by
  induction calls generalizing s n with
  | nil => exact h
  | cons call rest ih =>
    rw [removals, ← Nat.add_assoc]
    exact ih (h.serve sound call) (serveSound sound call)

/-! ### Refusals -/

omit [Catalog K] [DecidableEq K] in
theorem performRefusal {α : Type} (s : System K) (ctx : ContextId) (operation : String)
    (call : Site K → Site K × Except Failure α) : refused (s.perform ctx operation call).2 =
      ((s.contexts.get? ctx).map fun c => refused (call ⟨s.bus, s.observed, c⟩).2).getD
        (some (.invalidArgument "context is shut down")) := by
  cases known : s.contexts.get? ctx with
  | none =>
    simp only [perform, known, report]
    rfl
  | some c => exact congrArg refused (performAnswer operation known)

omit [Catalog K] [DecidableEq K] in
theorem performRefuses {α : Type} {ctx : ContextId} {operation : String} {call : Site K → Site K × Except Failure α}
    (fails : ∀ c, s.contexts.get? ctx = some c → ∃ f, (call ⟨s.bus, s.observed, c⟩).2 = .error f) :
    ∃ f, refused (s.perform ctx operation call).2 = some f := by
  rw [performRefusal]
  cases known : s.contexts.get? ctx with
  | none => exact ⟨_, rfl⟩
  | some c => exact (fails c known).imp fun f => refusedExact.2

theorem destroyRefuses (lacks : ∀ ctx c, s.contexts.get? ctx = some c → c.Lacks d)
    (own : d.implementation = implementationIdentifier) (ctx : ContextId) :
    ∃ text, s.refusal (d.destroy ctx) = some (.invalidArgument text) := by
  have answers {operation : String} {call : Site K → Site K × Except Failure Unit}
      (fails : ∀ c, s.contexts.get? ctx = some c →
        ∃ text, (call ⟨s.bus, s.observed, c⟩).2 = .error (.invalidArgument text)) :
      ∃ text, refused (s.perform ctx operation call).2 = some (.invalidArgument text) := by
    rw [performRefusal]
    cases known : s.contexts.get? ctx with
    | none => exact ⟨_, rfl⟩
    | some c => exact (fails c known).imp fun text => refusedExact.2
  cases d with
  | node h =>
    refine answers fun c known => ?_
    obtain ⟨text, got⟩ := Arena.getMissing own (lacks ctx c known)
    simp only [Site.destroyNode, Handle.require, Site.node, got]
    exact ⟨text, rfl⟩
  | publisher h =>
    refine answers fun c known => ?_
    obtain ⟨text, got⟩ := Arena.getMissing own (lacks ctx c known)
    simp only [Site.destroyPublisher, Handle.require, Arena.remove, got]
    exact ⟨text, rfl⟩
  | subscription h =>
    refine answers fun c known => ?_
    obtain ⟨text, got⟩ := Arena.getMissing own (lacks ctx c known)
    simp only [Site.destroySubscription, Handle.require, Arena.remove, got]
    exact ⟨text, rfl⟩
  | guard h =>
    refine answers fun c known => ?_
    obtain ⟨text, got⟩ := Arena.getMissing own (lacks ctx c known)
    simp only [Site.destroyGuard, Handle.require, got]
    exact ⟨text, rfl⟩

omit [Catalog K] [DecidableEq K] in
theorem resolveMissing {kind : Kind} {α : Type} {arena : Arena kind α} (condition : α → ConditionId)
    {h : Handle kind} (none : arena.find? h = none) {slots : List (Option (Handle kind))} (listed : some h ∈ slots) :
    ∃ f, Site.resolve arena condition slots = .error f := by
  induction slots with
  | nil => cases listed
  | cons slot rest ih =>
    cases slot with
    | none =>
      obtain ⟨f, failed⟩ := ih ((List.mem_cons.1 listed).resolve_left (Option.some_ne_none h))
      exact ⟨f, by rw [Site.resolve, failed]; rfl⟩
    | some k =>
      rw [Site.resolve]
      cases got : arena.get k with
      | error f => exact ⟨f, rfl⟩
      | ok a =>
        rcases List.mem_cons.1 listed with own | later
        · cases own
          cases none.symm.trans (Arena.getExact.1 got)
        · obtain ⟨f, failed⟩ := ih later
          exact ⟨f, by rw [failed]; rfl⟩

theorem namesRefused (lacks : ∀ ctx c, s.contexts.get? ctx = some c → c.Lacks d)
    (own : d.implementation = implementationIdentifier) {call : Call K} (named : d ∈ call.names) :
    ∃ f, s.refusal call = some f := by
  have destroyed (ctx : ContextId) (same : call = d.destroy ctx) : ∃ f, s.refusal call = some f := by
    obtain ⟨text, failed⟩ := destroyRefuses lacks own ctx
    exact ⟨_, same ▸ failed⟩
  cases call with
  | destroyNode ctx h | destroyPublisher ctx h | destroySubscription ctx h | destroyGuard ctx h =>
    cases h with
    | none => cases named
    | some h => exact destroyed ctx (by rw [List.mem_singleton.1 named]; rfl)
  | graphGuard ctx h | topicNamesAndTypes ctx h | countPublishers ctx h topic | countSubscribers ctx h topic =>
    cases List.mem_singleton.1 named
    refine performRefuses fun c known => ?_
    obtain ⟨f, got⟩ := Arena.getNone (lacks ctx c known)
    simp only [Site.graphGuard, Site.topicNamesAndTypes, Site.countEndpoints, Site.node, got]
    exact ⟨f, rfl⟩
  | createPublisher ctx h ts topic | createSubscription ctx h ts topic size =>
    cases List.mem_singleton.1 named
    refine performRefuses fun c known => ?_
    have refused : ∃ f, Site.prepare ⟨s.bus, s.observed, c⟩ h ts topic = (⟨s.bus, s.observed, c⟩, .error f) := by
      obtain ⟨f, got⟩ := Arena.getNone (lacks ctx c known)
      simp only [Site.prepare, Site.node, got]
      cases Site.checkRequest h ts topic <;> exact ⟨_, rfl⟩
    obtain ⟨f, refused⟩ := refused
    simp only [Site.createPublisher, Site.createSubscription, refused]
    exact ⟨f, rfl⟩
  | publisherGid ctx h | publish ctx h m =>
    cases List.mem_singleton.1 named
    refine performRefuses fun c known => ?_
    obtain ⟨f, got⟩ := Arena.getNone (lacks ctx c known)
    simp only [Site.publisherGid, Site.publish, got]
    exact ⟨f, rfl⟩
  | take ctx h slot =>
    cases List.mem_singleton.1 named
    refine performRefuses fun c known => ?_
    obtain ⟨f, got⟩ := Arena.getNone (lacks ctx c known)
    simp only [Site.take, got]
    exact ⟨f, rfl⟩
  | triggerGuard ctx h =>
    cases List.mem_singleton.1 named
    refine performRefuses fun c known => ?_
    obtain ⟨f, got⟩ := Arena.getNone (lacks ctx c known)
    simp only [Site.triggerGuard, got]
    exact ⟨f, rfl⟩
  | beginWait ctx clock timeout subscriptions guards =>
    refine performRefuses fun c known => ?_
    have missing := lacks ctx c known
    simp only [Call.names, List.mem_append, List.mem_filterMap, Option.map_eq_some_iff] at named
    unfold Site.beginWait
    rcases named with ⟨_, listed, h, rfl, rfl⟩ | ⟨_, listed, h, rfl, rfl⟩
    · obtain ⟨f, failed⟩ := resolveMissing SubscriptionRecord.condition missing listed
      simp only [failed]
      exact ⟨f, rfl⟩
    · obtain ⟨f, failed⟩ := resolveMissing GuardRecord.condition missing listed
      cases Site.resolve c.subscriptions SubscriptionRecord.condition subscriptions with
      | error f => exact ⟨f, rfl⟩
      | ok resolved =>
        simp only [failed]
        exact ⟨f, rfl⟩
  | _ => cases named

theorem Retired.refused (h : s.Retired d 1) (sound : s.Sound) (own : d.implementation = implementationIdentifier)
    {later : List (Call K)} (few : s.removals d later < UInt32.size - 1) :
    (∀ call : Call K, d ∈ call.names → ∃ f, (s.serveAll later).refusal call = some f) ∧
      ∀ ctx, ∃ text, (s.serveAll later).refusal (d.destroy ctx) = some (.invalidArgument text) := by
  have turning : ¬ UInt32.size ∣ 1 + s.removals d later := Nat.not_dvd_of_pos_of_lt (by omega) (by omega)
  have lacks (ctx : ContextId) (c : Context K) (known : (s.serveAll later).contexts.get? ctx = some c) : c.Lacks d :=
    (h.serveAll sound later).lacks turning known
  exact ⟨fun call named => namesRefused lacks own named, destroyRefuses lacks own⟩

end System
end Databus.Middleware
