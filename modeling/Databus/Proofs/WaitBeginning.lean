import Databus.Proofs.ContextCalls
import Databus.Proofs.ConditionTriggers

/-! How a wait begins: every listed handle is resolved to the condition of its record, every condition is claimed
once, and all are attached to a wait set of the wait's own. Only a handle or a claim can be refused. -/
namespace Databus.Middleware

open Bus (OnlyWaits)

namespace Site

variable {K : Type}

/-! ### Resolving -/

structure Filled {kind : Kind} {α : Type} (arena : Arena kind α) (condition : α → ConditionId)
    (handles : List (Option (Handle kind))) (slots : Slots kind) : Prop where
  listed : slots.map (Option.map Prod.fst) = handles
  held : ∀ h c, some (h, c) ∈ slots → ∃ a, arena.find? h = some a ∧ condition a = c

theorem resolveFilled {kind : Kind} {α : Type} {arena : Arena kind α} {condition : α → ConditionId}
    {handles : List (Option (Handle kind))} {slots : Slots kind}
    (ok : resolve arena condition handles = .ok slots) : Filled arena condition handles slots := by
  induction handles generalizing slots with
  | nil =>
    cases ok
    exact ⟨rfl, fun _ _ mem => (nomatch mem)⟩
  | cons slot rest ih =>
    cases slot with
    | none =>
      obtain ⟨slots', resolved, rfl⟩ := mapOk ok
      obtain ⟨listed, held⟩ := ih resolved
      refine ⟨congrArg (none :: ·) listed, fun h c mem => ?_⟩
      rcases List.mem_cons.1 mem with own | mem
      · cases own
      · exact held h c mem
    | some k =>
      simp only [resolve] at ok
      cases got : arena.get k with
      | error f =>
        rw [got] at ok
        cases ok
      | ok a =>
        rw [got] at ok
        obtain ⟨slots', resolved, rfl⟩ := mapOk ok
        obtain ⟨listed, held⟩ := ih resolved
        refine ⟨congrArg (some k :: ·) listed, fun h c mem => ?_⟩
        rcases List.mem_cons.1 mem with own | mem
        · cases own
          exact ⟨a, Arena.getExact.1 got, rfl⟩
        · exact held h c mem

theorem memConditions {kind : Kind} {slots : Slots kind} {c : ConditionId} :
    c ∈ slots.conditions ↔ ∃ h, some (h, c) ∈ slots := by
  simp only [Slots.conditions, List.mem_filterMap]
  constructor
  · rintro ⟨_ | ⟨h, c'⟩, mem, eq⟩
    · cases eq
    · cases eq
      exact ⟨h, mem⟩
  · rintro ⟨h, mem⟩
    exact ⟨some (h, c), mem, rfl⟩

/-! ### Claiming -/

theorem claimsConditions (t : Ticket) : t.claims.map Prod.snd = t.conditions := by
  simp only [Ticket.claims, Ticket.conditions, List.map_append, List.map_map, Function.comp_def, List.map_id']

theorem claimsSubscription (t : Ticket) (c : ConditionId) :
    (Waitable.subscription, c) ∈ t.claims ↔ c ∈ t.subscriptions.conditions := by
  simp [Ticket.claims]

theorem claimExact {observed observed' : List ConditionId} {claims : List (Waitable × ConditionId)}
    (ok : claim observed claims = .ok observed') :
    observed' = (claims.map Prod.snd).reverse ++ observed ∧ (claims.map Prod.snd).Nodup ∧
      ∀ c ∈ claims.map Prod.snd, c ∉ observed := by
  induction claims generalizing observed with
  | nil =>
    cases ok
    exact ⟨rfl, .nil, fun _ mem => (nomatch mem)⟩
  | cons first rest ih =>
    obtain ⟨w, c⟩ := first
    rw [claim] at ok
    split at ok
    · cases ok
    · rename_i free
      obtain ⟨all, nodup, apart⟩ := ih ok
      have new : c ∉ rest.map Prod.snd := fun mem => apart c mem List.mem_cons_self
      refine ⟨?_, List.nodup_cons.2 ⟨new, nodup⟩, fun c' mem => ?_⟩
      · rw [all, List.map_cons, List.reverse_cons, List.append_assoc]
        rfl
      · rcases List.mem_cons.1 mem with own | mem
        · rw [own]
          exact free
        · exact fun held => apart c' mem (List.mem_cons_of_mem _ held)

/-! ### Attaching -/

theorem wakeAttached (b : Bus) (h : Hook) (ws : WaitSetId) : (b.wake h).attachedTo ws = b.attachedTo ws := by
  cases h with
  | signal key id => rfl
  | waitSet key =>
    simp only [Bus.attachedTo, Bus.wake, Table.getModify]
    by_cases own : ws = key
    · rw [if_pos own, own]
      cases b.waitSets.get? key <;> rfl
    · rw [if_neg own]

theorem notifyAttached (b : Bus) (c : ConditionId) (ws : WaitSetId) :
    (b.notify c).attachedTo ws = b.attachedTo ws :=
  List.foldlRecOn (motive := fun b' : Bus => b'.attachedTo ws = b.attachedTo ws) _ _ rfl
    fun b' same h _ => (wakeAttached b' h ws).trans same

theorem setEnabledAttached (b : Bus) (c : ConditionId) (mask : StatusMask) (ws : WaitSetId) :
    (b.setEnabled c mask).attachedTo ws = b.attachedTo ws := by
  unfold Bus.setEnabled
  split
  · dsimp only
    split
    · exact notifyAttached _ c ws
    · rfl
  · rfl

theorem attachAttached {b b' : Bus} {ws : WaitSetId} {c c' : ConditionId} (ok : b.attach ws c = .ok b')
    (mem : c' ∈ b'.attachedTo ws) : c' ∈ b.attachedTo ws ∨ c' = c := by
  have hooked : (b.addHook c (.waitSet ws)).attachedTo ws = b.attachedTo ws := by
    unfold Bus.addHook
    dsimp only
    split
    · exact wakeAttached _ _ ws
    · rfl
  unfold Bus.attach at ok
  split at ok
  · cases ok
  · cases ok
    rw [← hooked]
    simp only [Bus.attachedTo, Table.getModify, if_pos] at mem ⊢
    cases found : (b.addHook c (.waitSet ws)).waitSets.get? ws with
    | none =>
      rw [found] at mem
      cases mem
    | some x =>
      rw [found] at mem
      exact (List.mem_append.1 mem).imp_right List.mem_singleton.1

theorem attachFree {b : Bus} {ws : WaitSetId} {c : ConditionId} (free : c ∉ b.attachedTo ws) :
    ∃ b', b.attach ws c = .ok b' := by
  unfold Bus.attach
  rw [if_neg free]
  exact ⟨_, rfl⟩

def enabled (b : Bus) : Waitable × ConditionId → Bus
  | (.subscription, c) => b.setEnabled c .dataAvailable
  | (.guardCondition, _) => b

theorem attachAllFirst {b b' : Bus} {ws : WaitSetId} {first : Waitable × ConditionId}
    (ok : (enabled b first).attach ws first.2 = .ok b') (rest : List (Waitable × ConditionId)) :
    attachAll b ws (first :: rest) = attachAll b' ws rest := by
  obtain ⟨_ | _, c⟩ := first <;>
    · simp only [enabled] at ok
      simp only [attachAll, ok]

theorem enabledAttached (b : Bus) (claim : Waitable × ConditionId) (ws : WaitSetId) :
    (enabled b claim).attachedTo ws = b.attachedTo ws := by
  obtain ⟨_ | _, c⟩ := claim
  · exact setEnabledAttached b c _ ws
  · rfl

theorem enabledTriggers (b : Bus) (claim : Waitable × ConditionId) (k : ConditionId) :
    (enabled b claim).trigger? k =
      if (.subscription, k) = claim then (b.trigger? k).map (.enable .dataAvailable) else b.trigger? k := by
  obtain ⟨_ | _, c⟩ := claim
  · refine ((Bus.setEnabledAdjusts b c .dataAvailable).2 k).trans ?_
    by_cases own : k = c
    · rw [own, if_pos rfl, if_pos rfl]
    · rw [if_neg own, if_neg fun eq => own (Prod.mk.inj eq).2]
  · have other : (Waitable.subscription, k) ≠ (.guardCondition, c) := fun eq =>
      Waitable.noConfusion (Prod.mk.inj eq).1
    rw [if_neg other]
    rfl

theorem attachAllOpens (ws : WaitSetId) {claims : List (Waitable × ConditionId)} {b : Bus}
    (nodup : (claims.map Prod.snd).Nodup) (free : ∀ c ∈ claims.map Prod.snd, c ∉ b.attachedTo ws) :
    ∃ b', attachAll b ws claims = (b', .ok ()) ∧ ∀ k, b'.trigger? k =
      if (.subscription, k) ∈ claims then (b.trigger? k).map (.enable .dataAvailable) else b.trigger? k := by
  induction claims generalizing b with
  | nil => exact ⟨b, rfl, fun k => rfl⟩
  | cons first rest ih =>
    obtain ⟨new, nodup'⟩ := List.nodup_cons.1 nodup
    obtain ⟨a, joined⟩ : ∃ a, (enabled b first).attach ws first.2 = .ok a := by
      refine attachFree ?_
      rw [enabledAttached]
      exact free _ List.mem_cons_self
    obtain ⟨b', all, triggers⟩ := ih nodup' fun c mem held => by
      rcases attachAttached joined held with old | own
      · rw [enabledAttached] at old
        exact free c (List.mem_cons_of_mem _ mem) old
      · exact new (own ▸ mem)
    refine ⟨b', (attachAllFirst joined rest).trans all, fun k => ?_⟩
    rw [triggers, (Bus.attachQuiet joined).2, enabledTriggers]
    by_cases own : (.subscription, k) = first
    · have absent : (.subscription, k) ∉ rest := fun mem => new (own ▸ List.mem_map_of_mem mem)
      rw [if_neg absent, if_pos own, if_pos (own ▸ List.mem_cons_self)]
    · simp only [own, List.mem_cons, false_or, if_false]

theorem attachAllNew (b : Bus) {claims : List (Waitable × ConditionId)} (nodup : (claims.map Prod.snd).Nodup) :
    ∃ b', attachAll b.newWaitSet.2 b.newWaitSet.1 claims = (b', .ok ()) ∧ ∀ k, b'.trigger? k =
      if (.subscription, k) ∈ claims then (b.trigger? k).map (.enable .dataAvailable) else b.trigger? k :=
  attachAllOpens (b := b.newWaitSet.2) b.newWaitSet.1 nodup fun _ _ => Bus.newAttached b ▸ List.not_mem_nil

/-! ### Beginning -/

structure Begun (s : Site K) (subscriptions : List (Option (Handle .subscription)))
    (guards : List (Option (Handle .guardCondition))) (t : Ticket) (s' : Site K) : Prop where
  subscriptions : Filled s.context.subscriptions (·.condition) subscriptions t.subscriptions
  guards : Filled s.context.guards (·.condition) guards t.guards
  apart : t.conditions.Nodup
  free : ∀ c ∈ t.conditions, c ∉ s.observed
  claimed : s'.observed = t.conditions.reverse ++ s.observed
  context : s'.context = s.context
  waits : OnlyWaits s.bus s'.bus
  triggers : ∀ k, s'.bus.trigger? k =
    (s.bus.trigger? k).map (Trigger.listening t.subscriptions.conditions k)

theorem beginWaitOpens (s : Site K) (clock : Clock) (timeout : Timeout)
    (subscriptions : List (Option (Handle .subscription)))
    (guards : List (Option (Handle .guardCondition))) :
    (∃ f, s.beginWait clock timeout subscriptions guards = (s, .error f)) ∨
      ∃ t s', s.beginWait clock timeout subscriptions guards = (s', .ok t) ∧
        s.Begun subscriptions guards t s' := by
  unfold beginWait
  cases resolved : resolve s.context.subscriptions (·.condition) subscriptions with
  | error f => exact .inl ⟨f, rfl⟩
  | ok slots =>
    cases resolved' : resolve s.context.guards (·.condition) guards with
    | error f => exact .inl ⟨f, rfl⟩
    | ok slots' =>
      dsimp only
      generalize ticket : Ticket.mk (.start clock timeout s.context.settings.pollInterval)
        s.bus.newWaitSet.1 slots slots' = t
      cases claimed : claim s.observed t.claims with
      | error f => exact .inl ⟨f, rfl⟩
      | ok observed =>
        obtain ⟨all, nodup, free⟩ := claimExact claimed
        obtain ⟨b, attached, triggers⟩ := attachAllNew s.bus nodup
        have waits := (Bus.newWaitSetWaits s.bus).trans
          (attachAllWaits s.bus.newWaitSet.1 t.claims s.bus.newWaitSet.2)
        rw [attached] at waits
        rw [claimsConditions] at all nodup free
        refine .inr ⟨t, { s with bus := b, observed := observed }, by rw [attached], ?_, ?_, nodup, free,
          all, rfl, waits, fun k => ?_⟩
        · rw [← ticket]
          exact resolveFilled resolved
        · rw [← ticket]
          exact resolveFilled resolved'
        · simp only [Trigger.listeningMap, ← claimsSubscription]
          exact triggers k

end Site
end Databus.Middleware
