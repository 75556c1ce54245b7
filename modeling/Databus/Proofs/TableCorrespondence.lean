import Databus.Proofs.RefusedCalls

/-! Tables alike: two arenas whose slots hold related values under the same generations find, issue and free the same
handles, and fail alike; so two contexts with such tables answer alike, whatever stands behind their records. -/
namespace Databus.Middleware

inductive Tied {α β : Type} (R : α → β → Prop) : Except Failure α → Except Failure β → Prop
  | error (f : Failure) : Tied R (.error f) (.error f)
  | ok {a : α} {b : β} (related : R a b) : Tied R (.ok a) (.ok b)

theorem relOpens {α β : Type} {R : α → β → Prop} {x : Option α} {y : Option β} (h : Option.Rel R x y) :
    (x = none ∧ y = none) ∨ ∃ a b, x = some a ∧ y = some b ∧ R a b := by
  cases h with
  | none => exact .inl ⟨rfl, rfl⟩
  | some related => exact .inr ⟨_, _, rfl, rfl, related⟩

namespace Tied

variable {α β : Type} {R : α → β → Prop} {e : Except Failure α} {e' : Except Failure β}

theorem opens (h : Tied R e e') :
    (∃ f, e = .error f ∧ e' = .error f) ∨ ∃ a b, e = .ok a ∧ e' = .ok b ∧ R a b := by
  cases h with
  | error f => exact .inl ⟨f, rfl, rfl⟩
  | ok related => exact .inr ⟨_, _, rfl, rfl, related⟩

theorem same {e e' : Except Failure α} (h : Tied Eq e e') : e' = e := by
  cases h with
  | error f => rfl
  | ok related => rw [related]

theorem refused (h : Tied R e e') : System.refused e' = System.refused e := by
  cases h <;> rfl

theorem map {γ δ : Type} {S : γ → δ → Prop} (h : Tied R e e') {f : α → γ} {g : β → δ}
    (maps : ∀ a b, R a b → S (f a) (g b)) : Tied S (e.map f) (e'.map g) := by
  cases h with
  | error f => exact .error f
  | ok related => exact .ok (maps _ _ related)

end Tied

/-! ### Arenas -/

structure Slot.Alike {α : Type} (R : α → α → Prop) (s s' : Slot α) : Prop where
  generation : s'.generation = s.generation
  value : Option.Rel R s.value s'.value

namespace Arena

variable {kind : Kind} {α : Type} {R : α → α → Prop} {a a' : Arena kind α}

structure Alike (R : α → α → Prop) (a a' : Arena kind α) : Prop where
  context : a'.context = a.context
  capacity : a'.capacity = a.capacity
  free : a'.free = a.free
  live : a'.live = a.live
  length : a'.slots.length = a.slots.length
  slots : ∀ i : Nat, Option.Rel (Slot.Alike R) a.slots[i]? a'.slots[i]?

theorem alikeNew (context : ContextId) (capacity : Nat) :
    Alike R { context, capacity } ({ context, capacity } : Arena kind α) :=
  ⟨rfl, rfl, rfl, rfl, rfl, fun _ => .none⟩

namespace Alike

theorem weaken {S : α → α → Prop} (h : Alike R a a') (weaker : ∀ v v', R v v' → S v v') : Alike S a a' := by
  refine { h with slots := fun i => ?_ }
  rcases relOpens (h.slots i) with ⟨absent, absent'⟩ | ⟨slot, slot', there, there', same, value⟩
  · rw [absent, absent']
    exact .none
  · rw [there, there']
    refine .some ⟨same, ?_⟩
    rcases relOpens value with ⟨free, free'⟩ | ⟨v, v', holds, holds', related⟩
    · rw [free, free']
      exact .none
    · rw [holds, holds']
      exact .some (weaker _ _ related)

theorem find (h : Alike R a a') (k : Handle kind) : Option.Rel R (a.find? k) (a'.find? k) := by
  unfold find?
  rw [h.context]
  split
  · rcases relOpens (h.slots k.index) with ⟨absent, absent'⟩ | ⟨slot, slot', there, there', same, value⟩
    · rw [absent, absent']
      exact .none
    · rw [there, there']
      dsimp only
      rw [same]
      split
      · exact value
      · exact .none
  · exact .none

theorem found (h : Alike R a a') {k : Handle kind} {v : α} (found : a.find? k = some v) :
    ∃ v', a'.find? k = some v' ∧ R v v' := by
  rcases relOpens (h.find k) with ⟨none, _⟩ | ⟨w, v', there, there', related⟩
  · cases none.symm.trans found
  · cases Option.some.inj (there.symm.trans found)
    exact ⟨v', there', related⟩

theorem get (h : Alike R a a') (k : Handle kind) : Tied R (a.get k) (a'.get k) := by
  have stale : a'.stale k = a.stale k := by rw [stale, stale, h.context]
  unfold Arena.get
  cases k.check with
  | error f => exact .error f
  | ok _ =>
    dsimp only
    rcases relOpens (h.find k) with ⟨none, none'⟩ | ⟨v, v', there, there', related⟩
    · rw [none, none', stale]
      exact .error _
    · rw [there, there']
      exact .ok related

theorem put (h : Alike R a a') (i : Nat) (generation : UInt32) {v v' : Option α} (related : Option.Rel R v v') :
    Alike R (a.put i generation v) (a'.put i generation v') := by
  refine { h with length := ?_, slots := fun j => ?_ }
  · simp only [Arena.put, List.length_set, h.length]
  · simp only [Arena.put, List.getElem?_set, h.length]
    split
    · split
      · exact .some ⟨rfl, related⟩
      · exact .none
    · exact h.slots j

theorem generation (h : Alike R a a') (i : Nat) :
    ((a'.slots[i]?).map (·.generation)).getD 0 = ((a.slots[i]?).map (·.generation)).getD 0 := by
  rcases relOpens (h.slots i) with ⟨absent, absent'⟩ | ⟨slot, slot', there, there', same, _⟩
  · rw [absent, absent']
  · rw [there, there', Option.map_some, Option.map_some, same]

theorem insert (h : Alike R a a') {v v' : α} (related : R v v') :
    Tied (fun x x' => x'.1 = x.1 ∧ Alike R x.2 x'.2) (a.insert v) (a'.insert v') := by
  have isFull : a'.isFull = a.isFull := by rw [isFull, isFull, h.capacity, h.live]
  have full : a'.full = a.full := by rw [full, full, h.capacity]
  have issue : ∀ i generation, a'.issue i generation = a.issue i generation := fun _ _ => by
    rw [issue, issue, h.context]
  unfold Arena.insert
  rw [isFull, full, h.free, h.length]
  split
  · exact .error _
  · split
    · rename_i i rest _
      dsimp only
      rw [h.generation, issue, h.live]
      exact .ok ⟨rfl, { h.put i _ (.some related) with free := rfl, live := rfl }⟩
    · split
      · exact .error _
      · rw [issue, h.live]
        refine .ok ⟨rfl, ⟨h.context, h.capacity, rfl, rfl, ?_, fun i => ?_⟩⟩
        · simp only [List.length_append, h.length, List.length_singleton]
        · dsimp only
          rw [slotsGrow, slotsGrow, h.length]
          split
          · exact .some ⟨rfl, .some related⟩
          · exact h.slots i

theorem remove (h : Alike R a a') (k : Handle kind) :
    Tied (fun x x' => R x.1 x'.1 ∧ Alike R x.2 x'.2) (a.remove k) (a'.remove k) := by
  unfold Arena.remove
  rcases (h.get k).opens with ⟨f, failed, failed'⟩ | ⟨v, v', got, got', related⟩
  · rw [failed, failed']
    exact .error f
  · rw [got, got', h.free, h.live]
    exact .ok ⟨related, { h.put k.index (k.generation + 1) .none with free := rfl, live := rfl }⟩

theorem modify (h : Alike R a a') (k : Handle kind) {f : α → α} (keeps : ∀ v v', R v v' → R (f v) (f v')) :
    Alike R (a.modify k f) (a'.modify k f) := by
  unfold Arena.modify
  rcases relOpens (h.find k) with ⟨none, none'⟩ | ⟨v, v', there, there', related⟩
  · rw [none, none']
    exact h
  · rw [there, there']
    exact h.put k.index k.generation (.some (keeps _ _ related))

end Alike
end Arena

/-! ### Contexts -/

abbrev Pairing := ConditionId → ConditionId → Prop

variable {K : Type}

structure NodeRecord.Alike (n n' : NodeRecord) : Prop where
  name : n'.name = n.name
  endpoints : n'.endpoints = n.endpoints

structure PublisherRecord.Alike (r r' : PublisherRecord K) : Prop where
  node : r'.node = r.node
  support : r'.support = r.support

structure SubscriptionRecord.Alike (ρ : Pairing) (r r' : SubscriptionRecord K) : Prop where
  node : r'.node = r.node
  support : r'.support = r.support
  condition : ρ r.condition r'.condition

structure GuardRecord.Alike (ρ : Pairing) (g g' : GuardRecord) : Prop where
  owner : g'.owner = g.owner
  condition : ρ g.condition g'.condition

namespace Context

structure Alike (ρ : Pairing) (c c' : Context K) : Prop where
  settings : c'.settings = c.settings
  nodes : c.nodes.Alike NodeRecord.Alike c'.nodes
  publishers : c.publishers.Alike PublisherRecord.Alike c'.publishers
  subscriptions : c.subscriptions.Alike (SubscriptionRecord.Alike ρ) c'.subscriptions
  guards : c.guards.Alike (GuardRecord.Alike ρ) c'.guards
  graphGuards : c'.graphGuards = c.graphGuards

variable {ρ σ : Pairing} {c c' : Context K}

theorem Alike.weaken (h : c.Alike ρ c') (wider : ∀ k k', ρ k k' → σ k k') : c.Alike σ c' :=
  { h with
    subscriptions := h.subscriptions.weaken fun _ _ r => { r with condition := wider _ _ r.condition }
    guards := h.guards.weaken fun _ _ g => { g with condition := wider _ _ g.condition } }

theorem Alike.count (h : c.Alike ρ c') (node : Handle .node) (f : Nat → Nat) :
    (Site.countEndpoint c node f).Alike ρ (Site.countEndpoint c' node f) :=
  { h with nodes := h.nodes.modify node fun _ _ n => ⟨n.name, congrArg f n.endpoints⟩ }

end Context
end Databus.Middleware
