import Databus.Middleware.Arena

/-! Handles and their resources: an arena whose free slots are empty gives each resource a handle of its own,
and insertion, removal and change touch what that one handle resolves to and nothing else. -/
namespace Databus.Middleware.Arena

variable {kind : Kind} {α : Type}

structure Sound (a : Arena kind α) : Prop where
  vacant : ∀ i ∈ a.free, ∃ generation, a.slots[i]? = some ⟨generation, none⟩
  once : a.free.Nodup

theorem soundEmpty (context : ContextId) (capacity : Nat) :
    Sound ({ context, capacity } : Arena kind α) :=
  ⟨fun _ mem => (nomatch mem), List.nodup_nil⟩

theorem findExact {a : Arena kind α} {h : Handle kind} {v : α} :
    a.find? h = some v ↔ h.implementation = implementationIdentifier ∧ h.context = a.context ∧
      a.slots[h.index]? = some ⟨h.generation, some v⟩ := by
  unfold find?
  by_cases own : h.implementation = implementationIdentifier ∧ h.context = a.context
  · rw [if_pos own]
    cases found : a.slots[h.index]? with
    | none => simp
    | some slot =>
      obtain ⟨generation, value⟩ := slot
      by_cases same : generation = h.generation <;> simp [same, own]
  · rw [if_neg own]
    constructor
    · exact fun none => nomatch none
    · exact fun all => absurd ⟨all.1, all.2.1⟩ own

theorem findNone {a : Arena kind α} {h : Handle kind}
    (empty : ∀ generation v, a.slots[h.index]? ≠ some ⟨generation, some v⟩) : a.find? h = none :=
  Option.eq_none_iff_forall_ne_some.2 fun v found => empty h.generation v (findExact.1 found).2.2

theorem sameSlot {a : Arena kind α} {h h' : Handle kind} {v v' : α} (found : a.find? h = some v)
    (found' : a.find? h' = some v') (here : h'.index = h.index) : h' = h := by
  obtain ⟨implementation, context, there⟩ := findExact.1 found
  obtain ⟨implementation', context', there'⟩ := findExact.1 found'
  rw [here, there] at there'
  simp only [Option.some.injEq, Slot.mk.injEq] at there'
  obtain ⟨i, c, n, generation⟩ := h
  obtain ⟨i', c', n', generation'⟩ := h'
  simp only at *
  rw [implementation, implementation', context, context', here, there'.1]

theorem getExact {a : Arena kind α} {h : Handle kind} {v : α} :
    a.get h = .ok v ↔ a.find? h = some v := by
  unfold get Handle.check checkImplementation
  by_cases own : h.implementation = implementationIdentifier
  · rw [if_pos own]
    cases a.find? h <;> simp
  · rw [if_neg own]
    constructor
    · exact fun error => nomatch error
    · exact fun found => absurd (findExact.1 found).1 own

theorem getNone {a : Arena kind α} {h : Handle kind} (none : a.find? h = none) :
    ∃ f, a.get h = .error f := by
  cases got : a.get h with
  | error f => exact ⟨f, rfl⟩
  | ok v => exact nomatch none.symm.trans (getExact.1 got)

theorem removeRuns {a : Arena kind α} {h : Handle kind} {v : α} (found : a.find? h = some v) :
    ∃ a', a.remove h = .ok (v, a') := by
  unfold remove
  rw [getExact.2 found]
  exact ⟨_, rfl⟩

theorem findPut (a a' : Arena kind α) {i : Nat} {generation : UInt32} {value : Option α}
    (context : a'.context = a.context)
    (slots : ∀ j, a'.slots[j]? = if j = i then some ⟨generation, value⟩ else a.slots[j]?)
    (h : Handle kind) :
    a'.find? h = if h.index = i then
      if h = a.issue i generation then value else none
    else a.find? h := by
  apply Option.ext
  intro v
  rw [findExact, context, slots]
  by_cases here : h.index = i
  · rw [if_pos here, if_pos here]
    obtain ⟨implementation, ctx, index, gen⟩ := h
    simp only at here
    subst here
    by_cases own : (⟨implementation, ctx, index, gen⟩ : Handle kind) = a.issue index generation
    · rw [if_pos own]
      simp only [issue, Handle.mk.injEq] at own
      simp [own.1, own.2.1, own.2.2.2]
    · rw [if_neg own]
      simp only [issue, Handle.mk.injEq, true_and] at own
      grind
  · rw [if_neg here, if_neg here, findExact]

theorem fillFind (a a' : Arena kind α) {i : Nat} {generation : UInt32} {v : α}
    (context : a'.context = a.context)
    (slots : ∀ j, a'.slots[j]? = if j = i then some ⟨generation, some v⟩ else a.slots[j]?)
    (empty : ∀ g w, a.slots[i]? ≠ some ⟨g, some w⟩) :
    a.find? (a.issue i generation) = none ∧
      ∀ h, a'.find? h = if h = a.issue i generation then some v else a.find? h := by
  refine ⟨findNone empty, fun h => ?_⟩
  rw [findPut a a' context slots]
  by_cases own : h = a.issue i generation
  · simp [own, issue]
  · rw [if_neg own, if_neg own]
    split
    · rename_i here
      exact (findNone (here ▸ empty)).symm
    · rfl

theorem slotsSet {a : Arena kind α} {i : Nat} {slot : Slot α} (there : a.slots[i]? = some slot)
    (new : Slot α) (j : Nat) :
    (a.slots.set i new)[j]? = if j = i then some new else a.slots[j]? := by
  have inside : i < a.slots.length := (List.getElem?_eq_some_iff.1 there).1
  rw [List.getElem?_set]
  by_cases here : i = j
  · simp [here, here ▸ inside]
  · simp [here, Ne.symm here]

theorem slotsGrow (a : Arena kind α) (new : Slot α) (j : Nat) :
    (a.slots ++ [new])[j]? = if j = a.slots.length then some new else a.slots[j]? := by
  rcases Nat.lt_trichotomy j a.slots.length with less | same | more
  · rw [List.getElem?_append_left less, if_neg (Nat.ne_of_lt less)]
  · simp [same]
  · rw [if_neg (Nat.ne_of_gt more), List.getElem?_eq_none (Nat.le_of_lt more), List.getElem?_eq_none]
    simp only [List.length_append, List.length_singleton]
    omega

theorem insertFind {a a' : Arena kind α} (sound : a.Sound) {v : α} {h : Handle kind}
    (ok : a.insert v = .ok (h, a')) :
    a'.Sound ∧ a'.context = a.context ∧ a.find? h = none ∧
      ∀ h', a'.find? h' = if h' = h then some v else a.find? h' := by
  unfold insert at ok
  split at ok
  · contradiction
  · split at ok
    · -- the slot on top of the free list is used again
      rename_i i rest free
      obtain ⟨generation, vacant⟩ := sound.vacant i (free ▸ List.mem_cons_self ..)
      obtain ⟨fresh, once⟩ := List.nodup_cons.1 (free ▸ sound.once)
      cases Except.ok.inj ok
      have slots := fun j => slotsSet vacant ⟨generation, some v⟩ j
      simp only [vacant, Option.map_some, Option.getD_some]
      have find := fillFind a { a.put i generation (some v) with free := rest, live := a.live + 1 } rfl
        slots fun g w there => by simp [vacant] at there
      refine ⟨⟨fun j mem => ?_, once⟩, rfl, find⟩
      obtain ⟨generation', vacant'⟩ := sound.vacant j (free ▸ List.mem_cons_of_mem _ mem)
      have other : j ≠ i := fun eq => fresh (eq ▸ mem)
      exact ⟨generation', (slots j).trans ((if_neg other).trans vacant')⟩
    · -- nothing is free, so the table grows by one slot
      rename_i free
      split at ok
      · contradiction
      · cases Except.ok.inj ok
        have find := fillFind a { a with slots := a.slots ++ [⟨0, some v⟩], live := a.live + 1 } rfl
          (slotsGrow a ⟨0, some v⟩) fun g w there => by simp at there
        refine ⟨⟨fun j mem => ?_, sound.once⟩, rfl, find⟩
        rw [free] at mem
        cases mem

theorem removeFind {a a' : Arena kind α} (sound : a.Sound) {v : α} {h : Handle kind}
    (ok : a.remove h = .ok (v, a')) :
    a'.Sound ∧ a'.context = a.context ∧ a.find? h = some v ∧
      ∀ h', a'.find? h' = if h' = h then none else a.find? h' := by
  unfold remove at ok
  cases got : a.get h with
  | error f => simp [got] at ok
  | ok v' =>
    rw [got] at ok
    cases Except.ok.inj ok
    have found := getExact.1 got
    obtain ⟨implementation, context, there⟩ := findExact.1 found
    have slots := fun j => slotsSet there ⟨h.generation + 1, none⟩ j
    have find := fun h' => findPut a { a.put h.index (h.generation + 1) none with
      free := h.index :: a.free, live := a.live - 1 } rfl slots h'
    refine ⟨⟨fun j mem => ?_, List.nodup_cons.2 ⟨fun mem => ?_, sound.once⟩⟩, rfl, found,
      fun h' => ?_⟩
    · by_cases here : j = h.index
      · exact ⟨_, (slots j).trans (if_pos here)⟩
      · obtain ⟨generation, vacant⟩ := sound.vacant j ((List.mem_cons.1 mem).resolve_left here)
        exact ⟨generation, (slots j).trans ((if_neg here).trans vacant)⟩
    · obtain ⟨generation, vacant⟩ := sound.vacant h.index mem
      rw [there] at vacant
      simp at vacant
    · rw [find]
      split
      · rename_i here
        simp only [ite_self]
        split
        · rfl
        · rename_i other
          exact (Option.eq_none_iff_forall_ne_some.2 fun _ found' =>
            other (sameSlot found found' here)).symm
      · rename_i other
        rw [if_neg fun eq => other (congrArg Handle.index eq)]

theorem modifyFind {a : Arena kind α} (sound : a.Sound) (h : Handle kind) (f : α → α) :
    (a.modify h f).Sound ∧ (a.modify h f).context = a.context ∧
      ∀ h', (a.modify h f).find? h' = if h' = h then (a.find? h).map f else a.find? h' := by
  cases found : a.find? h with
  | none =>
    have same : a.modify h f = a := by rw [modify, found]
    rw [same]
    refine ⟨sound, rfl, fun h' => ?_⟩
    split
    · rename_i eq
      rw [eq, found]
      rfl
    · rfl
  | some v =>
    have put : a.modify h f = a.put h.index h.generation (some (f v)) := by rw [modify, found]
    rw [put]
    obtain ⟨implementation, context, there⟩ := findExact.1 found
    have slots := fun j => slotsSet there ⟨h.generation, some (f v)⟩ j
    have find := fun h' => findPut a (a.put h.index h.generation (some (f v))) rfl slots h'
    have own : a.issue h.index h.generation = h := by
      rw [issue, ← implementation, ← context]
    refine ⟨⟨fun j mem => ?_, sound.once⟩, rfl, fun h' => ?_⟩
    · obtain ⟨generation, vacant⟩ := sound.vacant j mem
      refine ⟨generation, (slots j).trans ((if_neg fun here => ?_).trans vacant)⟩
      rw [here, there] at vacant
      simp at vacant
    · rw [find, own]
      by_cases same : h' = h
      · simp [same]
      · rw [if_neg same, if_neg same]
        split
        · rename_i here
          exact (Option.eq_none_iff_forall_ne_some.2 fun _ found' =>
            same (sameSlot found found' here)).symm
        · rfl

theorem memValues {a : Arena kind α} {v : α} : v ∈ a.values ↔ ∃ h, a.find? h = some v := by
  rw [values, List.mem_filterMap]
  constructor
  · rintro ⟨⟨generation, value⟩, mem, eq⟩
    obtain ⟨i, there⟩ := List.mem_iff_getElem?.1 mem
    simp only at eq
    exact ⟨a.issue i generation, findExact.2 ⟨rfl, rfl, by rw [← eq]; exact there⟩⟩
  · rintro ⟨h, found⟩
    exact ⟨_, List.mem_of_getElem? (findExact.1 found).2.2, rfl⟩

end Databus.Middleware.Arena
