import Databus.Proofs.HandleTables

/-! Slot generations over whole histories: after any changes to an arena that began empty, its counter, its free
list and its generations are those of the changes made, so which handles resolve is a matter of counting removals. -/
namespace Databus.Middleware.Arena

variable {kind : Kind} {α : Type}

inductive Change (kind : Kind) (α : Type)
  | insert (v : α)
  | remove (h : Handle kind)

def change (a : Arena kind α) : Change kind α → Arena kind α
  | .insert v =>
    match a.insert v with
    | .ok (_, a') => a'
    | .error _ => a
  | .remove h =>
    match a.remove h with
    | .ok (_, a') => a'
    | .error _ => a

def changed (a : Arena kind α) (changes : List (Change kind α)) : Arena kind α :=
  changes.foldl change a

def removed (a : Arena kind α) (i : Nat) : Change kind α → Nat
  | .insert _ => 0
  | .remove h =>
    match a.remove h with
    | .ok _ => if h.index = i then 1 else 0
    | .error _ => 0

def removals (a : Arena kind α) (i : Nat) : List (Change kind α) → Nat
  | [] => 0
  | c :: cs => a.removed i c + (a.change c).removals i cs

def occupied (a : Arena kind α) : Nat := a.slots.countP (·.value.isSome)

structure Kept (a : Arena kind α) (count : Nat → Nat) : Prop where
  live : a.live = a.occupied
  bounded : a.live ≤ a.capacity
  free : ∀ i, i ∈ a.free ↔ ∃ generation, a.slots[i]? = some ⟨generation, none⟩
  once : a.free.Nodup
  generation : ∀ i slot, a.slots[i]? = some slot → slot.generation = UInt32.ofNat (count i)
  unused : ∀ i, a.slots.length ≤ i → count i = 0

theorem Kept.sound {a : Arena kind α} {count : Nat → Nat} (kept : a.Kept count) : a.Sound :=
  ⟨fun i mem => (kept.free i).1 mem, kept.once⟩

theorem keptEmpty (context : ContextId) (capacity : Nat) :
    Kept ({ context, capacity } : Arena kind α) fun _ => 0 where
  live := rfl
  bounded := Nat.zero_le _
  free i := by simp
  once := List.nodup_nil
  generation i slot there := by simp at there
  unused _ _ := rfl

theorem Kept.crowded {a : Arena kind α} {count : Nat → Nat} (kept : a.Kept count) (free : a.free = []) :
    a.live = a.slots.length := by
  rw [kept.live, occupied, List.countP_eq_length]
  intro slot mem
  obtain ⟨i, there⟩ := List.mem_iff_getElem?.1 mem
  obtain ⟨generation, value⟩ := slot
  cases value with
  | some v => rfl
  | none =>
    have mem : i ∈ a.free := (kept.free i).2 ⟨generation, there⟩
    simp [free] at mem

theorem occupiedSet {a : Arena kind α} {i : Nat} {slot : Slot α} (there : a.slots[i]? = some slot)
    (new : Slot α) :
    (a.slots.set i new).countP (·.value.isSome) + (if slot.value.isSome then 1 else 0) =
      a.occupied + if new.value.isSome then 1 else 0 := by
  obtain ⟨inside, eq⟩ := List.getElem?_eq_some_iff.1 there
  rw [List.countP_set inside, occupied, eq]
  cases old : slot.value.isSome with
  | false => simp
  | true =>
    have counted : 0 < a.slots.countP (·.value.isSome) :=
      List.countP_pos_iff.2 ⟨slot, List.mem_of_getElem? there, old⟩
    simp only [if_true]
    omega

theorem Kept.insert {a a' : Arena kind α} {count : Nat → Nat} (kept : a.Kept count) {v : α}
    {h : Handle kind} (ok : a.insert v = .ok (h, a')) : a'.Kept count := by
  unfold Arena.insert at ok
  split at ok
  · contradiction
  · rename_i room
    have room : a.live < a.capacity := by simpa [isFull] using room
    split at ok
    · -- the last freed slot is used again, under the generation its removals left
      rename_i i rest free
      obtain ⟨generation, vacant⟩ := (kept.free i).1 (free ▸ List.mem_cons_self ..)
      obtain ⟨fresh, once⟩ := List.nodup_cons.1 (free ▸ kept.once)
      have current := kept.generation i _ vacant
      cases Except.ok.inj ok
      have slots := fun j => slotsSet vacant ⟨generation, some v⟩ j
      have counted := occupiedSet vacant ⟨generation, some v⟩
      simp only [vacant, Option.map_some, Option.getD_some]
      refine ⟨?_, room, fun j => ?_, once, fun j slot there => ?_, fun j beyond => ?_⟩
      · simpa [occupied, put, kept.live] using counted.symm
      · have mem := kept.free j
        rw [free, List.mem_cons] at mem
        by_cases here : j = i
        · subst here
          simp [put, slots, fresh]
        · simpa [put, slots, here] using mem
      · by_cases here : j = i
        · simp only [put, slots, if_pos here, Option.some.injEq] at there
          rw [← there, here]
          exact current
        · simp only [put, slots, if_neg here] at there
          exact kept.generation j slot there
      · exact kept.unused j (by simpa [put] using beyond)
    · -- nothing is free, so the table grows by a slot that was never emptied
      rename_i free
      split at ok
      · contradiction
      · cases Except.ok.inj ok
        have slots := slotsGrow a ⟨0, some v⟩
        refine ⟨?_, room, fun j => ?_, kept.once, fun j slot there => ?_, fun j beyond => ?_⟩
        · simp [occupied, kept.live]
        · have mem := kept.free j
          by_cases here : j = a.slots.length
          · simp [here, free]
          · simpa [slots, here] using mem
        · by_cases here : j = a.slots.length
          · simp only [slots, if_pos here, Option.some.injEq] at there
            rw [← there, kept.unused j (Nat.le_of_eq here.symm)]
            rfl
          · simp only [slots, if_neg here] at there
            exact kept.generation j slot there
        · simp only [List.length_append, List.length_singleton] at beyond
          exact kept.unused j (by omega)

theorem Kept.remove {a a' : Arena kind α} {count : Nat → Nat} (kept : a.Kept count) {v : α}
    {h : Handle kind} (ok : a.remove h = .ok (v, a')) :
    a'.Kept fun i => count i + if h.index = i then 1 else 0 := by
  unfold Arena.remove at ok
  cases got : a.get h with
  | error f => simp [got] at ok
  | ok v' =>
    rw [got] at ok
    cases Except.ok.inj ok
    obtain ⟨-, -, there⟩ := findExact.1 (getExact.1 got)
    have current := kept.generation h.index _ there
    have inside : h.index < a.slots.length := (List.getElem?_eq_some_iff.1 there).1
    have slots := fun j => slotsSet there ⟨h.generation + 1, none⟩ j
    have counted := occupiedSet there ⟨h.generation + 1, none⟩
    have live := kept.live
    simp only [Option.isSome_some, if_true, Option.isSome_none, Bool.false_eq_true, if_false] at counted
    refine ⟨?_, Nat.le_trans (Nat.sub_le ..) kept.bounded, fun j => ?_,
      List.nodup_cons.2 ⟨fun mem => ?_, kept.once⟩, fun j slot new => ?_, fun j beyond => ?_⟩
    · simp only [occupied, put] at counted live ⊢
      omega
    · have mem := kept.free j
      by_cases here : j = h.index
      · simp [put, slots, here]
      · simpa [put, slots, here] using mem
    · obtain ⟨generation, vacant⟩ := (kept.free h.index).1 mem
      simp [there] at vacant
    · by_cases here : j = h.index
      · simp only [put, slots, if_pos here, Option.some.injEq] at new
        simp only at current
        rw [← new, if_pos here.symm, here, UInt32.ofNat_add, ← current]
        rfl
      · simp only [put, slots, if_neg here] at new
        rw [if_neg (Ne.symm here), Nat.add_zero]
        exact kept.generation j slot new
    · simp only [put, List.length_set] at beyond
      rw [if_neg (by omega), kept.unused j beyond]

theorem Kept.change {a : Arena kind α} {count : Nat → Nat} (kept : a.Kept count) (c : Change kind α) :
    (a.change c).Kept fun i => count i + a.removed i c := by
  cases c with
  | insert v =>
    cases done : a.insert v with
    | ok put => simpa only [Arena.change, removed, done, Nat.add_zero] using kept.insert done
    | error f => simpa only [Arena.change, removed, done, Nat.add_zero] using kept
  | remove h =>
    cases done : a.remove h with
    | ok put => simpa only [Arena.change, removed, done] using kept.remove done
    | error f => simpa only [Arena.change, removed, done, Nat.add_zero] using kept

theorem Kept.changed {a : Arena kind α} {count : Nat → Nat} (kept : a.Kept count)
    (changes : List (Change kind α)) : (a.changed changes).Kept fun i => count i + a.removals i changes := by
  induction changes generalizing a count with
  | nil => exact kept
  | cons c cs ih =>
    have rest := ih (kept.change c)
    simp only [Nat.add_assoc] at rest
    exact rest

theorem changeFixed (a : Arena kind α) (c : Change kind α) :
    (a.change c).context = a.context ∧ (a.change c).capacity = a.capacity := by
  cases c with
  | insert v =>
    simp only [change, insert]
    grind [put]
  | remove h =>
    simp only [change, remove]
    grind [put]

theorem changedFixed (a : Arena kind α) (changes : List (Change kind α)) :
    (a.changed changes).context = a.context ∧ (a.changed changes).capacity = a.capacity := by
  induction changes generalizing a with
  | nil => exact ⟨rfl, rfl⟩
  | cons c cs ih =>
    obtain ⟨context, capacity⟩ := ih (a.change c)
    obtain ⟨context', capacity'⟩ := changeFixed a c
    exact ⟨context.trans context', capacity.trans capacity'⟩

theorem Kept.insertRoom {a : Arena kind α} {count : Nat → Nat} (kept : a.Kept count)
    (small : a.capacity ≤ UInt32.size) (room : a.live ≠ a.capacity) (v : α) :
    ∃ h a', a.insert v = .ok (h, a') := by
  have bounded := kept.bounded
  have notFull : ¬a.isFull := by
    simp only [isFull, decide_eq_true_eq]
    omega
  unfold Arena.insert
  rw [if_neg notFull]
  cases free : a.free with
  | cons i rest => exact ⟨_, _, rfl⟩
  | nil =>
    have crowded := kept.crowded free
    have indices : ¬UInt32.size ≤ a.slots.length := by omega
    simp only [if_neg indices]
    exact ⟨_, _, rfl⟩

theorem insertFull {a : Arena kind α} (full : a.live = a.capacity) (v : α) :
    a.insert v = .error a.full := by
  have isFull : a.isFull := by simp [isFull, full]
  rw [Arena.insert, if_pos isFull]

theorem Kept.getCounted {a : Arena kind α} {count : Nat → Nat} (kept : a.Kept count) (h : Handle kind)
    (v : α) : a.get h = .ok v ↔ h.implementation = implementationIdentifier ∧ h.context = a.context ∧
      (∃ generation, a.slots[h.index]? = some ⟨generation, some v⟩) ∧
        count h.index % UInt32.size = h.generation.toNat := by
  have counted (slot : Slot α) (there : a.slots[h.index]? = some slot) :
      slot.generation = h.generation ↔ count h.index % UInt32.size = h.generation.toNat := by
    rw [kept.generation _ slot there, ← UInt32.toNat_inj, UInt32.toNat_ofNat']
  rw [getExact, findExact]
  constructor
  · rintro ⟨implementation, context, there⟩
    exact ⟨implementation, context, ⟨_, there⟩, (counted _ there).1 rfl⟩
  · rintro ⟨implementation, context, ⟨generation, there⟩, same⟩
    have current := (counted _ there).2 same
    simp only at current
    exact ⟨implementation, context, current ▸ there⟩

theorem removeExact {a : Arena kind α} {h : Handle kind} {v : α} :
    (∃ a', a.remove h = .ok (v, a')) ↔ a.get h = .ok v := by
  unfold Arena.remove
  cases a.get h <;> simp

/-- What an arena is after `changes` from empty, and what it then answers to any value and any handle. -/
structure Dictated (context : ContextId) (capacity : Nat) (changes : List (Change kind α))
    (start a : Arena kind α) : Prop where
  bounded : a.live = a.occupied ∧ a.live ≤ capacity
  free : a.free.Nodup ∧ ∀ i, i ∈ a.free ↔ ∃ slot, a.slots[i]? = some slot ∧ slot.value = none
  refused : ∀ v, (∃ f, a.insert v = .error f) ↔ a.live = capacity
  full : ∀ v, a.live = capacity → a.insert v = .error a.full ∧ a.change (.insert v) = a
  issued : ∀ v h a', a.insert v = .ok (h, a') →
    (∀ w, a.get h ≠ .ok w) ∧ ∀ h', a'.find? h' = if h' = h then some v else a.find? h'
  resolves : ∀ h v, a.get h = .ok v ↔
    h.implementation = implementationIdentifier ∧ h.context = context ∧
      (∃ generation, a.slots[h.index]? = some ⟨generation, some v⟩) ∧
        start.removals h.index changes % UInt32.size = h.generation.toNat
  removes : ∀ h v, (∃ a', a.remove h = .ok (v, a')) ↔ a.get h = .ok v
  gone : ∀ h v a', a.remove h = .ok (v, a') →
    (∀ w, a'.get h ≠ .ok w) ∧ ∀ h', a'.find? h' = if h' = h then none else a.find? h'
  kept : ∀ h f, a.remove h = .error f → a.change (.remove h) = a
  again : ∀ h v a', a.remove h = .ok (v, a') → ∀ later w, (a'.changed later).get h = .ok w →
    ∃ rounds, 0 < rounds ∧ a.removals h.index (.remove h :: later) = rounds * UInt32.size

theorem Kept.again {a a' : Arena kind α} {count : Nat → Nat} (kept : a.Kept count) {h : Handle kind} {v : α}
    (gone : a.remove h = .ok (v, a')) {later : List (Change kind α)} {w : α}
    (back : (a'.changed later).get h = .ok w) :
    ∃ rounds, 0 < rounds ∧ a.removals h.index (.remove h :: later) = rounds * UInt32.size := by
  have step : a.change (.remove h) = a' := by simp only [Arena.change, gone]
  have first : a.removed h.index (.remove h) = 1 := by simp [removed, gone]
  obtain ⟨-, -, -, before⟩ := (kept.getCounted h v).1 (removeExact.1 ⟨a', gone⟩)
  have after : (a.changed (.remove h :: later)).get h = .ok w := by
    rwa [Arena.changed, List.foldl_cons, step]
  obtain ⟨-, -, -, now⟩ := ((kept.changed (.remove h :: later)).getCounted h w).1 after
  have positive : 0 < a.removals h.index (.remove h :: later) := by
    rw [removals, first]
    omega
  have size : UInt32.size = 4294967296 := rfl
  simp only [size] at before now ⊢
  exact ⟨a.removals h.index (.remove h :: later) / 4294967296, by omega, by omega⟩

theorem generationsDictate (context : ContextId) (capacity : Nat) (small : capacity ≤ UInt32.size)
    (changes : List (Change kind α)) :
    let start : Arena kind α := { context, capacity }
    Dictated context capacity changes start (start.changed changes) := by
  intro start
  have kept : (start.changed changes).Kept fun i => start.removals i changes := by
    have kept := (keptEmpty context capacity : start.Kept _).changed changes
    simpa only [Nat.zero_add] using kept
  obtain ⟨sameContext, sameCapacity⟩ := changedFixed start changes
  have full (v : α) (full : (start.changed changes).live = capacity) :=
    insertFull (full.trans sameCapacity.symm) v
  exact {
    bounded := ⟨kept.live, Nat.le_trans kept.bounded (Nat.le_of_eq sameCapacity)⟩
    free := by
      refine ⟨kept.once, fun i => (kept.free i).trans ?_⟩
      constructor
      · rintro ⟨generation, there⟩
        exact ⟨_, there, rfl⟩
      · rintro ⟨⟨generation, value⟩, there, rfl⟩
        exact ⟨generation, there⟩
    refused := by
      refine fun v => ⟨fun ⟨f, refused⟩ => ?_, fun isFull => ⟨_, full v isFull⟩⟩
      by_cases isFull : (start.changed changes).live = capacity
      · exact isFull
      · obtain ⟨h, a', ok⟩ := kept.insertRoom (by rwa [sameCapacity]) (by rwa [sameCapacity]) v
        exact nomatch ok.symm.trans refused
    full := fun v isFull => ⟨full v isFull, by simp only [Arena.change, full v isFull]⟩
    issued := by
      intro v h a' ok
      obtain ⟨-, -, fresh, find⟩ := insertFind kept.sound ok
      exact ⟨fun w got => (nomatch fresh.symm.trans (getExact.1 got)), find⟩
    resolves := fun h v => by rw [kept.getCounted h v, sameContext]
    removes := fun h v => removeExact
    gone := by
      intro h v a' ok
      obtain ⟨-, -, -, find⟩ := removeFind kept.sound ok
      have gone : a'.find? h = none := (find h).trans (if_pos rfl)
      exact ⟨fun w got => (nomatch gone.symm.trans (getExact.1 got)), find⟩
    kept := fun h f refused => by simp only [Arena.change, refused]
    again := fun h v a' gone later w back => kept.again gone back }

theorem reuseDictates :
    let start : Arena .node Nat := { context := 1, capacity := 4 }
    let reuse : List (Change .node Nat) :=
      [.insert 7, .remove ⟨implementationIdentifier, 1, 0, 0⟩, .insert 8]
    4 ≤ UInt32.size ∧ Dictated 1 4 reuse start (start.changed reuse) ∧
      (start.changed reuse).get ⟨implementationIdentifier, 1, 0, 1⟩ = .ok 8 ∧
      ∀ v, (start.changed reuse).get ⟨implementationIdentifier, 1, 0, 0⟩ ≠ .ok v := by
  intro start reuse
  have small : 4 ≤ UInt32.size := by decide
  have dictated := generationsDictate 1 4 small reuse
  have emptied : start.removals 0 reuse = 1 := by decide +kernel
  refine ⟨small, dictated, ?_, fun v got => ?_⟩
  · exact (dictated.resolves _ 8).2 ⟨rfl, rfl, ⟨1, by decide +kernel⟩, by rw [emptied]; rfl⟩
  · obtain ⟨-, -, -, counted⟩ := (dictated.resolves _ v).1 got
    rw [emptied] at counted
    contradiction

end Databus.Middleware.Arena
