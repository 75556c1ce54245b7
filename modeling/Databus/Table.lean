/-!
Finite tables: keyed entries kept in increasing key order, each key once.
Main statements: what insertion, removal and change do to look-up, that the entries are exactly the
pairs look-up knows, and that tables with the same look-up are equal.
-/
namespace Databus

-- strings are ordered in more ways than one once more of the library is there; a table of theirs means the same under all
instance (priority := high) stringTransitive : Trans (· < · : String → String → Prop)
    (· < · : String → String → Prop) (· < · : String → String → Prop) :=
  ⟨String.lt_trans⟩

instance (priority := high) stringTrichotomous : Std.Trichotomous (· < · : String → String → Prop) :=
  ⟨fun _ _ above below => String.le_antisymm (String.not_lt.1 below) (String.not_lt.1 above)⟩

structure Table (κ α : Type) [LT κ] where
  entries : List (κ × α)
  sorted : entries.Pairwise (·.1 < ·.1)
  deriving DecidableEq

namespace Table

section Entries

variable {κ α : Type} [LT κ]

def empty : Table κ α := ⟨[], .nil⟩

instance : EmptyCollection (Table κ α) := ⟨empty⟩
instance : Inhabited (Table κ α) := ⟨empty⟩
instance [Repr κ] [Repr α] : Repr (Table κ α) := ⟨fun t n => reprPrec t.entries n⟩

def keys (t : Table κ α) : List κ := t.entries.map (·.1)
def values (t : Table κ α) : List α := t.entries.map (·.2)
def size (t : Table κ α) : Nat := t.entries.length

def filter (t : Table κ α) (p : κ → α → Bool) : Table κ α :=
  ⟨t.entries.filter (fun e => p e.1 e.2), t.sorted.filter _⟩

end Entries

section Lookup

variable {κ α : Type} [LT κ] [DecidableEq κ]

def get? (t : Table κ α) (k : κ) : Option α :=
  (t.entries.find? (fun e => e.1 = k)).map (·.2)

def contains (t : Table κ α) (k : κ) : Bool := (t.get? k).isSome

def erase (t : Table κ α) (k : κ) : Table κ α := t.filter (fun k' _ => k' ≠ k)

def modify (t : Table κ α) (k : κ) (f : α → α) : Table κ α where
  entries := t.entries.map (fun e => if e.1 = k then (e.1, f e.2) else e)
  sorted := by
    refine List.pairwise_map.2 (t.sorted.imp ?_)
    intro a b h
    split <;> split <;> exact h

@[simp] theorem getEmpty (k : κ) : (empty : Table κ α).get? k = none := rfl

@[grind =] theorem getModify (t : Table κ α) (k k' : κ) (f : α → α) :
    (t.modify k f).get? k' = if k' = k then (t.get? k).map f else t.get? k' := by
  obtain ⟨l, h⟩ := t
  simp only [modify, get?]
  clear h
  induction l with
  | nil => simp
  | cons e r ih => grind

theorem modifySame {β : Type} (t : Table κ α) (k k' : κ) {f : α → α} {g : α → β}
    (same : ∀ a, g (f a) = g a) : ((t.modify k f).get? k').map g = (t.get? k').map g := by
  rw [getModify]
  split
  · rename_i own
    rw [own, Option.map_map]
    exact congrArg (Option.map · _) (funext same)
  · rfl

variable [Std.Irrefl (· < · : κ → κ → Prop)]

theorem memEntries {t : Table κ α} {k : κ} {a : α} : (k, a) ∈ t.entries ↔ t.get? k = some a := by
  obtain ⟨l, h⟩ := t
  simp only [get?, Option.map_eq_some_iff]
  induction l with
  | nil => simp
  | cons e r ih =>
    obtain ⟨he, hr⟩ := List.pairwise_cons.1 h
    rw [List.mem_cons, List.find?_cons]
    by_cases same : e.1 = k
    · simp only [same, decide_true]
      constructor
      · rintro (rfl | hk)
        · exact ⟨_, rfl, rfl⟩
        · exact absurd (same ▸ he (k, a) hk) (Std.Irrefl.irrefl k)
      · rintro ⟨x, hx, rfl⟩
        obtain rfl := Option.some.inj hx
        exact .inl (by rw [← same])
    · simp only [same, decide_false]
      rw [← ih hr]
      constructor
      · rintro (rfl | hk)
        · exact absurd rfl same
        · exact hk
      · exact .inr

theorem memKeys {t : Table κ α} {k : κ} : k ∈ t.keys ↔ (t.get? k).isSome := by
  simp only [keys, List.mem_map, Option.isSome_iff_exists, ← memEntries]
  exact ⟨fun ⟨e, h, he⟩ => ⟨e.2, he ▸ h⟩, fun ⟨a, h⟩ => ⟨_, h, rfl⟩⟩

theorem memValues {t : Table κ α} {a : α} : a ∈ t.values ↔ ∃ k, t.get? k = some a := by
  simp only [values, List.mem_map, ← memEntries]
  exact ⟨fun ⟨e, h, he⟩ => ⟨e.1, he ▸ h⟩, fun ⟨k, h⟩ => ⟨_, h, rfl⟩⟩

@[grind =] theorem getFilter (t : Table κ α) (p : κ → α → Bool) (k : κ) :
    (t.filter p).get? k = (t.get? k).filter (p k) := by
  apply Option.ext
  intro a
  rw [← memEntries, Option.filter_eq_some_iff, ← memEntries]
  simp [filter]

@[grind =] theorem getErase (t : Table κ α) (k k' : κ) :
    (t.erase k).get? k' = if k' = k then none else t.get? k' := by
  rw [erase, getFilter]
  by_cases h : k' = k
  · simp [h]
  · cases t.get? k' <;> simp [h, Option.filter]

variable [Trans (· < · : κ → κ → Prop) (· < · : κ → κ → Prop) (· < · : κ → κ → Prop)]

theorem sameLookup {t u : Table κ α} (h : ∀ k, t.get? k = u.get? k) : t = u := by
  have same : ∀ e, e ∈ t.entries ↔ e ∈ u.entries := fun ⟨k, a⟩ => by
    rw [memEntries, memEntries, h]
  obtain ⟨l, hl⟩ := t
  obtain ⟨m, hm⟩ := u
  have : l = m := by
    clear h
    induction l generalizing m with
    | nil =>
      cases m with
      | nil => rfl
      | cons e r => exact absurd ((same e).2 (by simp)) (by simp)
    | cons e r ih =>
      cases m with
      | nil => exact absurd ((same e).1 (by simp)) (by simp)
      | cons f s =>
        obtain ⟨he, hr⟩ := List.pairwise_cons.1 hl
        obtain ⟨hf, hs⟩ := List.pairwise_cons.1 hm
        have head : e = f := by
          rcases List.mem_cons.1 ((same e).1 (by simp)) with h | h
          · exact h
          · rcases List.mem_cons.1 ((same f).2 (by simp)) with h' | h'
            · exact h'.symm
            · exact absurd (Trans.trans (he f h') (hf e h)) (Std.Irrefl.irrefl _)
        subst head
        rw [ih hr s hs fun x => ?_]
        constructor
        · intro hx
          rcases List.mem_cons.1 ((same x).1 (List.mem_cons_of_mem _ hx)) with rfl | h
          · exact absurd (he _ hx) (Std.Irrefl.irrefl _)
          · exact h
        · intro hx
          rcases List.mem_cons.1 ((same x).2 (List.mem_cons_of_mem _ hx)) with rfl | h
          · exact absurd (hf _ hx) (Std.Irrefl.irrefl _)
          · exact h
  subst this
  rfl

theorem modifyTwice (t : Table κ α) (k : κ) {f : α → α} (same : ∀ a, f (f a) = f a) :
    (t.modify k f).modify k f = t.modify k f := sameLookup fun k' => by
  simp only [getModify]
  split
  · rw [if_pos trivial, Option.map_map]
    exact congrArg (Option.map · _) (funext same)
  · rfl

theorem modifySwap (t : Table κ α) {k l : κ} {f g : α → α} (apart : k ≠ l ∨ ∀ a, f (g a) = g (f a)) :
    (t.modify k f).modify l g = (t.modify l g).modify k f := sameLookup fun k' => by
  simp only [getModify]
  by_cases same : k = l
  · have swap := apart.resolve_left (· same)
    rw [same]
    split
    · rw [if_pos rfl, if_pos rfl, Option.map_map, Option.map_map]
      exact congrArg (Option.map · _) (funext fun a => (swap a).symm)
    · rfl
  · grind

end Lookup

section Insertion

variable {κ α : Type} [LT κ] [DecidableEq κ] [DecidableLT κ]

def place (k : κ) (a : α) : List (κ × α) → List (κ × α)
  | [] => [(k, a)]
  | e :: r => if k < e.1 then (k, a) :: e :: r
    else if k = e.1 then (k, a) :: r
    else e :: place k a r

theorem memPlace {k : κ} {a : α} {l : List (κ × α)} {e : κ × α} (h : e ∈ place k a l) :
    e = (k, a) ∨ e ∈ l := by
  induction l with
  | nil => simpa [place] using h
  | cons x r ih => grind [place]

variable [Trans (· < · : κ → κ → Prop) (· < · : κ → κ → Prop) (· < · : κ → κ → Prop)]
    [Std.Trichotomous (· < · : κ → κ → Prop)]

theorem placeSorted (k : κ) (a : α) {l : List (κ × α)} (h : l.Pairwise (·.1 < ·.1)) :
    (place k a l).Pairwise (·.1 < ·.1) := by
  induction l with
  | nil => simp [place]
  | cons x r ih =>
    obtain ⟨hx, hr⟩ := List.pairwise_cons.1 h
    rw [place]
    split
    · rename_i lt
      refine List.pairwise_cons.2 ⟨fun y hy => ?_, h⟩
      rcases List.mem_cons.1 hy with rfl | hy
      · exact lt
      · exact Trans.trans lt (hx y hy)
    · split
      · rename_i same
        exact List.pairwise_cons.2 ⟨fun y hy => same ▸ hx y hy, hr⟩
      · rename_i ge ne
        refine List.pairwise_cons.2 ⟨fun y hy => ?_, ih hr⟩
        rcases memPlace hy with rfl | hy
        · rcases Std.Trichotomous.rel_or_eq_or_rel_swap (r := (· < ·)) (a := k) (b := x.1) with h | h | h
          · exact absurd h ge
          · exact absurd h ne
          · exact h
        · exact hx y hy

def insert (t : Table κ α) (k : κ) (a : α) : Table κ α :=
  ⟨place k a t.entries, placeSorted k a t.sorted⟩

@[grind =] theorem getInsert (t : Table κ α) (k k' : κ) (a : α) :
    (t.insert k a).get? k' = if k' = k then some a else t.get? k' := by
  obtain ⟨l, h⟩ := t
  simp only [insert, get?]
  clear h
  induction l with
  | nil => by_cases same : k = k' <;> simp [place, same, eq_comm]
  | cons e r ih =>
    rw [place]
    split
    · by_cases same : k = k' <;> grind
    · split
      · by_cases same : k = k' <;> grind
      · rw [List.find?_cons, List.find?_cons]
        by_cases same : e.1 = k'
        · have : k' ≠ k := fun h => by grind
          simp [same, this]
        · simp [same, ih]

variable [Std.Irrefl (· < · : κ → κ → Prop)]

theorem insertSame {t : Table κ α} {k : κ} {a : α} (found : t.get? k = some a) : t.insert k a = t := by
  apply sameLookup
  intro k'
  rw [getInsert]
  split
  · rename_i same
    rw [same, found]
  · rfl

theorem insertSwap (t : Table κ α) {k l : κ} (apart : k ≠ l) (a a' : α) :
    (t.insert k a).insert l a' = (t.insert l a').insert k a := sameLookup fun k' => by
  simp only [getInsert]
  grind

end Insertion

end Table
end Databus
