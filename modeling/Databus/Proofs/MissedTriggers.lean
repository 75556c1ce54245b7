import Databus.Proofs.WaitSetCallers
import Mathlib.Data.List.Induction

/-! Callers that miss a trigger. No trigger is missed by all callers of a wait set: once its hooks have been called,
the flag is up, or a scan is under way, or a scan has found it. But the flag is for whichever caller lowers it first. -/
namespace Databus

def CallerPhase.Waits : CallerPhase → Prop
  | testing _ | blocked => True
  | _ => False

namespace WaitSetCallers

variable {c : WaitSetCallers} {acts : List CallerStep} {i j : Nat} {k : ConditionId} {p : CallerPhase}

/-- A caller is blocked and nothing will wake it, though a trigger is up whose hooks have been called. -/
structure Sleeps (c : WaitSetCallers) (i : Nat) (k : ConditionId) : Prop where
  blocked : c.callers[i]? = some .blocked
  lowered : c.bus.isPending c.waitSet = false
  attached : k ∈ c.bus.attachedTo c.waitSet
  high : c.bus.conditionValue k = true
  told : k ∉ c.owed

structure Missed (c : WaitSetCallers) (k : ConditionId) : Prop where
  lowered : c.bus.isPending c.waitSet = false
  attached : k ∈ c.bus.attachedTo c.waitSet
  high : c.bus.conditionValue k = true
  told : k ∉ c.owed
  unseen : .scanning ∉ c.callers

theorem Missed.found (h : Missed c k) : k ∈ c.bus.triggered c.waitSet := List.mem_filter.2 ⟨h.attached, h.high⟩

/-! ### Steps -/

theorem stepHooked (h : c.bus.Hooked c.waitSet) (a : CallerStep) : (c.step a).bus.Hooked (c.step a).waitSet := by
  cases a with
  | arrive => exact h
  | clear i =>
    simp only [step]
    split
    · exact h.lower
    · exact h
  | scan i | test i | expire i =>
    simp only [step]
    split <;> exact h
  | store k p => exact h.store k p
  | notify k =>
    simp only [step]
    split
    · exact h.notify k
    · exact h
  | attach k =>
    simp only [step]
    split
    · rename_i ok
      exact h.attach ok
    · exact h

theorem setUnseen (there : c.callers[i]? = some p) (other : p ≠ .scanning) {q : CallerPhase}
    (unseen : .scanning ∉ c.callers.set i q) : .scanning ∉ c.callers := by
  intro mem
  obtain ⟨j, scanning⟩ := List.getElem?_of_mem mem
  have apart : i ≠ j := by
    rintro rfl
    exact other (Option.some.inj (there.symm.trans scanning))
  exact unseen (List.mem_of_getElem? ((List.getElem?_set_ne apart).trans scanning))

theorem rousedUnseen {signalled : Bool} (unseen : .scanning ∉ c.roused signalled) : .scanning ∉ c.callers := by
  unfold roused at unseen
  split at unseen
  · exact fun mem => unseen (List.mem_map.2 ⟨_, mem, rfl⟩)
  · exact unseen

theorem stepMissed (h : c.bus.Hooked c.waitSet) {a : CallerStep} (missed : (c.step a).Missed k) :
    c.Missed k ∨ ∃ i, a = .scan i ∧ c.callers[i]? = some .scanning ∧ k ∈ c.bus.triggered c.waitSet := by
  cases a with
  | arrive =>
    obtain ⟨lowered, attached, high, told, unseen⟩ := missed
    exact .inl ⟨lowered, attached, high, told, fun mem => unseen (List.mem_append_left _ mem)⟩
  | clear i =>
    simp only [step] at missed
    split at missed
    · rename_i there
      have inside := (List.getElem?_eq_some_iff.1 there).1
      exact absurd (List.mem_of_getElem? (List.getElem?_set_self inside)) missed.unseen
    · exact .inl missed
  | scan i =>
    simp only [step] at missed
    split at missed
    · rename_i there
      exact .inr ⟨i, rfl, there, List.mem_filter.2 ⟨missed.attached, missed.high⟩⟩
    · exact .inl missed
  | test i | expire i =>
    simp only [step] at missed
    split at missed
    · rename_i there
      obtain ⟨lowered, attached, high, told, unseen⟩ := missed
      refine .inl ⟨lowered, attached, high, told, setUnseen there ?_ unseen⟩
      rintro ⟨⟩
    · exact .inl missed
  | store k' p =>
    obtain ⟨lowered, attached, high, told, unseen⟩ := missed
    simp only [step] at high told
    by_cases own : k = k'
    · subst own
      split at told
      · exact absurd List.mem_cons_self told
      · rename_i quiet
        exact .inl ⟨lowered, attached, Bus.storeTold high (Bool.eq_false_iff.2 quiet), told, unseen⟩
    · rw [Bus.conditionTrigger, Bus.storeValue, if_neg own, ← Bus.conditionTrigger] at high
      refine .inl ⟨lowered, attached, high, fun mem => told ?_, unseen⟩
      split
      · exact List.mem_cons_of_mem _ mem
      · exact mem
  | notify k' =>
    simp only [step] at missed
    split at missed
    · obtain ⟨lowered, attached, high, told, unseen⟩ := missed
      have attached' : k ∈ c.bus.attachedTo c.waitSet := Middleware.Site.notifyAttached c.bus k' c.waitSet ▸ attached
      have high' : c.bus.conditionValue k = true := ((Bus.notifyQuiet c.bus k').values k).symm.trans high
      obtain ⟨down, unhooked⟩ := Bool.or_eq_false_iff.1 ((Bus.notifyPending h.there k').symm.trans lowered)
      refine .inl ⟨down, attached', high', fun mem => told ((List.mem_erase_of_ne ?_).2 mem), rousedUnseen unseen⟩
      rintro rfl
      exact absurd (h.raised attached' high') (of_decide_eq_false unhooked)
    · exact .inl missed
  | attach k' =>
    simp only [step] at missed
    split at missed
    · rename_i bus ok
      obtain ⟨lowered, attached, high, told, unseen⟩ := missed
      have high' : c.bus.conditionValue k = true := ((Bus.attachQuiet ok).values k).symm.trans high
      obtain ⟨down, low⟩ := Bool.or_eq_false_iff.1 ((Bus.attachPending h.there ok).symm.trans lowered)
      refine .inl ⟨down, (Middleware.Site.attachAttached ok attached).resolve_right ?_, high', told,
        rousedUnseen unseen⟩
      rintro rfl
      cases low.symm.trans high'
    · exact .inl missed

inductive Moves (c : WaitSetCallers) (i : Nat) : CallerStep → CallerPhase → CallerPhase → Prop
  | stays {a p} : Moves c i a p p
  | keepsGuards {a} : Moves c i a .blocked (.testing false)
  | clears : Moves c i (.clear i) .clearing .scanning
  | scans (none : c.bus.triggered c.waitSet = []) : Moves c i (.scan i) .scanning (.testing false)
  | finds {found} : Moves c i (.scan i) .scanning (.done found)
  | turns {expired} : Moves c i (.test i) (.testing expired) .clearing
  | leaves : Moves c i (.test i) (.testing true) (.done [])
  | blocks : Moves c i (.test i) (.testing false) .blocked
  | expires : Moves c i (.expire i) .blocked (.testing true)

theorem setMoves {a : CallerStep} {q p' : CallerPhase} (there : c.callers[j]? = some p) (moves : c.Moves j a p q)
    (there' : (c.callers.set j q)[i]? = some p') : ∃ p, c.callers[i]? = some p ∧ c.Moves i a p p' := by
  by_cases own : j = i
  · subst own
    rw [List.getElem?_set_self (List.getElem?_eq_some_iff.1 there).1] at there'
    exact ⟨p, there, Option.some.inj there' ▸ moves⟩
  · rw [List.getElem?_set_ne own] at there'
    exact ⟨p', there', .stays⟩

theorem rousedMoves {a : CallerStep} {signalled : Bool} {p' : CallerPhase}
    (there' : (c.roused signalled)[i]? = some p') :
    ∃ p, c.callers[i]? = some p ∧ c.Moves i a p p' := by
  unfold roused at there'
  split at there'
  · rw [List.getElem?_map] at there'
    obtain ⟨p, there, rfl⟩ := Option.map_eq_some_iff.1 there'
    refine ⟨p, there, ?_⟩
    cases p with
    | blocked => exact .keepsGuards
    | _ => exact .stays
  · exact ⟨p', there', .stays⟩

theorem stepMoves {a : CallerStep} {p' : CallerPhase} (there' : (c.step a).callers[i]? = some p') :
    a = .arrive ∧ i = c.callers.length ∧ p' = .clearing ∨ ∃ p, c.callers[i]? = some p ∧ c.Moves i a p p' := by
  cases a with
  | arrive =>
    rcases Nat.lt_or_ge i c.callers.length with old | new
    · exact .inr ⟨p', (List.getElem?_append_left old).symm.trans there', .stays⟩
    · have last := (List.getElem?_append_right new).symm.trans there'
      rw [List.getElem?_singleton] at last
      split at last
      · rename_i first
        exact .inl ⟨rfl, Nat.le_antisymm (Nat.le_of_sub_eq_zero first) new, (Option.some.inj last).symm⟩
      · cases last
  | store k p => exact .inr ⟨p', there', .stays⟩
  | notify k | attach k =>
    simp only [step] at there'
    split at there'
    · exact .inr (rousedMoves there')
    · exact .inr ⟨p', there', .stays⟩
  | clear j =>
    simp only [step] at there'
    split at there'
    · rename_i there
      exact .inr (setMoves there .clears there')
    · exact .inr ⟨p', there', .stays⟩
  | scan j =>
    simp only [step] at there'
    split at there'
    · rename_i there
      refine .inr (setMoves there ?_ there')
      split
      · rename_i none
        exact .scans none
      · exact .finds
    · exact .inr ⟨p', there', .stays⟩
  | test j =>
    simp only [step] at there'
    split at there'
    · rename_i expired there
      refine .inr (setMoves there ?_ there')
      split
      · exact .turns
      · split
        · rename_i up
          exact up ▸ .leaves
        · rename_i left
          exact Bool.eq_false_iff.2 left ▸ .blocks
    · exact .inr ⟨p', there', .stays⟩
  | expire j =>
    simp only [step] at there'
    split at there'
    · rename_i there
      exact .inr (setMoves there .expires there')
    · exact .inr ⟨p', there', .stays⟩

/-! ### Runs -/

def Heard (c : WaitSetCallers) (acts : List CallerStep) (k : ConditionId) : Prop :=
  ∃ before i after, acts = before ++ .scan i :: after ∧ (c.run before).callers[i]? = some .scanning ∧
    k ∈ (c.run before).bus.triggered c.waitSet ∧
    ∀ early, early <+: after → (c.run (before ++ .scan i :: early)).bus.conditionValue k = true

theorem stepWaitSet (c : WaitSetCallers) (a : CallerStep) : (c.step a).waitSet = c.waitSet := by
  cases a <;> simp only [step] <;> split <;> rfl

theorem runWaitSet (c : WaitSetCallers) (acts : List CallerStep) : (c.run acts).waitSet = c.waitSet :=
  List.foldlRecOn (motive := fun c' : WaitSetCallers => c'.waitSet = c.waitSet) acts step rfl fun c' same a _ =>
    (stepWaitSet c' a).trans same

theorem runHooked (h : c.bus.Hooked c.waitSet) (acts : List CallerStep) :
    (c.run acts).bus.Hooked (c.run acts).waitSet :=
  List.foldlRecOn (motive := fun c' : WaitSetCallers => c'.bus.Hooked c'.waitSet) acts step h fun _ h a _ =>
    stepHooked h a

theorem Heard.next (h : c.Heard acts k) {a : CallerStep} (high : (c.run (acts ++ [a])).bus.conditionValue k = true) :
    c.Heard (acts ++ [a]) k := by
  obtain ⟨before, i, after, rfl, there, found, stays⟩ := h
  refine ⟨before, i, after ++ [a], by simp, there, found, fun early inside => ?_⟩
  rcases List.prefix_concat_iff.1 inside with rfl | inside
  · simpa only [List.append_assoc, List.cons_append] using high
  · exact stays early inside

theorem missedHeard (h : c.bus.Hooked c.waitSet) (fresh : ¬ c.Missed k) (missed : (c.run acts).Missed k) :
    c.Heard acts k := by
  induction acts using List.reverseRecOn with
  | nil => exact absurd missed fresh
  | append_singleton acts a ih =>
    have high := missed.high
    rw [runNext] at missed
    rcases stepMissed (runHooked h acts) missed with before | ⟨i, rfl, there, found⟩
    · exact (ih before).next high
    · refine ⟨acts, i, [], rfl, there, runWaitSet c acts ▸ found, fun early inside => ?_⟩
      rw [List.prefix_nil.1 inside]
      exact high

/-! ### One caller at a time -/

def Alone (c : WaitSetCallers) (acts : List CallerStep) : Prop :=
  ∀ before after, acts = before ++ .arrive :: after → ∀ p ∈ (c.run before).callers, ∃ found, p = .done found

def Active (c : WaitSetCallers) (i : Nat) : Prop := ∃ p, c.callers[i]? = some p ∧ ∀ found, p ≠ .done found

theorem stepActive {a : CallerStep} (active : (c.step a).Active i) :
    c.Active i ∨ a = .arrive ∧ i = c.callers.length := by
  obtain ⟨p', there', busy⟩ := active
  rcases stepMoves there' with ⟨arrives, last, _⟩ | ⟨p, there, moves⟩
  · exact .inr ⟨arrives, last⟩
  · refine .inl ⟨p, there, ?_⟩
    rintro found rfl
    cases moves with
    | stays => exact busy found rfl

theorem Alone.earlier {a : CallerStep} (h : c.Alone (acts ++ [a])) : c.Alone acts := by
  rintro before after rfl
  exact h before (after ++ [a]) (by simp)

theorem aloneActive (h : c.Alone acts) (fresh : c.callers = []) (here : (c.run acts).Active i)
    (there : (c.run acts).Active j) : i = j := by
  induction acts using List.reverseRecOn with
  | nil =>
    obtain ⟨p, here, _⟩ := here
    rw [run, List.foldl_nil, fresh] at here
    cases here
  | append_singleton acts a ih =>
    rw [runNext] at here there
    have idle {i : Nat} (arrives : a = .arrive) : ¬ (c.run acts).Active i := by
      rintro ⟨p, there, busy⟩
      obtain ⟨found, rfl⟩ := h acts [] (arrives ▸ rfl) p (List.mem_of_getElem? there)
      exact busy found rfl
    rcases stepActive here with here | ⟨arrives, last⟩
    · rcases stepActive there with there | ⟨arrives, _⟩
      · exact ih h.earlier here there
      · exact absurd here (idle arrives)
    · rcases stepActive there with there | ⟨_, last'⟩
      · exact absurd there (idle arrives)
      · exact last.trans last'.symm

theorem aloneAwake (h : c.bus.Hooked c.waitSet) (alone : c.Alone acts) (fresh : c.callers = [])
    (there : (c.run acts).callers[i]? = some p) (waits : p.Waits) : ¬ (c.run acts).Missed k := by
  induction acts using List.reverseRecOn generalizing p with
  | nil =>
    rw [run, List.foldl_nil, fresh] at there
    cases there
  | append_singleton acts a ih =>
    rw [runNext] at there ⊢
    intro missed
    rcases stepMoves there with ⟨_, _, rfl⟩ | ⟨q, there', moves⟩
    · exact waits
    rcases stepMissed (runHooked h acts) missed with before | ⟨j, rfl, scanning, found⟩
    · cases moves with
      | stays => exact ih alone.earlier there' waits before
      | keepsGuards | blocks | expires => exact ih alone.earlier there' trivial before
      | scans none => exact List.not_mem_nil (none ▸ before.found)
      | clears | finds | turns | leaves => exact waits
    · -- the scan that has found the trigger is the caller's own
      have busy : (c.run acts).Active i := ⟨q, there', fun found same => by
        subst same
        cases moves
        exact waits⟩
      cases aloneActive alone.earlier fresh busy ⟨_, scanning, fun _ => CallerPhase.noConfusion⟩
      cases there'.symm.trans scanning
      cases moves with
      | stays => exact waits
      | scans none => exact List.not_mem_nil (none ▸ found)
      | finds => exact waits

/-! ### Sleepers -/

/-- A caller that misses a trigger is not alone, and another caller has found the trigger or is about to. -/
theorem sleepsBeside (b : Bus) {acts : List CallerStep} (sleeps : ((opened b).run acts).Sleeps i k) :
    (.scanning ∈ ((opened b).run acts).callers ∨ (opened b).Heard acts k) ∧ ¬ (opened b).Alone acts := by
  obtain ⟨blocked, lowered, attached, high, told⟩ := sleeps
  have hooked : (opened b).bus.Hooked (opened b).waitSet := Bus.Hooked.fresh b
  have fresh : ¬ (opened b).Missed k := fun missed => List.not_mem_nil (Bus.newAttached b ▸ missed.attached)
  by_cases scanning : .scanning ∈ ((opened b).run acts).callers
  · refine ⟨.inl scanning, fun alone => ?_⟩
    obtain ⟨j, there⟩ := List.getElem?_of_mem scanning
    cases aloneActive alone rfl ⟨_, blocked, fun _ => CallerPhase.noConfusion⟩
      ⟨_, there, fun _ => CallerPhase.noConfusion⟩
    cases blocked.symm.trans there
  · have missed : ((opened b).run acts).Missed k := ⟨lowered, attached, high, told, scanning⟩
    exact ⟨.inr (missedHeard hooked fresh missed), fun alone => aloneAwake hooked alone rfl blocked trivial missed⟩

def shared : List CallerStep :=
  [.attach 1, .arrive, .clear 0, .scan 0, .test 0, .arrive, .clear 1, .scan 1, .test 1, .store 1 (.setGuard true),
    .notify 1, .test 0, .clear 0, .scan 0, .test 1]

theorem sharedBlocks : ((opened (({} : Bus).newCondition .newGuard).2).run shared).Sleeps 1 1 := by
  constructor <;> decide +kernel

theorem sharedBeside : (opened (({} : Bus).newCondition .newGuard).2).Heard shared 1 ∧
    ¬ (opened (({} : Bus).newCondition .newGuard).2).Alone shared := by
  obtain ⟨beside, crowded⟩ := sleepsBeside _ sharedBlocks
  exact ⟨beside.resolve_left (by decide +kernel), crowded⟩

theorem sleptThrough : ∃ b acts i k, ((opened b).run acts).Sleeps i k := ⟨_, _, _, _, sharedBlocks⟩

end WaitSetCallers
end Databus
