import Databus.Proofs.WaitSteps

/-! Waits exclude one another: whatever waits start, block, are refused and end in whatever order, and whatever other
calls come between their steps, a flag is up exactly while one wait holds the claim on its resource. -/
namespace Databus.Middleware

variable {K : Type}

namespace WaitingSystem

variable [Catalog K] [DecidableEq K] {l : WaitingSystem K}

/-! ### Waits that leave -/

theorem stepElse {m : Nat} {v : WaitCall} {e : Event K} (there : l.waits[m]? = some v) (other : e.waitCall? ≠ some m) :
    (l.step e).waits[m]? = some v := by
  have inside : m < l.waits.length := (List.getElem?_eq_some_iff.1 there).1
  have acts {n : Nat} {f : System K → WaitCall → System K × WaitCall} (else' : n ≠ m) :
      (l.act n f).waits[m]? = some v := by
    unfold act
    split
    · exact there
    · exact (List.getElem?_set_ne else').trans there
  have joins (s' : System K) (w : WaitCall) : (⟨s', l.waits ++ [w]⟩ : WaitingSystem K).waits[m]? = some v :=
    (List.getElem?_append_left inside).trans there
  cases e with
  | call c =>
    simp only [step]
    split <;> exact there
  | enter ctx timeout subscriptions guards =>
    simp only [step, enter]
    split
    · exact joins _ _
    · split
      · exact joins _ _
      · split <;> exact joins _ _
  | claim n | block n | turn n | collect n | release n | leave n => exact acts fun own => other (congrArg some own)

theorem stepHeld {m : Nat} {e : Event K} (other : e.waitCall? ≠ some m) : (l.step e).held m = l.held m := by
  cases there : l.waits[m]? with
  | some v => rw [heldThere there, heldThere (stepElse there other)]
  | none =>
    cases e with
    | call c =>
      simp only [step]
      split <;> rfl
    | enter ctx timeout subscriptions guards =>
      simp only [step, enter]
      split
      · exact heldJoin rfl m
      · split
        · exact heldJoin rfl m
        · split <;> exact heldJoin rfl m
    | claim n | block n | turn n | collect n | release n | leave n =>
      simp only [step, act]
      split
      · rfl
      · rename_i there'
        exact (heldSet there' m).trans (if_neg fun own => other (congrArg some own.symm))

structure Departs (answer : Except Failure Outcome) (held : List ConditionId) (v : WaitCall) : Prop where
  gives : v.held <:+ held
  answers : v.stage = .leaving answer ∨ v.stage = .gone answer ∧ v.held = []

theorem stepDeparts {n : Nat} {v : WaitCall} {answer : Except Failure Outcome} {held : List ConditionId}
    (there : l.waits[n]? = some v) (departs : Departs answer held v) (e : Event K) :
    ∃ v', (l.step e).waits[n]? = some v' ∧ Departs answer held v' := by
  by_cases own : e.waitCall? = some n
  · have inside : n < l.waits.length := (List.getElem?_eq_some_iff.1 there).1
    have acts {f : System K → WaitCall → System K × WaitCall} (departs' : Departs answer held (f l.system v).2) :
        ∃ v', (l.act n f).waits[n]? = some v' ∧ Departs answer held v' := by
      refine ⟨_, ?_, departs'⟩
      simp only [act, there]
      exact List.getElem?_set_self inside
    obtain ⟨gives, answers⟩ := departs
    cases e with
    | call | enter => cases own
    | claim | block | turn | collect =>
      cases own
      refine acts ⟨?_, ?_⟩ <;>
        rcases answers with stage | ⟨stage, none⟩ <;>
          simp only [WaitCall.claim, WaitCall.block, WaitCall.turn, WaitCall.collect, stage] <;>
          simp [*]
    | release =>
      cases own
      refine acts ?_
      rcases answers with stage | ⟨stage, none⟩
      · cases had : v.held with
        | nil => simpa only [WaitCall.release, stage, had] using ⟨gives, .inl stage⟩
        | cons c rest =>
          simp only [WaitCall.release, stage, had]
          exact ⟨(List.suffix_cons c rest).trans (had ▸ gives), .inl rfl⟩
      · simpa only [WaitCall.release, stage] using ⟨gives, .inr ⟨stage, none⟩⟩
    | leave =>
      cases own
      refine acts ?_
      rcases answers with stage | ⟨stage, none⟩
      · cases had : v.held with
        | nil =>
          simp only [WaitCall.leave, stage, had]
          exact ⟨had ▸ gives, .inr ⟨rfl, rfl⟩⟩
        | cons c rest => simpa only [WaitCall.leave, stage, had] using ⟨gives, .inl stage⟩
      · simpa only [WaitCall.leave, stage] using ⟨gives, .inr ⟨stage, none⟩⟩
  · exact ⟨v, stepElse there own, departs⟩

theorem runDeparts {n : Nat} {v : WaitCall} {answer : Except Failure Outcome} {held : List ConditionId}
    (there : l.waits[n]? = some v) (departs : Departs answer held v) (events : List (Event K)) :
    ∃ v', (l.run events).waits[n]? = some v' ∧ Departs answer held v' := by
  induction events generalizing l v with
  | nil => exact ⟨v, there, departs⟩
  | cons e rest ih =>
    obtain ⟨v', there', departs'⟩ := stepDeparts there departs e
    exact ih there' departs'

theorem refusedSet {n : Nat} {v : WaitCall} {w : Waitable} {c : ConditionId} {rest : List (Waitable × ConditionId)}
    (there : l.waits[n]? = some v) (stage : v.stage = .claiming ((w, c) :: rest)) (taken : c ∈ l.system.observed) :
    l.step (.claim n) = ⟨l.system, l.waits.set n { v with stage := .leaving (.error (inUse w)) }⟩ := by
  simp only [step, act, there, WaitCall.claim, stage, if_pos taken]

theorem grantedHeld {n : Nat} {v : WaitCall} {w : Waitable} {c : ConditionId} {rest : List (Waitable × ConditionId)}
    (there : l.waits[n]? = some v) (stage : v.stage = .claiming ((w, c) :: rest)) (free : c ∉ l.system.observed) :
    (l.step (.claim n)).held n = v.held ++ [c] := by
  have inside : n < l.waits.length := (List.getElem?_eq_some_iff.1 there).1
  simp only [step, act, there, WaitCall.claim, stage, if_neg free, held, List.getElem?_set_self inside]

theorem refusedHeld {n : Nat} {v : WaitCall} {w : Waitable} {c : ConditionId} {rest : List (Waitable × ConditionId)}
    (there : l.waits[n]? = some v) (stage : v.stage = .claiming ((w, c) :: rest)) (taken : c ∈ l.system.observed)
    (m : Nat) : (l.step (.claim n)).held m = l.held m := by
  rw [refusedSet there stage taken, heldSet there]
  split
  · rename_i own
    rw [own, heldThere there]
  · rfl

/-! ### Exclusive observation -/

end WaitingSystem

def WaitCall.IsGone (v : WaitCall) : Prop := ∃ answer, v.stage = .gone answer

theorem WaitCall.Fit.runs {v : WaitCall} (fit : v.Fit) {c : ConditionId} (had : c ∈ v.held) : ¬ v.IsGone := by
  rintro ⟨answer, stage⟩
  rw [WaitCall.Fit, stage] at fit
  rw [fit] at had
  cases had

namespace WaitingSystem

theorem heldBy {l : WaitingSystem K} {n : Nat} {c : ConditionId} (mem : c ∈ l.held n) :
    ∃ v, l.waits[n]? = some v ∧ c ∈ v.held := by
  unfold held at mem
  split at mem
  · exact ⟨_, ‹_›, mem⟩
  · cases mem

variable [Catalog K] [DecidableEq K]

structure Exclusive (l : WaitingSystem K) : Prop where
  flags : ∀ c, c ∈ l.system.observed ↔ ∃ n, c ∈ l.held n
  sole : ∀ n m c, c ∈ l.held n → c ∈ l.held m → n = m
  once : ∀ n, (l.held n).Nodup
  running : ∀ (n : Nat) c, c ∈ l.held n → ∃ v, l.waits[n]? = some v ∧ ¬ v.IsGone ∧ ∃ i, v.Lists i c
  records : ∀ (n : Nat) (v : WaitCall) i c, l.waits[n]? = some v → v.Lists i c →
    ∀ ctx' i', l.system.condition? ctx' i' = some c → ctx' = v.ctx ∧ i' = i
  distinct : l.system.Distinct
  idle : (∀ v ∈ l.waits, v.IsGone) → l.system.observed = []
  others : ∀ e m, e.waitCall? ≠ some m → (l.step e).held m = l.held m
  granted : ∀ (n : Nat) v w c rest, l.waits[n]? = some v → v.stage = .claiming ((w, c) :: rest) →
    c ∉ l.system.observed →
    (l.step (.claim n)).held n = v.held ++ [c]
  refused : ∀ (n : Nat) v w c rest, l.waits[n]? = some v → v.stage = .claiming ((w, c) :: rest) →
    c ∈ l.system.observed →
    (∀ m, (l.step (.claim n)).held m = l.held m) ∧
    (∀ events, ∃ v', ((l.step (.claim n)).run events).waits[n]? = some v' ∧
      Departs (.error (inUse w)) v.held v') ∧
    ∀ k, k ∈ ((l.step (.claim n)).run (leaves n v.held)).system.observed ↔ k ∈ l.system.observed ∧ k ∉ v.held

/-- Whatever the waits and the calls between their steps, observation is exclusive. -/
theorem claimsExclusive (events : List (Event K)) : (({} : WaitingSystem K).run events).Exclusive := by
  have orderly := orderlyFresh.run events
  generalize ({} : WaitingSystem K).run events = l at orderly
  refine ⟨orderly.exact.flags, orderly.exact.sole, orderly.exact.once, fun n c mem => ?_,
    fun n v i c there lists => (orderly.named v (List.mem_of_getElem? there) i c lists).2, orderly.distinct,
    fun gone => ?_, fun e m other => stepHeld other, fun n v w c rest there stage free => grantedHeld there stage free,
    fun n v w c rest there stage taken => ⟨refusedHeld there stage taken, ?_, fun k => ?_⟩⟩
  · obtain ⟨v, there, had⟩ := heldBy mem
    have mem := List.mem_of_getElem? there
    exact ⟨v, there, (orderly.fit v mem).runs had, WaitCall.listsExact.1 ((orderly.fit v mem).listed had)⟩
  · refine List.eq_nil_iff_forall_not_mem.2 fun c up => ?_
    obtain ⟨n, mem⟩ := (orderly.exact.flags c).1 up
    obtain ⟨v, there, had⟩ := heldBy mem
    have mem := List.mem_of_getElem? there
    exact (orderly.fit v mem).runs had (gone v mem)
  · have inside : n < l.waits.length := (List.getElem?_eq_some_iff.1 there).1
    rw [refusedSet there stage taken]
    exact runDeparts (List.getElem?_set_self inside) ⟨List.suffix_refl _, .inl rfl⟩
  · have inside : n < l.waits.length := (List.getElem?_eq_some_iff.1 there).1
    rw [refusedSet there stage taken, leavesAlone inside (v := { v with stage := .leaving (.error (inUse w)) }) rfl]
    simp [System.report, System.setError]

end WaitingSystem
end Databus.Middleware
