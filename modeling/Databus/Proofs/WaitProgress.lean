import Databus.Proofs.WaitExclusion

/-! The course of a wait: what a step makes of how far it is, and from an answer back to the collecting that gave it
and to the turn that ended the blocking. -/
namespace Databus.Middleware

variable {K : Type}

/-! ### Steps -/

namespace WaitCall

def Goes (v v' : WaitCall) : Prop := v' = { v with held := v'.held, stage := v'.stage }

theorem Goes.trans {u v w : WaitCall} (h : u.Goes v) (h' : v.Goes w) : u.Goes w := by
  unfold Goes at h h' ⊢
  rw [h', h]

inductive Passes [Catalog K] (s : System K) (n : Nat) (e : Event K) (v : WaitCall) : Stage → Prop
  | stays : Passes s n e v v.stage
  | claims {rest} (rest') (stage : v.stage = .claiming rest) : Passes s n e v (.claiming rest')
  | fails {rest} (f) (stage : v.stage = .claiming rest) : Passes s n e v (.leaving (.error f))
  | blocks {clock} (own : e = .block n clock) (stage : v.stage = .claiming []) :
    Passes s n e v (.blocked (v.ticket clock s))
  | ends {now t expired} (own : e = .turn n now) (stage : v.stage = .blocked t)
    (ended : (s.turn t now).1 = .over expired) : Passes s n e v (.over t expired)
  | collects {t expired} (own : e = .collect n) (stage : v.stage = .over t expired) :
    Passes s n e v (.leaving (.ok (s.endWait t expired).1))
  | leaves {answer} (stage : v.stage = .leaving answer) : Passes s n e v (.gone answer)

variable [Catalog K] {s : System K} {v : WaitCall} {n : Nat}

theorem claimPasses (s : System K) (v : WaitCall) : v.Passes s n (.claim n) (v.claim s).2.stage := by
  unfold claim
  split
  · rename_i stage
    split
    · exact .fails _ stage
    · exact .claims _ stage
  · exact .stays

theorem blockPasses (clock : Clock) (s : System K) (v : WaitCall) :
    v.Passes s n (.block n clock) (v.block clock s).2.stage := by
  rcases blockOpens clock s v with none | ⟨stage, b, ⟨f, opened⟩ | opened⟩
  · exact none ▸ .stays
  · exact opened ▸ .fails f stage
  · exact opened ▸ .blocks rfl stage

theorem turnPasses (now : Nat) (s : System K) (v : WaitCall) : v.Passes s n (.turn n now) (v.turn now s).2.stage := by
  unfold turn
  split
  · rename_i stage
    split
    · rename_i eq
      exact .ends rfl stage (congrArg Prod.fst eq)
    · exact .stays
  · exact .stays

theorem collectPasses (s : System K) (v : WaitCall) : v.Passes s n (.collect n) (v.collect s).2.stage := by
  unfold collect
  split
  · exact .collects rfl ‹_›
  · exact .stays

theorem releasePasses (s : System K) (v : WaitCall) : v.Passes s n (.release n) (v.release s).2.stage := by
  unfold release
  split <;> exact .stays

theorem leavePasses (s : System K) (v : WaitCall) : v.Passes s n (.leave n) (v.leave s).2.stage := by
  unfold leave
  split
  · exact .leaves ‹_›
  · exact .stays

end WaitCall

namespace WaitingSystem

def Starts (v : WaitCall) : Prop := (∃ rest, v.stage = .claiming rest) ∨ ∃ f, v.stage = .gone (.error f)

variable {n : Nat} {v' : WaitCall}

theorem actPasses [Catalog K] {l : WaitingSystem K} {e : Event K} {m : Nat}
    {f : System K → WaitCall → System K × WaitCall}
    (moves : ∀ s v, WaitCall.Moved s v (f s v).1 (f s v).2) (passes : ∀ s v, WaitCall.Passes s m e v (f s v).2.stage)
    (there : (l.act m f).waits[n]? = some v') : ∃ v, l.waits[n]? = some v ∧
      v.Goes v' ∧ v.Passes l.system n e v'.stage := by
  unfold act at there
  split at there
  · exact ⟨v', there, rfl, .stays⟩
  · rename_i v found
    by_cases own : m = n
    · subst own
      have inside : m < l.waits.length := (List.getElem?_eq_some_iff.1 found).1
      cases Option.some.inj ((List.getElem?_set_self inside).symm.trans there)
      exact ⟨v, found, (moves _ _).slots, passes _ _⟩
    · exact ⟨v', (List.getElem?_set_ne own).symm.trans there, rfl, .stays⟩

variable [Catalog K] [DecidableEq K] {l : WaitingSystem K}

theorem stepPasses {e : Event K} (there : (l.step e).waits[n]? = some v') : l.waits[n]? = none ∧ Starts v' ∨
    ∃ v, l.waits[n]? = some v ∧ v.Goes v' ∧ v.Passes l.system n e v'.stage := by
  have joins {s' : System K} {w : WaitCall} (starts : Starts w)
      (there : (⟨s', l.waits ++ [w]⟩ : WaitingSystem K).waits[n]? = some v') : l.waits[n]? = none ∧ Starts v' ∨
      ∃ v, l.waits[n]? = some v ∧ v.Goes v' ∧ v.Passes l.system n e v'.stage := by
    rcases Nat.lt_or_ge n l.waits.length with old | new
    · exact .inr ⟨v', (List.getElem?_append_left old).symm.trans there, rfl, .stays⟩
    · have last := (List.getElem?_append_right new).symm.trans there
      exact .inl ⟨List.getElem?_eq_none new, List.mem_singleton.1 (List.mem_of_getElem? last) ▸ starts⟩
  cases e with
  | call c =>
    simp only [step] at there
    split at there <;> exact .inr ⟨v', there, rfl, .stays⟩
  | enter ctx timeout subscriptions guards =>
    simp only [step, enter] at there
    split at there
    · exact joins (.inr ⟨_, rfl⟩) there
    · split at there
      · exact joins (.inr ⟨_, rfl⟩) there
      · split at there
        · exact joins (.inr ⟨_, rfl⟩) there
        · exact joins (.inl ⟨_, rfl⟩) there
  | claim m => exact .inr (actPasses WaitCall.claimMoves WaitCall.claimPasses there)
  | block m clock => exact .inr (actPasses (WaitCall.blockMoves clock) (WaitCall.blockPasses clock) there)
  | turn m now => exact .inr (actPasses (WaitCall.turnMoves now) (WaitCall.turnPasses now) there)
  | collect m => exact .inr (actPasses WaitCall.collectMoves WaitCall.collectPasses there)
  | release m => exact .inr (actPasses WaitCall.releaseMoves WaitCall.releasePasses there)
  | leave m => exact .inr (actPasses WaitCall.leaveMoves WaitCall.leavePasses there)

/-! ### Runs -/

theorem since {Q : WaitCall → Prop} {events : List (Event K)} (there : (l.run events).waits[n]? = some v')
    (holds : Q v') : (∃ v, l.waits[n]? = some v ∧ v.Goes v' ∧ Q v) ∨
      ∃ before e after v, events = before ++ e :: after ∧ ((l.run before).step e).waits[n]? = some v ∧ v.Goes v' ∧
        Q v ∧ ∀ u, (l.run before).waits[n]? = some u → ¬ Q u := by
  induction events generalizing l with
  | nil => exact .inl ⟨v', there, rfl, holds⟩
  | cons e rest ih =>
    rcases ih there with ⟨v, found, goes, holds'⟩ | ⟨before, e', after, v, rfl, made⟩
    · by_cases already : ∃ u, l.waits[n]? = some u ∧ Q u
      · obtain ⟨u, found', holds''⟩ := already
        rcases stepPasses found with ⟨none, _⟩ | ⟨w, found'', goes', _⟩
        · rw [none] at found'
          cases found'
        · cases Option.some.inj (found'.symm.trans found'')
          exact .inl ⟨u, found', goes'.trans goes, holds''⟩
      · exact .inr ⟨[], e, rest, v, rfl, found, goes, holds', fun u found' holds'' => already ⟨u, found', holds''⟩⟩
    · exact .inr ⟨e :: before, e', after, v, rfl, made⟩

end WaitingSystem

namespace WaitCall

def outcome? (v : WaitCall) : Option Outcome :=
  match v.stage with
  | .leaving (.ok o) | .gone (.ok o) => some o
  | _ => none

theorem outcomeExact {v : WaitCall} {o : Outcome} :
    v.outcome? = some o ↔ v.stage = .leaving (.ok o) ∨ v.stage = .gone (.ok o) := by
  unfold outcome?
  split <;> simp_all

end WaitCall

namespace WaitingSystem

variable [Catalog K] [DecidableEq K] {events : List (Event K)} {n : Nat} {v' : WaitCall}

theorem overSince {t : Ticket} {expired : Bool} (there : (({} : WaitingSystem K).run events).waits[n]? = some v')
    (stage : v'.stage = .over t expired) : ∃ before now gap v, events = before ++ .turn n now :: gap ∧
      (({} : WaitingSystem K).run before).waits[n]? = some v ∧ v.Goes v' ∧ v.stage = .blocked t ∧
      ((({} : WaitingSystem K).run before).system.turn t now).1 = .over expired := by
  rcases since (Q := (·.stage = .over t expired)) there stage with
    ⟨v, found, _⟩ | ⟨before, e, gap, v, rfl, found, goes, ended, first⟩
  · cases found
  · rcases stepPasses found with ⟨_, ⟨rest, fresh⟩ | ⟨f, fresh⟩⟩ | ⟨u, found', goes', passes⟩
    · cases ended.symm.trans fresh
    · cases ended.symm.trans fresh
    · rw [ended] at passes
      generalize same : Stage.over t expired = stage at passes
      cases passes with
      | stays => exact absurd same.symm (first u found')
      | ends own blocked ends =>
        cases same
        exact ⟨before, _, gap, u, own ▸ rfl, found', goes'.trans goes, blocked, ends⟩
      | _ => cases same

theorem answeredSince {o : Outcome} (there : (({} : WaitingSystem K).run events).waits[n]? = some v')
    (answered : v'.outcome? = some o) : ∃ before after v t expired, events = before ++ .collect n :: after ∧
      (({} : WaitingSystem K).run before).waits[n]? = some v ∧ v.Goes v' ∧ v.stage = .over t expired ∧
      ((({} : WaitingSystem K).run before).system.endWait t expired).1 = o := by
  rcases since (Q := fun v => v.stage = .leaving (.ok o) ∨ v.stage = .gone (.ok o)) there
      (WaitCall.outcomeExact.1 answered) with
    ⟨v, found, _⟩ | ⟨before, e, after, v, rfl, found, goes, now, first⟩
  · cases found
  · rcases stepPasses found with ⟨_, ⟨rest, fresh⟩ | ⟨f, fresh⟩⟩ | ⟨u, found', goes', passes⟩
    · rcases now with now | now <;> cases now.symm.trans fresh
    · rcases now with now | now <;> cases now.symm.trans fresh
    · generalize v.stage = stage at passes now
      cases passes with
      | stays => exact absurd now (first u found')
      | collects own ended =>
        refine ⟨before, after, u, _, _, own ▸ rfl, found', goes'.trans goes, ended, ?_⟩
        rcases now with now | now <;> cases now
        rfl
      | leaves leaving =>
        refine absurd (.inl ?_) (first u found')
        rcases now with now | now <;> cases now
        exact leaving
      | _ => rcases now with now | now <;> cases now

end WaitingSystem
end Databus.Middleware
