import Databus.Proofs.WaitingSystem
import Databus.Proofs.RefusedCalls

/-! The last error is the complaint of whichever operation failed last, whoever called it and whatever went on
meanwhile. An operation complains as it returns, under its own name; one that is granted leaves the complaint of another
alone. -/
namespace Databus.Middleware

variable {K : Type}

/-! ### What returns -/

def Call.operation? [Catalog K] : Call K → Option String
  | .init _ => some "init"
  | .createNode .. => some "create_node"
  | .destroyNode .. => some "destroy_node"
  | .graphGuard .. => some "node_graph_guard_condition"
  | .topicNamesAndTypes .. => some "get_topic_names_and_types"
  | .countPublishers .. => some "count_publishers"
  | .countSubscribers .. => some "count_subscribers"
  | .createGuard _ => some "create_guard_condition"
  | .triggerGuard .. => some "trigger_guard_condition"
  | .destroyGuard .. => some "destroy_guard_condition"
  | .createPublisher .. => some "create_publisher"
  | .destroyPublisher .. => some "destroy_publisher"
  | .publisherGid .. => some "publisher_gid"
  | .compareGids .. => some "compare_gids_equal"
  | .createSubscription .. => some "create_subscription"
  | .destroySubscription .. => some "destroy_subscription"
  | .publish .. => some "publish"
  | .take .. => some "take"
  | .beginWait .. => some "wait"
  | .close _ | .turn .. | .endWait .. | .setError _ | .resetError => none

inductive SupportOperation
  | createPublisher
  | createSubscription
  | publish
  | take
  deriving DecidableEq, Repr

def SupportOperation.operation : SupportOperation → String
  | createPublisher => "create_publisher"
  | createSubscription => "create_subscription"
  | publish => "publish"
  | take => "take"

/-- What may happen next: a call of somebody or a step of a wait, a context that is opened from an environment, an
operation with a type support of the application's own, which may do anything to the site that it is called on, or a
request of somebody who uses the bus without a context. -/
inductive Occurrence (K : Type) [Catalog K]
  | event (e : Event K)
  | openFrom (env : Environment)
  | support (ctx : ContextId) (kind : SupportOperation) (does : Site K → Site K × Except Failure Unit)
  | request (q : Request)

structure Return where
  operation : String
  failure : Option Failure
  deriving DecidableEq, Repr

def Return.message? (r : Return) : Option String := r.failure.map fun f => s!"{r.operation}: {f.message}"

namespace WaitCall

def answer? (v : WaitCall) : Option (Except Failure Outcome) :=
  match v.stage with
  | .gone answer => some answer
  | _ => none

def returns (before after : Option WaitCall) : Option Return :=
  match before.bind answer?, after.bind answer? with
  | none, some answer => some ⟨"wait", System.refused answer⟩
  | _, _ => none

end WaitCall

namespace WaitingSystem

variable [Catalog K] [DecidableEq K]

def occur (l : WaitingSystem K) : Occurrence K → WaitingSystem K
  | .event e => l.step e
  | .openFrom env => { l with system := (l.system.initFromEnvironment env).1 }
  | .support ctx kind does => { l with system := (l.system.perform ctx kind.operation does).1 }
  | .request q => { l with system := { l.system with bus := l.system.bus.request q } }

def undergo (l : WaitingSystem K) (occurrences : List (Occurrence K)) : WaitingSystem K := occurrences.foldl occur l

def returns (l : WaitingSystem K) : Occurrence K → Option Return
  | .event (.call c) => if c.waits then none else c.operation?.map fun operation => ⟨operation, l.system.refusal c⟩
  | .event e => WaitCall.returns l.waits[e.waitCall?.getD l.waits.length]?
    (l.step e).waits[e.waitCall?.getD l.waits.length]?
  | .openFrom env => some ⟨"init", System.refused (l.system.initFromEnvironment env).2.2⟩
  | .support ctx kind does => some ⟨kind.operation, System.refused (l.system.perform ctx kind.operation does).2⟩
  | .request _ => none

inductive Leaves (l : WaitingSystem K) : Occurrence K → Option String → Prop
  | failed {o : Occurrence K} {operation : String} {f : Failure} (returned : l.returns o = some ⟨operation, some f⟩) :
    Leaves l o (some s!"{operation}: {f.message}")
  | set (text : String) : Leaves l (.event (.call (.setError text))) (some text)
  | reset : Leaves l (.event (.call .resetError)) none

end WaitingSystem

/-! ### Step by step -/

namespace System

theorem reportError {α : Type} (s : System K) (operation : String) (result : Except Failure α) :
    (s.report operation result).1.lastError = (Return.message? ⟨operation, refused result⟩).or s.lastError := by
  cases result <;> rfl

theorem performError {α : Type} (s : System K) (ctx : ContextId) (operation : String)
    (call : Site K → Site K × Except Failure α) : (s.perform ctx operation call).1.lastError =
      (Return.message? ⟨operation, refused (s.perform ctx operation call).2⟩).or s.lastError := by
  unfold perform
  split <;> rw [reportAnswer] <;> exact reportError ..

theorem initError (s : System K) (settings : Settings) : (s.init settings).1.lastError =
    (Return.message? ⟨"init", refused (s.init settings).2⟩).or s.lastError := by
  unfold init
  split
  · rw [reportAnswer]
    exact reportError ..
  · rfl

variable [Catalog K] [DecidableEq K]

theorem serveError (s : System K) {c : Call K} {operation : String} (named : c.operation? = some operation) :
    (s.serve c).lastError = (Return.message? ⟨operation, s.refusal c⟩).or s.lastError := by
  cases c with
  | init settings =>
    cases named
    exact initError s settings
  | close | turn | endWait | setError | resetError => cases named
  | _ =>
    cases named
    exact performError ..

end System

namespace WaitCall

def WritesError (f : System K → WaitCall → System K × WaitCall) : Prop :=
  ∀ s v, (f s v).1.lastError = ((returns (some v) (some (f s v).2)).bind Return.message?).or s.lastError

theorem writesNoError {s s' : System K} {v v' : WaitCall} (still : s'.lastError = s.lastError)
    (stays : v' = v ∨ v'.answer? = none) :
    s'.lastError = ((returns (some v) (some v')).bind Return.message?).or s.lastError := by
  have silent : returns (some v) (some v') = none := by
    unfold returns
    simp only [Option.bind_some]
    rcases stays with rfl | stays
    · cases v'.answer? <;> rfl
    · rw [stays]
      cases v.answer? <;> rfl
  rw [silent]
  exact still

theorem claimWritesError : WritesError (claim (K := K)) := fun s v => by
  unfold claim
  split
  · split <;> exact writesNoError rfl (.inr rfl)
  · exact writesNoError rfl (.inl rfl)

theorem blockWritesError (clock : Clock) : WritesError (block (K := K) clock) := fun s v => by
  unfold block
  split
  · dsimp only
    split <;> exact writesNoError rfl (.inr rfl)
  · exact writesNoError rfl (.inl rfl)

theorem turnWritesError (now : Nat) : WritesError (turn (K := K) now) := fun s v => by
  have still (t : Ticket) : (s.turn t now).2.lastError = s.lastError := by
    unfold System.turn
    split <;> rfl
  unfold turn
  split
  · rename_i t stage
    have kept := still t
    split <;> rename_i s' turned <;> rw [turned] at kept
    · exact writesNoError kept (.inr rfl)
    · exact writesNoError kept (.inl rfl)
  · exact writesNoError rfl (.inl rfl)

theorem collectWritesError : WritesError (collect (K := K)) := fun s v => by
  unfold collect
  split
  · exact writesNoError rfl (.inr rfl)
  · exact writesNoError rfl (.inl rfl)

theorem releaseWritesError : WritesError (release (K := K)) := fun s v => by
  unfold release
  split
  · rename_i stage _
    exact writesNoError rfl (.inr (by rw [answer?, stage]))
  · exact writesNoError rfl (.inl rfl)

theorem leaveWritesError : WritesError (leave (K := K)) := fun s v => by
  unfold leave
  split
  · rename_i answer stage _
    have returned : returns (some v) (some { v with stage := .gone answer }) =
      some ⟨"wait", System.refused answer⟩ := by
      simp only [returns, Option.bind_some, answer?, stage]
    rw [returned]
    exact System.reportError ..
  · exact writesNoError rfl (.inl rfl)

end WaitCall

namespace WaitingSystem

theorem actWritesError (l : WaitingSystem K) (n : Nat) {f : System K → WaitCall → System K × WaitCall}
    (writesError : WaitCall.WritesError f) :
    (l.act n f).system.lastError =
      ((WaitCall.returns l.waits[n]? (l.act n f).waits[n]?).bind Return.message?).or l.system.lastError := by
  unfold act
  split
  · rename_i nobody
    rw [nobody]
    rfl
  · rename_i v there
    have inside : n < l.waits.length := (List.getElem?_eq_some_iff.1 there).1
    rw [there, List.getElem?_set_self inside]
    exact writesError l.system v

theorem enterWritesError (l : WaitingSystem K) (ctx : ContextId) (timeout : Timeout)
    (subscriptions : List (Option (Handle .subscription))) (guards : List (Option (Handle .guardCondition))) :
    (l.enter ctx timeout subscriptions guards).system.lastError =
      ((WaitCall.returns l.waits[l.waits.length]?
        (l.enter ctx timeout subscriptions guards).waits[l.waits.length]?).bind Return.message?).or
          l.system.lastError := by
  have outside : l.waits[l.waits.length]? = none := List.getElem?_eq_none (Nat.le_refl _)
  have last (v : WaitCall) : (l.waits ++ [v])[l.waits.length]? = some v := by simp
  have away (f : Failure) : (l.turnAway ctx f).system.lastError =
      ((WaitCall.returns l.waits[l.waits.length]? (l.turnAway ctx f).waits[l.waits.length]?).bind
        Return.message?).or l.system.lastError := by
    rw [turnAway, outside, last]
    rfl
  unfold enter
  split
  · exact away _
  · split
    · exact away _
    · split
      · exact away _
      · rw [outside, last]
        rfl

variable [Catalog K] [DecidableEq K] {l : WaitingSystem K} {o : Occurrence K}

theorem callWritesError (l : WaitingSystem K) (c : Call K) (unset : ∀ text, c ≠ .setError text)
    (kept : c ≠ .resetError) :
    (l.step (.call c)).system.lastError =
      ((l.returns (.event (.call c))).bind Return.message?).or l.system.lastError := by
  simp only [step, returns]
  by_cases waits : c.waits = true
  · rw [if_pos waits, if_pos waits]
    rfl
  rw [if_neg waits, if_neg waits]
  cases named : c.operation? with
  | some operation => exact l.system.serveError named
  | none =>
    cases c with
    | close ctx =>
      change (l.system.close ctx).lastError = l.system.lastError
      unfold System.close
      split <;> rfl
    | turn | endWait => exact absurd rfl waits
    | setError text => exact absurd rfl (unset text)
    | resetError => exact absurd rfl kept
    | _ => cases named

theorem occurWritesError (l : WaitingSystem K) (o : Occurrence K) (unset : ∀ text, o ≠ .event (.call (.setError text)))
    (kept : o ≠ .event (.call .resetError)) :
    (l.occur o).system.lastError = ((l.returns o).bind Return.message?).or l.system.lastError := by
  cases o with
  | event e =>
    cases e with
    | call c =>
      exact callWritesError l c (fun text same => unset text (by rw [same])) fun same => kept (by rw [same])
    | enter ctx timeout subscriptions guards => exact enterWritesError l ctx timeout subscriptions guards
    | claim n => exact actWritesError l n WaitCall.claimWritesError
    | block n clock => exact actWritesError l n (WaitCall.blockWritesError clock)
    | turn n now => exact actWritesError l n (WaitCall.turnWritesError now)
    | collect n => exact actWritesError l n WaitCall.collectWritesError
    | release n => exact actWritesError l n WaitCall.releaseWritesError
    | leave n => exact actWritesError l n WaitCall.leaveWritesError
  | openFrom env => exact System.initError l.system _
  | support ctx kind does => exact System.performError ..
  | request q => rfl

theorem occurReturns {r : Return} (returned : l.returns o = some r) :
    (l.occur o).system.lastError = r.message?.or l.system.lastError := by
  have writesError := occurWritesError l o (fun text same => by rw [same] at returned; cases returned)
    fun same => by rw [same] at returned; cases returned
  rwa [returned] at writesError

theorem occurLeaves {word : Option String} (leaves : l.Leaves o word) : (l.occur o).system.lastError = word := by
  cases leaves with
  | failed returned => exact occurReturns returned
  | set | reset => rfl

def Silent (l : WaitingSystem K) (o : Occurrence K) : Prop := ∀ word, ¬ l.Leaves o word

theorem occurSilent (silent : l.Silent o) : (l.occur o).system.lastError = l.system.lastError := by
  have writesError :=
    occurWritesError l o (by rintro text rfl; exact silent _ (.set text)) (by rintro rfl; exact silent _ .reset)
  rw [writesError]
  cases returned : l.returns o with
  | none => rfl
  | some r =>
    obtain ⟨operation, failure⟩ := r
    cases failure with
    | none => rfl
    | some f => exact absurd (.failed returned) (silent _)

/-! ### Run by run -/

variable {run : List (Occurrence K)} {word : Option String}

def LeavesNothing (l : WaitingSystem K) (run : List (Occurrence K)) : Prop :=
  ∀ before o later, run = before ++ o :: later → (l.undergo before).Silent o

def Last (l : WaitingSystem K) (run : List (Occurrence K)) (word : Option String) : Prop :=
  ∃ before o later, run = before ++ o :: later ∧ (l.undergo before).Leaves o word ∧
    (l.undergo (before ++ [o])).LeavesNothing later

theorem undergoAppend (l : WaitingSystem K) (run later : List (Occurrence K)) :
    l.undergo (run ++ later) = (l.undergo run).undergo later := List.foldl_append

theorem leavesNothingFirst : l.LeavesNothing (o :: run) ↔ l.Silent o ∧ (l.occur o).LeavesNothing run := by
  constructor
  · intro leavesNothing
    refine ⟨leavesNothing [] o run rfl, fun before o' later split => ?_⟩
    exact leavesNothing (o :: before) o' later (by rw [split, List.cons_append])
  · rintro ⟨silent, leavesNothing⟩ before o' later split
    cases before with
    | nil =>
      cases split
      exact silent
    | cons first before =>
      cases split
      exact leavesNothing before o' later rfl

theorem lastLater (last : (l.occur o).Last run word) : l.Last (o :: run) word := by
  obtain ⟨before, o', later, rfl, leaves, leavesNothing⟩ := last
  exact ⟨o :: before, o', later, rfl, leaves, leavesNothing⟩

theorem lastOrLeavesNothing (l : WaitingSystem K) (run : List (Occurrence K)) :
    (∃ word, l.Last run word) ∨ l.LeavesNothing run := by
  induction run generalizing l with
  | nil => exact .inr fun before o later split => by simp at split
  | cons o run ih =>
    rcases ih (l.occur o) with ⟨word, last⟩ | leavesNothing
    · exact .inl ⟨word, lastLater last⟩
    · by_cases silent : l.Silent o
      · exact .inr (leavesNothingFirst.2 ⟨silent, leavesNothing⟩)
      · obtain ⟨word, leaves⟩ := Classical.not_forall_not.1 silent
        exact .inl ⟨word, [], o, run, rfl, leaves, leavesNothing⟩

theorem leavesNothingKeeps (leavesNothing : l.LeavesNothing run) :
    (l.undergo run).system.lastError = l.system.lastError := by
  induction run generalizing l with
  | nil => rfl
  | cons o run ih =>
    obtain ⟨silent, leavesNothing⟩ := leavesNothingFirst.1 leavesNothing
    exact (ih leavesNothing).trans (occurSilent silent)

theorem lastTells (last : l.Last run word) : (l.undergo run).system.lastError = word := by
  obtain ⟨before, o, later, rfl, leaves, leavesNothing⟩ := last
  rw [List.append_cons, undergoAppend, leavesNothingKeeps leavesNothing, undergoAppend]
  exact occurLeaves leaves

theorem heldOn (held : l.system.lastError ≠ none) (unreset : .event (.call .resetError) ∉ run) :
    (l.undergo run).system.lastError ≠ none := by
  induction run generalizing l with
  | nil => exact held
  | cons o run ih =>
    obtain ⟨other, unreset⟩ := not_or.1 (mt List.mem_cons.2 unreset)
    refine ih ?_ unreset
    by_cases silent : l.Silent o
    · rwa [occurSilent silent]
    · obtain ⟨word, leaves⟩ := Classical.not_forall_not.1 silent
      rw [occurLeaves leaves]
      cases leaves with
      | failed | set => exact Option.some_ne_none _
      | reset => exact absurd rfl other

structure LastErrorExact (l : WaitingSystem K) (run : List (Occurrence K)) : Prop where
  failed : ∀ o operation f, (l.undergo run).returns o = some ⟨operation, some f⟩ →
    (l.undergo (run ++ [o])).system.lastError = some s!"{operation}: {f.message}"
  granted : ∀ o operation, (l.undergo run).returns o = some ⟨operation, none⟩ →
    (l.undergo (run ++ [o])).system.lastError = (l.undergo run).system.lastError
  idle : ∀ o, (l.undergo run).returns o = none → (∀ text, o ≠ .event (.call (.setError text))) →
    o ≠ .event (.call .resetError) → (l.undergo (run ++ [o])).system.lastError = (l.undergo run).system.lastError
  leavesNothing : ∀ more, (l.undergo run).LeavesNothing more →
    (l.undergo (run ++ more)).system.lastError = (l.undergo run).system.lastError
  found : ∀ text, (l.undergo run).system.lastError = some text ↔ l.Last run (some text)
  unset : (l.undergo run).system.lastError = none ↔ ∀ before o later text, run = before ++ o :: later →
    (l.undergo before).Leaves o (some text) → .event (.call .resetError) ∈ later

/-- The last error is the message of whatever failed or was set last since the last reset. -/
theorem errorsExact (run : List (Occurrence K)) : ({} : WaitingSystem K).LastErrorExact run := by
  have next (o : Occurrence K) :
    ({} : WaitingSystem K).undergo (run ++ [o]) = (({} : WaitingSystem K).undergo run).occur o :=
    undergoAppend {} run [o]
  have found (text : String) : (({} : WaitingSystem K).undergo run).system.lastError = some text ↔
      ({} : WaitingSystem K).Last run (some text) := by
    refine ⟨fun told => ?_, lastTells⟩
    rcases lastOrLeavesNothing {} run with ⟨word, last⟩ | leavesNothing
    · exact (lastTells last).symm.trans told ▸ last
    · cases (leavesNothingKeeps leavesNothing).symm.trans told
  refine ⟨fun o operation f returned => ?_, fun o operation returned => ?_, fun o returned unset kept => ?_,
    fun more leavesNothing => ?_, found, fun untold before o later text split leaves => ?_, fun undone => ?_⟩
  · rw [next]
    exact occurReturns returned
  · rw [next]
    exact occurReturns returned
  · rw [next, occurWritesError _ o unset kept, returned]
    rfl
  · rw [undergoAppend]
    exact leavesNothingKeeps leavesNothing
  · refine Classical.byContradiction fun unreset => ?_
    have there : ((({} : WaitingSystem K).undergo before).occur o).system.lastError ≠ none := by
      rw [occurLeaves leaves]
      exact Option.some_ne_none text
    rw [split, List.append_cons, undergoAppend, undergoAppend] at untold
    exact heldOn there unreset untold
  · cases told : (({} : WaitingSystem K).undergo run).system.lastError with
    | none => rfl
    | some text =>
      obtain ⟨before, o, later, split, leaves, leavesNothing⟩ := (found text).1 told
      obtain ⟨first, rest, reset⟩ := List.append_of_mem (undone before o later text split leaves)
      exact absurd .reset (leavesNothing first _ rest reset _)

example : (({} : WaitingSystem ExampleCarrier).undergo [.event (.call (.init {})), .event (.call (.createNode 1 "")),
    .event (.enter 1 .nonBlocking [] []), .event (.block 0 ⟨0, 10⟩), .event (.turn 0 0), .event (.collect 0),
    .event (.leave 0)]).system.lastError =
      some "create_node: invalid argument: node name must not be empty" := by
  decide +kernel

end WaitingSystem
end Databus.Middleware
