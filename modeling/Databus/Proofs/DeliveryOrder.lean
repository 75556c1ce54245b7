import Databus.Proofs.DeliveryLog

/-! In which order the samples of write calls come to a reader. A call made by a listener is served before the readers
that still wait for the sample in hand, so there and only there the later call's sample comes first. -/
namespace Databus

def SampleTransit.Waits (p : SampleTransit) (scope : List SampleTransit) : Prop := ∃ k < p.reader, ⟨p.call, k⟩ ∈ scope

theorem SampleTransit.Waits.known {p : SampleTransit} {scope : List SampleTransit} (waits : p.Waits scope) {bound : Nat}
    (numbered : ∀ o ∈ scope, o.call < bound) : p.call < bound := by
  obtain ⟨k, _, mem⟩ := waits
  exact numbered ⟨p.call, k⟩ mem

namespace LoggedTask

def Ordered (a e : LoggedTask) : Prop := ∀ p q, a.transit? = some p → e.transit? = some q → p.reader = q.reader →
  p.call ≠ q.call ∧ (q.call < p.call ↔ q.Waits a.within) ∧ ¬ p.Waits e.within

def Nested (scope : List SampleTransit) : Prop := scope.Pairwise fun o o' => o'.call < o.call

structure Precedes (a e : LoggedTask) : Prop where
  ordered : a.Ordered e
  outside : ∀ p, a.transit? = some p → ¬ p.Waits e.scope

structure Above (e f : LoggedTask) : Prop where
  under : ∀ p, f.transit? = some p → p.Waits e.scope
  outside : ∀ p, e.transit? = some p → ¬ p.Waits f.scope

variable {e f : LoggedTask} {p : SampleTransit}

theorem memScope {o : SampleTransit} : o ∈ e.scope ↔ e.transit? = some o ∨ o ∈ e.within := by
  rw [scope, List.mem_append, Option.mem_toList]

theorem waitsScope : p.Waits e.scope ↔
    (∃ o, e.transit? = some o ∧ o.call = p.call ∧ o.reader < p.reader) ∨ p.Waits e.within := by
  constructor
  · rintro ⟨k, less, mem⟩
    exact (memScope.1 mem).imp (⟨⟨p.call, k⟩, ·, rfl, less⟩) (⟨k, less, ·⟩)
  · rintro (⟨⟨_, k⟩, own, rfl, less⟩ | ⟨k, less, mem⟩)
    · exact ⟨k, less, memScope.2 (.inl own)⟩
    · exact ⟨k, less, memScope.2 (.inr mem)⟩

theorem nestedScope :
    Nested e.scope ↔ (∀ p, e.transit? = some p → ∀ o ∈ e.within, o.call < p.call) ∧ Nested e.within := by
  unfold Nested scope
  cases e.transit? with
  | none => simp
  | some p => simp

theorem outsideOwn (nested : Nested e.scope) (own : e.transit? = some p) : ¬ p.Waits e.scope := fun waits => by
  obtain ⟨o, same, _, less⟩ | waits := waitsScope.1 waits
  · cases own.symm.trans same
    exact Nat.lt_irrefl _ less
  · exact Nat.lt_irrefl _ (waits.known ((nestedScope.1 nested).1 p own))

theorem Above.precedes (above : e.Above f) (nested : Nested e.scope) : e.Precedes f where
  ordered p q own other same := by
    obtain ⟨o, self, _, less⟩ | waits := waitsScope.1 (above.under q other)
    · cases own.symm.trans self
      exact absurd same (Nat.ne_of_lt less)
    · have before := waits.known ((nestedScope.1 nested).1 p own)
      exact ⟨Nat.ne_of_gt before, iff_of_true before waits, fun inside =>
        above.outside p own (waitsScope.2 (.inr inside))⟩
  outside := above.outside

end LoggedTask

namespace DeliveryLog
open LoggedTask
open Bus (Task)

structure StackOrdered (l : DeliveryLog) (stack : List LoggedTask) : Prop where
  past : l.done.Pairwise Ordered
  due : ∀ a ∈ l.done, ∀ e ∈ stack, a.Precedes e
  above : stack.Pairwise Above
  nested : ∀ e ∈ l.done ++ stack, Nested e.scope
  numbered : ∀ e ∈ l.done ++ stack, ∀ p, e.transit? = some p → p.call < l.clock
  rooted : ∀ e ∈ l.done ++ stack, ∀ o ∈ e.within, ∃ a ∈ l.done, a.transit? = some o

structure OpenScope (l : DeliveryLog) (rest : List LoggedTask) (scope : List SampleTransit) : Prop where
  nested : Nested scope
  rooted : ∀ o ∈ scope, ∃ a ∈ l.done, a.transit? = some o
  under : ∀ f ∈ rest, ∀ p, f.transit? = some p → p.Waits scope
  outside : ∀ a ∈ l.done, ∀ p, a.transit? = some p → ¬ p.Waits scope

def Ranked (tasks : List Task) : Prop :=
  tasks.Pairwise fun t t' => ∀ n', t' = .deliver n' → ∃ n, t = .deliver n ∧ n.reader < n'.reader

variable {l : DeliveryLog} {e : LoggedTask} {rest : List LoggedTask} {scope : List SampleTransit}

theorem stackOrderedFresh : StackOrdered {} [] := ⟨.nil, nofun, .nil, nofun, nofun, nofun⟩

theorem openScopeBottom : l.OpenScope [] [] := ⟨.nil, nofun, nofun, fun _ _ _ _ ⟨_, _, mem⟩ => List.not_mem_nil mem⟩

theorem OpenScope.numbered (openScope : l.OpenScope rest scope) (h : l.StackOrdered rest) :
    ∀ o ∈ scope, o.call < l.clock := fun o mem => by
  obtain ⟨a, done, own⟩ := openScope.rooted o mem
  exact h.numbered a (List.mem_append_left _ done) o own

theorem StackOrdered.scopeNumbered (h : l.StackOrdered rest) {e : LoggedTask} (mem : e ∈ l.done ++ rest) :
    ∀ o ∈ e.scope, o.call < l.clock := fun o inside => by
  rcases memScope.1 inside with own | deeper
  · exact h.numbered e mem o own
  · obtain ⟨a, done, own⟩ := h.rooted e mem o deeper
    exact h.numbered a (List.mem_append_left _ done) o own

theorem StackOrdered.begin (h : l.StackOrdered (e :: rest)) : StackOrdered { l with done := l.done ++ [e] } rest := by
  obtain ⟨upon, above⟩ := List.pairwise_cons.1 h.above
  have first := List.mem_cons_self (a := e) (l := rest)
  have same : (l.done ++ [e]) ++ rest = l.done ++ e :: rest := List.append_assoc l.done [e] rest
  refine ⟨List.pairwise_append.2 ⟨h.past, List.pairwise_singleton .., fun a done e' mem => ?_⟩, fun a done f mem => ?_,
    above, same ▸ h.nested, same ▸ h.numbered, fun f mem o inside => ?_⟩
  · cases List.mem_singleton.1 mem
    exact (h.due a done e first).ordered
  · rcases List.mem_append.1 done with old | now
    · exact h.due a old f (List.mem_cons_of_mem _ mem)
    · cases List.mem_singleton.1 now
      exact (upon f mem).precedes (h.nested e (List.mem_append_right _ first))
  · obtain ⟨a, done, own⟩ := h.rooted f (same ▸ mem) o inside
    exact ⟨a, List.mem_append_left _ done, own⟩

theorem StackOrdered.openScope (h : l.StackOrdered (e :: rest)) :
    OpenScope { l with done := l.done ++ [e] } rest e.scope := by
  have first := List.mem_cons_self (a := e) (l := rest)
  have nested := h.nested e (List.mem_append_right _ first)
  refine ⟨nested, fun o mem => ?_, fun f mem => ((List.pairwise_cons.1 h.above).1 f mem).under, fun a done p own => ?_⟩
  · rcases memScope.1 mem with own | deeper
    · exact ⟨e, List.mem_append_right _ (List.mem_singleton.2 rfl), own⟩
    · obtain ⟨a, done, own⟩ := h.rooted e (List.mem_append_right _ first) o deeper
      exact ⟨a, List.mem_append_left _ done, own⟩
  · rcases List.mem_append.1 done with old | now
    · exact (h.due a old e first).outside p own
    · cases List.mem_singleton.1 now
      exact outsideOwn nested own

theorem followTransit {t : Task} {p : SampleTransit} (own : (l.follow scope t).transit? = some p) :
    p.call = l.clock ∧ ∃ n, t = .deliver n ∧ n.reader = p.reader := by
  cases t with
  | deliver n =>
    cases Option.some.inj own
    exact ⟨rfl, n, rfl, rfl⟩
  | call => contradiction
  | act => contradiction

theorem donePrecedes (h : l.StackOrdered rest) (openScope : l.OpenScope rest scope) {a : LoggedTask} (done : a ∈ l.done)
    (t : Task) :
    a.Precedes (l.follow scope t) := by
  have known := h.numbered a (List.mem_append_left _ done)
  refine ⟨fun p q own other _ => ?_, fun p own waits => ?_⟩
  · -- the new call is later than all that is known, so nothing done was within it
    have none : ¬ q.Waits a.within := fun waits => by
      have before := waits.known fun o mem => h.scopeNumbered (List.mem_append_left _ done) o (memScope.2 (.inr mem))
      exact Nat.ne_of_lt before (followTransit other).1
    have less : p.call < q.call := (followTransit other).1 ▸ known p own
    exact ⟨Nat.ne_of_lt less, iff_of_false (Nat.lt_asymm less) none, openScope.outside a done p own⟩
  · obtain ⟨o, self, same, _⟩ | deeper := waitsScope.1 waits
    · exact Nat.ne_of_lt (known p own) (same.symm.trans (followTransit self).1)
    · exact openScope.outside a done p own deeper

theorem followAbove (h : l.StackOrdered rest) (openScope : l.OpenScope rest scope) {t t' : Task}
    (up : ∀ n', t' = .deliver n' → ∃ n, t = .deliver n ∧ n.reader < n'.reader) :
    (l.follow scope t).Above (l.follow scope t') := by
  refine ⟨fun p own => ?_, fun p own waits => ?_⟩
  · obtain ⟨now, n', rfl, reader⟩ := followTransit own
    obtain ⟨n, rfl, ahead⟩ := up n' rfl
    exact waitsScope.2 (.inl ⟨⟨l.clock, n.reader⟩, rfl, now.symm, reader ▸ ahead⟩)
  · obtain ⟨o, self, _, less⟩ | deeper := waitsScope.1 waits
    · obtain ⟨_, n', rfl, reader'⟩ := followTransit self
      obtain ⟨n, rfl, ahead⟩ := up n' rfl
      obtain ⟨_, _, same, reader⟩ := followTransit own
      cases same
      rw [reader, reader'] at ahead
      exact Nat.lt_asymm less ahead
    · exact Nat.ne_of_lt (deeper.known (openScope.numbered h)) (followTransit own).1

theorem followOver (h : l.StackOrdered rest) (openScope : l.OpenScope rest scope) {f : LoggedTask} (old : f ∈ rest)
    (t : Task) :
    (l.follow scope t).Above f :=
  ⟨fun p own => waitsScope.2 (.inr (openScope.under f old p own)), fun _ own waits =>
    Nat.ne_of_lt (waits.known (h.scopeNumbered (List.mem_append_right _ old))) (followTransit own).1⟩

theorem StackOrdered.bring (h : l.StackOrdered rest) (openScope : l.OpenScope rest scope) {tasks : List Task}
    (ranked : Ranked tasks) :
    StackOrdered { l with clock := l.clock + 1 } (tasks.map (l.follow scope) ++ rest) := by
  have due {e : LoggedTask} (mem : e ∈ tasks.map (l.follow scope) ++ rest) :
      (∃ t ∈ tasks, l.follow scope t = e) ∨ e ∈ rest := (List.mem_append.1 mem).imp_left List.mem_map.1
  have all {e : LoggedTask} (mem : e ∈ l.done ++ (tasks.map (l.follow scope) ++ rest)) :
      (∃ t ∈ tasks, l.follow scope t = e) ∨ e ∈ l.done ++ rest := by
    rcases List.mem_append.1 mem with done | mem
    · exact .inr (List.mem_append_left _ done)
    · exact (due mem).imp_right (List.mem_append_right _)
  refine ⟨h.past, fun a done e mem => ?_, List.pairwise_append.2 ⟨?_, h.above, fun e mem f old => ?_⟩,
    fun e mem => ?_, fun e mem p own => ?_, fun e mem o inside => ?_⟩
  · obtain ⟨t, _, rfl⟩ | old := due mem
    · exact donePrecedes h openScope done t
    · exact h.due a done e old
  · exact List.pairwise_map.2 (ranked.imp (followAbove h openScope))
  · obtain ⟨t, _, rfl⟩ := List.mem_map.1 mem
    exact followOver h openScope old t
  · obtain ⟨t, _, rfl⟩ | old := all mem
    · exact nestedScope.2
        ⟨fun p own o inside => (followTransit own).1 ▸ openScope.numbered h o inside, openScope.nested⟩
    · exact h.nested e old
  · obtain ⟨t, _, rfl⟩ | old := all mem
    · exact (followTransit own).1 ▸ Nat.lt_succ_self _
    · exact Nat.lt_succ_of_lt (h.numbered e old p own)
  · obtain ⟨t, _, rfl⟩ | old := all mem
    · exact openScope.rooted o inside
    · exact h.rooted e old o inside

theorem StackOrdered.announce (h : l.StackOrdered []) {stack : List LoggedTask} (plain : ∀ e ∈ stack, e.scope = []) :
    StackOrdered { l with clock := l.clock + 1 } stack := by
  have nothing {e : LoggedTask} (mem : e ∈ stack) {o : SampleTransit} : o ∉ e.scope := by
    rw [plain e mem]
    exact List.not_mem_nil
  have outside {e : LoggedTask} (mem : e ∈ stack) {p : SampleTransit} : ¬ p.Waits e.scope :=
    fun ⟨_, _, inside⟩ => nothing mem inside
  have none {e : LoggedTask} (mem : e ∈ stack) {p : SampleTransit} : e.transit? ≠ some p := fun own =>
    nothing mem (memScope.2 (.inl own))
  have done {e : LoggedTask} (mem : e ∈ l.done) : e ∈ l.done ++ [] := List.mem_append_left _ mem
  refine ⟨h.past, fun a _ e mem => ⟨fun p q _ other => absurd other (none mem), fun _ _ => outside mem⟩,
    List.pairwise_of_forall_mem_list fun e mem f mem' => ⟨fun p own => absurd own (none mem'), fun _ _ => outside mem'⟩,
    fun e mem => ?_, fun e mem p own => ?_, fun e mem o inside => ?_⟩ <;> rcases List.mem_append.1 mem with old | new
  · exact h.nested e (done old)
  · exact plain e new ▸ .nil
  · exact Nat.lt_succ_of_lt (h.numbered e (done old) p own)
  · exact absurd own (none new)
  · exact h.rooted e (done old) o inside
  · exact absurd (memScope.2 (.inr inside)) (nothing new)

end DeliveryLog

/-! ### What a step brings up -/

namespace Bus
open DeliveryLog

theorem routeRanked {b : Bus} {w : InstanceHandle} {payload : Octets} {news : List Notice}
    (ok : b.route w payload = .ok news) : Ranked (news.map .deliver) := by
  obtain ⟨x, _, _, _, rfl⟩ := routeExact ok
  refine List.pairwise_map.2 (List.pairwise_map.2 (List.pairwise_map.2 (Table.sorted _ |>.imp fun up n' same => ?_)))
  cases same
  exact ⟨_, rfl, up⟩

theorem writeFromRanked (b : Bus) (l : ListenerId) (w : InstanceHandle) (payload : Octets) :
    Ranked (b.writeFrom l w payload).2 := by
  unfold writeFrom
  cases ok : b.route w payload with
  | ok news => exact routeRanked ok
  | error f => exact .nil

theorem actRanked (b : Bus) (r : InstanceHandle) (l : ListenerId) (a : Action) : Ranked (b.act r l a).2 := by
  cases a with
  | noteUnread =>
    unfold act
    cases b.readers.get? r <;> exact .nil
  | install k => exact .nil
  | takeOne =>
    unfold act
    dsimp only
    split <;> exact .nil
  | takeAll => exact .nil
  | forward writer =>
    unfold act
    dsimp only
    split
    · exact .nil
    · split
      · cases writer with
        | some w => exact writeFromRanked _ l w _
        | none => exact .nil
      · exact .nil
  | emit w payload =>
    unfold act
    dsimp only
    split
    · exact .nil
    · exact writeFromRanked _ l w payload

theorem stepRanked (b : Bus) (t : Task) : Ranked (t.step b).2 := by
  cases t with
  | deliver n =>
    unfold Task.step
    dsimp only
    split
    · exact List.pairwise_singleton ..
    · exact .nil
  | call r l =>
    unfold Task.step
    dsimp only
    split
    · exact .nil
    · exact List.pairwise_map.2 (List.pairwise_of_forall fun _ _ => nofun)
    · exact .nil
  | act r l a => exact actRanked b r l a

variable {w : Bus × DeliveryLog}

theorem requestStackOrdered (h : w.2.StackOrdered []) (q : Request) : (requestNoted w q).2.StackOrdered [] := by
  refine notedInvariant (P := fun _ l stack => l.StackOrdered stack)
    (fun b l e rest h => h.begin.bring h.openScope (stepRanked b e.task)) ?_
  cases writes : q.isWrite with
  | false =>
    refine h.announce fun e mem => ?_
    obtain ⟨n, _, rfl⟩ := List.mem_map.1 mem
    simp only [Request.loggedTask, writes]
    rfl
  | true =>
    cases q with
    | write k payload =>
      have ranked : Ranked (((Request.write k payload).opening w.1).2.map .deliver) := by
        simp only [Request.opening]
        split
        · exact routeRanked ‹_›
        · exact .nil
      have brought := h.bring openScopeBottom ranked
      rw [List.map_map, List.append_nil] at brought
      exact brought
    | _ => contradiction

theorem runStackOrdered (requests : List Request) (h : w.2.StackOrdered []) :
    (runNoted w requests).2.StackOrdered [] := by
  induction requests generalizing w with
  | nil => exact h
  | cons q rest ih => exact ih (requestStackOrdered h q)

/-- However listeners take and write meanwhile: the log is of this run, and every queue ends with what it says last came
to its reader. Of two calls whose samples come to one reader the earlier one's comes first, but where the later call was
made while that sample was at a reader before this one; then, and only then, the later one's does. What a call is made
within are deliveries under way, of ever earlier calls. -/
theorem callsOrdered (requests : List Request) :
    let b := (runNoted ({}, {}) requests).1
    let l := (runNoted ({}, {}) requests).2
    b = ({} : Bus).run requests ∧
    (∀ r x, b.readers.get? r = some x → x.mailbox.samples.map Sample.arrival <:+ l.arrivals r) ∧
    l.done.Pairwise LoggedTask.Ordered ∧
    ∀ e ∈ l.done, LoggedTask.Nested e.scope ∧ ∀ o ∈ e.within, ∃ a ∈ l.done, a.transit? = some o := by
  intro b l
  have stackOrdered : l.StackOrdered [] := runStackOrdered requests stackOrderedFresh
  refine ⟨runNotedSame _ requests, runReceived requests membersAgreeEmpty fun _ _ found => ?_, stackOrdered.past,
    fun e done => ?_⟩
  · cases found
  · have known := List.mem_append_left [] done
    exact ⟨stackOrdered.nested e known, stackOrdered.rooted e known⟩

def answering : List Request :=
  [.join 0, .registerType 1 "T", .createTopic 1 "t" "T" .standard, .createGroup .publication 1,
    .createGroup .subscription 1, .createWriter 4 ⟨1, "t", "T", .standard⟩ 16,
    .createReader 5 ⟨1, "t", "T", .standard⟩ .keepAll, .createReader 5 ⟨1, "t", "T", .standard⟩ .keepAll,
    .newListener (.scripted { actions := [.emit 6 [66]], budget := 1 }),
    .setListener 7 (some 1), .write 6 [65]]

/-- The answer comes to the second reader before what it answers, though its call began later: the samples of this one
writer do not come in the order of their calls. -/
theorem answerOvertakes :
    let b := (runNoted ({}, {}) answering).1
    let l := (runNoted ({}, {}) answering).2
    l.done.filterMap LoggedTask.transit? = [⟨10, 7⟩, ⟨13, 7⟩, ⟨13, 8⟩, ⟨10, 8⟩] ∧
      (¬ (l.done.filterMap LoggedTask.transit?).Pairwise fun p q => p.reader = q.reader → p.call < q.call) ∧
      (b.readers.get? 8).map (·.mailbox.samples.map fun s => (s.publication, s.payload)) =
        some [(6, some [66]), (6, some [65])] := by
  decide +kernel

end Bus
end Databus
