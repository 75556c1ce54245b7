import Databus.Proofs.DiscoveryReaders

/-! What settling brings to one reader: the samples that go into its queue, in the view of all arrivals
before them. A reader without history limit that no write reaches gets exactly the notices due to it. -/
namespace Databus

namespace Table

variable {κ α : Type} [LT κ] [Std.Irrefl (· < · : κ → κ → Prop)]

theorem keysNodup (t : Table κ α) : t.keys.Nodup := by
  refine List.Pairwise.imp (R := (· < ·)) (fun {a b} less eq => ?_)
    (List.pairwise_map.2 t.sorted)
  exact Std.Irrefl.irrefl (r := (· < ·)) a (eq ▸ less)

variable [DecidableEq κ]
  [Trans (· < · : κ → κ → Prop) (· < · : κ → κ → Prop) (· < · : κ → κ → Prop)]

theorem filterFilter (t : Table κ α) (p q : κ → α → Bool) :
    (t.filter p).filter q = t.filter fun k a => p k a && q k a := by
  apply sameLookup
  intro k
  simp only [getFilter]
  cases t.get? k with
  | none => rfl
  | some a => cases first : p k a <;> simp [Option.filter, first]

theorem filterCongr {t : Table κ α} {p q : κ → α → Bool}
    (same : ∀ k a, t.get? k = some a → p k a = q k a) : t.filter p = t.filter q := by
  apply sameLookup
  intro k
  simp only [getFilter]
  cases found : t.get? k with
  | none => rfl
  | some a => simp only [Option.filter, same k a found]

theorem filterNone {t : Table κ α} {p : κ → α → Bool}
    (absent : ∀ k a, t.get? k = some a → p k a = false) : t.filter p = .empty := by
  apply sameLookup
  intro k
  rw [getFilter, getEmpty]
  cases found : t.get? k with
  | none => rfl
  | some a => simp [Option.filter, absent k a found]

variable [DecidableLT κ] [Std.Trichotomous (· < · : κ → κ → Prop)]

theorem filterOne {t : Table κ α} {p : κ → α → Bool} {k : κ} {a : α} (found : t.get? k = some a)
    (only : ∀ k' a', t.get? k' = some a' → (p k' a' = true ↔ k' = k)) :
    (t.filter p).entries = [(k, a)] := by
  have single : t.filter p = Table.empty.insert k a := by
    apply sameLookup
    intro k'
    rw [getFilter, getInsert]
    split
    · rename_i eq
      rw [eq, found]
      simp [Option.filter, (only k a found).2 rfl]
    · rename_i other
      cases present : t.get? k' with
      | none => rfl
      | some a' =>
        have refused : p k' a' = false :=
          Bool.eq_false_iff.2 fun taken => other ((only k' a' present).1 taken)
        simp [Option.filter, refused]
  rw [single]
  rfl

theorem entriesOf (t : Table κ α) (k : κ) :
    t.entries.filter (fun x => x.1 = k) = ((t.get? k).map fun a => (k, a)).toList := by
  cases found : t.get? k with
  | none =>
    have none := filterNone (t := t) (p := fun k' _ => decide (k' = k)) fun k' a there => by
      refine decide_eq_false fun eq => ?_
      rw [eq, found] at there
      contradiction
    exact congrArg entries none
  | some a => exact filterOne (p := fun k' _ => decide (k' = k)) found fun k' _ _ => decide_eq_true_iff

end Table

/-! ### Views of a sequence of arrivals -/

def Arrival.seen (a : Arrival) (view : View) : Sample :=
  ⟨a.subject, a.publication, view, a.state, a.payload⟩

namespace Mailbox

def recollect (known : List InstanceHandle) (arrivals : List Arrival) : List InstanceHandle :=
  arrivals.foldl remember known

def stamps (known : List InstanceHandle) : List Arrival → List Sample
  | [] => []
  | a :: rest =>
    a.seen (if a.subject ∈ known then .notNew else .new) :: stamps (remember known a) rest

theorem stampsAppend (known : List InstanceHandle) (first second : List Arrival) :
    stamps known (first ++ second) = stamps known first ++ stamps (recollect known first) second := by
  induction first generalizing known with
  | nil => rfl
  | cons a rest ih => simp only [List.cons_append, stamps, ih, recollect, List.foldl_cons]

theorem memRemember {known : List InstanceHandle} {a : Arrival} {k : InstanceHandle} :
    k ∈ remember known a ↔
      if a.state.isGone then k ∈ known ∧ k ≠ a.subject else k ∈ known ∨ k = a.subject := by
  unfold remember
  by_cases seen : a.subject ∈ known <;> by_cases gone : a.state.isGone <;> grind

theorem stampsTurn (known : List InstanceHandle) (arrivals : List Arrival)
    (turns : ∀ a ∈ arrivals, a.subject ∈ known ↔ a.state.isGone = true)
    (once : (arrivals.map (·.subject)).Nodup) :
    stamps known arrivals = arrivals.map (fun a => a.seen (if a.state.isGone then .notNew else .new)) ∧
      ∀ k, k ∈ recollect known arrivals ↔ ¬ (k ∈ known ↔ k ∈ arrivals.map (·.subject)) := by
  induction arrivals generalizing known with
  | nil => simp [stamps, recollect]
  | cons a rest ih =>
    obtain ⟨fresh, once⟩ := List.nodup_cons.1 once
    have own := turns a (List.mem_cons_self ..)
    have next (k : InstanceHandle) :
        k ∈ remember known a ↔ if k = a.subject then a.subject ∉ known else k ∈ known := by
      rw [memRemember, own]
      by_cases gone : a.state.isGone <;> by_cases eq : k = a.subject <;> simp [gone, eq, own]
    obtain ⟨same, members⟩ := ih (remember known a)
      (fun x mem => by
        rw [next, if_neg fun eq => fresh (List.mem_map.2 ⟨x, mem, eq⟩)]
        exact turns x (List.mem_cons_of_mem _ mem))
      once
    refine ⟨?_, fun k => ?_⟩
    · rw [stamps, same, List.map_cons]
      simp only [own]
    · rw [recollect, List.foldl_cons, ← recollect, members, next, List.map_cons, List.mem_cons]
      by_cases eq : k = a.subject
      · subst eq
        simp [fresh]
      · simp [eq]

end Mailbox

structure Reader.Drawn (x x' : Reader) : Prop where
  history : x'.history = x.history
  known : x'.mailbox.known = x.mailbox.known
  lost : x'.mailbox.lost = x.mailbox.lost
  samples : x'.mailbox.samples <:+ x.mailbox.samples

theorem Reader.Drawn.refl (x : Reader) : x.Drawn x := ⟨rfl, rfl, rfl, List.suffix_refl _⟩

theorem Reader.Drawn.trans {x y z : Reader} (h : x.Drawn y) (h' : y.Drawn z) : x.Drawn z :=
  ⟨h'.history.trans h.history, h'.known.trans h.known, h'.lost.trans h.lost,
    h'.samples.trans h.samples⟩

structure Reader.Yields (x : Reader) (out : List Sample) (x' : Reader) : Prop where
  history : x'.history = x.history
  known : x'.mailbox.known = x.mailbox.known
  lost : x'.mailbox.lost = x.mailbox.lost
  samples : out ++ x'.mailbox.samples = x.mailbox.samples

theorem Reader.Yields.refl (x : Reader) : x.Yields [] x := ⟨rfl, rfl, rfl, rfl⟩

theorem Reader.Yields.trans {x y z : Reader} {out out' : List Sample} (h : x.Yields out y) (h' : y.Yields out' z) :
    x.Yields (out ++ out') z where
  history := h'.history.trans h.history
  known := h'.known.trans h.known
  lost := h'.lost.trans h.lost
  samples := by rw [List.append_assoc, h'.samples, h.samples]

theorem Reader.Yields.drawn {x x' : Reader} {out : List Sample} (h : x.Yields out x') : x.Drawn x' :=
  ⟨h.history, h.known, h.lost, ⟨out, h.samples⟩⟩

def Action.consumed (r : InstanceHandle) (l : ListenerId) (b : Bus) : Action → List Sample
  | .takeOne => (b.take r).1.toList
  | .takeAll => (b.takeAll r).1
  | .forward _ => if b.budget l = 0 then [] else ((b.spend l).take r).1.toList
  | .noteUnread | .install _ | .emit _ _ => []

namespace Bus

/-! ### What is taken out of one reader -/

section Consuming

variable {b : Bus} {r : InstanceHandle} {x : Reader}

theorem takeFirst (found : b.readers.get? r = some x) {s : Sample} {box : Mailbox}
    (taken : x.mailbox.take? = some (s, box)) :
    (b.take r).1 = some s ∧ (b.take r).2.readers.get? r = some { x with mailbox := box } := by
  have modified : (b.modifyReader r ({ · with mailbox := box })).readers.get? r =
      some { x with mailbox := box } := by
    simp only [modifyReader, Table.getModify, found]
    rfl
  simp only [take, found, taken, true_and]
  split
  · rw [(deactivateFrame _ _ _).readers]
    exact modified
  · exact modified

theorem takeYields (found : b.readers.get? r = some x) :
    ∃ x', (b.take r).2.readers.get? r = some x' ∧ x.Yields (b.take r).1.toList x' := by
  cases queue : x.mailbox.samples with
  | nil =>
    have none : x.mailbox.take? = none := by rw [Mailbox.take?, queue]
    simp only [take, found, none]
    exact ⟨x, (deactivateFrame b _ _).readers ▸ found, .refl x⟩
  | cons s rest =>
    have front : x.mailbox.take? = some (s, { x.mailbox with samples := rest }) := by rw [Mailbox.take?, queue]
    obtain ⟨first, there⟩ := takeFirst found front
    exact ⟨_, there, ⟨rfl, rfl, rfl, first ▸ queue.symm⟩⟩

theorem takeAllYields (found : b.readers.get? r = some x) :
    ∃ x', (b.takeAll r).2.readers.get? r = some x' ∧ x.Yields (b.takeAll r).1 x' := by
  unfold takeAll
  rw [found]
  refine ⟨{ x with mailbox := x.mailbox.empty }, ?_, ⟨rfl, rfl, rfl, List.append_nil _⟩⟩
  rw [(deactivateFrame _ _ _).readers]
  simp only [modifyReader, Table.getModify, found]
  rfl

theorem drainYields (side : Side) (graph : GraphId) (guard : ConditionId) (found : b.readers.get? r = some x) :
    ∃ x', (b.drain side graph guard r).2.readers.get? r = some x' ∧ x.Yields (b.takeAll r).1 x' := by
  obtain ⟨x', there, yields⟩ := takeAllYields found
  refine ⟨x', ?_, yields⟩
  unfold drain
  dsimp only
  split
  · exact there
  · dsimp only
    split
    · rw [(setGuardFrame _ _ _).readers]
      exact there
    · exact there

theorem notesReaders (l : ListenerId) (samples : List Sample) (b : Bus) :
    (samples.foldl (fun b s => b.note l (.payload s.payload)) b).readers = b.readers :=
  List.foldlRecOn (motive := fun b' : Bus => b'.readers = b.readers) _ _ rfl fun _ same _ _ => same

theorem writeFromReaders (b : Bus) (l : ListenerId) (w : InstanceHandle) (payload : Octets) :
    (b.writeFrom l w payload).1.readers = b.readers := by
  unfold writeFrom
  cases b.route w payload <;> rfl

def Task.consumed (r : InstanceHandle) (b : Bus) : Task → List Sample
  | .deliver _ => []
  | .call r' l =>
    match b.listeners.get? l with
    | some (.discovery _ _ _) => if r' = r then (b.takeAll r).1 else []
    | _ => []
  | .act r' l a => if r' = r then a.consumed r l b else []

theorem listenerYields (found : b.readers.get? r = some x) (r' : InstanceHandle) (l : Option ListenerId) :
    ∃ x', (b.setListener r' l).readers.get? r = some x' ∧ x.Yields [] x' := by
  simp only [setListener, modifyReader, Table.getModify]
  split
  · rename_i eq
    rw [← eq, found]
    exact ⟨{ x with listener := l }, rfl, ⟨rfl, rfl, rfl, rfl⟩⟩
  · exact ⟨x, found, .refl x⟩

theorem actYields (l : ListenerId) (a : Action) (found : b.readers.get? r = some x) :
    ∃ x', (b.act r l a).1.readers.get? r = some x' ∧ x.Yields (a.consumed r l b) x' := by
  cases a with
  | noteUnread =>
    simp only [act, found]
    exact ⟨x, found, .refl x⟩
  | install l' => exact listenerYields found r l'
  | takeOne =>
    obtain ⟨x', there, yields⟩ := takeYields found
    refine ⟨x', ?_, yields⟩
    unfold act
    dsimp only
    split
    · rename_i eq
      rw [eq] at there
      exact there
    · rename_i eq
      rw [eq] at there
      exact there
  | takeAll =>
    obtain ⟨x', there, yields⟩ := takeAllYields found
    exact ⟨x', (notesReaders l _ _).symm ▸ there, yields⟩
  | forward w =>
    obtain ⟨x', there, yields⟩ := takeYields (b := b.spend l) found
    unfold act Action.consumed
    dsimp only
    split
    · exact ⟨x, found, .refl x⟩
    · refine ⟨x', ?_, yields⟩
      split
      · rename_i eq
        rw [eq] at there
        cases w with
        | none => exact there
        | some w => exact (writeFromReaders _ l w _).symm ▸ there
      · rename_i eq
        rw [eq] at there
        exact there
  | emit w payload =>
    unfold act
    dsimp only
    split
    · exact ⟨x, found, .refl x⟩
    · exact ⟨x, (writeFromReaders _ l w payload).symm ▸ found, .refl x⟩

end Consuming

/-! ### What settling brings to one reader -/

def Task.arrivals (r : InstanceHandle) : Task → List Arrival
  | .deliver n => if n.reader = r then [n.arrival] else []
  | _ => []

def Task.sample (r : InstanceHandle) (b : Bus) (t : Task) : List Sample :=
  match b.readers.get? r with
  | some x => (t.arrivals r).map x.mailbox.stamp
  | none => []

def heard (r : InstanceHandle) (b : Bus) : List Task → List Sample
  | [] => []
  | t :: rest => t.sample r b ++ heard r (t.step b).1 ((t.step b).2 ++ rest)
termination_by tasks => b.pressure tasks
decreasing_by exact stepShrinks b t rest

def consumed (r : InstanceHandle) (b : Bus) : List Task → List Sample
  | [] => []
  | t :: rest => t.consumed r b ++ consumed r (t.step b).1 ((t.step b).2 ++ rest)
termination_by tasks => b.pressure tasks
decreasing_by exact stepShrinks b t rest

theorem affectsDrawn {z : Scope} {b b' : Bus} (h : Affects z b b') {r : InstanceHandle} {x : Reader}
    (found : b.readers.get? r = some x) : ∃ x', b'.readers.get? r = some x' ∧ x.Drawn x' := by
  induction h generalizing x with
  | refl b => exact ⟨x, found, .refl x⟩
  | signals h => exact ⟨x, h.readers ▸ found, .refl x⟩
  | @read b r' f inside less =>
    simp only [modifyReader, Table.getModify]
    split
    · rename_i eq
      subst eq
      obtain ⟨rest, suffix, eq⟩ := less x found
      refine ⟨f x, by rw [found]; rfl, ?_⟩
      rw [eq]
      exact ⟨rfl, rfl, rfl, suffix⟩
    · exact ⟨x, found, .refl x⟩
  | install inside free =>
    obtain ⟨x', there, yields⟩ := listenerYields found _ _
    exact ⟨x', there, yields.drawn⟩
  | script plain => exact ⟨x, found, .refl x⟩
  | draw inside known => exact ⟨x, found, .refl x⟩
  | trans first second ih ih' =>
    obtain ⟨y, there, drawn⟩ := ih found
    obtain ⟨y', there', drawn'⟩ := ih' there
    exact ⟨y', there', drawn.trans drawn'⟩

theorem enqueueMailbox {b : Bus} {n : Notice} {r : InstanceHandle} {x : Reader}
    (found : b.readers.get? r = some x) :
    (b.enqueue n).readers.get? r =
      some (if n.reader = r then { x with mailbox := x.mailbox.push x.history n.arrival } else x) := by
  rw [(enqueueReaders b n).readers]
  simp only [modifyReader, Table.getModify]
  by_cases own : r = n.reader
  · rw [if_pos own, if_pos own.symm, ← own, found]
    rfl
  · rw [if_neg own, if_neg (Ne.symm own), found]

def Unread (b : Bus) (r : InstanceHandle) : Prop :=
  ∀ e, b.endpoints.get? r = some e → e.side ≠ .subscription

theorem stepQuiet {b : Bus} {r : InstanceHandle} (unread : b.Unread r) {t t' : Task}
    (mem : t' ∈ (t.step b).2) : t'.arrivals r = [] := by
  cases t with
  | deliver n =>
    unfold Task.step at mem
    dsimp only at mem
    split at mem
    · rw [List.mem_singleton.1 mem]
      rfl
    · cases mem
  | call r' l =>
    unfold Task.step at mem
    dsimp only at mem
    split at mem
    · cases mem
    · obtain ⟨a, _, rfl⟩ := List.mem_map.1 mem
      rfl
    · cases mem
  | act r' l a =>
    have within := actWithin (z := ⟨fun k => k ≠ r, fun _ => True, True⟩)
      (fun k e found side eq => unread e (eq ▸ found) side) t' mem
    cases t' with
    | deliver n => exact if_neg within
    | call => rfl
    | act => rfl

theorem stepAffects (b : Bus) {t : Task} (other : ∀ n, t ≠ .deliver n) :
    Affects .all b (t.step b).1 := by
  cases t with
  | deliver n => exact absurd rfl (other n)
  | call r l =>
    unfold Task.step
    dsimp only
    split
    · exact drainAffects trivial trivial
    · exact .script fun _ => calledPlain
    · exact .refl b
  | act r l a => exact actAffects trivial (.inl trivial)

theorem stepYields {b : Bus} {t : Task} (other : ∀ n, t ≠ .deliver n) {r : InstanceHandle} {x : Reader}
    (found : b.readers.get? r = some x) :
    ∃ x', (t.step b).1.readers.get? r = some x' ∧ x.Yields (t.consumed r b) x' := by
  -- what is done for another reader stays within that one
  have apart {r' : InstanceHandle} (away : ¬ r' = r) {b' : Bus}
      (affects : Affects ⟨fun k => k = r', fun _ => True, True⟩ b b') : b'.readers.get? r = some x :=
    ((Kept.ofAffects affects).readers r fun own => away own.symm).trans found
  cases t with
  | deliver n => exact absurd rfl (other n)
  | call r' l =>
    cases listener : b.listeners.get? l with
    | none =>
      simp only [Task.step, Task.consumed, listener]
      exact ⟨x, found, .refl x⟩
    | some face =>
      cases face with
      | scripted s =>
        simp only [Task.step, Task.consumed, listener]
        exact ⟨x, found, .refl x⟩
      | discovery side graph guard =>
        simp only [Task.step, Task.consumed, listener]
        by_cases own : r' = r
        · rw [if_pos own, own]
          exact drainYields side graph guard found
        · rw [if_neg own]
          exact ⟨x, apart own (drainAffects rfl trivial), .refl x⟩
  | act r' l a =>
    simp only [Task.step, Task.consumed]
    by_cases own : r' = r
    · rw [if_pos own, own]
      exact actYields l a found
    · rw [if_neg own]
      exact ⟨x, apart own (actAffects rfl (.inl trivial)), .refl x⟩

theorem stepMailbox {b : Bus} {t : Task} {r : InstanceHandle} {x : Reader}
    (found : b.readers.get? r = some x) (keeps : x.history = .keepAll) :
    ∃ x', (t.step b).1.readers.get? r = some x' ∧ x'.history = .keepAll ∧
      x'.mailbox.known = Mailbox.recollect x.mailbox.known (t.arrivals r) ∧
      x'.mailbox.lost = x.mailbox.lost ∧
      t.consumed r b ++ x'.mailbox.samples = x.mailbox.samples ++ t.sample r b := by
  have quiet (other : ∀ n, t ≠ .deliver n) (none : t.arrivals r = []) :
      ∃ x', (t.step b).1.readers.get? r = some x' ∧ x'.history = .keepAll ∧
        x'.mailbox.known = Mailbox.recollect x.mailbox.known (t.arrivals r) ∧
        x'.mailbox.lost = x.mailbox.lost ∧
        t.consumed r b ++ x'.mailbox.samples = x.mailbox.samples ++ t.sample r b := by
    obtain ⟨x', there, yields⟩ := stepYields other found
    refine ⟨x', there, yields.history.trans keeps, ?_, yields.lost, ?_⟩
    · rw [none]
      exact yields.known
    · simpa only [Task.sample, found, none, List.map_nil, List.append_nil] using yields.samples
  cases t with
  | deliver n =>
    have there := enqueueMailbox (n := n) found
    have same : (Task.step b (.deliver n)).1 = b.enqueue n := by
      unfold Task.step
      dsimp only
      split <;> rfl
    rw [same, there]
    refine ⟨_, rfl, ?_⟩
    simp only [Task.arrivals, Task.sample, Task.consumed, found]
    split
    · simp [Mailbox.push, Mailbox.overflow, Mailbox.recollect, keeps, History.limit]
    · simp [Mailbox.recollect, keeps]
  | call r' l => exact quiet (by simp) rfl
  | act r' l a => exact quiet (by simp) rfl

theorem sampleStamps {b : Bus} {r : InstanceHandle} {x : Reader}
    (found : b.readers.get? r = some x) (t : Task) :
    t.sample r b = Mailbox.stamps x.mailbox.known (t.arrivals r) := by
  simp only [Task.sample, found]
  cases t with
  | deliver n =>
    simp only [Task.arrivals]
    split <;> rfl
  | call => rfl
  | act => rfl

theorem settleHeard {r : InstanceHandle} {b : Bus} (tasks : List Task) {x : Reader}
    (unread : b.Unread r) (found : b.readers.get? r = some x) (keeps : x.history = .keepAll) :
    heard r b tasks = Mailbox.stamps x.mailbox.known (tasks.flatMap (Task.arrivals r)) ∧
      ∃ x', (b.settle tasks).readers.get? r = some x' ∧ x'.history = .keepAll ∧
        x'.mailbox.known = Mailbox.recollect x.mailbox.known (tasks.flatMap (Task.arrivals r)) ∧
        x'.mailbox.lost = x.mailbox.lost ∧
        consumed r b tasks ++ x'.mailbox.samples = x.mailbox.samples ++ heard r b tasks := by
  fun_induction settle b tasks generalizing x with
  | case1 b =>
    exact ⟨by simp [heard, Mailbox.stamps], x, found, keeps, rfl, rfl, by simp [heard, consumed]⟩
  | case2 b t rest ih =>
    obtain ⟨y, there, keeps', known, lost, order⟩ := stepMailbox (t := t) found keeps
    have quiet : (t.step b).2.flatMap (Task.arrivals r) = [] :=
      List.flatMap_eq_nil_iff.2 fun t' mem => stepQuiet unread mem
    have stays : (t.step b).1.Unread r := by
      unfold Unread
      rw [(stepFrame b t).endpoints]
      exact unread
    -- what a task brings up is not due to this reader, so the rest alone is
    obtain ⟨same, z, last, keeps'', known', lost', order'⟩ := ih stays there keeps'
    rw [List.flatMap_append, quiet, List.nil_append, known] at same known'
    rw [heard, consumed, List.flatMap_cons]
    refine ⟨?_, z, last, keeps'', ?_, lost'.trans lost, ?_⟩
    · rw [Mailbox.stampsAppend, sampleStamps found, same]
    · rw [known', Mailbox.recollect, Mailbox.recollect, Mailbox.recollect, List.foldl_append]
    · rw [List.append_assoc, order', ← List.append_assoc, order, List.append_assoc]

theorem stepSteady (b : Bus) (t : Task) : Steady b (t.step b).1 := by
  cases t with
  | deliver n =>
    unfold Task.step
    dsimp only
    split <;> exact (enqueueKept (z := .all) trivial).steady
  | call r l => exact (stepAffects b (by simp)).steady
  | act r l a => exact (stepAffects b (by simp)).steady

theorem takenAbsent {r : InstanceHandle} {b : Bus} (absent : b.readers.get? r = none) :
    (b.take r).1.toList = [] ∧ (b.takeAll r).1 = [] := by
  simp only [take, takeAll, absent, Option.toList_none, and_self]

theorem consumedAbsent {r : InstanceHandle} {b : Bus} (absent : b.readers.get? r = none) (t : Task) :
    t.consumed r b = [] := by
  cases t with
  | deliver n => rfl
  | call r' l =>
    unfold Task.consumed
    dsimp only
    split
    · exact ite_eq_right_iff.2 fun _ => (takenAbsent absent).2
    · rfl
  | act r' l a =>
    refine ite_eq_right_iff.2 fun _ => ?_
    cases a with
    | takeOne => exact (takenAbsent absent).1
    | takeAll => exact (takenAbsent absent).2
    | forward w => exact ite_eq_left_iff.2 fun _ => (takenAbsent (b := b.spend l) absent).1
    | _ => rfl

theorem heardNothing {r : InstanceHandle} {b : Bus} (tasks : List Task)
    (absent : b.readers.get? r = none) : heard r b tasks = [] ∧ consumed r b tasks = [] := by
  fun_induction settle b tasks with
  | case1 b => simp only [heard, consumed, and_self]
  | case2 b t rest ih =>
    have same := (stepSteady b t).readers r
    rw [absent] at same
    obtain ⟨silent, untouched⟩ := ih (Option.map_eq_none_iff.1 same)
    rw [heard, consumed, silent, untouched, consumedAbsent absent]
    simp only [Task.sample, absent, List.nil_append, and_self]

end Bus
end Databus
