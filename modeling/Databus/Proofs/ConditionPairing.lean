import Databus.Proofs.WaitBeginning
import Databus.Proofs.ParallelSites
import Mathlib.Data.List.Forall2

/-! Conditions that go together. No condition goes with two others, so waits on two sites that claim and hold conditions
which go together are let in or turned away alike, and leave such claims behind. -/
namespace Databus.Middleware

variable {K : Type}

/-! ### Conditions that go together -/

namespace Pairing

variable {ρ σ : Pairing} {k k' : ConditionId} {l l' m m' : List ConditionId}

structure Sole (ρ : Pairing) : Prop where
  left : ∀ k a b, ρ k a → ρ k b → a = b
  right : ∀ k a b, ρ a k → ρ b k → a = b

theorem Sole.joined (sole : ρ.Sole) (new : ∀ a, ¬ ρ k a) (new' : ∀ a, ¬ ρ a k') : (ρ.joined k k').Sole := by
  constructor
  · rintro j a b (old | ⟨rfl, rfl⟩) (old' | ⟨own, rfl⟩)
    · exact sole.left j a b old old'
    · exact absurd (own ▸ old) (new a)
    · exact absurd old' (new b)
    · rfl
  · rintro j a b (old | ⟨rfl, rfl⟩) (old' | ⟨rfl, own⟩)
    · exact sole.right j a b old old'
    · exact absurd (own ▸ old) (new' a)
    · exact absurd old' (new' b)
    · rfl

structure Matches (ρ : Pairing) (l l' : List ConditionId) : Prop where
  left : ∀ k ∈ l, ∃ k' ∈ l', ρ k k'
  right : ∀ k' ∈ l', ∃ k ∈ l, ρ k k'

theorem Matches.weaken (h : ρ.Matches l l') (wider : ∀ k k', ρ k k' → σ k k') : σ.Matches l l' where
  left k mem := by
    obtain ⟨k', mem', paired⟩ := h.left k mem
    exact ⟨k', mem', wider k k' paired⟩
  right k' mem' := by
    obtain ⟨k, mem, paired⟩ := h.right k' mem'
    exact ⟨k, mem, wider k k' paired⟩

theorem Matches.mem (h : ρ.Matches l l') (sole : ρ.Sole) (paired : ρ k k') : k ∈ l ↔ k' ∈ l' := by
  constructor
  · intro mem
    obtain ⟨a, mem', other⟩ := h.left k mem
    exact sole.left k a k' other paired ▸ mem'
  · intro mem'
    obtain ⟨a, mem, other⟩ := h.right k' mem'
    exact sole.right k' a k other paired ▸ mem

theorem Matches.append (h : ρ.Matches l l') (h' : ρ.Matches m m') : ρ.Matches (l ++ m) (l' ++ m') where
  left k mem := by
    rcases List.mem_append.1 mem with mem | mem
    · obtain ⟨k', mem', paired⟩ := h.left k mem
      exact ⟨k', List.mem_append_left _ mem', paired⟩
    · obtain ⟨k', mem', paired⟩ := h'.left k mem
      exact ⟨k', List.mem_append_right _ mem', paired⟩
  right k' mem' := by
    rcases List.mem_append.1 mem' with mem' | mem'
    · obtain ⟨k, mem, paired⟩ := h.right k' mem'
      exact ⟨k, List.mem_append_left _ mem, paired⟩
    · obtain ⟨k, mem, paired⟩ := h'.right k' mem'
      exact ⟨k, List.mem_append_right _ mem, paired⟩

theorem Matches.reverse (h : ρ.Matches l l') : ρ.Matches l.reverse l'.reverse where
  left k mem := by
    obtain ⟨k', mem', paired⟩ := h.left k (List.mem_reverse.1 mem)
    exact ⟨k', List.mem_reverse.2 mem', paired⟩
  right k' mem' := by
    obtain ⟨k, mem, paired⟩ := h.right k' (List.mem_reverse.1 mem')
    exact ⟨k, List.mem_reverse.2 mem, paired⟩

theorem Matches.drop (h : ρ.Matches l l') (gone : ρ.Matches m m') (sole : ρ.Sole) :
    ρ.Matches (l.filter (· ∉ m)) (l'.filter (· ∉ m')) where
  left k mem := by
    obtain ⟨mem, stays⟩ := List.mem_filter.1 mem
    obtain ⟨k', mem', paired⟩ := h.left k mem
    refine ⟨k', List.mem_filter.2 ⟨mem', decide_eq_true fun away => ?_⟩, paired⟩
    exact of_decide_eq_true stays ((gone.mem sole paired).2 away)
  right k' mem' := by
    obtain ⟨mem', stays⟩ := List.mem_filter.1 mem'
    obtain ⟨k, mem, paired⟩ := h.right k' mem'
    refine ⟨k, List.mem_filter.2 ⟨mem, decide_eq_true fun away => ?_⟩, paired⟩
    exact of_decide_eq_true stays ((gone.mem sole paired).1 away)

theorem matchesEach (each : List.Forall₂ ρ l l') : ρ.Matches l l' := by
  induction each with
  | nil => exact ⟨fun _ mem => (nomatch mem), fun _ mem => (nomatch mem)⟩
  | @cons k k' _ _ paired _ ih =>
    have first : ρ.Matches [k] [k'] := ⟨by simpa using paired, by simpa using paired⟩
    exact first.append ih

end Pairing

/-! ### Waits -/

namespace Site

variable {ρ : Pairing} {s s' : Site K}

theorem resolveTied {kind : Kind} {α : Type} {R : α → α → Prop} {a a' : Arena kind α} (alike : a.Alike R a')
    {condition : α → ConditionId} (paired : ∀ v v', R v v' → ρ (condition v) (condition v'))
    (handles : List (Option (Handle kind))) :
    Tied (fun slots slots' => List.Forall₂ ρ slots.conditions slots'.conditions) (resolve a condition handles)
      (resolve a' condition handles) := by
  induction handles with
  | nil => exact .ok .nil
  | cons slot rest ih =>
    cases slot with
    | none => exact ih.map fun _ _ each => each
    | some h =>
      unfold resolve
      rcases (alike.get h).opens with ⟨f, gone, gone'⟩ | ⟨v, v', got, got', related⟩
      · rw [gone, gone']
        exact .error f
      · rw [got, got']
        exact ih.map fun _ _ each => .cons (paired v v' related) each

theorem claimTied (sole : ρ.Sole) {claims claims' : List (Waitable × ConditionId)}
    (each : List.Forall₂ (fun x x' => x'.1 = x.1 ∧ ρ x.2 x'.2) claims claims') {observed observed' : List ConditionId}
    (same : ρ.Matches observed observed') : Tied ρ.Matches (claim observed claims) (claim observed' claims') := by
  induction each generalizing observed observed' with
  | nil => exact .ok same
  | @cons x x' rest rest' paired _ ih =>
    obtain ⟨w, k⟩ := x
    obtain ⟨w', k'⟩ := x'
    obtain ⟨rfl, paired⟩ := paired
    unfold claim
    by_cases held : k ∈ observed
    · rw [if_pos held, if_pos ((same.mem sole paired).1 held)]
      exact .error _
    · rw [if_neg held, if_neg fun held' => held ((same.mem sole paired).2 held')]
      exact ih ((Pairing.matchesEach (.cons paired .nil)).append same)

theorem attachClaimed (b : Bus) {observed observed' : List ConditionId} {claims : List (Waitable × ConditionId)}
    (claimed : claim observed claims = .ok observed') :
    ∃ b', attachAll b.newWaitSet.2 b.newWaitSet.1 claims = (b', .ok ()) := by
  obtain ⟨_, nodup, _⟩ := claimExact claimed
  obtain ⟨b', attached, _⟩ := attachAllNew b nodup
  exact ⟨b', attached⟩

theorem beginWaitParallel (sole : ρ.Sole) (alike : s.context.Alike ρ s'.context)
    (same : ρ.Matches s.observed s'.observed) (clock : Clock) (timeout : Timeout)
    (subscriptions : List (Option (Handle .subscription))) (guards : List (Option (Handle .guardCondition))) :
    ParallelOutcome ρ (fun t t' => ρ.Matches t.conditions t'.conditions) s.context s'.context
      (s.beginWait clock timeout subscriptions guards) (s'.beginWait clock timeout subscriptions guards) := by
  refine .plain ?_ ?_
  · rw [(beginWaitWaits s clock timeout subscriptions guards).2,
      (beginWaitWaits s' clock timeout subscriptions guards).2]
    exact alike
  unfold beginWait
  rcases (resolveTied alike.subscriptions (fun _ _ r => r.condition) subscriptions).opens with
    ⟨f, gone, gone'⟩ | ⟨slots, slots', resolved, resolved', each⟩
  · rw [gone, gone']
    exact .error f
  rcases (resolveTied alike.guards (fun _ _ g => g.condition) guards).opens with
    ⟨f, gone, gone'⟩ | ⟨slots₁, slots₁', resolved₁, resolved₁', each₁⟩
  · rw [resolved, resolved', gone, gone']
    exact .error f
  rw [resolved, resolved', resolved₁, resolved₁', alike.settings]
  dsimp only
  generalize ticket : Ticket.mk _ s.bus.newWaitSet.1 slots slots₁ = t
  generalize ticket' : Ticket.mk _ s'.bus.newWaitSet.1 slots' slots₁' = t'
  have claims : List.Forall₂ (fun x x' : Waitable × ConditionId => x'.1 = x.1 ∧ ρ x.2 x'.2) t.claims t'.claims := by
    rw [← ticket, ← ticket']
    exact List.rel_append (List.rel_map (fun _ _ paired => ⟨rfl, paired⟩) each)
      (List.rel_map (fun _ _ paired => ⟨rfl, paired⟩) each₁)
  have conditions : ρ.Matches t.conditions t'.conditions := by
    rw [← ticket, ← ticket']
    exact (Pairing.matchesEach each).append (Pairing.matchesEach each₁)
  rcases (claimTied sole claims same).opens with ⟨f, held, held'⟩ | ⟨observed, observed', claimed, claimed', _⟩
  · rw [held, held']
    exact .error f
  obtain ⟨b, attached⟩ := attachClaimed s.bus claimed
  obtain ⟨b', attached'⟩ := attachClaimed s'.bus claimed'
  rw [claimed, claimed']
  dsimp only
  rw [attached, attached']
  exact .ok conditions

end Site
end Databus.Middleware
