import Databus.Proofs.ConditionOwners
import Databus.Proofs.TableCorrespondence

/-! Calls on two contexts alike: each answers the same on both and leaves them alike. What is new on both sides at once
gets a condition on each, and from then on the two go together. -/
namespace Databus.Middleware

variable {K : Type}

def Pairing.joined (ρ : Pairing) (k k' : ConditionId) : Pairing := fun a a' => ρ a a' ∨ a = k ∧ a' = k'

inductive Pairing.Grown (ρ : Pairing) (c c' d d' : Context K) : Pairing → Prop
  | same : Grown ρ c c' d d' ρ
  | joined {i : Resource} {k k' : ConditionId} (vacant : c.condition? i = none) (vacant' : c'.condition? i = none)
    (live : d.condition? i = some k) (live' : d'.condition? i = some k') : Grown ρ c c' d d' (ρ.joined k k')

theorem Pairing.Grown.wider {ρ σ : Pairing} {c c' d d' : Context K} (h : ρ.Grown c c' d d' σ) (k k' : ConditionId)
    (paired : ρ k k') : σ k k' := by
  cases h with
  | same => exact paired
  | joined => exact .inl paired

structure ParallelOutcome {α β : Type} (ρ : Pairing) (R : α → β → Prop) (c c' : Context K)
    (t : Site K × Except Failure α) (t' : Site K × Except Failure β) : Prop where
  context : ∃ σ, ρ.Grown c c' t.1.context t'.1.context σ ∧ t.1.context.Alike σ t'.1.context
  answer : Tied R t.2 t'.2

theorem ParallelOutcome.plain {α β : Type} {ρ : Pairing} {R : α → β → Prop} {c c' : Context K}
    {t : Site K × Except Failure α}
    {t' : Site K × Except Failure β} (alike : t.1.context.Alike ρ t'.1.context) (answer : Tied R t.2 t'.2) :
    ParallelOutcome ρ R c c' t t' := ⟨⟨ρ, .same, alike⟩, answer⟩

namespace Site

variable {ρ : Pairing} {s s' : Site K}

theorem nodeTied (alike : s.context.Alike ρ s'.context) (h : Handle .node) :
    Tied NodeRecord.Alike (s.node h) (s'.node h) := alike.nodes.get h

/-! ### Guards -/

theorem guardJoined {c c' : Context K} (sound : c.Sound) (sound' : c'.Sound) (alike : c.Alike ρ c')
    (owner : GuardOwner) (k k' : ConditionId) :
    (∃ f, c.guards.insert ⟨k, owner⟩ = .error f ∧ c'.guards.insert ⟨k', owner⟩ = .error f) ∨
      ∃ h guards guards', c.guards.insert ⟨k, owner⟩ = .ok (h, guards) ∧
        c'.guards.insert ⟨k', owner⟩ = .ok (h, guards') ∧
        guards.Alike (GuardRecord.Alike (ρ.joined k k')) guards' ∧
        ∀ d d' : Context K, d.guards = guards → d'.guards = guards' →
          ρ.Grown c c' d d' (ρ.joined k k') := by
  have wide := alike.weaken (σ := ρ.joined k k') fun _ _ => .inl
  have joined : GuardRecord.Alike (ρ.joined k k') ⟨k, owner⟩ ⟨k', owner⟩ := ⟨rfl, .inr ⟨rfl, rfl⟩⟩
  rcases (wide.guards.insert joined).opens with
    ⟨f, full, full'⟩ | ⟨⟨h, guards⟩, ⟨h', guards'⟩, inserted, inserted', same, alike'⟩
  · exact .inl ⟨f, full, full'⟩
  · cases same
    obtain ⟨_, _, vacant, find⟩ := Arena.insertFind sound.guards inserted
    obtain ⟨_, _, vacant', find'⟩ := Arena.insertFind sound'.guards inserted'
    refine .inr ⟨h, guards, guards', inserted, inserted', alike', fun d d' own own' => ?_⟩
    refine .joined (i := .guard h) ?_ ?_ ?_ ?_
    · rw [Context.condition?, vacant, Option.map_none]
    · rw [Context.condition?, vacant', Option.map_none]
    · rw [Context.condition?, own, find, if_pos rfl, Option.map_some]
    · rw [Context.condition?, own', find', if_pos rfl, Option.map_some]

theorem createGuardParallel (sound : s.context.Sound) (sound' : s'.context.Sound)
    (alike : s.context.Alike ρ s'.context) :
    ParallelOutcome ρ Eq s.context s'.context s.createGuard s'.createGuard := by
  unfold createGuard Bus.newCondition
  dsimp only
  rcases guardJoined sound sound' alike .caller s.bus.nextCondition s'.bus.nextCondition with
    ⟨f, full, full'⟩ | ⟨h, guards, guards', inserted, inserted', alike', grown⟩
  · rw [full, full']
    exact .plain alike (.error f)
  · rw [inserted, inserted']
    exact ⟨⟨_, grown _ _ rfl rfl, { alike.weaken (fun _ _ => .inl) with guards := alike' }⟩, .ok rfl⟩

theorem triggerGuardParallel (alike : s.context.Alike ρ s'.context) (h : Handle .guardCondition) :
    ParallelOutcome ρ Eq s.context s'.context (s.triggerGuard h) (s'.triggerGuard h) := by
  unfold triggerGuard
  rcases (alike.guards.get h).opens with ⟨f, gone, gone'⟩ | ⟨g, g', got, got', _⟩
  · rw [gone, gone']
    exact .plain alike (.error f)
  · rw [got, got']
    exact .plain alike (.ok rfl)

theorem destroyGuardParallel (alike : s.context.Alike ρ s'.context) (h : Option (Handle .guardCondition)) :
    ParallelOutcome ρ Eq s.context s'.context (s.destroyGuard h) (s'.destroyGuard h) := by
  unfold destroyGuard
  cases Handle.require h with
  | error f => exact .plain alike (.error f)
  | ok h =>
    dsimp only
    rcases (alike.guards.get h).opens with
      ⟨f, gone, gone'⟩ | ⟨⟨k, owner⟩, ⟨k', owner'⟩, got, got', same, _⟩
    · rw [gone, gone']
      exact .plain alike (.error f)
    · cases same
      rw [got, got']
      cases owner with
      | node n => exact .plain alike (.error _)
      | caller =>
        dsimp only
        rcases (alike.guards.remove h).opens with ⟨f, gone, gone'⟩ | ⟨x, x', removed, removed', _, alike'⟩
        · rw [gone, gone']
          exact .plain alike (.error f)
        · rw [removed, removed']
          exact .plain { alike with guards := alike' } (.ok rfl)

/-! ### Nodes -/

theorem joinNodeTied (b b' : Bus) (name : String) (domain : DomainId) :
    (∃ f, joinNode b name domain = .error f ∧ joinNode b' name domain = .error f) ∨
      ∃ n n' a a', joinNode b name domain = .ok (n, a) ∧ joinNode b' name domain = .ok (n', a') ∧ n.Alike n' := by
  by_cases large : maxDomainId < domain
  · refine .inl ⟨.invalidDomain domain, ?_, ?_⟩ <;> rw [joinNode, Bus.joinRefused large]
  · cases joined : joinNode b name domain with
    | error f => exact absurd (joinNodeRefused joined) large
    | ok x =>
      cases joined' : joinNode b' name domain with
      | error f => exact absurd (joinNodeRefused joined') large
      | ok x' =>
        obtain ⟨_, named, idle, _⟩ := joinNodeOpens joined
        obtain ⟨_, named', idle', _⟩ := joinNodeOpens joined'
        exact .inr ⟨_, _, _, _, rfl, rfl, named'.trans named.symm, idle'.trans idle.symm⟩

theorem createNodeParallel (sound : s.context.Sound) (sound' : s'.context.Sound) (alike : s.context.Alike ρ s'.context)
    (name : String) : ParallelOutcome ρ Eq s.context s'.context (s.createNode name) (s'.createNode name) := by
  unfold createNode
  rw [alike.settings]
  split
  · exact .plain alike (.error _)
  · rcases joinNodeTied s.bus s'.bus name s.context.settings.domain with
      ⟨f, refused, refused'⟩ | ⟨n, n', b, b', joined, joined', related⟩
    · rw [refused, refused']
      exact .plain alike (.error _)
    · rw [joined, joined']
      dsimp only
      rcases (alike.nodes.insert related).opens with
        ⟨f, full, full'⟩ | ⟨⟨h, nodes⟩, ⟨h', nodes'⟩, inserted, inserted', same, nodeAdded⟩
      · rw [full, full']
        exact .plain alike (.error f)
      · cases same
        rw [inserted, inserted']
        dsimp only
        rcases guardJoined sound sound' alike (.node h) n.guard n'.guard with
          ⟨f, full, full'⟩ | ⟨g, guards, guards', guarded, guarded', alike', grown⟩
        · rw [full, full']
          dsimp only
          rcases (nodeAdded.remove h).opens with ⟨f, gone, gone'⟩ | ⟨x, x', removed, removed', _, restored⟩
          · rw [gone, gone']
            exact .plain { alike with nodes := nodeAdded } (.error _)
          · rw [removed, removed']
            exact .plain { alike with nodes := restored } (.error _)
        · rw [guarded, guarded']
          refine ⟨⟨_, grown _ _ rfl rfl, ?_⟩, .ok rfl⟩
          exact { alike.weaken (fun _ _ => .inl) with
            nodes := nodeAdded
            guards := alike'
            graphGuards := congrArg ((h, g) :: ·) alike.graphGuards }

theorem graphGuardFound (alike : s.context.Alike ρ s'.context) (h : Handle .node) :
    s'.graphGuard? h = s.graphGuard? h := by
  rw [graphGuard?, graphGuard?, alike.graphGuards]

theorem removeGraphGuardAlike (alike : s.context.Alike ρ s'.context) (h : Handle .node) :
    (s.removeGraphGuard h).Alike ρ (s'.removeGraphGuard h) := by
  unfold removeGraphGuard
  rw [graphGuardFound alike, alike.graphGuards]
  split
  · exact alike
  · rename_i g _
    dsimp only
    rcases (alike.guards.remove g).opens with ⟨f, gone, gone'⟩ | ⟨x, x', removed, removed', _, alike'⟩
    · rw [gone, gone']
      exact { alike with graphGuards := rfl }
    · rw [removed, removed']
      exact { alike with guards := alike', graphGuards := rfl }

theorem destroyNodeParallel (alike : s.context.Alike ρ s'.context) (h : Option (Handle .node)) :
    ParallelOutcome ρ Eq s.context s'.context (s.destroyNode h) (s'.destroyNode h) := by
  unfold destroyNode
  cases Handle.require h with
  | error f => exact .plain alike (.error f)
  | ok h =>
    dsimp only
    rcases (nodeTied alike h).opens with ⟨f, gone, gone'⟩ | ⟨n, n', got, got', related⟩
    · rw [gone, gone']
      exact .plain alike (.error f)
    · rw [got, got']
      dsimp only
      rw [show endpointsLeft n' = endpointsLeft n by rw [endpointsLeft, endpointsLeft, related.name, related.endpoints],
        related.endpoints]
      split
      · exact .plain alike (.error _)
      · rcases (alike.nodes.remove h).opens with ⟨f, gone, gone'⟩ | ⟨x, x', removed, removed', _, alike'⟩
        · rw [gone, gone']
          exact .plain alike (.error f)
        · rw [removed, removed']
          exact .plain { removeGraphGuardAlike alike h with nodes := alike' } (.ok rfl)

theorem graphGuardParallel (alike : s.context.Alike ρ s'.context) (h : Handle .node) :
    ParallelOutcome ρ Eq s.context s'.context (s.graphGuard h) (s'.graphGuard h) := by
  unfold graphGuard
  rcases (nodeTied alike h).opens with ⟨f, gone, gone'⟩ | ⟨n, n', got, got', _⟩
  · rw [gone, gone']
    exact .plain alike (.error f)
  · rw [got, got', graphGuardFound alike]
    dsimp only
    split
    · exact .plain alike (.ok rfl)
    · exact .plain alike (.error _)

theorem topicNamesParallel (alike : s.context.Alike ρ s'.context) (h : Handle .node) :
    ParallelOutcome ρ (fun _ _ => True) s.context s'.context (s.topicNamesAndTypes h) (s'.topicNamesAndTypes h) :=
  .plain alike ((nodeTied alike h).map fun _ _ _ => trivial)

theorem countParallel (side : Side) (topic : String) (alike : s.context.Alike ρ s'.context) (h : Handle .node) :
    ParallelOutcome ρ (fun _ _ => True) s.context s'.context (s.countEndpoints side topic h)
      (s'.countEndpoints side topic h) :=
  .plain alike ((nodeTied alike h).map fun _ _ _ => trivial)

/-! ### Publishers and subscriptions -/

theorem publisherGidParallel (alike : s.context.Alike ρ s'.context) (h : Handle .publisher) :
    ParallelOutcome ρ (fun _ _ => True) s.context s'.context (s.publisherGid h) (s'.publisherGid h) :=
  .plain alike ((alike.publishers.get h).map fun _ _ _ => trivial)

theorem compareGidsParallel (g g' : Gid) (alike : s.context.Alike ρ s'.context) :
    ParallelOutcome ρ Eq s.context s'.context (s.compareGids g g') (s'.compareGids g g') := by
  unfold compareGids
  cases g.equal g' with
  | error f => exact .plain alike (.error f)
  | ok same => exact .plain alike (.ok rfl)

theorem releasedParallel {c c' : Context K} (alike : s.context.Alike ρ s'.context) (k : Handle .node)
    (release release' : NodeRecord → Bus) : ParallelOutcome ρ Eq c c'
      (match s.node k with
        | .error _ => (s, .ok ())
        | .ok n => ({ s with bus := release n, context := countEndpoint s.context k (· - 1) }, .ok ()))
      (match s'.node k with
        | .error _ => (s', .ok ())
        | .ok n => ({ s' with bus := release' n, context := countEndpoint s'.context k (· - 1) }, .ok ())) := by
  rcases (nodeTied alike k).opens with ⟨f, absent, absent'⟩ | ⟨n, n', got, got', _⟩
  · rw [absent, absent']
    exact .plain alike (.ok rfl)
  · rw [got, got']
    exact .plain (alike.count k (· - 1)) (.ok rfl)

theorem destroyPublisherParallel (alike : s.context.Alike ρ s'.context) (h : Option (Handle .publisher)) :
    ParallelOutcome ρ Eq s.context s'.context (s.destroyPublisher h) (s'.destroyPublisher h) := by
  unfold destroyPublisher
  cases Handle.require h with
  | error f => exact .plain alike (.error f)
  | ok h =>
    dsimp only
    rcases (alike.publishers.remove h).opens with
      ⟨f, gone, gone'⟩ | ⟨x, x', removed, removed', related, publishers⟩
    · rw [gone, gone']
      exact .plain alike (.error f)
    · rw [removed, removed']
      dsimp only
      rw [related.node]
      have rest : Context.Alike ρ { s.context with publishers := x.2 } { s'.context with publishers := x'.2 } :=
        { alike with publishers := publishers }
      exact releasedParallel rest x.1.node _ _

theorem destroySubscriptionParallel (alike : s.context.Alike ρ s'.context) (h : Option (Handle .subscription)) :
    ParallelOutcome ρ Eq s.context s'.context (s.destroySubscription h) (s'.destroySubscription h) := by
  unfold destroySubscription
  cases Handle.require h with
  | error f => exact .plain alike (.error f)
  | ok h =>
    dsimp only
    rcases (alike.subscriptions.remove h).opens with
      ⟨f, gone, gone'⟩ | ⟨x, x', removed, removed', related, subscriptions⟩
    · rw [gone, gone']
      exact .plain alike (.error f)
    · rw [removed, removed']
      dsimp only
      rw [related.node]
      have rest : Context.Alike ρ { s.context with subscriptions := x.2 } { s'.context with subscriptions := x'.2 } :=
        { alike with subscriptions := subscriptions }
      exact releasedParallel rest x.1.node _ _

end Site
end Databus.Middleware
