import Databus.Proofs.ParallelSites
import Databus.Proofs.NodeBindings

/-! Two runs of which one may have had a type registered and a topic bound that the other has not. A creation that asks
for nothing of this otherwise than it was left is granted or refused in both alike, and the runs drift no further. -/
namespace Databus

/-- The types registered and the topics bound at one participant, beyond those of another. -/
structure BindingDrift where
  types : String → Prop
  topics : String → String → Prop

namespace Bindings

def drift (d d' : Bindings) : BindingDrift where
  types type := d.knows type = false ∧ d'.knows type = true
  topics name type := d.bound name = none ∧ d'.bound name = some type

theorem driftTypes (d : Bindings) (type : String) : ¬ (d.drift d).types type := fun drifted => by
  cases drifted.1.symm.trans drifted.2

theorem driftTopics (d : Bindings) (name type : String) : ¬ (d.drift d).topics name type := fun drifted => by
  cases drifted.1.symm.trans drifted.2

structure Within (δ : BindingDrift) (d d' : Bindings) : Prop where
  known : ∀ type, d.knows type = true → d'.knows type = true
  extra : ∀ type, d'.knows type = true → d.knows type = true ∨ δ.types type
  bound : ∀ name, d'.bound name = d.bound name ∨
    d.bound name = none ∧ ∃ type, d'.bound name = some type ∧ δ.topics name type

theorem Within.refl (δ : BindingDrift) (d : Bindings) : Within δ d d := ⟨fun _ => id, fun _ => .inl, fun _ => .inl rfl⟩

theorem driftWithin {d d' : Bindings} (known : ∀ type, d.knows type = true → d'.knows type = true)
    (bound : ∀ name, d'.bound name = d.bound name ∨ d.bound name = none) : Within (d.drift d') d d' := by
  refine ⟨known, fun type knows => ?_, fun name => ?_⟩
  · cases before : d.knows type with
    | true => exact .inl rfl
    | false => exact .inr ⟨before, knows⟩
  · rcases bound name with same | none
    · exact .inl same
    · cases after : d'.bound name with
      | none => exact .inl none.symm
      | some type => exact .inr ⟨none, type, rfl, none, after⟩

theorem Within.drifted {δ : BindingDrift} {d d' : Bindings} (h : Within δ d d') :
    (∀ type, (d.drift d').types type → δ.types type) ∧
      ∀ name type, (d.drift d').topics name type → δ.topics name type := by
  constructor
  · rintro type ⟨before, after⟩
    refine (h.extra type after).resolve_left fun known => ?_
    cases before.symm.trans known
  · rintro name type ⟨before, after⟩
    rcases h.bound name with same | ⟨_, type', there, drifted⟩
    · cases (before.symm.trans same.symm).trans after
    · cases Option.some.inj (there.symm.trans after)
      exact drifted

theorem Within.tight {δ : BindingDrift} {d d' : Bindings} (h : Within δ d d') : Within (d.drift d') d d' :=
  driftWithin h.known fun name => (h.bound name).imp_right And.left

theorem Within.loosen {δ δ' : BindingDrift} {d d' : Bindings} (h : Within δ d d')
    (types : ∀ type, δ.types type → δ'.types type)
    (topics : ∀ name type, δ.topics name type → δ'.topics name type) : Within δ' d d' := by
  refine ⟨h.known, fun type knows => (h.extra type knows).imp_right (types type), fun name => ?_⟩
  rcases h.bound name with same | ⟨none, type, there, drifted⟩
  · exact .inl same
  · exact .inr ⟨none, type, there, topics name type drifted⟩

end Bindings

namespace Middleware

variable {K : Type} {δ : BindingDrift} {d d' : Bindings} {ts : TypeSupport K} {topic : String}

structure TypeSupport.MatchesDrift (ts : TypeSupport K) (topic : String) (δ : BindingDrift) : Prop where
  types : δ.types ts.type → ts.registers = true
  topics : ∀ type, δ.topics topic type → type = ts.type

namespace TypeSupport

open Bindings (Within)

theorem enrolledBound (ts : TypeSupport K) (d : Bindings) : (ts.enrolled d).bound = d.bound := by
  unfold enrolled
  split <;> rfl

theorem withinEnrolled (h : Within δ d d') (ts : TypeSupport K) : Within δ (ts.enrolled d) (ts.enrolled d') := by
  unfold enrolled
  split
  · refine ⟨fun type knows => ?_, fun type knows => ?_, h.bound⟩
    · rw [Bindings.register, Bool.or_eq_true] at knows ⊢
      exact knows.imp_left (h.known type)
    · rw [Bindings.register, Bool.or_eq_true] at knows ⊢
      rcases knows with old | own
      · exact (h.extra type old).imp_left .inl
      · exact .inl (.inr own)
  · exact h

theorem withinFault (h : Within δ d d') (matchesDrift : ts.MatchesDrift topic δ) :
    (ts.enrolled d').fault? topic ts.type = (ts.enrolled d).fault? topic ts.type := by
  have knows : (ts.enrolled d').knows ts.type = (ts.enrolled d).knows ts.type := by
    unfold enrolled
    split
    · simp only [Bindings.register, decide_true, Bool.or_true]
    · rename_i silent
      refine Bool.eq_iff_iff.2 ⟨fun knows => ?_, h.known _⟩
      exact (h.extra _ knows).resolve_right fun drifted => silent (matchesDrift.types drifted)
  unfold Bindings.fault?
  rw [knows, enrolledBound, enrolledBound]
  split
  · rcases h.bound topic with same | ⟨none, type, some, drifted⟩
    · rw [same]
    · rw [none, some, matchesDrift.topics type drifted]
      exact if_pos rfl
  · rfl

theorem withinAsked (h : Within δ d d') (matchesDrift : ts.MatchesDrift topic δ) :
    Within δ (ts.asked topic d) (ts.asked topic d') := by
  have enrolled := withinEnrolled h ts
  unfold asked Bindings.settle
  rw [withinFault h matchesDrift]
  cases (ts.enrolled d).fault? topic ts.type with
  | some f => exact enrolled
  | none =>
    refine ⟨enrolled.known, enrolled.extra, fun name => ?_⟩
    simp only [Bindings.bind]
    split
    · exact .inl rfl
    · exact enrolled.bound name

theorem askedWithin (ts : TypeSupport K) (topic : String) (d : Bindings) :
    Within (d.drift (ts.asked topic d)) d (ts.asked topic d) := by
  have knows : ∀ type, d.knows type = true → (ts.enrolled d).knows type = true := fun type knows => by
    unfold enrolled
    split
    · simp only [Bindings.register, knows, Bool.true_or]
    · exact knows
  unfold asked Bindings.settle
  cases fault : (ts.enrolled d).fault? topic ts.type with
  | some f => exact Bindings.driftWithin knows fun name => .inl (congrFun (ts.enrolledBound d) name)
  | none =>
    refine Bindings.driftWithin knows fun name => ?_
    simp only [Bindings.bind]
    split
    · rename_i own
      subst own
      unfold Bindings.fault? at fault
      rw [enrolledBound] at fault
      cases there : d.bound name with
      | none => exact .inr rfl
      | some type =>
        rw [there] at fault
        grind
    · exact .inl (congrFun (ts.enrolledBound d) name)

theorem askedTypes {type : String} (drifted : (d.drift (ts.asked topic d)).types type) :
    type = ts.type ∧ ts.registers = true := by
  obtain ⟨before, after⟩ := drifted
  have enrolled : (ts.enrolled d).knows type = true := by
    unfold asked Bindings.settle at after
    split at after <;> exact after
  unfold TypeSupport.enrolled at enrolled
  split at enrolled
  · rename_i registers
    simp only [Bindings.register, before, Bool.false_or, decide_eq_true_eq] at enrolled
    exact ⟨enrolled, registers⟩
  · cases before.symm.trans enrolled

theorem askedTopics {name type : String} (drifted : (d.drift (ts.asked topic d)).topics name type) :
    name = topic ∧ type = ts.type := by
  obtain ⟨before, after⟩ := drifted
  have old : (ts.enrolled d).bound name = none := enrolledBound ts d ▸ before
  unfold asked Bindings.settle at after
  split at after
  · cases old.symm.trans after
  · simp only [Bindings.bind] at after
    split at after
    · rename_i own
      exact ⟨own, (Option.some.inj after).symm⟩
    · cases old.symm.trans after

end TypeSupport

/-! ### Creations -/

namespace Site

variable {ρ : Pairing} {s s' : Site K} {node : Handle .node}

theorem prepareTied (alike : s.context.Alike ρ s'.context)
    (there : ∀ n, s.context.nodes.find? node = some n → ∃ x, s.bus.participants.get? n.participant = some x)
    (there' : ∀ n, s'.context.nodes.find? node = some n → ∃ x, s'.bus.participants.get? n.participant = some x)
    (within : ∀ n n', s.context.nodes.find? node = some n → s'.context.nodes.find? node = some n' →
      (Bindings.of s.bus n.participant).Within δ (Bindings.of s'.bus n'.participant))
    (matchesDrift : ts.MatchesDrift topic δ) :
    Tied (fun _ _ => True) (s.prepare node ts topic).2 (s'.prepare node ts topic).2 := by
  rcases prepareAsks s node ts topic with ⟨f, why, prepared⟩ | ⟨n, checked, found, prepared⟩
  · rcases prepareAsks s' node ts topic with ⟨f', why', prepared'⟩ | ⟨n', checked', found', prepared'⟩
    · rw [prepared, prepared']
      have same : f' = f := by
        rcases why with refused | ⟨checked, gone⟩ <;> rcases why' with refused' | ⟨checked', gone'⟩
        · exact Except.error.inj (refused'.symm.trans refused)
        · cases checked'.symm.trans refused
        · cases checked.symm.trans refused'
        · rcases (nodeTied alike node).opens with ⟨g, failed, failed'⟩ | ⟨_, _, got, _⟩
          · rw [Except.error.inj (gone'.symm.trans failed'), Except.error.inj (gone.symm.trans failed)]
          · cases gone.symm.trans got
      rw [same]
      exact .error f
    · rcases why with refused | ⟨_, gone⟩
      · cases checked'.symm.trans refused
      · rcases (nodeTied alike node).opens with ⟨_, _, failed'⟩ | ⟨_, _, got, _⟩
        · cases failed'.symm.trans (Arena.getExact.2 found')
        · cases gone.symm.trans got
  · obtain ⟨n', found', _⟩ := alike.nodes.found found
    rcases prepareAsks s' node ts topic with ⟨f', why', _⟩ | ⟨n'', _, found'', prepared'⟩
    · rcases why' with refused' | ⟨_, gone'⟩
      · cases checked.symm.trans refused'
      · cases gone'.symm.trans (Arena.getExact.2 found')
    · cases Option.some.inj (found'.symm.trans found'')
      obtain ⟨x, present⟩ := there n found
      obtain ⟨x', present'⟩ := there' n' found'
      have named := checkedNamed checked
      have refused := (bindTopicBindings present ts named).1
      have refused' := (bindTopicBindings present' ts named).1
      rw [TypeSupport.withinFault (within n n' found found') matchesDrift, ← refused] at refused'
      rw [prepared, prepared']
      cases bound : (bindTopic s.bus n.participant ts topic).2 with
      | error f =>
        rw [bound] at refused'
        rw [System.refusedExact.1 refused']
        exact .error f
      | ok t =>
        rw [bound] at refused'
        cases bound' : (bindTopic s'.bus n'.participant ts topic).2 with
        | error f =>
          rw [bound'] at refused'
          cases refused'
        | ok t' => exact .ok trivial

def Present (s : Site K) (node : Handle .node) (ts : TypeSupport K) (topic : String) : Prop :=
  ∀ p t, (s.prepare node ts topic).2 = .ok (p, t) → ∃ x, (s.prepare node ts topic).1.bus.participants.get? p = some x

theorem createdTied (alike : s.context.Alike ρ s'.context) (present : s.Present node ts topic)
    (present' : s'.Present node ts topic)
    (prepared : Tied (fun _ _ => True) (s.prepare node ts topic).2 (s'.prepare node ts topic).2) (side : Side)
    (history : History) : ∃ a a' : Site K, a.context = s.context ∧ a'.context = s'.context ∧
      a.context.Alike ρ a'.context ∧
      ((∃ f, s.prepare node ts topic = (a, .error f) ∧ s'.prepare node ts topic = (a', .error f)) ∨
        ∃ p t p' t', s.prepare node ts topic = (a, .ok (p, t)) ∧ s'.prepare node ts topic = (a', .ok (p', t')) ∧
          openEndpoint a.bus p t history side =
            (a.bus.putUp side p t history, .ok (a.bus.nextHandle, a.bus.nextHandle + 1)) ∧
          openEndpoint a'.bus p' t' history side =
            (a'.bus.putUp side p' t' history, .ok (a'.bus.nextHandle, a'.bus.nextHandle + 1))) := by
  have context := prepareContext s node ts topic
  have context' := prepareContext s' node ts topic
  unfold Present at present present'
  generalize s.prepare node ts topic = x at context present prepared ⊢
  generalize s'.prepare node ts topic = x' at context' present' prepared ⊢
  obtain ⟨a, e⟩ := x
  obtain ⟨a', e'⟩ := x'
  have kept : a.context.Alike ρ a'.context := by
    rw [context, context']
    exact alike
  refine ⟨a, a', context, context', kept, ?_⟩
  rcases prepared.opens with ⟨f, rfl, rfl⟩ | ⟨⟨p, t⟩, ⟨p', t'⟩, rfl, rfl, _⟩
  · exact .inl ⟨f, rfl, rfl⟩
  · obtain ⟨x, there⟩ := present p t rfl
    obtain ⟨x', there'⟩ := present' p' t' rfl
    have opened := (openEndpointOpens a.bus p t history side).resolve_left fun absent =>
      nomatch absent.1.symm.trans there
    have opened' := (openEndpointOpens a'.bus p' t' history side).resolve_left fun absent =>
      nomatch absent.1.symm.trans there'
    exact .inr ⟨p, t, p', t', rfl, rfl, opened.2, opened'.2⟩

theorem createPublisherParallel (alike : s.context.Alike ρ s'.context) (present : s.Present node ts topic)
    (present' : s'.Present node ts topic)
    (prepared : Tied (fun _ _ => True) (s.prepare node ts topic).2 (s'.prepare node ts topic).2) :
    ParallelOutcome ρ Eq s.context s'.context (s.createPublisher node ts topic) (s'.createPublisher node ts topic) := by
  unfold createPublisher
  obtain ⟨a, a', _, _, alike', ⟨f, refused, refused'⟩ | ⟨p, t, p', t', made, made', opened, opened'⟩⟩ :=
    createdTied alike present present' prepared .publication .standard
  · rw [refused, refused']
    exact .plain alike' (.error f)
  · rw [made, made']
    simp only [openEndpoint] at opened opened' ⊢
    rw [opened, opened']
    dsimp only
    have new : PublisherRecord.Alike ⟨node, ts, t, a.bus.nextHandle, a.bus.nextHandle + 1⟩
        ⟨node, ts, t', a'.bus.nextHandle, a'.bus.nextHandle + 1⟩ := ⟨rfl, rfl⟩
    rcases (alike'.publishers.insert new).opens with
      ⟨f, full, full'⟩ | ⟨⟨h, publishers⟩, ⟨h', publishers'⟩, inserted, inserted', same, entered⟩
    · rw [full, full']
      exact .plain alike' (.error f)
    · cases same
      rw [inserted, inserted']
      have counted : Context.Alike ρ { a.context with publishers := publishers }
          { a'.context with publishers := publishers' } := { alike' with publishers := entered }
      exact .plain (counted.count node (· + 1)) (.ok rfl)

theorem createSubscriptionParallel (sound : s.context.Sound) (sound' : s'.context.Sound)
    (alike : s.context.Alike ρ s'.context) (present : s.Present node ts topic) (present' : s'.Present node ts topic)
    (prepared : Tied (fun _ _ => True) (s.prepare node ts topic).2 (s'.prepare node ts topic).2) (size : Nat) :
    ParallelOutcome ρ Eq s.context s'.context (s.createSubscription node ts topic size)
      (s'.createSubscription node ts topic size) := by
  unfold createSubscription
  obtain ⟨a, a', context, context', alike', ⟨f, refused, refused'⟩ | ⟨p, t, p', t', made, made', opened, opened'⟩⟩ :=
    createdTied alike present present' prepared .subscription (queueHistory size)
  · rw [refused, refused']
    exact .plain alike' (.error f)
  · rw [← context] at sound ⊢
    rw [← context'] at sound' ⊢
    rw [made, made']
    simp only [openEndpoint] at opened opened' ⊢
    rw [opened, opened']
    dsimp only
    generalize made : conditionOf (a.bus.putUp .subscription p t (queueHistory size)) (a.bus.nextHandle + 1) = k
    generalize made' : conditionOf (a'.bus.putUp .subscription p' t' (queueHistory size)) (a'.bus.nextHandle + 1) = k'
    have wide := alike'.weaken (σ := ρ.joined k k') fun _ _ => .inl
    have new : SubscriptionRecord.Alike (ρ.joined k k') ⟨node, ts, t, a.bus.nextHandle, a.bus.nextHandle + 1, k⟩
        ⟨node, ts, t', a'.bus.nextHandle, a'.bus.nextHandle + 1, k'⟩ := ⟨rfl, rfl, .inr ⟨rfl, rfl⟩⟩
    rcases (wide.subscriptions.insert new).opens with
      ⟨f, full, full'⟩ | ⟨⟨h, subscriptions⟩, ⟨h', subscriptions'⟩, inserted, inserted', same, entered⟩
    · rw [full, full']
      exact .plain alike' (.error f)
    · cases same
      rw [inserted, inserted']
      have counted : Context.Alike (ρ.joined k k') { a.context with subscriptions := subscriptions }
          { a'.context with subscriptions := subscriptions' } := { wide with subscriptions := entered }
      obtain ⟨_, _, vacant, find⟩ := Arena.insertFind sound.subscriptions inserted
      obtain ⟨_, _, vacant', find'⟩ := Arena.insertFind sound'.subscriptions inserted'
      refine ⟨⟨_, .joined (i := .subscription h) ?_ ?_ ?_ ?_, counted.count node (· + 1)⟩, .ok rfl⟩
      · rw [Context.condition?, vacant, Option.map_none]
      · rw [Context.condition?, vacant', Option.map_none]
      · simp only [Context.condition?, countEndpoint, find, if_true, Option.map_some]
      · simp only [Context.condition?, countEndpoint, find', if_true, Option.map_some]

end Site
end Middleware
end Databus
