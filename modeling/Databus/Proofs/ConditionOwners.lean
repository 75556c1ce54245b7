import Databus.Proofs.GuardRaising
import Databus.Proofs.RecordLinks

/-! Which condition belongs to which resource: every live subscription and every live guard has one of its own, and what
a call makes gets a condition that nobody had before. -/
namespace Databus

namespace Bus

def HasOwner (b : Bus) (k : ConditionId) : Prop :=
  (∃ r x, b.readers.get? r = some x ∧ x.condition = k) ∨ b.IsGuard k

theorem Evolves.hasOwner {b b' : Bus} (evolves : b.Evolves b') {k : ConditionId} (hasOwner : b.HasOwner k) :
    b'.HasOwner k := by
  rcases hasOwner with ⟨r, x, found, rfl⟩ | ⟨raised, there⟩
  · obtain ⟨y, found', same⟩ := evolves.readers r x found
    exact .inl ⟨r, y, found', same⟩
  · obtain ⟨t, there', tends⟩ := evolves.triggers k _ there
    obtain ⟨now, rfl⟩ := tends.guard
    exact .inr ⟨now, there'⟩

theorem StatusesAgree.hasOwnerKnown {b : Bus} (statusesAgree : b.StatusesAgree) {k : ConditionId}
    (hasOwner : b.HasOwner k) :
    ∃ t, b.trigger? k = some t := by
  rcases hasOwner with ⟨r, x, found, rfl⟩ | ⟨raised, there⟩
  · obtain ⟨t, there, _⟩ := statusesAgree.shown r x found
    exact ⟨t, there⟩
  · exact ⟨_, there⟩

theorem StatusesAgree.noGuard {b : Bus} (statusesAgree : b.StatusesAgree) {r : InstanceHandle} {x : Reader}
    (found : b.readers.get? r = some x) : ¬ b.IsGuard x.condition := fun ⟨raised, guard⟩ => by
  obtain ⟨t, there, shown⟩ := statusesAgree.shown r x found
  cases Option.some.inj (there.symm.trans guard)
  cases shown

end Bus

namespace Middleware

variable {K : Type}

inductive Resource
  | subscription (h : Handle .subscription)
  | guard (h : Handle .guardCondition)
  deriving DecidableEq, Repr

namespace Context

def condition? (c : Context K) : Resource → Option ConditionId
  | .subscription h => (c.subscriptions.find? h).map (·.condition)
  | .guard h => (c.guards.find? h).map (·.condition)

end Context

namespace System

def condition? (s : System K) (ctx : ContextId) (i : Resource) : Option ConditionId :=
  (s.contexts.get? ctx).bind (·.condition? i)

end System

/-! ### New guards -/

namespace Site

def Mints (s s' : Site K) : Prop := ∃ new : Option (Handle .guardCondition), ∀ h g,
  s'.context.guards.find? h = some g →
    s.context.guards.find? h = some g ∨ some h = new ∧ s.bus.trigger? g.condition = none

variable {s s' : Site K}

theorem mintsOld (old : ∀ h g, s'.context.guards.find? h = some g → s.context.guards.find? h = some g) :
    s.Mints s' := ⟨none, fun h g found => .inl (old h g found)⟩

theorem mintsSame (same : s'.context.guards = s.context.guards) : s.Mints s' :=
  mintsOld fun _ _ found => same ▸ found

theorem joinNodeMints {b b' : Bus} {name : String} {domain : DomainId} {n : NodeRecord}
    (statusesAgree : b.StatusesAgree) (ok : joinNode b name domain = .ok (n, b')) : b.trigger? n.guard = none := by
  obtain ⟨_, _, _, watch, _⟩ := joinNodeOpens ok
  obtain ⟨statusesAgree', evolves⟩ := Bus.requestLeads b (.join domain) statusesAgree
  have guard : n.guard = (b.request (.join domain)).nextCondition := congrArg NodeWatch.guard watch
  refine Option.eq_none_iff_forall_ne_some.2 fun t there => ?_
  obtain ⟨t', there', _⟩ := evolves.triggers _ t there
  exact Nat.ne_of_lt (statusesAgree'.conditions _ t' there') guard

theorem createNodeMints (sound : s.context.Sound) (statusesAgree : s.bus.StatusesAgree) (name : String) :
    s.Mints (s.createNode name).1 := by
  unfold createNode
  split
  · exact mintsSame rfl
  · split
    · exact mintsSame rfl
    · rename_i n b joined
      split
      · exact mintsSame rfl
      · split
        · rename_i g guards guarded
          obtain ⟨_, _, _, find⟩ := Arena.insertFind sound.guards guarded
          refine ⟨some g, fun h' g' found => ?_⟩
          rw [find] at found
          split at found
          · rename_i own
            cases Option.some.inj found
            exact .inr ⟨congrArg some own, joinNodeMints statusesAgree joined⟩
          · exact .inl found
        · exact mintsSame rfl

theorem createGuardMints (sound : s.context.Sound) (statusesAgree : s.bus.StatusesAgree) : s.Mints s.createGuard.1 := by
  unfold createGuard
  dsimp only
  split
  · exact mintsSame rfl
  · rename_i h guards inserted
    obtain ⟨_, _, _, find⟩ := Arena.insertFind sound.guards inserted
    refine ⟨some h, fun h' g' found => ?_⟩
    rw [find] at found
    split at found
    · rename_i own
      cases Option.some.inj found
      refine .inr ⟨congrArg some own, Option.eq_none_iff_forall_ne_some.2 fun t there => ?_⟩
      exact Nat.lt_irrefl _ (statusesAgree.conditions _ t there)
    · exact .inl found

theorem destroyNodeMints (sound : s.context.Sound) (h : Option (Handle .node)) :
    s.Mints (s.destroyNode h).1 := by
  unfold destroyNode
  split
  · exact mintsSame rfl
  · split
    · exact mintsSame rfl
    · split
      · exact mintsSame rfl
      · split
        · exact mintsSame rfl
        · exact mintsOld fun _ _ found => removeGraphGuardGuards sound _ found

theorem destroyGuardMints (sound : s.context.Sound) (h : Option (Handle .guardCondition)) :
    s.Mints (s.destroyGuard h).1 := by
  unfold destroyGuard
  split
  · exact mintsSame rfl
  · split
    · exact mintsSame rfl
    · exact mintsSame rfl
    · split
      · exact mintsSame rfl
      · exact mintsOld fun _ _ found => removedGuards sound.guards ‹_› found

theorem triggerGuardMints (h : Handle .guardCondition) : s.Mints (s.triggerGuard h).1 := by
  unfold triggerGuard
  split <;> exact mintsSame rfl

theorem createSubscriptionGuards (s : Site K) (node : Handle .node) (ts : TypeSupport K) (topic : String)
    (size : Nat) : (s.createSubscription node ts topic size).1.context.guards = s.context.guards := by
  have guards := congrArg Context.guards (prepareContext s node ts topic)
  unfold createSubscription
  split <;> rename_i prepared <;> rw [prepared] at guards
  · exact guards
  · split
    · exact guards
    · dsimp only
      split <;> exact guards

theorem destroyPublisherMints (h : Option (Handle .publisher)) : s.Mints (s.destroyPublisher h).1 := by
  unfold destroyPublisher
  split
  · exact mintsSame rfl
  · split
    · exact mintsSame rfl
    · dsimp only
      split <;> exact mintsSame rfl

theorem destroySubscriptionMints (h : Option (Handle .subscription)) :
    s.Mints (s.destroySubscription h).1 := by
  unfold destroySubscription
  split
  · exact mintsSame rfl
  · split
    · exact mintsSame rfl
    · dsimp only
      split <;> exact mintsSame rfl

theorem publishMints [Catalog K] [DecidableEq K] (h : Handle .publisher) (m : Message K) :
    s.Mints (s.publish h m).1 := by
  unfold publish
  split
  · exact mintsSame rfl
  · split <;> exact mintsSame rfl

theorem takeMints [Catalog K] [DecidableEq K] (h : Handle .subscription) (slot : Option K) :
    s.Mints (s.take h slot).1 := by
  unfold take
  split <;> exact mintsSame rfl

end Site

namespace System

variable {s s' : System K}

def guard? (s : System K) (ctx : ContextId) (h : Handle .guardCondition) : Option GuardRecord :=
  (s.contexts.get? ctx).bind (·.guards.find? h)

def Mints (s s' : System K) : Prop := ∃ new : Option (ContextId × Handle .guardCondition), ∀ ctx h g,
  s'.guard? ctx h = some g → s.guard? ctx h = some g ∨ some (ctx, h) = new ∧ s.bus.trigger? g.condition = none

theorem mintsKept (same : s'.contexts = s.contexts) : s.Mints s' :=
  ⟨none, fun _ _ _ found => .inl (by rwa [guard?, same] at found)⟩

theorem performMints {α : Type} (sound : s.Sound) (statusesAgree : s.bus.StatusesAgree) (ctx : ContextId)
    (operation : String) {call : Site K → Site K × Except Failure α}
    (mints : ∀ site : Site K, site.context.Sound → site.bus.StatusesAgree → site.Mints (call site).1) :
    s.Mints (s.perform ctx operation call).1 := by
  rcases performSplit s ctx operation call with ⟨_, _, contexts, _⟩ | ⟨c, known, _, contexts, _⟩
  · exact mintsKept contexts
  · obtain ⟨new, old⟩ := mints ⟨s.bus, s.observed, c⟩ (sound.tables ctx c known) statusesAgree
    refine ⟨new.map (ctx, ·), fun ctx' h g found => ?_⟩
    rw [guard?, contexts, Table.getInsert] at found
    split at found
    · rename_i own
      subst own
      refine (old h g found).imp (fun before => ?_) fun ⟨here, fresh⟩ => ⟨?_, fresh⟩
      · rw [guard?, known]
        exact before
      · rw [← here]
        rfl
    · exact .inl found

variable [Catalog K] [DecidableEq K]

theorem serveMints (sound : s.Sound) (statusesAgree : s.bus.StatusesAgree) (call : Call K) :
    s.Mints (s.serve call) := by
  cases call with
  | init settings =>
    simp only [serve, init]
    split
    · exact mintsKept rfl
    · refine ⟨none, fun ctx h g found => .inl ?_⟩
      rw [guard?, Table.getInsert] at found
      split at found
      · have bare : Arena.find? ({ context := s.nextContext, capacity := settings.maxHandles } :
            Arena .guardCondition GuardRecord) h = none := Arena.findNone fun _ _ there => by simp at there
        cases bare.symm.trans found
      · exact found
  | close ctx =>
    simp only [serve, close]
    split
    · exact mintsKept rfl
    · refine ⟨none, fun ctx' h g found => .inl ?_⟩
      rw [guard?, Table.getErase] at found
      split at found
      · cases found
      · exact found
  | createNode ctx name =>
    exact performMints sound statusesAgree ctx _ fun _ tables statusesAgree =>
      Site.createNodeMints tables statusesAgree name
  | destroyNode ctx k => exact performMints sound statusesAgree ctx _ fun _ tables _ => Site.destroyNodeMints tables k
  | graphGuard ctx node =>
    refine performMints sound statusesAgree ctx _ fun site _ _ => ?_
    rw [Site.graphGuardSame]
    exact Site.mintsSame rfl
  | topicNamesAndTypes | countPublishers | countSubscribers | publisherGid | compareGids =>
    exact performMints sound statusesAgree _ _ fun _ _ _ => Site.mintsSame rfl
  | createGuard ctx =>
    exact performMints sound statusesAgree ctx _ fun _ tables statusesAgree =>
      Site.createGuardMints tables statusesAgree
  | triggerGuard ctx k => exact performMints sound statusesAgree ctx _ fun _ _ _ => Site.triggerGuardMints k
  | destroyGuard ctx k => exact performMints sound statusesAgree ctx _ fun _ tables _ => Site.destroyGuardMints tables k
  | createPublisher ctx node ts topic =>
    exact performMints sound statusesAgree ctx _ fun site _ _ =>
      Site.mintsSame (site.createPublisherSame node ts topic).2
  | destroyPublisher ctx k => exact performMints sound statusesAgree ctx _ fun _ _ _ => Site.destroyPublisherMints k
  | createSubscription ctx node ts topic size =>
    exact performMints sound statusesAgree ctx _ fun site _ _ =>
      Site.mintsSame (site.createSubscriptionGuards node ts topic size)
  | destroySubscription ctx k =>
    exact performMints sound statusesAgree ctx _ fun _ _ _ => Site.destroySubscriptionMints k
  | publish ctx k m => exact performMints sound statusesAgree ctx _ fun _ _ _ => Site.publishMints k m
  | take ctx k slot => exact performMints sound statusesAgree ctx _ fun _ _ _ => Site.takeMints k slot
  | beginWait ctx clock timeout subscriptions guards =>
    exact performMints sound statusesAgree ctx _ fun site _ _ =>
      Site.mintsSame (congrArg Context.guards (site.beginWaitWaits clock timeout subscriptions guards).2)
  | turn t now => exact mintsKept (turnWaits s t now).2.1
  | endWait t expired => exact mintsKept rfl
  | setError text => exact mintsKept rfl
  | resetError => exact mintsKept rfl

end System

/-! ### New entries -/

inductive Issues (b b' : Bus) (d d' : Directory K) : Prop
  | none (old : ∀ ctx ref r, d'.entry ctx ref = some r → d.entry ctx ref = some r) : Issues b b' d d'
  | one {ctx : ContextId} {ref : EndpointRef} {r : EndpointEntry K} (vacant : d.entry ctx ref = none)
    (new : b.nextHandle ≤ r.endpoint) (made : r.endpoint < b'.nextHandle)
    (rest : ∀ ctx' ref' r', d'.entry ctx' ref' = some r' →
      (ctx' = ctx ∧ ref' = ref ∧ r' = r) ∨ d.entry ctx' ref' = some r') : Issues b b' d d'

theorem stepIssues {asked : TypeSupport K → String → Prop} {b b' : Bus} {t t' : Table ContextId (Context K)}
    (step : System.Step asked b t b' t') : Issues b b' (Directory.of t) (.of t') := by
  cases step with
  | idle waits => exact .none fun _ _ _ found => found
  | opened new sound bare unstaked =>
    rw [Directory.ofOpened new bare unstaked]
    exact .none fun _ _ _ found => found
  | closed known =>
    rw [Directory.ofErase]
    exact .none fun _ _ _ found => (Directory.shutEntry.1 found).2
  | @acted ctx c observed s' known siteStep =>
    have same {c' : Context K} {b' : Bus} (same : c.SameTables c') :
        Issues b b' (Directory.of t) (.of (t.insert ctx c')) :=
      Directory.ofSame known same ▸ .none fun _ _ _ found => found
    cases siteStep with
    | aside how =>
      cases how with
      | quiet calm kept sound => exact same kept
      | addsNode how =>
        cases how with
        | refused => exact same (.refl c)
        | full joined sound kept => exact same kept
        | nodeAdded joined sound addsNode => exact Directory.ofAddsNode known addsNode ▸ .none fun _ _ _ found => found
      | removesNode how =>
        cases how with
        | refused => exact same (.refl c)
        | parted idle sound removesNode =>
          exact Directory.ofRemovesNode known removesNode ▸ .none fun _ _ _ found => found
    | grants asked how =>
      cases how with
      | @granted n b₁ t₁ x ref c' _ binds _ there _ _ enters =>
        have vacant := ((Directory.ofKnown known).2.2 ref).trans enters.fresh
        have grown : b.nextHandle ≤ b₁.nextHandle := binds ▸ Bus.handlesGrowRun b _
        rw [Directory.ofEnters known enters]
        refine .one vacant ?_ ?_ fun ctx' ref' r' => (Directory.enterEntry vacant).1
        · exact Nat.le_succ_of_le grown
        · rw [(Bus.putUpMakes _ there _ _).handle]
          exact Nat.lt_succ_self _
      | _ => exact same (.refl c)
    | releases how =>
      cases how with
      | refused => exact same (.refl c)
      | orphaned _ _ _ _ givesUp | released _ _ _ _ givesUp =>
        rw [Directory.ofGivesUp known givesUp]
        exact .none fun _ _ _ found => (Directory.giveUpEntry.1 found).2
    | writes | takes => exact same (.refl c)

theorem stepEntries {asked : TypeSupport K → String → Prop} {b b' : Bus} {t t' : Table ContextId (Context K)}
    (step : System.Step asked b t b' t') {ctx : ContextId} {ref : EndpointRef} {r : EndpointEntry K}
    (found : (Directory.of t').entry ctx ref = some r) :
    (Directory.of t).entry ctx ref = some r ∨ b.nextHandle ≤ r.endpoint := by
  cases stepIssues step with
  | none old => exact .inl (old ctx ref r found)
  | one vacant new made rest =>
    rcases rest ctx ref r found with ⟨_, _, rfl⟩ | old
    · exact .inr new
    · exact .inl old

section Resources

variable {s : System K} {ctx ctx' : ContextId} {k : ConditionId}

theorem System.conditionSubscription {h : Handle .subscription} :
    s.condition? ctx (.subscription h) = some k ↔
      ∃ c r, s.contexts.get? ctx = some c ∧ c.subscriptions.find? h = some r ∧ r.condition = k := by
  cases known : s.contexts.get? ctx <;> simp [condition?, known, Context.condition?]

theorem System.conditionGuard {h : Handle .guardCondition} :
    s.condition? ctx (.guard h) = some k ↔ ∃ g, s.guard? ctx h = some g ∧ g.condition = k := by
  cases known : s.contexts.get? ctx <;> simp [condition?, guard?, known, Context.condition?]

theorem ConditionsAgree.hasOwner (conditionsAgree : ConditionsAgree s.bus s.contexts) {i : Resource}
    (live : s.condition? ctx i = some k) :
    s.bus.HasOwner k := by
  cases i with
  | subscription h =>
    obtain ⟨c, r, known, found, rfl⟩ := System.conditionSubscription.1 live
    obtain ⟨x, reader, condition⟩ := conditionsAgree.subscriptions ctx c h r known found
    exact .inl ⟨r.reader, x, reader, condition⟩
  | guard h =>
    obtain ⟨g, found, rfl⟩ := System.conditionGuard.1 live
    obtain ⟨c, known, found⟩ := Option.bind_eq_some_iff.1 found
    exact .inr (conditionsAgree.guards ctx c h g known found)

def System.Distinct (s : System K) : Prop := ∀ ctx i ctx' i' k,
  s.condition? ctx i = some k → s.condition? ctx' i' = some k → ctx = ctx' ∧ i = i'

theorem subscriptionsApart (conditionsAgree : ConditionsAgree s.bus s.contexts) (linked : Linked s.bus (.of s.contexts))
    {h h' : Handle .subscription} (live : s.condition? ctx (.subscription h) = some k)
    (live' : s.condition? ctx' (.subscription h') = some k) : ctx = ctx' ∧ h = h' := by
  obtain ⟨c, r, known, found, rfl⟩ := System.conditionSubscription.1 live
  obtain ⟨c', r', known', found', same⟩ := System.conditionSubscription.1 live'
  obtain ⟨x, reader, condition⟩ := conditionsAgree.subscriptions ctx c h r known found
  obtain ⟨x', reader', condition'⟩ := conditionsAgree.subscriptions ctx' c' h' r' known' found'
  have endpoint := conditionsAgree.statusesAgree.apart _ x _ x' reader reader'
    (condition.trans (same.symm.trans condition'.symm))
  obtain ⟨own, ref⟩ := linked.sole _ _ _ _ _ _ (Directory.ofSubscription known found)
    (Directory.ofSubscription known' found') endpoint
  exact ⟨own, EndpointRef.subscription.inj ref⟩

theorem kindsApart (conditionsAgree : ConditionsAgree s.bus s.contexts) {h : Handle .subscription}
    {g : Handle .guardCondition}
    (live : s.condition? ctx (.subscription h) = some k) : s.condition? ctx' (.guard g) ≠ some k := by
  intro live'
  obtain ⟨c, r, known, found, rfl⟩ := System.conditionSubscription.1 live
  obtain ⟨x, reader, condition⟩ := conditionsAgree.subscriptions ctx c h r known found
  obtain ⟨record, found', same⟩ := System.conditionGuard.1 live'
  obtain ⟨c', known', found'⟩ := Option.bind_eq_some_iff.1 found'
  refine conditionsAgree.statusesAgree.noGuard reader ?_
  rw [condition, ← same]
  exact conditionsAgree.guards ctx' c' g record known' found'

variable [Catalog K] [DecidableEq K]

theorem serveConditions (sound : s.Sound) (conditionsAgree : ConditionsAgree s.bus s.contexts) (call : Call K)
    {i : Resource}
    (live : (s.serve call).condition? ctx i = some k) : s.condition? ctx i = some k ∨ ¬ s.bus.HasOwner k := by
  obtain ⟨conditionsAgree', evolves⟩ := conditionsAgree.serve sound call
  cases i with
  | guard h =>
    obtain ⟨_, mints⟩ := System.serveMints sound conditionsAgree.statusesAgree call
    obtain ⟨g, found, rfl⟩ := System.conditionGuard.1 live
    refine (mints ctx h g found).imp (fun old => System.conditionGuard.2 ⟨g, old, rfl⟩) fun ⟨_, fresh⟩ hasOwner => ?_
    obtain ⟨t, there⟩ := conditionsAgree.statusesAgree.hasOwnerKnown hasOwner
    cases fresh.symm.trans there
  | subscription h =>
    obtain ⟨c', r, known', found', rfl⟩ := System.conditionSubscription.1 live
    obtain ⟨x, reader, condition⟩ := conditionsAgree'.subscriptions ctx c' h r known' found'
    rcases stepEntries (System.serveSteps sound call).1 (Directory.ofSubscription known' found') with old | new
    · obtain ⟨c, known, old⟩ := Option.bind_eq_some_iff.1 old
      obtain ⟨r₀, found, same⟩ := Option.map_eq_some_iff.1 old
      have endpoint : r₀.reader = r.reader := congrArg EndpointEntry.endpoint same
      obtain ⟨x₀, reader₀, condition₀⟩ := conditionsAgree.subscriptions ctx c h r₀ known found
      obtain ⟨x₁, reader₁, condition₁⟩ := evolves.readers _ x₀ reader₀
      rw [endpoint, reader] at reader₁
      cases Option.some.inj reader₁
      exact .inl (System.conditionSubscription.2
        ⟨c, r₀, known, found, condition₀.symm.trans (condition₁.symm.trans condition)⟩)
    · -- whoever had the condition before has it still, but the reader is new
      refine .inr fun hasOwner => ?_
      rcases hasOwner with ⟨e, y, there, same⟩ | guard
      · obtain ⟨y', there', same'⟩ := evolves.readers e y there
        have own := conditionsAgree'.statusesAgree.apart e y' _ x there' reader
          (same'.trans (same.trans condition.symm))
        have older : r.reader < s.bus.nextHandle := own ▸ conditionsAgree.statusesAgree.handles e y there
        exact Nat.lt_irrefl _ (Nat.lt_of_lt_of_le older new)
      · rcases evolves.hasOwner (.inr guard) with ⟨e, y, there, same⟩ | guard'
        · obtain ⟨raised, before⟩ := guard
          obtain ⟨t, after, tends⟩ := evolves.triggers _ _ before
          obtain ⟨now, rfl⟩ := tends.guard
          exact conditionsAgree'.statusesAgree.noGuard there (same ▸ ⟨now, after⟩)
        · exact conditionsAgree'.statusesAgree.noGuard reader (condition ▸ guard')

theorem distinctServe (sound : s.Sound) (conditionsAgree : ConditionsAgree s.bus s.contexts)
    (linked : Linked s.bus (.of s.contexts)) (distinct : s.Distinct) (call : Call K) : (s.serve call).Distinct := by
  obtain ⟨conditionsAgree', _⟩ := conditionsAgree.serve sound call
  have linked' := linked.step (System.serveSteps sound call).1
  intro ctx i ctx' i' k live live'
  cases i with
  | subscription h =>
    cases i' with
    | subscription h' =>
      obtain ⟨own, same⟩ := subscriptionsApart conditionsAgree' linked' live live'
      exact ⟨own, congrArg _ same⟩
    | guard g => exact absurd live' (kindsApart conditionsAgree' live)
  | guard g =>
    cases i' with
    | subscription h => exact absurd live (kindsApart conditionsAgree' live')
    | guard g' =>
      obtain ⟨new, mints⟩ := System.serveMints sound conditionsAgree.statusesAgree call
      obtain ⟨record, found, rfl⟩ := System.conditionGuard.1 live
      obtain ⟨record', found', same⟩ := System.conditionGuard.1 live'
      have old {ctx h} {g : GuardRecord} (before : s.guard? ctx h = some g) :
          s.bus.trigger? g.condition ≠ none := fun none => by
        obtain ⟨t, there⟩ := conditionsAgree.statusesAgree.hasOwnerKnown
          (conditionsAgree.hasOwner (System.conditionGuard.2 ⟨g, before, rfl⟩))
        cases none.symm.trans there
      rcases mints ctx g record found with before | ⟨here, fresh⟩
      · rcases mints ctx' g' record' found' with before' | ⟨_, fresh'⟩
        · exact distinct ctx (.guard g) ctx' (.guard g') _ (System.conditionGuard.2 ⟨_, before, rfl⟩)
            (System.conditionGuard.2 ⟨_, before', same⟩)
        · exact absurd (same ▸ fresh') (old before)
      · rcases mints ctx' g' record' found' with before' | ⟨here', _⟩
        · exact absurd (same ▸ fresh) (old before')
        · cases here.trans here'.symm
          exact ⟨rfl, rfl⟩

end Resources
end Middleware
end Databus
