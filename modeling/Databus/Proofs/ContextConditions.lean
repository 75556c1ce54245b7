import Databus.Proofs.LedgerRefinement
import Databus.Proofs.ReaderConditions

/-! Conditions that contexts hold: that of a subscription is its reader's, and that of a guard is a guard. Every call
keeps them so, and while other calls run no condition changes hands. -/
namespace Databus.Middleware

open Bus (Leads Evolves StatusesAgree)

variable {K : Type}

namespace Site

def Issues (s s' : Site K) (g : GuardRecord) : Prop :=
  (∃ raised, s'.bus.trigger? g.condition = some (.guard raised)) ∧ ((∃ k, g.owner = .node k) ∨
    g.condition = s.bus.nextCondition ∧ s'.bus.listeners = s.bus.listeners)

structure KeepsConditions (s s' : Site K) : Prop where
  statusesAgree : s'.bus.StatusesAgree
  evolves : s.bus.Evolves s'.bus
  subscriptions : ∀ h r, s'.context.subscriptions.find? h = some r →
    s.context.subscriptions.find? h = some r ∨
      ∃ x, s'.bus.readers.get? r.reader = some x ∧ x.condition = r.condition
  guards : ∀ h g, s'.context.guards.find? h = some g → s.context.guards.find? h = some g ∨ s.Issues s' g

variable {s s' : Site K}

theorem KeepsConditions.same (statusesAgree : s.bus.StatusesAgree) (leads : s.bus.Leads s'.bus)
    (subscriptions : s'.context.subscriptions = s.context.subscriptions)
    (guards : s'.context.guards = s.context.guards) : s.KeepsConditions s' where
  statusesAgree := (leads statusesAgree).1
  evolves := (leads statusesAgree).2
  subscriptions _ _ found := .inl (subscriptions ▸ found)
  guards _ _ found := .inl (guards ▸ found)

/-! ### Nodes -/

theorem joinNodeLeads {b b' : Bus} {name : String} {domain : DomainId} {n : NodeRecord}
    (ok : joinNode b name domain = .ok (n, b')) : b.Leads b' := by
  obtain ⟨_, _, _, _, rfl⟩ := joinNodeOpens ok
  exact (Bus.requestLeads b _).trans (Bus.runLeads _ _)

theorem joinNodeGuard {b b' : Bus} {name : String} {domain : DomainId} {n : NodeRecord}
    (statusesAgree : b.StatusesAgree) (ok : joinNode b name domain = .ok (n, b')) :
    ∃ raised, b'.trigger? n.guard = some (.guard raised) := by
  obtain ⟨_, _, _, watch, rfl⟩ := joinNodeOpens ok
  have joined := (Bus.requestLeads b (.join domain) statusesAgree).1
  generalize b.request (.join domain) = b' at watch joined
  have guard : n.guard = b'.nextCondition := congrArg NodeWatch.guard watch
  have made : (b'.run [.newGraph, .newGuard]).trigger? n.guard = some (.guard false) :=
    (Bus.newGuardTriggers _ _).trans (if_pos guard)
  -- the listeners that follow leave the guard a guard
  have later : b'.run (equip n.watch (b.newMember domain)) =
      (b'.run [.newGraph, .newGuard]).run ((equip n.watch (b.newMember domain)).drop 2) :=
    Bus.runAppend b' [.newGraph, .newGuard] _
  obtain ⟨_, evolves⟩ := Bus.runLeads (b'.run [.newGraph, .newGuard])
    ((equip n.watch (b.newMember domain)).drop 2) (Bus.runLeads b' _ joined).1
  obtain ⟨t, there, tends⟩ := evolves.triggers _ _ made
  obtain ⟨raised, rfl⟩ := tends.guard
  rw [later]
  exact ⟨raised, there⟩

theorem leaveLeads (b : Bus) (p : InstanceHandle) : b.Leads (b.leave p) :=
  Bus.requestLeads b (.leave p)

theorem createNodeKeepsConditions (sound : s.context.Sound) (statusesAgree : s.bus.StatusesAgree) (name : String) :
    s.KeepsConditions (s.createNode name).1 := by
  unfold createNode
  split
  · exact .same statusesAgree (.refl _) rfl rfl
  · split
    · exact .same statusesAgree (.refl _) rfl rfl
    · rename_i n b joined
      have leads := joinNodeLeads joined
      split
      · exact .same statusesAgree (leads.trans (leaveLeads b n.participant)) rfl rfl
      · rename_i h nodes inserted
        split
        · rename_i g guards guarded
          obtain ⟨_, _, _, find⟩ := Arena.insertFind sound.guards guarded
          refine ⟨(leads statusesAgree).1, (leads statusesAgree).2, fun _ _ found => .inl found, fun h' g' found => ?_⟩
          rw [find] at found
          split at found
          · cases Option.some.inj found
            exact .inr ⟨joinNodeGuard statusesAgree joined, .inl ⟨h, rfl⟩⟩
          · exact .inl found
        · dsimp only
          rw [detachLeave]
          exact .same statusesAgree (leads.trans (leaveLeads b n.participant)) rfl rfl

theorem removedGuards {a a' : Arena .guardCondition GuardRecord} {k : Handle .guardCondition}
    {g : GuardRecord} (sound : a.Sound) (removed : a.remove k = .ok (g, a')) {h : Handle .guardCondition}
    {g' : GuardRecord} (found : a'.find? h = some g') : a.find? h = some g' := by
  obtain ⟨_, _, _, find⟩ := Arena.removeFind sound removed
  rw [find] at found
  split at found
  · cases found
  · exact found

theorem removeGraphGuardGuards (sound : s.context.Sound) (k : Handle .node) {h : Handle .guardCondition}
    {g : GuardRecord} (found : (s.removeGraphGuard k).guards.find? h = some g) :
    s.context.guards.find? h = some g := by
  unfold removeGraphGuard at found
  split at found
  · exact found
  · dsimp only at found
    split at found
    · exact removedGuards sound.guards ‹_› found
    · exact found

theorem destroyNodeKeepsConditions (sound : s.context.Sound) (statusesAgree : s.bus.StatusesAgree)
    (h : Option (Handle .node)) :
    s.KeepsConditions (s.destroyNode h).1 := by
  unfold destroyNode
  cases h with
  | none => exact .same statusesAgree (.refl _) rfl rfl
  | some k =>
    simp only [Handle.require]
    split
    · exact .same statusesAgree (.refl _) rfl rfl
    · rename_i n got
      split
      · exact .same statusesAgree (.refl _) rfl rfl
      · split
        · exact .same statusesAgree (.refl _) rfl rfl
        · dsimp only
          rw [detachLeave]
          obtain ⟨statusesAgree', evolves⟩ := leaveLeads s.bus n.participant statusesAgree
          have subscriptions := (removeGraphGuardSame sound k).2.2.2
          exact ⟨statusesAgree', evolves, fun _ _ found => .inl (subscriptions ▸ found),
            fun _ _ found => .inl (removeGraphGuardGuards sound k found)⟩

/-! ### Guards -/

theorem createGuardKeepsConditions (sound : s.context.Sound) (statusesAgree : s.bus.StatusesAgree) :
    s.KeepsConditions s.createGuard.1 := by
  have leads := Bus.newGuardLeads s.bus
  unfold createGuard
  dsimp only
  split
  · exact .same statusesAgree leads rfl rfl
  · rename_i h guards inserted
    obtain ⟨_, _, _, find⟩ := Arena.insertFind sound.guards inserted
    refine ⟨(leads statusesAgree).1, (leads statusesAgree).2, fun _ _ found => .inl found, fun h' g' found => ?_⟩
    rw [find] at found
    split at found
    · cases Option.some.inj found
      exact .inr ⟨⟨false, (Bus.newGuardTriggers ..).trans (if_pos rfl)⟩, .inr ⟨rfl, rfl⟩⟩
    · exact .inl found

theorem triggerGuardKeepsConditions (statusesAgree : s.bus.StatusesAgree) (h : Handle .guardCondition) :
    s.KeepsConditions (s.triggerGuard h).1 := by
  unfold triggerGuard
  split
  · exact .same statusesAgree (.refl _) rfl rfl
  · exact .same statusesAgree (Bus.setGuardLeads _ _ _) rfl rfl

theorem destroyGuardKeepsConditions (sound : s.context.Sound) (statusesAgree : s.bus.StatusesAgree)
    (h : Option (Handle .guardCondition)) : s.KeepsConditions (s.destroyGuard h).1 := by
  unfold destroyGuard
  split
  · exact .same statusesAgree (.refl _) rfl rfl
  · split
    · exact .same statusesAgree (.refl _) rfl rfl
    · exact .same statusesAgree (.refl _) rfl rfl
    · split
      · exact .same statusesAgree (.refl _) rfl rfl
      · exact ⟨statusesAgree, .refl _, fun _ _ found => .inl found,
          fun _ _ found => .inl (removedGuards sound.guards ‹_› found)⟩

/-! ### Publishers and subscriptions -/

theorem grantsLeads {side : Side} {node : Handle .node} {ts : TypeSupport K} {topic : String}
    {history : History} {ref : Option EndpointRef} (h : s.Grants side node ts topic history s' ref) :
    s.bus.Leads s'.bus := by
  cases h with
  | refused => exact .refl _
  | bound found => exact Bus.runLeads _ _
  | full found binds named there =>
    subst binds
    exact ((Bus.runLeads _ _).trans (Bus.runLeads _ _)).trans (Bus.runLeads _ _)
  | granted found binds named there own sound enters =>
    subst binds
    exact (Bus.runLeads _ _).trans (Bus.runLeads _ _)

theorem releasesLeads {side : Side} {ref : Option EndpointRef} (h : s.Releases side ref s') :
    s.bus.Leads s'.bus := by
  cases h with
  | refused | orphaned => exact .refl _
  | released => exact Bus.runLeads _ _

theorem destroyPublisherKeepsConditions (sound : s.context.Sound) (statusesAgree : s.bus.StatusesAgree)
    (h : Option (Handle .publisher)) : s.KeepsConditions (s.destroyPublisher h).1 := by
  refine .same statusesAgree (releasesLeads (destroyPublisherReleases sound h)) ?_ ?_ <;>
    · unfold destroyPublisher
      split
      · rfl
      · split
        · rfl
        · dsimp only
          split <;> rfl

theorem destroySubscriptionKeepsConditions (sound : s.context.Sound) (statusesAgree : s.bus.StatusesAgree)
    (h : Option (Handle .subscription)) : s.KeepsConditions (s.destroySubscription h).1 := by
  obtain ⟨statusesAgree', evolves⟩ := releasesLeads (destroySubscriptionReleases sound h) statusesAgree
  refine ⟨statusesAgree', evolves, fun k r found => .inl ?_, fun k g found => .inl ?_⟩
  · unfold destroySubscription at found
    split at found
    · exact found
    · split at found
      · exact found
      · rename_i gone subscriptions removed
        obtain ⟨_, _, _, find⟩ := Arena.removeFind sound.subscriptions removed
        dsimp only at found
        split at found <;> simp only [countEndpoint, find] at found <;> split at found
        · cases found
        · exact found
        · cases found
        · exact found
  · unfold destroySubscription at found
    split at found
    · exact found
    · split at found
      · exact found
      · dsimp only at found
        split at found <;> exact found

theorem prepareContext (s : Site K) (node : Handle .node) (ts : TypeSupport K) (topic : String) :
    (s.prepare node ts topic).1.context = s.context := by
  rcases prepareOpens s node ts topic with ⟨f, refused⟩ | ⟨n, _, prepared⟩
  · rw [refused]
  · rw [prepared]

theorem createPublisherSame (s : Site K) (node : Handle .node) (ts : TypeSupport K) (topic : String) :
    (s.createPublisher node ts topic).1.context.subscriptions = s.context.subscriptions ∧
      (s.createPublisher node ts topic).1.context.guards = s.context.guards := by
  have subscriptions := congrArg Context.subscriptions (prepareContext s node ts topic)
  have guards := congrArg Context.guards (prepareContext s node ts topic)
  unfold createPublisher
  split <;> rename_i prepared <;> rw [prepared] at subscriptions guards
  · exact ⟨subscriptions, guards⟩
  · split
    · exact ⟨subscriptions, guards⟩
    · dsimp only
      split <;> exact ⟨subscriptions, guards⟩

theorem createPublisherKeepsConditions (sound : s.context.Sound) (statusesAgree : s.bus.StatusesAgree)
    (node : Handle .node)
    (ts : TypeSupport K) (topic : String) : s.KeepsConditions (s.createPublisher node ts topic).1 := by
  obtain ⟨subscriptions, guards⟩ := createPublisherSame s node ts topic
  exact .same statusesAgree (grantsLeads (createPublisherGrants sound node ts topic .standard)) subscriptions guards

theorem createSubscriptionRecords (sound : s.context.Sound) (node : Handle .node) (ts : TypeSupport K)
    (topic : String) (size : Nat) {h : Handle .subscription} {r : SubscriptionRecord K}
    (found : (s.createSubscription node ts topic size).1.context.subscriptions.find? h = some r) :
    s.context.subscriptions.find? h = some r ∨ ∃ x,
      (s.createSubscription node ts topic size).1.bus.readers.get? r.reader = some x ∧
        x.condition = r.condition := by
  unfold createSubscription at found ⊢
  rcases prepareOpens s node ts topic with ⟨f, refused⟩ | ⟨n, _, prepared⟩
  · rw [refused] at found
    exact .inl found
  · rw [prepared] at found ⊢
    cases named : (bindTopic s.bus n.participant ts topic).2 with
    | error f =>
      rw [named] at found
      exact .inl found
    | ok t =>
      simp only [named, Except.map] at found ⊢
      rcases openEndpointOpens (s.bus.run (binding n.participant ts topic)) n.participant t (queueHistory size)
        .subscription with ⟨_, f, refused⟩ | ⟨⟨p, there⟩, opened⟩
      · simp only [openEndpoint] at refused
        rw [refused] at found
        exact .inl found
      · simp only [openEndpoint] at opened
        rw [opened] at found ⊢
        dsimp only at found ⊢
        split at found
        · exact .inl found
        · rename_i k subscriptions inserted
          obtain ⟨_, _, _, find⟩ := Arena.insertFind sound.subscriptions inserted
          simp only [countEndpoint, find] at found
          split at found
          · cases Option.some.inj found
            have put := (Bus.putUpMakes .subscription there t (queueHistory size)).readers
              ((s.bus.run (binding n.participant ts topic)).nextHandle + 1)
            rw [if_pos ⟨rfl, rfl⟩] at put
            obtain ⟨x, known, _⟩ := Option.map_eq_some_iff.1 put
            refine .inr ⟨x, ?_, ?_⟩
            · exact known
            · rw [conditionOf, known]
              rfl
          · exact .inl found

theorem createSubscriptionKeepsConditions (sound : s.context.Sound) (statusesAgree : s.bus.StatusesAgree)
    (node : Handle .node) (ts : TypeSupport K) (topic : String) (size : Nat) :
    s.KeepsConditions (s.createSubscription node ts topic size).1 := by
  have leads := grantsLeads (createSubscriptionGrants sound node ts topic size)
  have guards : (s.createSubscription node ts topic size).1.context.guards = s.context.guards := by
    have guards := congrArg Context.guards (prepareContext s node ts topic)
    unfold createSubscription
    split <;> rename_i prepared <;> rw [prepared] at guards
    · exact guards
    · split
      · exact guards
      · dsimp only
        split <;> exact guards
  exact ⟨(leads statusesAgree).1, (leads statusesAgree).2,
    fun _ _ found => createSubscriptionRecords sound node ts topic size found,
    fun _ _ found => .inl (guards ▸ found)⟩

/-! ### Messages -/

theorem publishKeepsConditions [Catalog K] [DecidableEq K] (statusesAgree : s.bus.StatusesAgree) (h : Handle .publisher)
    (m : Message K) : s.KeepsConditions (s.publish h m).1 := by
  unfold publish
  split
  · exact .same statusesAgree (.refl _) rfl rfl
  · rename_i r got
    split
    · exact .same statusesAgree (.refl _) rfl rfl
    · rename_i b published
      obtain ⟨payload, _, written⟩ := publishWrites published
      have requested : s.bus.request (.write r.writer payload) = b := by
        rw [Bus.request, written, Bus.after]
      rw [← requested]
      exact .same statusesAgree (Bus.requestLeads s.bus (.write r.writer payload)) rfl rfl

theorem takeKeepsConditions [Catalog K] [DecidableEq K] (statusesAgree : s.bus.StatusesAgree) (h : Handle .subscription)
    (slot : Option K) : s.KeepsConditions (s.take h slot).1 := by
  unfold take
  split
  · exact .same statusesAgree (.refl _) rfl rfl
  · rename_i r got
    have taken : s.bus.Leads (r.support.take s.bus r.reader slot).1 := by
      rw [supportTakes]
      exact Bus.runLeads s.bus _
    exact .same statusesAgree taken rfl rfl

/-! ### Waits -/

theorem beginWaitKeepsConditions (statusesAgree : s.bus.StatusesAgree) (clock : Clock) (timeout : Timeout)
    (subscriptions : List (Option (Handle .subscription)))
    (guards : List (Option (Handle .guardCondition))) :
    s.KeepsConditions (s.beginWait clock timeout subscriptions guards).1 := by
  obtain ⟨leads, context⟩ := beginWaitKeeps Leads.refl .trans
    (fun _ => .same (fun _ => rfl) (fun _ => rfl) (Nat.le_refl _) (Nat.le_refl _))
    (fun b c => .adjust (Bus.setEnabledAdjusts b c _) .enable (Trigger.showsEnabled _))
    (fun ok => .quiet (Bus.attachQuiet ok)) (fun b ws => .quiet (Bus.dropWaitSetQuiet b ws)) s clock timeout
    subscriptions guards
  exact .same statusesAgree leads (congrArg Context.subscriptions context) (congrArg Context.guards context)

end Site

/-! ### Whole systems -/

structure ConditionsAgree (b : Bus) (t : Table ContextId (Context K)) : Prop where
  statusesAgree : b.StatusesAgree
  subscriptions : ∀ ctx c h r, t.get? ctx = some c → c.subscriptions.find? h = some r →
    ∃ x, b.readers.get? r.reader = some x ∧ x.condition = r.condition
  guards : ∀ ctx c h g, t.get? ctx = some c → c.guards.find? h = some g →
    ∃ raised, b.trigger? g.condition = some (.guard raised)

namespace ConditionsAgree

variable {b b' : Bus} {t t' : Table ContextId (Context K)}

theorem fresh : ConditionsAgree {} (.empty : Table ContextId (Context K)) :=
  ⟨Bus.statusesAgreeEmpty, fun _ _ _ _ known => (nomatch known), fun _ _ _ _ known => (nomatch known)⟩

theorem evolve (h : ConditionsAgree b t) (statusesAgree : b'.StatusesAgree) (evolves : b.Evolves b')
    (subscriptions : ∀ ctx c k r, t'.get? ctx = some c → c.subscriptions.find? k = some r →
      (∃ c, t.get? ctx = some c ∧ c.subscriptions.find? k = some r) ∨
        ∃ x, b'.readers.get? r.reader = some x ∧ x.condition = r.condition)
    (guards : ∀ ctx c k g, t'.get? ctx = some c → c.guards.find? k = some g →
      (∃ c, t.get? ctx = some c ∧ c.guards.find? k = some g) ∨
        ∃ raised, b'.trigger? g.condition = some (.guard raised)) : ConditionsAgree b' t' := by
  refine ⟨statusesAgree, fun ctx c k r known found => ?_, fun ctx c k g known found => ?_⟩
  · rcases subscriptions ctx c k r known found with ⟨c', known', found'⟩ | new
    · obtain ⟨x, there, condition⟩ := h.subscriptions ctx c' k r known' found'
      obtain ⟨x', there', condition'⟩ := evolves.readers _ x there
      exact ⟨x', there', condition'.trans condition⟩
    · exact new
  · rcases guards ctx c k g known found with ⟨c', known', found'⟩ | new
    · obtain ⟨raised, there⟩ := h.guards ctx c' k g known' found'
      obtain ⟨trigger, there', tends⟩ := evolves.triggers _ _ there
      obtain ⟨now, rfl⟩ := tends.guard
      exact ⟨now, there'⟩
    · exact new

theorem leads (h : ConditionsAgree b t) (leads : b.Leads b') : ConditionsAgree b' t ∧ b.Evolves b' := by
  obtain ⟨statusesAgree, evolves⟩ := leads h.statusesAgree
  exact ⟨h.evolve statusesAgree evolves (fun _ c _ _ known found => .inl ⟨c, known, found⟩)
    fun _ c _ _ known found => .inl ⟨c, known, found⟩, evolves⟩

theorem act (h : ConditionsAgree b t) {ctx : ContextId} {c : Context K} {observed : List ConditionId} {s' : Site K}
    (known : t.get? ctx = some c) (keepsConditions : Site.KeepsConditions ⟨b, observed, c⟩ s') :
    ConditionsAgree s'.bus (t.insert ctx s'.context) := by
  refine h.evolve keepsConditions.statusesAgree keepsConditions.evolves (fun ctx' c' k r known' found => ?_)
    fun ctx' c' k g known' found => ?_
  · rw [Table.getInsert] at known'
    split at known'
    · rename_i own
      cases Option.some.inj known'
      rw [own]
      exact (keepsConditions.subscriptions k r found).imp_left fun old => ⟨c, known, old⟩
    · exact .inl ⟨c', known', found⟩
  · rw [Table.getInsert] at known'
    split at known'
    · rename_i own
      cases Option.some.inj known'
      rw [own]
      exact (keepsConditions.guards k g found).imp (fun old => ⟨c, known, old⟩) And.left
    · exact .inl ⟨c', known', found⟩

/-! ### Calls -/

end ConditionsAgree

namespace System

inductive ConditionsKept (s s' : System K) : Prop
  | idle (leads : s.bus.Leads s'.bus) (contexts : s'.contexts = s.contexts)
  | opened {ctx : ContextId} {c : Context K} (bus : s'.bus = s.bus) (contexts : s'.contexts = s.contexts.insert ctx c)
    (unsubscribed : ∀ k, c.subscriptions.find? k = none) (unguarded : ∀ k, c.guards.find? k = none)
  | closed {ctx : ContextId} (leads : s.bus.Leads s'.bus) (contexts : s'.contexts = s.contexts.erase ctx)
  | acted {ctx : ContextId} {c : Context K} {site : Site K} (known : s.contexts.get? ctx = some c)
    (keepsConditions : Site.KeepsConditions ⟨s.bus, s.observed, c⟩ site) (bus : s'.bus = site.bus)
    (contexts : s'.contexts = s.contexts.insert ctx site.context)

variable {s : System K}

theorem performConditionsKept {α : Type} (sound : s.Sound) (statusesAgree : s.bus.StatusesAgree) (ctx : ContextId)
    (operation : String) {call : Site K → Site K × Except Failure α}
    (keepsConditions : ∀ site : Site K, site.context.Sound → site.bus.StatusesAgree →
      site.KeepsConditions (call site).1) :
    s.ConditionsKept (s.perform ctx operation call).1 := by
  rcases performSplit s ctx operation call with ⟨_, bus, contexts, _⟩ | ⟨c, known, bus, contexts, _⟩
  · exact .idle (bus.symm ▸ .refl _) contexts
  · exact .acted known (keepsConditions ⟨s.bus, s.observed, c⟩ (sound.tables ctx c known) statusesAgree) bus contexts

theorem initConditionsKept (s : System K) (settings : Settings) : s.ConditionsKept (s.init settings).1 := by
  unfold init
  split
  · exact .idle (.refl _) rfl
  · exact .opened rfl rfl (fun _ => Arena.findNone fun _ _ there => by simp at there)
      fun _ => Arena.findNone fun _ _ there => by simp at there

theorem detachLeads (b : Bus) (n : NodeRecord) : b.Leads (detachListeners b n) := by
  unfold detachListeners
  split
  · exact (Bus.setListenerLeads b _ none).trans (Bus.setListenerLeads _ _ none)
  · exact .refl b

theorem dismissLeads (b : Bus) (nodes : List NodeRecord) : b.Leads (dismiss b nodes) := by
  have detached : b.Leads (nodes.foldl detachListeners b) :=
    List.foldlRecOn (motive := b.Leads) nodes _ (.refl b) fun b' leads n _ =>
      leads.trans (detachLeads b' n)
  exact List.foldlRecOn (motive := b.Leads) nodes _ detached fun b' leads n _ =>
    leads.trans (Site.leaveLeads b' n.participant)

theorem closeConditionsKept (s : System K) (ctx : ContextId) : s.ConditionsKept (s.close ctx) := by
  unfold close
  split
  · exact .idle (.refl _) rfl
  · rename_i c known
    exact .closed (dismissLeads s.bus c.nodes.values) rfl

theorem endWaitLeads (s : System K) (t : Ticket) (expired : Bool) :
    s.bus.Leads (s.endWait t expired).2.bus :=
  endWaitKeeps Leads.refl .trans
    (fun b c => .adjust (Bus.takeGuardAdjusts b c) (.assign false) (Trigger.showsAssigned false))
    (fun b ws => .quiet (Bus.dropWaitSetQuiet b ws)) s t expired

variable [Catalog K] [DecidableEq K]

theorem serveConditionsKept (sound : s.Sound) (statusesAgree : s.bus.StatusesAgree) (call : Call K) :
    s.ConditionsKept (s.serve call) := by
  cases call with
  | init settings => exact initConditionsKept s settings
  | close ctx => exact closeConditionsKept s ctx
  | createNode ctx name =>
    exact performConditionsKept sound statusesAgree ctx _ fun _ tables statusesAgree =>
      Site.createNodeKeepsConditions tables statusesAgree name
  | destroyNode ctx k =>
    exact performConditionsKept sound statusesAgree ctx _ fun _ tables statusesAgree =>
      Site.destroyNodeKeepsConditions tables statusesAgree k
  | graphGuard ctx node =>
    refine performConditionsKept sound statusesAgree ctx _ fun site _ statusesAgree => ?_
    rw [Site.graphGuardSame]
    exact .same statusesAgree (.refl _) rfl rfl
  | topicNamesAndTypes | countPublishers | countSubscribers | publisherGid | compareGids =>
    exact performConditionsKept sound statusesAgree _ _ fun _ _ statusesAgree => .same statusesAgree (.refl _) rfl rfl
  | createGuard ctx =>
    exact performConditionsKept sound statusesAgree ctx _ fun _ tables statusesAgree =>
      Site.createGuardKeepsConditions tables statusesAgree
  | triggerGuard ctx k =>
    exact performConditionsKept sound statusesAgree ctx _ fun _ _ statusesAgree =>
      Site.triggerGuardKeepsConditions statusesAgree k
  | destroyGuard ctx k =>
    exact performConditionsKept sound statusesAgree ctx _ fun _ tables statusesAgree =>
      Site.destroyGuardKeepsConditions tables statusesAgree k
  | createPublisher ctx node ts topic =>
    exact performConditionsKept sound statusesAgree ctx _ fun _ tables statusesAgree =>
      Site.createPublisherKeepsConditions tables statusesAgree node ts topic
  | destroyPublisher ctx k =>
    exact performConditionsKept sound statusesAgree ctx _ fun _ tables statusesAgree =>
      Site.destroyPublisherKeepsConditions tables statusesAgree k
  | createSubscription ctx node ts topic size =>
    exact performConditionsKept sound statusesAgree ctx _ fun _ tables statusesAgree =>
      Site.createSubscriptionKeepsConditions tables statusesAgree node ts topic size
  | destroySubscription ctx k =>
    exact performConditionsKept sound statusesAgree ctx _ fun _ tables statusesAgree =>
      Site.destroySubscriptionKeepsConditions tables statusesAgree k
  | publish ctx k m =>
    exact performConditionsKept sound statusesAgree ctx _ fun _ _ statusesAgree =>
      Site.publishKeepsConditions statusesAgree k m
  | take ctx k slot =>
    exact performConditionsKept sound statusesAgree ctx _ fun _ _ statusesAgree =>
      Site.takeKeepsConditions statusesAgree k slot
  | beginWait ctx clock timeout subscriptions guards =>
    exact performConditionsKept sound statusesAgree ctx _ fun _ _ statusesAgree =>
      Site.beginWaitKeepsConditions statusesAgree clock timeout subscriptions guards
  | turn ticket now =>
    refine .idle ?_ (turnWaits s ticket now).2.1
    have polled := Leads.quiet (Bus.pollQuiet s.bus ticket.waitSet)
    simp only [serve]
    unfold turn
    split <;> rename_i b eq <;> rw [eq] at polled <;> exact polled
  | endWait ticket expired => exact .idle (endWaitLeads s ticket expired) rfl
  | setError text => exact .idle (.refl _) rfl
  | resetError => exact .idle (.refl _) rfl

end System

namespace ConditionsAgree

variable {s : System K}

theorem conditionsKept {s' : System K} (h : ConditionsAgree s.bus s.contexts) (conditionsKept : s.ConditionsKept s') :
    ConditionsAgree s'.bus s'.contexts ∧ s.bus.Evolves s'.bus := by
  cases conditionsKept with
  | idle leads contexts =>
    obtain ⟨statusesAgree, evolves⟩ := leads h.statusesAgree
    rw [contexts]
    exact ⟨h.evolve statusesAgree evolves (fun _ c _ _ known found => .inl ⟨c, known, found⟩)
      fun _ c _ _ known found => .inl ⟨c, known, found⟩, evolves⟩
  | opened bus contexts unsubscribed unguarded =>
    rw [bus, contexts]
    refine ⟨h.evolve h.statusesAgree (.refl _) (fun ctx c k r known found => ?_)
      fun ctx c k g known found => ?_, .refl _⟩
    all_goals
      rw [Table.getInsert] at known
      split at known
      · cases Option.some.inj known
        simp only [unsubscribed, unguarded, reduceCtorEq] at found
      · exact .inl ⟨c, known, found⟩
  | closed leads contexts =>
    obtain ⟨statusesAgree, evolves⟩ := leads h.statusesAgree
    rw [contexts]
    refine ⟨h.evolve statusesAgree evolves (fun ctx' c' k r known' found => ?_)
      fun ctx' c' k g known' found => ?_, evolves⟩
    all_goals
      rw [Table.getErase] at known'
      split at known'
      · cases known'
      · exact .inl ⟨c', known', found⟩
  | acted known keepsConditions bus contexts =>
    rw [bus, contexts]
    exact ⟨h.act known keepsConditions, keepsConditions.evolves⟩

variable [Catalog K] [DecidableEq K]

theorem serve (sound : s.Sound) (h : ConditionsAgree s.bus s.contexts) (call : Call K) :
    ConditionsAgree (s.serve call).bus (s.serve call).contexts ∧ s.bus.Evolves (s.serve call).bus :=
  h.conditionsKept (System.serveConditionsKept sound h.statusesAgree call)

theorem serveAll (sound : s.Sound) (h : ConditionsAgree s.bus s.contexts) (calls : List (Call K)) :
    ConditionsAgree (s.serveAll calls).bus (s.serveAll calls).contexts ∧ s.bus.Evolves (s.serveAll calls).bus := by
  induction calls generalizing s with
  | nil => exact ⟨h, .refl _⟩
  | cons call rest ih =>
    obtain ⟨conditionsAgree, evolves⟩ := h.serve sound call
    obtain ⟨conditionsAgree', evolves'⟩ := ih (System.serveSound sound call) conditionsAgree
    exact ⟨conditionsAgree', evolves.trans evolves'⟩

end ConditionsAgree
end Databus.Middleware
