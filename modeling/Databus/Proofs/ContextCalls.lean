import Databus.Middleware.Calls
import Databus.Middleware.Wait
import Databus.Proofs.EndpointCreation
import Databus.Proofs.RequestMoves
import Databus.Proofs.NodeLifetime

/-! Every call that an application may make, and what a call does to the bus and to the tables of contexts.
What calls keep is proved once for each kind of step that a call takes on its site. -/
namespace Databus.Middleware

inductive Call (K : Type) [Catalog K]
  | init (settings : Settings)
  | close (ctx : ContextId)
  | createNode (ctx : ContextId) (name : String)
  | destroyNode (ctx : ContextId) (h : Option (Handle .node))
  | graphGuard (ctx : ContextId) (node : Handle .node)
  | topicNamesAndTypes (ctx : ContextId) (node : Handle .node)
  | countPublishers (ctx : ContextId) (node : Handle .node) (topic : String)
  | countSubscribers (ctx : ContextId) (node : Handle .node) (topic : String)
  | createGuard (ctx : ContextId)
  | triggerGuard (ctx : ContextId) (h : Handle .guardCondition)
  | destroyGuard (ctx : ContextId) (h : Option (Handle .guardCondition))
  | createPublisher (ctx : ContextId) (node : Handle .node) (ts : TypeSupport K) (topic : String)
  | destroyPublisher (ctx : ContextId) (h : Option (Handle .publisher))
  | publisherGid (ctx : ContextId) (h : Handle .publisher)
  | compareGids (ctx : ContextId) (g g' : Gid)
  | createSubscription (ctx : ContextId) (node : Handle .node) (ts : TypeSupport K) (topic : String)
    (queueSize : Nat)
  | destroySubscription (ctx : ContextId) (h : Option (Handle .subscription))
  | publish (ctx : ContextId) (h : Handle .publisher) (m : Message K)
  | take (ctx : ContextId) (h : Handle .subscription) (slot : Option K)
  | beginWait (ctx : ContextId) (clock : Clock) (timeout : Timeout)
    (subscriptions : List (Option (Handle .subscription)))
    (guards : List (Option (Handle .guardCondition)))
  | turn (t : Ticket) (now : Nat)
  | endWait (t : Ticket) (expired : Bool)
  | setError (text : String)
  | resetError

inductive ExampleCarrier
  | counter
  | blob
  deriving DecidableEq, Repr

@[reducible] def ExampleCarrier.Value : ExampleCarrier → Type
  | .counter => UInt32
  | .blob => Octets

instance : Catalog ExampleCarrier where
  Value := ExampleCarrier.Value
  package _ := "test_msgs"
  name
    | .counter => "Counter"
    | .blob => "Blob"
  encode
    | .counter, n => .ok (Octets.word 4 n.toNat)
    | .blob, o => .ok o
  decode
    | .counter, o =>
      if o.length = 4 then .ok (UInt32.ofNat o.toNat)
      else .error (.serialization s!"expected 4 bytes, got {o.length}")
    | .blob, o => .ok o

variable {K : Type}

namespace System

variable [Catalog K] [DecidableEq K]

def serve (s : System K) : Call K → System K
  | .init settings => (s.init settings).1
  | .close ctx => s.close ctx
  | .createNode ctx name => (s.createNode ctx name).1
  | .destroyNode ctx h => (s.destroyNode ctx h).1
  | .graphGuard ctx node => (s.graphGuard ctx node).1
  | .topicNamesAndTypes ctx node => (s.topicNamesAndTypes ctx node).1
  | .countPublishers ctx node topic => (s.countPublishers ctx node topic).1
  | .countSubscribers ctx node topic => (s.countSubscribers ctx node topic).1
  | .createGuard ctx => (s.createGuard ctx).1
  | .triggerGuard ctx h => (s.triggerGuard ctx h).1
  | .destroyGuard ctx h => (s.destroyGuard ctx h).1
  | .createPublisher ctx node ts topic => (s.createPublisher ctx node ts topic).1
  | .destroyPublisher ctx h => (s.destroyPublisher ctx h).1
  | .publisherGid ctx h => (s.publisherGid ctx h).1
  | .compareGids ctx g g' => (s.compareGids ctx g g').1
  | .createSubscription ctx node ts topic size => (s.createSubscription ctx node ts topic size).1
  | .destroySubscription ctx h => (s.destroySubscription ctx h).1
  | .publish ctx h m => (s.publish ctx h m).1
  | .take ctx h slot => (s.take ctx h slot).1
  | .beginWait ctx clock timeout subscriptions guards =>
    (s.beginWait ctx clock timeout subscriptions guards).1
  | .turn t now => (s.turn t now).2
  | .endWait t expired => (s.endWait t expired).2
  | .setError text => s.setError text
  | .resetError => s.resetError

def serveAll (s : System K) (calls : List (Call K)) : System K := calls.foldl serve s

end System

def Call.Names [Catalog K] (ts : TypeSupport K) (topic : String) : Call K → Prop
  | .createPublisher _ _ ts' topic' => ts' = ts ∧ topic' = topic
  | .createSubscription _ _ ts' topic' _ => ts' = ts ∧ topic' = topic
  | _ => False

namespace Site

open Bus (Moves OnlyWaits)

def Calm (_ : Bus) (q : Request) : Prop := q = .newGuard

inductive Aside (s : Site K) : Site K → Prop
  | quiet {s' : Site K} (calm : Moves Calm s.bus s'.bus) (same : s.context.SameTables s'.context)
    (sound : s'.context.Sound) : Aside s s'
  | addsNode {name : String} {h : Option (Handle .node)} {s' : Site K} (how : s.NodeCreation name h s') :
    Aside s s'
  | removesNode {h : Option (Handle .node)} {s' : Site K} (how : s.NodeDestruction h s') : Aside s s'

inductive SiteStep (names : TypeSupport K → String → Prop) (s : Site K) : Site K → Prop
  | aside {s' : Site K} (how : s.Aside s') : SiteStep names s s'
  | grants {side : Side} {node : Handle .node} {ts : TypeSupport K} {topic : String}
    {history : History} {ref : Option EndpointRef} {s' : Site K} (asked : names ts topic)
    (how : s.Grants side node ts topic history s' ref) : SiteStep names s s'
  | releases {side : Side} {ref : Option EndpointRef} {s' : Site K} (how : s.Releases side ref s') :
    SiteStep names s s'
  | writes (w : InstanceHandle) (payload : Octets) :
    SiteStep names s { s with bus := s.bus.request (.write w payload) }
  | takes (ref : EndpointRef) {r : EndpointEntry K} (own : ref.side = .subscription)
    (held : s.context.findEntry ref = some r) (n : Nat) :
    SiteStep names s { s with bus := s.bus.run (List.replicate n (.take r.endpoint)) }

variable {s s' : Site K} {names : TypeSupport K → String → Prop}

theorem asideSound (h : Aside s s') : s.context.Sound → s'.context.Sound := fun sound => by
  cases h with
  | quiet _ _ sound' => exact sound'
  | addsNode how =>
    cases how with
    | refused => exact sound
    | full _ sound' _ => exact sound'
    | nodeAdded _ sound' _ => exact sound'
  | removesNode how =>
    cases how with
    | refused => exact sound
    | parted _ sound' _ => exact sound'

theorem siteStepSound (h : SiteStep names s s') (sound : s.context.Sound) : s'.context.Sound := by
  cases h with
  | aside how => exact asideSound how sound
  | grants _ how =>
    cases how with
    | granted _ _ _ _ _ sound' _ => exact sound'
    | _ => exact sound
  | releases how =>
    cases how with
    | refused => exact sound
    | orphaned _ _ _ sound' _ => exact sound'
    | released _ _ _ sound' _ => exact sound'
  | writes w payload => exact sound
  | takes ref own held n => exact sound

/-! ### Guards and waits -/

theorem asideNothing (sound : s.context.Sound) : Aside s s := .quiet (.refl _) (.refl _) sound

theorem createGuardAside (sound : s.context.Sound) : Aside s s.createGuard.1 := by
  have made : Moves Calm s.bus (s.bus.newCondition .newGuard).2 := .ask (q := .newGuard) rfl
  unfold createGuard
  dsimp only
  split
  · exact .quiet made (.refl _) sound
  · rename_i h guards inserted
    exact .quiet made ⟨rfl, fun _ => rfl, rfl, rfl⟩
      { sound with guards := (Arena.insertFind sound.guards inserted).1 }

theorem triggerGuardAside (sound : s.context.Sound) (h : Handle .guardCondition) :
    Aside s (s.triggerGuard h).1 := by
  unfold triggerGuard
  split
  · exact asideNothing sound
  · exact .quiet (.waits (.ofSignals (Bus.setGuardFrame _ _ _))) (.refl _) sound

theorem destroyGuardAside (sound : s.context.Sound) (h : Option (Handle .guardCondition)) :
    Aside s (s.destroyGuard h).1 := by
  unfold destroyGuard
  split
  · exact asideNothing sound
  · split
    · exact asideNothing sound
    · exact asideNothing sound
    · split
      · exact asideNothing sound
      · rename_i gone guards removed
        exact .quiet (.refl _) ⟨rfl, fun _ => rfl, rfl, rfl⟩
          { sound with guards := (Arena.removeFind sound.guards removed).1 }

theorem graphGuardSame (s : Site K) (node : Handle .node) : (s.graphGuard node).1 = s := by
  unfold graphGuard
  split
  · rfl
  · split <;> rfl

theorem attachAllKeeps {R : Bus → Bus → Prop} (refl : ∀ b, R b b) (trans : ∀ {a b c}, R a b → R b c → R a c)
    (enables : ∀ b c, R b (b.setEnabled c .dataAvailable))
    (attaches : ∀ {b b' ws c}, b.attach ws c = .ok b' → R b b') (ws : WaitSetId)
    (claims : List (Waitable × ConditionId)) (b : Bus) : R b (attachAll b ws claims).1 := by
  induction claims generalizing b with
  | nil => exact refl b
  | cons claim rest ih =>
    obtain ⟨w, c⟩ := claim
    cases w with
    | subscription =>
      unfold attachAll
      dsimp only
      split
      · exact enables b c
      · rename_i b' attached
        exact trans (trans (enables b c) (attaches attached)) (ih b')
    | guardCondition =>
      unfold attachAll
      dsimp only
      split
      · exact refl b
      · rename_i b' attached
        exact trans (attaches attached) (ih b')

theorem attachAllWaits (ws : WaitSetId) (claims : List (Waitable × ConditionId)) (b : Bus) :
    OnlyWaits b (attachAll b ws claims).1 :=
  attachAllKeeps (fun b => .ofSignals (.refl b)) .trans
    (fun b c => .ofSignals (Bus.setEnabledFrame b c _)) Bus.attachWaits ws claims b

theorem beginWaitKeeps {R : Bus → Bus → Prop} (refl : ∀ b, R b b)
    (trans : ∀ {a b c}, R a b → R b c → R a c) (opens : ∀ b, R b b.newWaitSet.2)
    (enables : ∀ b c, R b (b.setEnabled c .dataAvailable))
    (attaches : ∀ {b b' ws c}, b.attach ws c = .ok b' → R b b') (drops : ∀ b ws, R b (b.dropWaitSet ws))
    (s : Site K) (clock : Clock) (timeout : Timeout) (subscriptions : List (Option (Handle .subscription)))
    (guards : List (Option (Handle .guardCondition))) :
    R s.bus (s.beginWait clock timeout subscriptions guards).1.bus ∧
      (s.beginWait clock timeout subscriptions guards).1.context = s.context := by
  unfold beginWait
  split
  · exact ⟨refl _, rfl⟩
  · split
    · exact ⟨refl _, rfl⟩
    · dsimp only
      split
      · exact ⟨refl _, rfl⟩
      · have attached := fun claims => trans (opens s.bus)
          (attachAllKeeps refl trans enables attaches s.bus.newWaitSet.1 claims s.bus.newWaitSet.2)
        split
        · rename_i b f failed
          have kept : R s.bus b := by
            rw [← show _ = b from congrArg Prod.fst failed]
            exact attached _
          exact ⟨trans kept (drops b _), rfl⟩
        · rename_i b ok
          have kept : R s.bus b := by
            rw [← show _ = b from congrArg Prod.fst ok]
            exact attached _
          exact ⟨kept, rfl⟩

theorem beginWaitWaits (s : Site K) (clock : Clock) (timeout : Timeout)
    (subscriptions : List (Option (Handle .subscription))) (guards : List (Option (Handle .guardCondition))) :
    OnlyWaits s.bus (s.beginWait clock timeout subscriptions guards).1.bus ∧
      (s.beginWait clock timeout subscriptions guards).1.context = s.context :=
  beginWaitKeeps (fun b => .ofSignals (.refl b)) .trans Bus.newWaitSetWaits
    (fun b c => .ofSignals (Bus.setEnabledFrame b c _)) Bus.attachWaits Bus.dropWaitSetWaits s clock timeout
    subscriptions guards

theorem beginWaitAside (sound : s.context.Sound) (clock : Clock) (timeout : Timeout)
    (subscriptions : List (Option (Handle .subscription)))
    (guards : List (Option (Handle .guardCondition))) :
    Aside s (s.beginWait clock timeout subscriptions guards).1 := by
  obtain ⟨waits, context⟩ := beginWaitWaits s clock timeout subscriptions guards
  exact .quiet (.waits waits) (context ▸ .refl _) (context ▸ sound)

/-! ### Messages -/

variable [Catalog K] [DecidableEq K]

theorem publishWrites {ts : TypeSupport K} {b b' : Bus} {w : InstanceHandle} {m : Message K}
    (ok : ts.publish b w m = .ok b') :
    ∃ payload, ts.encode m = .ok payload ∧ b.write w payload = .ok b' := by
  unfold TypeSupport.publish at ok
  split at ok
  · contradiction
  · rename_i payload encoded
    split at ok
    · rename_i b'' written
      cases ok
      exact ⟨payload, encoded, written⟩
    · contradiction

theorem publishSiteStep (sound : s.context.Sound) (h : Handle .publisher) (m : Message K) :
    SiteStep names s (s.publish h m).1 := by
  unfold publish
  split
  · exact .aside (asideNothing sound)
  · rename_i r got
    split
    · exact .aside (asideNothing sound)
    · rename_i b published
      obtain ⟨payload, _, written⟩ := publishWrites published
      have requested : s.bus.request (.write r.writer payload) = b := by
        rw [Bus.request, written, Bus.after]
      rw [← requested]
      exact .writes _ _

def draws (r : InstanceHandle) : Nat → Bus → Nat
  | 0, _ => 0
  | n + 1, b =>
    match b.take r with
    | (none, _) => 1
    | (some sample, b) =>
      match sample.payload with
      | some _ => 1
      | none => draws r n b + 1

theorem nextPayloadDraws (r : InstanceHandle) (n : Nat) (b : Bus) :
    (TypeSupport.nextPayload r n b).2 = b.run (List.replicate (draws r n b) (.take r)) := by
  induction n generalizing b with
  | zero => rfl
  | succ n ih =>
    have first : b.request (.take r) = (b.take r).2 := rfl
    unfold TypeSupport.nextPayload draws
    cases taken : b.take r with
    | mk head b' =>
      rw [taken] at first
      cases head with
      | none => exact first.symm
      | some sample =>
        dsimp only
        cases sample.payload with
        | some payload => exact first.symm
        | none =>
          dsimp only
          rw [ih b', List.replicate_succ, ← show b.request (.take r) = b' from first]
          rfl

theorem supportTakes (ts : TypeSupport K) (b : Bus) (r : InstanceHandle) (slot : Option K) :
    (ts.take b r slot).1 = b.run (List.replicate
      (if slot = some ts.carrier then draws r (TypeSupport.unread b r + 1) b else 0) (.take r)) := by
  unfold TypeSupport.take
  split
  · rw [← nextPayloadDraws]
    split <;> rename_i eq <;> rw [eq]
    split <;> rfl
  · rfl

theorem takeSiteStep (sound : s.context.Sound) (h : Handle .subscription) (slot : Option K) :
    SiteStep names s (s.take h slot).1 := by
  unfold take
  split
  · exact .aside (asideNothing sound)
  · rename_i r got
    have held : s.context.findEntry (.subscription h) = some r.entry := by
      rw [Context.findEntry, Arena.getExact.1 got]
      rfl
    dsimp only
    rw [supportTakes]
    exact .takes (.subscription h) rfl held _

end Site

namespace System

open Bus (OnlyWaits)
open Site (SiteStep)

structure Sound (s : System K) : Prop where
  opened : ∀ ctx c, s.contexts.get? ctx = some c → ctx < s.nextContext
  tables : ∀ ctx c, s.contexts.get? ctx = some c → c.Sound

theorem soundFresh : Sound ({} : System K) :=
  ⟨fun _ _ found => (nomatch found), fun _ _ found => (nomatch found)⟩

def dismiss (b : Bus) (nodes : List NodeRecord) : Bus :=
  nodes.foldl (fun b n => b.leave n.participant) (nodes.foldl detachListeners b)

inductive Step (names : TypeSupport K → String → Prop) (b : Bus) (t : Table ContextId (Context K)) :
    Bus → Table ContextId (Context K) → Prop
  | idle {b' : Bus} (waits : OnlyWaits b b') : Step names b t b' t
  | opened {ctx : ContextId} {c : Context K} (new : t.get? ctx = none) (sound : c.Sound)
    (bare : ∀ h, c.nodes.find? h = none) (unstaked : ∀ ref, c.findEntry ref = none) :
    Step names b t b (t.insert ctx c)
  | closed {ctx : ContextId} {c : Context K} (known : t.get? ctx = some c) :
    Step names b t (dismiss b c.nodes.values) (t.erase ctx)
  | acted {ctx : ContextId} {c : Context K} {observed : List ConditionId} {s' : Site K}
    (known : t.get? ctx = some c) (siteStep : SiteStep names ⟨b, observed, c⟩ s') :
    Step names b t s'.bus (t.insert ctx s'.context)

variable {s : System K} {names : TypeSupport K → String → Prop}

theorem stepSound {b b' : Bus} {t t' : Table ContextId (Context K)} (h : Step names b t b' t')
    (start : ∀ ctx c, t.get? ctx = some c → c.Sound) : ∀ ctx c, t'.get? ctx = some c → c.Sound := by
  intro ctx c found
  cases h with
  | idle waits => exact start ctx c found
  | opened new sound bare unstaked =>
    rw [Table.getInsert] at found
    split at found
    · cases Option.some.inj found
      exact sound
    · exact start ctx c found
  | closed known =>
    rw [Table.getErase] at found
    split at found
    · cases found
    · exact start ctx c found
  | acted known siteStep =>
    rw [Table.getInsert] at found
    split at found
    · cases Option.some.inj found
      exact Site.siteStepSound siteStep (start _ _ known)
    · exact start ctx c found

def Steps (names : TypeSupport K → String → Prop) (s s' : System K) : Prop :=
  Step names s.bus s.contexts s'.bus s'.contexts ∧
    ∀ ctx c, s'.contexts.get? ctx = some c → ctx < s'.nextContext

theorem stepsNothing (sound : s.Sound) : Steps names s s :=
  ⟨.idle (.ofSignals (.refl _)), sound.opened⟩

theorem reportSteps {α : Type} {s' : System K} (operation : String) (result : Except Failure α)
    (h : Steps names s s') : Steps names s (s'.report operation result).1 := by
  cases result <;> exact h

theorem performSteps {α : Type} (sound : s.Sound) (ctx : ContextId) (operation : String)
    {call : Site K → Site K × Except Failure α}
    (siteStep : ∀ site : Site K, site.context.Sound → SiteStep names site (call site).1) :
    Steps names s (s.perform ctx operation call).1 := by
  unfold perform
  split
  · exact reportSteps operation _ (stepsNothing sound)
  · rename_i c known
    refine reportSteps operation _ ⟨.acted known (siteStep ⟨s.bus, s.observed, c⟩ (sound.tables ctx c known)),
      fun ctx' c' found => ?_⟩
    rw [Table.getInsert] at found
    split at found
    · rename_i own
      exact own ▸ sound.opened ctx c known
    · exact sound.opened ctx' c' found

theorem performRefused {α : Type} {ctx : ContextId} {c : Context K} (known : s.contexts.get? ctx = some c)
    {operation : String} {call : Site K → Site K × Except Failure α} {f : Failure}
    (refused : call ⟨s.bus, s.observed, c⟩ = (⟨s.bus, s.observed, c⟩, .error f)) :
    s.perform ctx operation call = (s.setError s!"{operation}: {f.message}", .error f) := by
  simp only [perform, known, refused, Table.insertSame known, report]

theorem initSteps (sound : s.Sound) (settings : Settings) : Steps names s (s.init settings).1 := by
  unfold init
  split
  · exact reportSteps "init" _ (stepsNothing sound)
  · have new : s.contexts.get? s.nextContext = none := Option.eq_none_iff_forall_ne_some.2
      fun c found => Nat.lt_irrefl _ (sound.opened _ c found)
    refine ⟨.opened new (Context.soundNew _ settings _) (fun h => ?_) (fun ref => ?_),
      fun ctx c found => ?_⟩
    · exact Arena.findNone fun _ _ there => by simp at there
    · cases ref <;>
        exact congrArg (Option.map _) (Arena.findNone fun _ _ there => by simp at there)
    · rw [Table.getInsert] at found
      split at found
      · rename_i own
        exact own ▸ Nat.lt_succ_self _
      · exact Nat.lt_succ_of_lt (sound.opened ctx c found)

theorem closeSteps (sound : s.Sound) (ctx : ContextId) : Steps names s (s.close ctx) := by
  unfold close
  split
  · exact stepsNothing sound
  · rename_i c known
    refine ⟨.closed known, fun ctx' c' found => ?_⟩
    rw [Table.getErase] at found
    split at found
    · cases found
    · exact sound.opened ctx' c' found

theorem collectKeeps {R : Bus → Bus → Prop} (refl : ∀ b, R b b) (trans : ∀ {a b c}, R a b → R b c → R a c)
    {ready : Bus → ConditionId → Bool × Bus} (keeps : ∀ b c, R b (ready b c).2) {kind : Kind}
    (slots : Slots kind) (b : Bus) : R b (collect ready b slots).2 := by
  induction slots generalizing b with
  | nil => exact refl b
  | cons slot rest ih =>
    cases slot with
    | none => exact ih b
    | some slot => exact trans (keeps b slot.2) (ih _)

theorem endWaitKeeps {R : Bus → Bus → Prop} (refl : ∀ b, R b b) (trans : ∀ {a b c}, R a b → R b c → R a c)
    (lowers : ∀ b c, R b (Bus.takeGuard b c).2) (drops : ∀ b ws, R b (b.dropWaitSet ws)) (s : System K)
    (t : Ticket) (expired : Bool) : R s.bus (s.endWait t expired).2.bus := by
  have subscriptions : R s.bus (collect (fun b c => (b.conditionValue c, b)) s.bus t.subscriptions).2 :=
    collectKeeps refl trans (fun b _ => refl b) t.subscriptions s.bus
  exact trans (trans subscriptions (collectKeeps refl trans lowers t.guards _)) (drops _ t.waitSet)

theorem turnWaits (s : System K) (t : Ticket) (now : Nat) :
    OnlyWaits s.bus (s.turn t now).2.bus ∧ (s.turn t now).2.contexts = s.contexts ∧
      (s.turn t now).2.nextContext = s.nextContext := by
  have polled := Bus.pollWaits s.bus t.waitSet
  unfold turn
  split <;> rename_i b eq <;> rw [eq] at polled <;> exact ⟨polled, rfl, rfl⟩

theorem endWaitWaits (s : System K) (t : Ticket) (expired : Bool) :
    OnlyWaits s.bus (s.endWait t expired).2.bus :=
  endWaitKeeps (fun b => .ofSignals (.refl b)) .trans Bus.takeGuardWaits Bus.dropWaitSetWaits s t expired

theorem turnSteps (sound : s.Sound) (t : Ticket) (now : Nat) : Steps names s (s.turn t now).2 := by
  obtain ⟨waits, contexts, next⟩ := turnWaits s t now
  unfold Steps
  rw [contexts, next]
  exact ⟨.idle waits, sound.opened⟩

variable [Catalog K] [DecidableEq K]

theorem serveSteps (sound : s.Sound) (call : Call K) : Steps call.Names s (s.serve call) := by
  cases call with
  | init settings => exact initSteps sound settings
  | close ctx => exact closeSteps sound ctx
  | createNode ctx name =>
    exact performSteps sound ctx _ fun _ tables => .aside (.addsNode (Site.createNodeAddsNode tables name))
  | destroyNode ctx h =>
    exact performSteps sound ctx _ fun _ tables => .aside (.removesNode (Site.destroyNodeRemovesNode tables h))
  | graphGuard ctx node =>
    refine performSteps sound ctx _ fun site tables => ?_
    rw [Site.graphGuardSame]
    exact .aside (Site.asideNothing tables)
  | topicNamesAndTypes | countPublishers | countSubscribers | publisherGid | compareGids =>
    exact performSteps sound _ _ fun _ tables => .aside (Site.asideNothing tables)
  | createGuard ctx => exact performSteps sound ctx _ fun _ tables => .aside (Site.createGuardAside tables)
  | triggerGuard ctx h =>
    exact performSteps sound ctx _ fun _ tables => .aside (Site.triggerGuardAside tables h)
  | destroyGuard ctx h =>
    exact performSteps sound ctx _ fun _ tables => .aside (Site.destroyGuardAside tables h)
  | createPublisher ctx node ts topic =>
    exact performSteps sound ctx _ fun _ tables =>
      .grants ⟨rfl, rfl⟩ (Site.createPublisherGrants tables node ts topic .standard)
  | destroyPublisher ctx h =>
    exact performSteps sound ctx _ fun _ tables => .releases (Site.destroyPublisherReleases tables h)
  | createSubscription ctx node ts topic size =>
    exact performSteps sound ctx _ fun _ tables =>
      .grants ⟨rfl, rfl⟩ (Site.createSubscriptionGrants tables node ts topic size)
  | destroySubscription ctx h =>
    exact performSteps sound ctx _ fun _ tables =>
      .releases (Site.destroySubscriptionReleases tables h)
  | publish ctx h m => exact performSteps sound ctx _ fun _ tables => Site.publishSiteStep tables h m
  | take ctx h slot => exact performSteps sound ctx _ fun _ tables => Site.takeSiteStep tables h slot
  | beginWait ctx clock timeout subscriptions guards =>
    exact performSteps sound ctx _ fun _ tables =>
      .aside (Site.beginWaitAside tables clock timeout subscriptions guards)
  | turn t now => exact turnSteps sound t now
  | endWait t expired => exact ⟨.idle (endWaitWaits s t expired), sound.opened⟩
  | setError text => exact stepsNothing sound
  | resetError => exact stepsNothing sound

theorem serveSound (sound : s.Sound) (call : Call K) : (s.serve call).Sound :=
  ⟨(serveSteps sound call).2, stepSound (serveSteps sound call).1 sound.tables⟩

theorem serveAllSound (sound : s.Sound) (calls : List (Call K)) : (s.serveAll calls).Sound := by
  induction calls generalizing s with
  | nil => exact sound
  | cons call rest ih => exact ih (serveSound sound call)

end System
end Databus.Middleware
