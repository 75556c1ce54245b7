import Databus.Proofs.EndpointCount
import Databus.Proofs.WaitReadiness
import Databus.Proofs.LedgerRefinement

/-! What a refused call leaves behind: everything as it was, or what it had put up taken down again. Twenty calls come
to four ways, and to a fifth where a take has come upon a sample that it cannot decode. -/
namespace Databus.Middleware

variable {K : Type}

theorem Arena.insertLive {kind : Kind} {α : Type} {a a' : Arena kind α} {v : α} {h : Handle kind}
    (ok : a.insert v = .ok (h, a')) : a'.live = a.live + 1 := by
  unfold insert at ok
  split at ok
  · cases ok
  · split at ok
    · cases ok
      rfl
    · split at ok
      · cases ok
      · cases ok
        rfl

theorem Arena.removeLive {kind : Kind} {α : Type} {a a' : Arena kind α} {v : α} {h : Handle kind}
    (ok : a.remove h = .ok (v, a')) : a'.live = a.live - 1 := by
  unfold remove at ok
  split at ok
  · cases ok
  · cases ok
    rfl

structure Arena.Stands {kind : Kind} {α : Type} (a a' : Arena kind α) : Prop where
  live : a'.live = a.live
  get : ∀ h, a'.get h = a.get h

theorem Arena.standsFind {kind : Kind} {α : Type} {a a' : Arena kind α} (live : a'.live = a.live)
    (context : a'.context = a.context) (find : ∀ h, a'.find? h = a.find? h) : a.Stands a' :=
  ⟨live, fun h => by simp only [Arena.get, find, stale, context]⟩

namespace Site

variable {s : Site K}

inductive Undone (s : Site K) : Site K → Prop
  | idle : Undone s s
  | guard : Undone s { s with bus := s.bus.request .newGuard }
  | nodeCreation {name : String} {n : NodeRecord} {b : Bus} {nodes : Arena .node NodeRecord}
    (joined : joinNode s.bus name s.context.settings.domain = .ok (n, b)) (stands : s.context.nodes.Stands nodes) :
    Undone s { s with bus := b.leave n.participant, context := { s.context with nodes := nodes } }
  | grants {side : Side} {node : Handle .node} {ts : TypeSupport K} {topic : String} {history : History}
    {s' : Site K} (how : s.Grants side node ts topic history s' none) : Undone s s'

theorem createNodeUndone (sound : s.context.Sound) {name : String} {f : Failure}
    (failed : (s.createNode name).2 = .error f) : s.Undone (s.createNode name).1 := by
  unfold createNode at failed ⊢
  split
  · exact .idle
  · rename_i named
    split
    · exact .idle
    · rename_i n b joined
      rw [if_neg named, joined] at failed
      dsimp only at failed
      split
      · exact .nodeCreation joined ⟨rfl, fun _ => rfl⟩
      · rename_i h nodes inserted
        rw [inserted] at failed
        dsimp only at failed
        split
        · rename_i g guards guarded
          rw [guarded] at failed
          cases failed
        · -- the node that had got its handle gives it back
          obtain ⟨sound', context, fresh, find⟩ := Arena.insertFind sound.nodes inserted
          have found : nodes.find? h = some n := (find h).trans (if_pos rfl)
          obtain ⟨nodes', removed⟩ := Arena.removeRuns found
          obtain ⟨_, context', _, find'⟩ := Arena.removeFind sound' removed
          dsimp only
          rw [detachLeave, removed]
          refine .nodeCreation joined (Arena.standsFind ?_ (context'.trans context) fun h' => (find' h').trans ?_)
          · rw [Arena.removeLive removed, Arena.insertLive inserted, Nat.add_sub_cancel]
          · rw [find]
            split
            · rename_i own
              rw [own, fresh]
            · rfl

theorem destroyNodeUndone (sound : s.context.Sound) {h : Option (Handle .node)} {f : Failure}
    (failed : (s.destroyNode h).2 = .error f) : s.Undone (s.destroyNode h).1 := by
  have removesNode := destroyNodeRemovesNode sound h
  rw [failed] at removesNode
  generalize (s.destroyNode h).1 = s' at removesNode ⊢
  cases removesNode
  exact .idle

theorem createGuardUndone {f : Failure} (failed : s.createGuard.2 = .error f) : s.Undone s.createGuard.1 := by
  unfold createGuard at failed ⊢
  dsimp only at failed ⊢
  split
  · exact .guard
  · rename_i inserted
    rw [inserted] at failed
    cases failed

theorem triggerGuardRefused {h : Handle .guardCondition} {f : Failure} (failed : (s.triggerGuard h).2 = .error f) :
    (s.triggerGuard h).1 = s := by
  unfold triggerGuard at failed ⊢
  split
  · rfl
  · rename_i got
    rw [got] at failed
    cases failed

theorem destroyGuardUndone {h : Option (Handle .guardCondition)} {f : Failure}
    (failed : (s.destroyGuard h).2 = .error f) : s.Undone (s.destroyGuard h).1 := by
  unfold destroyGuard at failed ⊢
  split
  · exact .idle
  · rename_i k given
    rw [given] at failed
    dsimp only at failed
    split
    · exact .idle
    · exact .idle
    · rename_i got
      rw [got] at failed
      dsimp only at failed
      split
      · exact .idle
      · rename_i removed
        rw [removed] at failed
        cases failed

theorem createPublisherUndone (sound : s.context.Sound) {node : Handle .node} {ts : TypeSupport K} {topic : String}
    {f : Failure} (failed : (s.createPublisher node ts topic).2 = .error f) :
    s.Undone (s.createPublisher node ts topic).1 := by
  have grants := createPublisherGrants sound node ts topic .standard
  rw [failed] at grants
  exact .grants grants

theorem createSubscriptionUndone (sound : s.context.Sound) {node : Handle .node} {ts : TypeSupport K}
    {topic : String} {size : Nat} {f : Failure} (failed : (s.createSubscription node ts topic size).2 = .error f) :
    s.Undone (s.createSubscription node ts topic size).1 := by
  have grants := createSubscriptionGrants sound node ts topic size
  rw [failed] at grants
  exact .grants grants

theorem destroyPublisherUndone (sound : s.context.Sound) {h : Option (Handle .publisher)} {f : Failure}
    (failed : (s.destroyPublisher h).2 = .error f) : s.Undone (s.destroyPublisher h).1 := by
  have releases := destroyPublisherReleases sound h
  rw [failed] at releases
  generalize (s.destroyPublisher h).1 = s' at releases ⊢
  cases releases
  exact .idle

theorem destroySubscriptionUndone (sound : s.context.Sound) {h : Option (Handle .subscription)} {f : Failure}
    (failed : (s.destroySubscription h).2 = .error f) : s.Undone (s.destroySubscription h).1 := by
  have releases := destroySubscriptionReleases sound h
  rw [failed] at releases
  generalize (s.destroySubscription h).1 = s' at releases ⊢
  cases releases
  exact .idle

theorem beginWaitUndone {clock : Clock} {timeout : Timeout} {subscriptions : List (Option (Handle .subscription))}
    {guards : List (Option (Handle .guardCondition))} {f : Failure}
    (failed : (s.beginWait clock timeout subscriptions guards).2 = .error f) :
    s.Undone (s.beginWait clock timeout subscriptions guards).1 := by
  rcases beginWaitOpens s clock timeout subscriptions guards with ⟨f', refused⟩ | ⟨t, s', ok, _⟩
  · rw [refused]
    exact .idle
  · rw [ok] at failed
    cases failed

variable [Catalog K] [DecidableEq K]

theorem publishUndone {h : Handle .publisher} {m : Message K} {f : Failure}
    (failed : (s.publish h m).2 = .error f) : s.Undone (s.publish h m).1 := by
  unfold publish at failed ⊢
  split
  · exact .idle
  · rename_i got
    rw [got] at failed
    dsimp only at failed
    split
    · exact .idle
    · rename_i published
      rw [published] at failed
      cases failed

theorem takeFails {h : Handle .subscription} {r : SubscriptionRecord K} {y : Reader} {q : Queue}
    (found : s.context.subscriptions.find? h = some r) (reader : s.bus.readers.get? r.reader = some y)
    (mirrors : y.Mirrors q) {slot : Option K} {f : Failure} (failed : (s.take h slot).2 = .error f) :
    (slot ≠ some r.support.carrier ∧ (s.take h slot).1 = s) ∨ slot = some r.support.carrier ∧
      (s.take h slot).1 = { s with bus := (s.bus.take r.reader).2 } ∧ ∃ sample rest payload,
        y.mailbox.samples = sample :: rest ∧ sample.payload = some payload ∧
          Catalog.decode r.support.carrier payload = .error f := by
  have next := LedgerHolds.nextPayloadFirst reader mirrors (TypeSupport.unread s.bus r.reader)
  simp only [take, Arena.getExact.2 found, TypeSupport.take] at failed ⊢
  by_cases fitting : slot = some r.support.carrier
  · simp only [if_pos fitting, next] at failed ⊢
    cases there : q.content with
    | nil =>
      rw [there] at failed
      cases failed
    | cons payload later =>
      rw [there] at failed
      dsimp only [List.head?_cons] at failed ⊢
      have content := mirrors.content
      rw [there] at content
      obtain ⟨sample, rest, front, carries, _⟩ := List.map_eq_cons_iff.1 content
      cases decoded : Catalog.decode r.support.carrier payload with
      | ok value =>
        rw [decoded] at failed
        cases failed
      | error reason =>
        rw [decoded] at failed
        cases failed
        exact .inr ⟨fitting, rfl, sample, rest, payload, front, carries, decoded⟩
  · rw [if_neg fitting]
    exact .inl ⟨fitting, rfl⟩

end Site

namespace System

def refused {α : Type} : Except Failure α → Option Failure
  | .error f => some f
  | .ok _ => none

theorem refusedExact {α : Type} {result : Except Failure α} {f : Failure} :
    refused result = some f ↔ result = .error f := by
  cases result <;> simp [refused]

section Takes

variable [Catalog K]

inductive Undecodable (s : System K) : Call K → ContextId → Handle .subscription → Prop
  | take {ctx : ContextId} {c : Context K} {h : Handle .subscription} {r : SubscriptionRecord K} {y : Reader}
    {sample : Sample} {rest : List Sample} {payload : Octets} {f : Failure} (known : s.contexts.get? ctx = some c)
    (found : c.subscriptions.find? h = some r) (reader : s.bus.readers.get? r.reader = some y)
    (front : y.mailbox.samples = sample :: rest) (carries : sample.payload = some payload)
    (fails : Catalog.decode r.support.carrier payload = .error f) :
    Undecodable s (.take ctx h (some r.support.carrier)) ctx h

theorem Undecodable.takes {s : System K} {call : Call K} {ctx : ContextId} {h : Handle .subscription}
    (undecodable : s.Undecodable call ctx h) : ∃ slot, call = .take ctx h slot := by
  cases undecodable with
  | take => exact ⟨_, rfl⟩

inductive Left (s : System K) (call : Call K) (s' : System K) : Prop
  | alone (intact : ∀ ctx h, ¬ s.Undecodable call ctx h) (bus : s'.bus = s.bus) (contexts : s'.contexts = s.contexts)
  | acted {ctx : ContextId} {c : Context K} {site : Site K} (intact : ∀ ctx h, ¬ s.Undecodable call ctx h)
    (known : s.contexts.get? ctx = some c) (undone : Site.Undone ⟨s.bus, s.observed, c⟩ site)
    (bus : s'.bus = site.bus) (contexts : s'.contexts = s.contexts.insert ctx site.context)
  | drew {ctx : ContextId} {c : Context K} {h : Handle .subscription} {r : SubscriptionRecord K}
    (garbled : s.Undecodable call ctx h) (known : s.contexts.get? ctx = some c)
    (found : c.subscriptions.find? h = some r) (bus : s'.bus = (s.bus.take r.reader).2)
    (contexts : s'.contexts = s.contexts.insert ctx c)

end Takes

variable {s : System K} [Catalog K]

theorem performLeft {α : Type} (sound : s.Sound) {call : Call K} (intact : ∀ ctx h, ¬ s.Undecodable call ctx h)
    {ctx : ContextId} {operation : String} {f : Site K → Site K × Except Failure α} {reason : Failure}
    (failed : refused (s.perform ctx operation f).2 = some reason)
    (undone : ∀ site : Site K, site.context.Sound → (f site).2 = .error reason → site.Undone (f site).1) :
    s.Left call (s.perform ctx operation f).1 := by
  rcases performSplit s ctx operation f with ⟨_, bus, contexts, _⟩ | ⟨c, known, bus, contexts, outcome⟩
  · exact .alone intact bus contexts
  · have done := undone _ (sound.tables ctx c known) (outcome.symm.trans (refusedExact.1 failed))
    exact .acted intact known done bus contexts

variable [DecidableEq K]

theorem takeLeft {l : QueueLedger K} (books : LedgerHolds s.bus (.of s.contexts) l) {ctx : ContextId}
    {h : Handle .subscription} {slot : Option K} {reason : Failure}
    (failed : refused (s.take ctx h slot).2 = some reason) : s.Left (.take ctx h slot) (s.take ctx h slot).1 := by
  unfold System.take at failed ⊢
  rcases performSplit s ctx "take" (Site.take · h slot) with
    ⟨unknown, bus, contexts, _⟩ | ⟨c, known, bus, contexts, outcome⟩
  · refine .alone (fun _ _ undecodable => ?_) bus contexts
    cases undecodable with
    | take known =>
      rw [unknown] at known
      cases known
  rw [refusedExact, outcome] at failed
  cases found : c.subscriptions.find? h with
  | none =>
    obtain ⟨_, gone⟩ := Arena.getNone found
    have idle : (Site.take ⟨s.bus, s.observed, c⟩ h slot).1 = ⟨s.bus, s.observed, c⟩ := by
      simp only [Site.take, gone]
    rw [idle] at bus contexts
    refine .acted (fun _ _ undecodable => ?_) known .idle bus contexts
    cases undecodable with
    | take known' found' =>
      cases Option.some.inj (known.symm.trans known')
      rw [found] at found'
      cases found'
  | some r =>
    obtain ⟨y, reader, mirrors⟩ := books.queue ctx h _ (Directory.ofSubscription known found)
    rcases Site.takeFails found reader mirrors failed with
      ⟨unfit, idle⟩ | ⟨rfl, drawn, sample, rest, payload, front, carries, fails⟩
    · rw [idle] at bus contexts
      refine .acted (fun _ _ undecodable => ?_) known .idle bus contexts
      cases undecodable with
      | take known' found' =>
        cases Option.some.inj (known.symm.trans known')
        cases Option.some.inj (found.symm.trans found')
        exact unfit rfl
    · rw [drawn] at bus contexts
      exact .drew (.take known found reader front carries fails) known found bus contexts

def refusal (s : System K) : Call K → Option Failure
  | .init settings => refused (s.init settings).2
  | .createNode ctx name => refused (s.createNode ctx name).2
  | .destroyNode ctx h => refused (s.destroyNode ctx h).2
  | .graphGuard ctx node => refused (s.graphGuard ctx node).2
  | .topicNamesAndTypes ctx node => refused (s.topicNamesAndTypes ctx node).2
  | .countPublishers ctx node topic => refused (s.countPublishers ctx node topic).2
  | .countSubscribers ctx node topic => refused (s.countSubscribers ctx node topic).2
  | .createGuard ctx => refused (s.createGuard ctx).2
  | .triggerGuard ctx h => refused (s.triggerGuard ctx h).2
  | .destroyGuard ctx h => refused (s.destroyGuard ctx h).2
  | .createPublisher ctx node ts topic => refused (s.createPublisher ctx node ts topic).2
  | .destroyPublisher ctx h => refused (s.destroyPublisher ctx h).2
  | .publisherGid ctx h => refused (s.publisherGid ctx h).2
  | .compareGids ctx g g' => refused (s.compareGids ctx g g').2
  | .createSubscription ctx node ts topic size => refused (s.createSubscription ctx node ts topic size).2
  | .destroySubscription ctx h => refused (s.destroySubscription ctx h).2
  | .publish ctx h m => refused (s.publish ctx h m).2
  | .take ctx h slot => refused (s.take ctx h slot).2
  | .beginWait ctx clock timeout subscriptions guards =>
    refused (s.beginWait ctx clock timeout subscriptions guards).2
  | .close _ | .turn _ _ | .endWait _ _ | .setError _ | .resetError => none

omit [DecidableEq K] in
theorem initLeft {settings : Settings} {f : Failure} (failed : refused (s.init settings).2 = some f) :
    s.Left (.init settings) (s.init settings).1 := by
  unfold init at failed ⊢
  split
  · exact .alone (fun _ _ undecodable => nomatch undecodable) rfl rfl
  · rename_i valid
    rw [valid] at failed
    cases failed

theorem serveLeft (sound : s.Sound) {l : QueueLedger K} (books : LedgerHolds s.bus (.of s.contexts) l) {call : Call K}
    {f : Failure} (failed : s.refusal call = some f) : s.Left call (s.serve call) := by
  have plain (other : ∀ ctx h slot, call ≠ .take ctx h slot) (ctx : ContextId) (h : Handle .subscription) :
      ¬ s.Undecodable call ctx h := fun undecodable => by
    obtain ⟨slot, own⟩ := undecodable.takes
    exact other ctx h slot own
  cases call with
  | init settings => exact initLeft failed
  | createNode ctx name => exact performLeft sound (plain nofun) failed fun _ tables => Site.createNodeUndone tables
  | destroyNode ctx h => exact performLeft sound (plain nofun) failed fun _ tables => Site.destroyNodeUndone tables
  | graphGuard ctx node =>
    refine performLeft sound (plain nofun) failed fun site _ _ => ?_
    rw [Site.graphGuardSame]
    exact .idle
  | topicNamesAndTypes | countPublishers | countSubscribers | publisherGid | compareGids =>
    exact performLeft sound (plain nofun) failed fun _ _ _ => .idle
  | createGuard ctx => exact performLeft sound (plain nofun) failed fun _ _ => Site.createGuardUndone
  | triggerGuard ctx h =>
    refine performLeft sound (plain nofun) failed fun _ _ refused => ?_
    rw [Site.triggerGuardRefused refused]
    exact .idle
  | destroyGuard ctx h => exact performLeft sound (plain nofun) failed fun _ _ => Site.destroyGuardUndone
  | createPublisher ctx node ts topic =>
    exact performLeft sound (plain nofun) failed fun _ tables => Site.createPublisherUndone tables
  | destroyPublisher ctx h =>
    exact performLeft sound (plain nofun) failed fun _ tables => Site.destroyPublisherUndone tables
  | createSubscription ctx node ts topic size =>
    exact performLeft sound (plain nofun) failed fun _ tables => Site.createSubscriptionUndone tables
  | destroySubscription ctx h =>
    exact performLeft sound (plain nofun) failed fun _ tables => Site.destroySubscriptionUndone tables
  | publish ctx h m => exact performLeft sound (plain nofun) failed fun _ _ => Site.publishUndone
  | take ctx h slot => exact takeLeft books failed
  | beginWait ctx clock timeout subscriptions guards =>
    exact performLeft sound (plain nofun) failed fun _ _ => Site.beginWaitUndone
  | close | turn | endWait | setError | resetError => cases failed

end System
end Databus.Middleware
