import Databus.Proofs.QueueLedger

/-! Every call keeps the ledger in agreement with the system, so after any calls it tells what is live, whether each
publication is granted and what each take brings. -/
namespace Databus.Middleware

variable {K : Type}

theorem performSplit {α : Type} (s : System K) (ctx : ContextId) (operation : String)
    (call : Site K → Site K × Except Failure α) :
    (s.contexts.get? ctx = none ∧ (s.perform ctx operation call).1.bus = s.bus ∧
      (s.perform ctx operation call).1.contexts = s.contexts ∧
      (s.perform ctx operation call).2.toOption = none) ∨
    ∃ c, s.contexts.get? ctx = some c ∧
      (s.perform ctx operation call).1.bus = (call ⟨s.bus, s.observed, c⟩).1.bus ∧
      (s.perform ctx operation call).1.contexts =
        s.contexts.insert ctx (call ⟨s.bus, s.observed, c⟩).1.context ∧
      (s.perform ctx operation call).2 = (call ⟨s.bus, s.observed, c⟩).2 := by
  unfold System.perform
  cases s.contexts.get? ctx with
  | none => exact .inl ⟨rfl, rfl, rfl, rfl⟩
  | some c =>
    refine .inr ⟨c, rfl, ?_⟩
    dsimp only
    cases (call ⟨s.bus, s.observed, c⟩).2 <;> exact ⟨rfl, rfl, rfl⟩

namespace LedgerHolds

variable {l : QueueLedger K}

theorem performAside {α : Type} {s : System K} (sound : s.Sound) (h : LedgerHolds s.bus (.of s.contexts) l)
    (ctx : ContextId) (operation : String) {call : Site K → Site K × Except Failure α}
    (siteStep : ∀ site : Site K, site.context.Sound → site.Aside (call site).1) :
    LedgerHolds (s.perform ctx operation call).1.bus (.of (s.perform ctx operation call).1.contexts) l := by
  rcases performSplit s ctx operation call with ⟨_, bus, contexts, _⟩ | ⟨c, known, bus, contexts, _⟩
  · rw [bus, contexts]
    exact h
  · rw [bus, contexts]
    exact h.aside known (siteStep ⟨s.bus, s.observed, c⟩ (sound.tables ctx c known))

theorem performKeeps {α : Type} {s : System K} (h : LedgerHolds s.bus (.of s.contexts) l) (ctx : ContextId)
    (operation : String) {call : Site K → Site K × Except Failure α} {l' : QueueLedger K}
    (unknown : s.contexts.get? ctx = none → l' = l)
    (keeps : ∀ c, s.contexts.get? ctx = some c → (call ⟨s.bus, s.observed, c⟩).1.context = c ∧
      LedgerHolds (call ⟨s.bus, s.observed, c⟩).1.bus (.of s.contexts) l') :
    LedgerHolds (s.perform ctx operation call).1.bus (.of (s.perform ctx operation call).1.contexts) l' := by
  rcases performSplit s ctx operation call with ⟨none, bus, contexts, _⟩ | ⟨c, known, bus, contexts, _⟩
  · rw [bus, contexts, unknown none]
    exact h
  · obtain ⟨same, ledgerHolds⟩ := keeps c known
    rw [bus, contexts, same, Directory.ofSame known (.refl c)]
    exact ledgerHolds

theorem waits {s : System K} (h : LedgerHolds s.bus (.of s.contexts) l) {b' : Bus}
    (waits : Bus.OnlyWaits s.bus b') : LedgerHolds b' (.of s.contexts) l := by
  have moves : Bus.Moves (Bus.Spare fun _ => True) s.bus b' := .waits waits
  exact h.keep moves (fun _ _ _ _ => trivial)
    (h.linked.retain (h.linked.membersAgree.waits waits) (.waits waits)) rfl rfl

theorem queueLimit (size : Nat) : (Site.queueHistory size).limit = some (QueueLedger.capacity size) := by
  unfold Site.queueHistory QueueLedger.capacity
  have large : 1 ≤ UInt32.size - 1 := by decide
  split
  · rename_i zero
    simp only [zero, History.standard, History.limit]
    rfl
  · simp only [History.limit, Option.some.injEq]
    omega

theorem initLedgerHolds {s : System K} (sound : s.Sound) (h : LedgerHolds s.bus (.of s.contexts) l)
    (settings : Settings) : LedgerHolds (s.init settings).1.bus (.of (s.init settings).1.contexts)
      (((s.init settings).2.toOption.map fun ctx => l.opened ctx settings.domain).getD l) := by
  unfold System.init
  split
  · exact h
  · have new : s.contexts.get? s.nextContext = none := Option.eq_none_iff_forall_ne_some.2
      fun c found => Nat.lt_irrefl _ (sound.opened _ c found)
    refine h.opening new (Context.soundNew _ settings _) (fun k => ?_) fun ref => ?_
    · exact Arena.findNone fun _ _ there => by simp at there
    · cases ref <;>
        exact congrArg (Option.map _) (Arena.findNone fun _ _ there => by simp at there)

theorem closeLedgerHolds {s : System K} (h : LedgerHolds s.bus (.of s.contexts) l) (ctx : ContextId) :
    LedgerHolds (s.close ctx).bus (.of (s.close ctx).contexts) (l.shut ctx) := by
  unfold System.close
  split
  · rename_i none
    exact h.absent none
  · rename_i c known
    exact h.closing known

theorem performGranted {s : System K} (sound : s.Sound) (h : LedgerHolds s.bus (.of s.contexts) l)
    (ctx : ContextId) (operation : String) {kind : Kind} (name : Handle kind → EndpointRef) {side : Side}
    {node : Handle .node} {ts : TypeSupport K} {topic : String} {history : History} {capacity : Nat}
    (limit : side = .subscription → history.limit = some capacity)
    {call : Site K → Site K × Except Failure (Handle kind)}
    (grants : ∀ site : Site K, site.context.Sound →
      site.Grants side node ts topic history (call site).1 ((call site).2.toOption.map name)) :
    LedgerHolds (s.perform ctx operation call).1.bus (.of (s.perform ctx operation call).1.contexts)
      (((s.perform ctx operation call).2.toOption.map fun k => l.enter ctx (name k) ts topic
        capacity).getD l) := by
  rcases performSplit s ctx operation call with
    ⟨_, bus, contexts, refused⟩ | ⟨c, known, bus, contexts, outcome⟩
  · rw [bus, contexts, refused]
    exact h
  · have granted := h.granting known limit (grants ⟨s.bus, s.observed, c⟩ (sound.tables ctx c known))
    rw [bus, contexts, outcome]
    rwa [Option.map_map] at granted

theorem performReleased {s : System K} (sound : s.Sound) (h : LedgerHolds s.bus (.of s.contexts) l)
    (ctx : ContextId) (operation : String) {kind : Kind} (name : Handle kind → EndpointRef) {side : Side}
    {k : Option (Handle kind)} {call : Site K → Site K × Except Failure Unit}
    (releases : ∀ site : Site K, site.context.Sound →
      site.Releases side ((call site).2.toOption.bind fun _ => k.map name) (call site).1) :
    LedgerHolds (s.perform ctx operation call).1.bus (.of (s.perform ctx operation call).1.contexts)
      ((((s.perform ctx operation call).2.toOption.bind fun _ => k).map fun k =>
        l.giveUp ctx (name k)).getD l) := by
  rcases performSplit s ctx operation call with
    ⟨_, bus, contexts, refused⟩ | ⟨c, known, bus, contexts, outcome⟩
  · rw [bus, contexts, refused]
    exact h
  · have released := h.releasing known (releases ⟨s.bus, s.observed, c⟩ (sound.tables ctx c known))
    rw [bus, contexts, outcome]
    cases k <;> simpa [Option.map_bind, Function.comp_def] using released

variable [Catalog K] [DecidableEq K]

theorem publishLedgerHolds {s : System K} (h : LedgerHolds s.bus (.of s.contexts) l) (ctx : ContextId)
    (k : Handle .publisher) (m : Message K) :
    LedgerHolds (s.publish ctx k m).1.bus (.of (s.publish ctx k m).1.contexts)
      (((l.line ctx (.publisher k)).bind fun p =>
        (p.encoded? m).map fun payload => l.post p payload).getD l) := by
  refine h.performKeeps ctx _ (fun unknown => ?_) fun c known => ?_
  · rw [h.lineUnknown unknown]
    rfl
  · cases line : l.line ctx (.publisher k) with
    | none =>
      obtain ⟨f, gone⟩ := Arena.getNone (Option.map_eq_none_iff.1 (h.unlined known line))
      simp only [Site.publish, gone, true_and]
      exact h
    | some p =>
      rcases h.publishing known s.observed line m with
        ⟨payload, b', encoded, done, posted⟩ | ⟨encoded, f, refused⟩
      · rw [done, Option.bind_some, encoded]
        exact ⟨rfl, posted⟩
      · rw [refused, Option.bind_some, encoded]
        exact ⟨rfl, h⟩

theorem takeLedgerHolds {s : System K} (h : LedgerHolds s.bus (.of s.contexts) l) (ctx : ContextId)
    (k : Handle .subscription) (slot : Option K) :
    LedgerHolds (s.take ctx k slot).1.bus (.of (s.take ctx k slot).1.contexts)
      (if (l.line ctx (.subscription k)).any (slot = some ·.carrier) then l.advance ctx k else l) := by
  refine h.performKeeps ctx _ (fun unknown => ?_) fun c known => ?_
  · rw [h.lineUnknown unknown]
    rfl
  · cases line : l.line ctx (.subscription k) with
    | none =>
      obtain ⟨f, gone⟩ := Arena.getNone (Option.map_eq_none_iff.1 (h.unlined known line))
      simp only [Site.take, gone, true_and]
      exact h
    | some p =>
      obtain ⟨context, _, ledgerHolds⟩ := h.taking known s.observed line slot
      exact ⟨context, by simpa using ledgerHolds⟩

theorem serve {s : System K} (sound : s.Sound) (h : LedgerHolds s.bus (.of s.contexts) l) (call : Call K) :
    LedgerHolds (s.serve call).bus (.of (s.serve call).contexts) (l.serve s call) := by
  cases call with
  | init settings => exact h.initLedgerHolds sound settings
  | close ctx => exact h.closeLedgerHolds ctx
  | createNode ctx name =>
    exact h.performAside sound ctx _ fun _ tables => .addsNode (Site.createNodeAddsNode tables name)
  | destroyNode ctx k =>
    exact h.performAside sound ctx _ fun _ tables => .removesNode (Site.destroyNodeRemovesNode tables k)
  | graphGuard ctx node =>
    refine h.performAside sound ctx _ fun site tables => ?_
    rw [Site.graphGuardSame]
    exact Site.asideNothing tables
  | topicNamesAndTypes | countPublishers | countSubscribers | publisherGid | compareGids =>
    exact h.performAside sound _ _ fun _ tables => Site.asideNothing tables
  | createGuard ctx => exact h.performAside sound ctx _ fun _ tables => Site.createGuardAside tables
  | triggerGuard ctx k =>
    exact h.performAside sound ctx _ fun _ tables => Site.triggerGuardAside tables k
  | destroyGuard ctx k =>
    exact h.performAside sound ctx _ fun _ tables => Site.destroyGuardAside tables k
  | createPublisher ctx node ts topic =>
    have queueless : Side.publication = .subscription → History.standard.limit = some 0 :=
      fun own => (nomatch own)
    exact h.performGranted sound ctx _ EndpointRef.publisher queueless fun _ tables =>
      Site.createPublisherGrants tables node ts topic .standard
  | destroyPublisher ctx k =>
    exact h.performReleased sound ctx _ EndpointRef.publisher fun _ tables =>
      Site.destroyPublisherReleases tables k
  | createSubscription ctx node ts topic size =>
    exact h.performGranted sound ctx _ EndpointRef.subscription (fun _ => queueLimit size) fun _ tables =>
      Site.createSubscriptionGrants tables node ts topic size
  | destroySubscription ctx k =>
    exact h.performReleased sound ctx _ EndpointRef.subscription fun _ tables =>
      Site.destroySubscriptionReleases tables k
  | publish ctx k m => exact h.publishLedgerHolds ctx k m
  | take ctx k slot => exact h.takeLedgerHolds ctx k slot
  | beginWait ctx clock timeout subscriptions guards =>
    exact h.performAside sound ctx _ fun _ tables =>
      Site.beginWaitAside tables clock timeout subscriptions guards
  | turn ticket now =>
    obtain ⟨waits, contexts, _⟩ := System.turnWaits s ticket now
    simp only [System.serve, QueueLedger.serve, contexts]
    exact h.waits waits
  | endWait ticket expired => exact h.waits (System.endWaitWaits s ticket expired)
  | setError text => exact h
  | resetError => exact h

theorem serveAll {s : System K} (sound : s.Sound) (h : LedgerHolds s.bus (.of s.contexts) l)
    (calls : List (Call K)) : LedgerHolds (s.serveAll calls).bus (.of (s.serveAll calls).contexts)
      (l.serveAll s calls) := by
  induction calls generalizing s l with
  | nil => exact h
  | cons call rest ih => exact ih (System.serveSound sound call) (h.serve sound call)

end LedgerHolds

structure Refines [Catalog K] [DecidableEq K] (s : System K) (l : QueueLedger K) : Prop where
  lines : ∀ ctx ref p, l.line ctx ref = some p ↔
    ∃ c r, s.contexts.get? ctx = some c ∧ c.findEntry ref = some r ∧
      p = ⟨c.settings.domain, r.topic.name, qualifiedName r.support.package r.support.message,
        r.support.carrier⟩
  queues : ∀ ctx h r, s.Holds ctx (.subscription h) r →
    ∃ y, s.bus.readers.get? r.endpoint = some y ∧ y.Mirrors (l.queue ctx h)
  publish : ∀ ctx h p m, l.line ctx (.publisher h) = some p →
    ((s.publish ctx h m).2 = .ok () ↔ (p.encoded? m).isSome)
  refused : ∀ ctx h m f, (s.publish ctx h m).2 = .error f → l.serve s (.publish ctx h m) = l
  take : ∀ ctx h p slot, l.line ctx (.subscription h) = some p →
    (s.take ctx h slot).2 = p.taken (l.queue ctx h) slot

variable [Catalog K] [DecidableEq K] {s : System K} {l : QueueLedger K}

namespace LedgerHolds

theorem publishExact (h : LedgerHolds s.bus (.of s.contexts) l) {ctx : ContextId} {k : Handle .publisher}
    {p : LedgerLine K} (line : l.line ctx (.publisher k) = some p) (m : Message K) :
    (s.publish ctx k m).2 = .ok () ↔ (p.encoded? m).isSome := by
  obtain ⟨c, _, known, _⟩ := h.linesExact.1 line
  unfold System.publish
  rcases performSplit s ctx "publish" (Site.publish · k m) with
    ⟨unknown, _⟩ | ⟨c', known', _, _, outcome⟩
  · exact nomatch unknown.symm.trans known
  · rw [outcome]
    rcases h.publishing known' s.observed line m with
      ⟨payload, _, encoded, done, _⟩ | ⟨encoded, f, refused⟩
    · simp only [done, encoded, Option.isSome_some]
    · simp only [refused, encoded, reduceCtorEq, Option.isSome_none, Bool.false_eq_true]

theorem takeExact (h : LedgerHolds s.bus (.of s.contexts) l) {ctx : ContextId} {k : Handle .subscription}
    {p : LedgerLine K} (line : l.line ctx (.subscription k) = some p) (slot : Option K) :
    (s.take ctx k slot).2 = p.taken (l.queue ctx k) slot := by
  obtain ⟨c, _, known, _⟩ := h.linesExact.1 line
  unfold System.take
  rcases performSplit s ctx "take" (Site.take · k slot) with
    ⟨unknown, _⟩ | ⟨c', known', _, _, outcome⟩
  · exact nomatch unknown.symm.trans known
  · rw [outcome]
    exact (h.taking known' s.observed line slot).2.1

theorem refusedIdle (h : LedgerHolds s.bus (.of s.contexts) l) {ctx : ContextId} {k : Handle .publisher}
    {m : Message K} {f : Failure} (refused : (s.publish ctx k m).2 = .error f) :
    l.serve s (.publish ctx k m) = l := by
  simp only [QueueLedger.serve]
  cases line : l.line ctx (.publisher k) with
  | none => rfl
  | some p =>
    cases encoded : p.encoded? m with
    | none => rw [Option.bind_some, encoded, Option.map_none, Option.getD_none]
    | some payload =>
      have granted := (h.publishExact line m).2 (by rw [encoded, Option.isSome_some])
      cases granted.symm.trans refused

theorem refines (h : LedgerHolds s.bus (.of s.contexts) l) : Refines s l where
  lines _ _ _ := h.linesExact
  queues ctx k r holds := h.queue ctx k r (holdsEntry.1 holds)
  publish _ _ _ m line := h.publishExact line m
  refused _ _ _ _ refused := h.refusedIdle refused
  take _ _ _ slot line := h.takeExact line slot

end LedgerHolds

/-- After any calls, every subscription holds its queue, and publishing and taking are what the ledger makes of
them. -/
theorem queuesRefine (calls : List (Call K)) :
    Refines (({} : System K).serveAll calls) (({} : QueueLedger K).serveAll {} calls) :=
  (LedgerHolds.serveAll System.soundFresh .fresh calls).refines

example : (({} : QueueLedger ExampleCarrier).serveAll {} [.init {}, .createNode 1 "node",
    .createPublisher 1 ⟨implementationIdentifier, 1, 0, 0⟩ (.of .blob) "chatter",
    .createSubscription 1 ⟨implementationIdentifier, 1, 0, 0⟩ (.of .blob) "chatter" 0,
    .publish 1 ⟨implementationIdentifier, 1, 0, 0⟩ (.of .blob [1]),
    .publish 1 ⟨implementationIdentifier, 1, 0, 0⟩ (.of .blob [2])]).queue 1
      ⟨implementationIdentifier, 1, 0, 0⟩ = ⟨1, [[2]]⟩ := by
  decide +kernel

end Databus.Middleware
