import Databus.Proofs.ContextConditions
import Databus.Proofs.WaitBeginning

/-! What a wait reports. While it blocks other calls run, but the conditions it claimed keep to their readers and stay
guards, so as it collects them a subscription is ready exactly if a sample is unread. -/
namespace Databus

open Bus (OnlyWaits)

theorem Trigger.enableListens {t : Trigger} {mask : StatusMask} {shown : Bool}
    (shows : (t.enable mask).shows = some shown) : (t.enable mask).setting = some mask := by
  cases t with
  | guard raised => cases shows
  | status enabled active => rfl

theorem Bus.unreadShown {b b' : Bus} (statusesAgree : b'.StatusesAgree) (evolves : b.Evolves b') {r : InstanceHandle}
    {x : Reader} (found : b.readers.get? r = some x) {t : Trigger} (there : b.trigger? x.condition = some t)
    (listens : t.setting = some .dataAvailable) :
    b'.conditionValue x.condition = decide (0 < Middleware.TypeSupport.unread b' r) := by
  obtain ⟨x', found', condition⟩ := evolves.readers r x found
  obtain ⟨now, there', tends⟩ := evolves.triggers _ t there
  obtain ⟨_, known, shown⟩ := statusesAgree.shown r x' found'
  rw [condition, there'] at known
  cases known
  have value : now.value = x'.waiting := Trigger.valueShown (tends.listens listens) shown
  simp only [conditionTrigger, there', Option.any_some, value, Middleware.TypeSupport.unread, found',
    Mailbox.unread, Reader.waiting]
  cases x'.mailbox.samples <;> rfl

namespace Middleware

variable {K : Type}

/-! ### Collecting -/

def Arena.conditionsOf {kind : Kind} {α : Type} (arena : Arena kind α) (condition : α → ConditionId)
    (handles : List (Option (Handle kind))) : List ConditionId :=
  handles.filterMap fun slot => slot.bind fun h => (arena.find? h).map condition

namespace Slots

def kept {kind : Kind} (b : Bus) (slots : Slots kind) : List (Option (Handle kind)) :=
  slots.map fun slot => (slot.filter fun p => b.conditionValue p.2).map Prod.fst

variable {kind : Kind} {α : Type} {arena : Arena kind α} {condition : α → ConditionId}
  {handles : List (Option (Handle kind))} {slots : Slots kind}

theorem keptFilled (filled : Site.Filled arena condition handles slots) (b : Bus) :
    slots.kept b = handles.map (Option.filter fun h =>
      (arena.find? h).any fun a => b.conditionValue (condition a)) := by
  rw [kept, ← filled.listed, List.map_map]
  refine List.map_congr_left fun slot mem => ?_
  cases slot with
  | none => rfl
  | some p =>
    obtain ⟨a, found, own⟩ := filled.held p.1 p.2 mem
    simp only [Function.comp_apply, Option.map_some, Option.filter_some, found, Option.any_some, own]
    split <;> rfl

theorem conditionsFilled (filled : Site.Filled arena condition handles slots) :
    slots.conditions = arena.conditionsOf condition handles := by
  have same : slots.map (Option.map Prod.snd) = slots.map fun slot =>
      (slot.map Prod.fst).bind fun h => (arena.find? h).map condition := by
    refine List.map_congr_left fun slot mem => ?_
    cases slot with
    | none => rfl
    | some p =>
      obtain ⟨a, found, own⟩ := filled.held p.1 p.2 mem
      simp only [Option.map_some, Option.bind_some, found, own]
  calc slots.conditions
    _ = (slots.map (Option.map Prod.snd)).filterMap id := by
      rw [List.filterMap_map]
      rfl
    _ = slots.filterMap fun slot =>
        (slot.map Prod.fst).bind fun h => (arena.find? h).map condition := by
      rw [same, List.filterMap_map]
      rfl
    _ = arena.conditionsOf condition handles := by
      rw [Arena.conditionsOf, ← filled.listed, List.filterMap_map]
      rfl

theorem collectShown (b : Bus) (slots : Slots kind) :
    System.collect (fun b c => (b.conditionValue c, b)) b slots = (slots.kept b, b) := by
  induction slots with
  | nil => rfl
  | cons slot rest ih =>
    cases slot with
    | none =>
      rw [System.collect, ih]
      rfl
    | some p =>
      obtain ⟨h, c⟩ := p
      simp only [System.collect, ih, kept, List.map_cons, Option.filter_some]
      split <;> rfl

theorem keptSame {b b' : Bus} (same : ∀ c ∈ slots.conditions, b'.trigger? c = b.trigger? c) :
    slots.kept b' = slots.kept b := by
  refine List.map_congr_left fun slot mem => ?_
  cases slot with
  | none => rfl
  | some p =>
    have value : b'.conditionValue p.2 = b.conditionValue p.2 := by
      rw [Bus.conditionTrigger, same p.2 (Site.memConditions.2 ⟨p.1, mem⟩), Bus.conditionTrigger]
    simp only [Option.filter_some, value]

theorem collectGuards {b : Bus} {slots : Slots kind} (nodup : slots.conditions.Nodup)
    (guards : ∀ c ∈ slots.conditions, ∃ raised, b.trigger? c = some (.guard raised)) :
    (System.collect Bus.takeGuard b slots).1 = slots.kept b ∧
      ∀ k, (System.collect Bus.takeGuard b slots).2.trigger? k =
        (b.trigger? k).map (if k ∈ slots.conditions then .assign false else id) := by
  induction slots generalizing b with
  | nil => exact ⟨rfl, fun k => (Option.map_id_apply ..).symm⟩
  | cons slot rest ih =>
    cases slot with
    | none =>
      obtain ⟨kept, triggers⟩ := ih nodup guards
      exact ⟨congrArg (none :: ·) kept, triggers⟩
    | some p =>
      obtain ⟨h, c⟩ := p
      obtain ⟨new, nodup'⟩ := List.nodup_cons.1 nodup
      obtain ⟨raised, there⟩ := guards c List.mem_cons_self
      have lowered := (Bus.takeGuardAdjusts b c).2
      have others {k : ConditionId} (mem : k ∈ Slots.conditions rest) :
          (b.takeGuard c).2.trigger? k = b.trigger? k :=
        (lowered k).trans (if_neg fun own : k = c => new (own ▸ mem))
      obtain ⟨kept, triggers⟩ := ih (b := (b.takeGuard c).2) nodup' fun k mem =>
        others mem ▸ guards k (List.mem_cons_of_mem _ mem)
      have value : b.conditionValue c = raised := by
        rw [Bus.conditionTrigger, there]
        rfl
      refine ⟨?_, fun k => ?_⟩
      · simp only [System.collect, Bus.takeGuardValue there, kept, keptSame fun k mem => others mem]
        simp only [Slots.kept, List.map_cons, Option.filter_some, value]
        cases raised <;> rfl
      · have first : Slots.conditions (some (h, c) :: rest) = c :: Slots.conditions rest := rfl
        simp only [System.collect]
        rw [triggers, lowered, first]
        by_cases own : k = c
        · have absent : k ∉ Slots.conditions rest := fun mem => new (own ▸ mem)
          rw [if_pos own, if_neg absent, own, if_pos List.mem_cons_self, Option.map_id_fun, id]
        · simp only [List.mem_cons, own, false_or, if_false]

end Slots

theorem Arena.memConditionsOf {kind : Kind} {α : Type} {arena : Arena kind α} {condition : α → ConditionId}
    {handles : List (Option (Handle kind))} {h : Handle kind} {a : α} (mem : some h ∈ handles)
    (found : arena.find? h = some a) : condition a ∈ arena.conditionsOf condition handles :=
  List.mem_filterMap.2 ⟨some h, mem, by rw [Option.bind_some, found, Option.map_some]⟩

theorem System.countNone {kind : Kind} (kept : List (Option (Handle kind))) :
    System.countReady kept = 0 ↔ ∀ slot ∈ kept, slot = none := by
  simp only [System.countReady, List.length_eq_zero_iff, List.filter_eq_nil_iff, Bool.not_eq_true,
    Option.isSome_eq_false_iff, Option.isNone_iff_eq_none]

/-! ### What a wait changes -/

namespace System

structure Touches (f : ConditionId → Trigger → Trigger) (s s' : System K) : Prop where
  rest : s' = { s with bus := s'.bus, observed := s'.observed }
  bus : OnlyWaits s.bus s'.bus
  triggers : ∀ k, s'.bus.trigger? k = (s.bus.trigger? k).map (f k)

namespace Touches

variable {f g : ConditionId → Trigger → Trigger} {a b c : System K}

theorem quiet (rest : b = { a with bus := b.bus, observed := b.observed }) (h : Bus.Quiet a.bus b.bus) :
    Touches (fun _ => id) a b :=
  ⟨rest, .ofSignals h.1, fun k => (h.2 k).trans (Option.map_id_apply ..).symm⟩

theorem trans (h : Touches f a b) (h' : Touches g b c) : Touches (fun k => g k ∘ f k) a c := by
  refine ⟨?_, h.bus.trans h'.bus, fun k => ?_⟩
  · rw [h'.rest, h.rest]
  · rw [h'.triggers, h.triggers, Option.map_map]

end Touches

theorem turnTouches (s : System K) (t : Ticket) (now : Nat) :
    s.Touches (fun _ => id) (s.turn t now).2 ∧ (s.turn t now).2.observed = s.observed := by
  have polled := Bus.pollQuiet s.bus t.waitSet
  unfold turn
  split <;> rename_i b eq <;> rw [eq] at polled <;> exact ⟨.quiet rfl polled, rfl⟩

theorem endWaitOpens {s : System K} {t : Ticket} (expired : Bool) (nodup : t.guards.conditions.Nodup)
    (guards : ∀ c ∈ t.guards.conditions, ∃ raised, s.bus.trigger? c = some (.guard raised)) :
    (s.endWait t expired).1.subscriptions = t.subscriptions.kept s.bus ∧
      (s.endWait t expired).1.guards = t.guards.kept s.bus ∧
      s.Touches (Trigger.lowering t.guards.conditions) (s.endWait t expired).2 := by
  have shown := Slots.collectShown s.bus t.subscriptions
  obtain ⟨kept, triggers⟩ := Slots.collectGuards nodup guards
  have collected : ∀ k, (s.endWait t expired).2.bus.trigger? k =
      (s.bus.trigger? k).map (Trigger.lowering t.guards.conditions k) := fun k => by
    simp only [endWait, shown]
    exact ((Bus.dropWaitSetQuiet _ t.waitSet).2 k).trans (triggers k)
  refine ⟨?_, ?_, rfl, endWaitWaits s t expired, collected⟩
  · simp only [endWait, shown]
  · simp only [endWait, shown, kept]

/-! ### Beginning -/

theorem beginWaitRefused {s : System K} {ctx : ContextId} {clock : Clock} {timeout : Timeout}
    {subscriptions : List (Option (Handle .subscription))} {guards : List (Option (Handle .guardCondition))}
    {f : Failure} (refused : (s.beginWait ctx clock timeout subscriptions guards).2 = .error f) :
    (s.beginWait ctx clock timeout subscriptions guards).1 = s.setError s!"wait: {f.message}" := by
  unfold beginWait at refused ⊢
  cases known : s.contexts.get? ctx with
  | none =>
    simp only [perform, known, report] at refused ⊢
    cases refused
    rfl
  | some c =>
    rcases Site.beginWaitOpens ⟨s.bus, s.observed, c⟩ clock timeout subscriptions guards with
      ⟨f', failed⟩ | ⟨t, s', ok, _⟩
    · rw [performRefused known failed] at refused ⊢
      cases refused
      rfl
    · simp only [perform, known, ok, report] at refused
      cases refused

theorem beginWaitBegun {s s' : System K} {ctx : ContextId} {clock : Clock} {timeout : Timeout}
    {subscriptions : List (Option (Handle .subscription))} {guards : List (Option (Handle .guardCondition))}
    {t : Ticket} (ok : s.beginWait ctx clock timeout subscriptions guards = (s', .ok t)) :
    ∃ c, s.contexts.get? ctx = some c ∧ s' = { s with bus := s'.bus, observed := s'.observed } ∧
      Site.Begun ⟨s.bus, s.observed, c⟩ subscriptions guards t ⟨s'.bus, s'.observed, c⟩ := by
  unfold beginWait at ok
  cases known : s.contexts.get? ctx with
  | none =>
    simp only [perform, known, report] at ok
    cases ok
  | some c =>
    refine ⟨c, rfl, ?_⟩
    rcases Site.beginWaitOpens ⟨s.bus, s.observed, c⟩ clock timeout subscriptions guards with
      ⟨f', failed⟩ | ⟨t', site, begins, begun⟩
    · rw [performRefused known failed] at ok
      cases ok
    · obtain ⟨b, observed, c'⟩ := site
      obtain rfl : c' = c := begun.context
      simp only [perform, known, begins, Table.insertSame known, report] at ok
      cases ok
      exact ⟨rfl, begun⟩

end System

/-! ### Blocking -/

namespace System

variable [Catalog K] [DecidableEq K]

/-- A wait blocks: it takes its turns until one is its last, and calls of others come between and after these. -/
inductive Blocks (t : Ticket) : System K → Bool → System K → Prop
  | last {s : System K} {now : Nat} {expired : Bool} (ends : (s.turn t now).1 = .over expired)
    (later : List (Call K)) : Blocks t s expired ((s.turn t now).2.serveAll later)
  | again {s w : System K} {now : Nat} {expired : Bool} (more : (s.turn t now).1 = .again)
    (rest : Blocks t (s.turn t now).2 expired w) : Blocks t s expired w
  | other {s w : System K} {call : Call K} {expired : Bool} (rest : Blocks t (s.serve call) expired w) :
    Blocks t s expired w

variable {t : Ticket} {s w : System K} {expired : Bool}

theorem blocksServe (h : Blocks t s expired w) : ∃ calls, w = s.serveAll calls := by
  induction h with
  | @last s now expired ends later => exact ⟨.turn t now :: later, rfl⟩
  | @again s w now expired more rest ih =>
    obtain ⟨calls, served⟩ := ih
    exact ⟨.turn t now :: calls, served⟩
  | @other s w call expired rest ih =>
    obtain ⟨calls, served⟩ := ih
    exact ⟨call :: calls, served⟩

theorem blockBlocks {now limit : Nat} (ended : s.block t now limit = (some expired, w)) :
    Blocks t s expired w ∧ s.Touches (fun _ => id) w ∧ w.observed = s.observed := by
  fun_induction block s t now limit with
  | case1 s now expired' s' turned =>
    cases ended
    have touched := turnTouches s t now
    have ends : (s.turn t now).1 = .over expired := congrArg Prod.fst turned
    have blocks := Blocks.last ends []
    rw [turned] at touched blocks
    exact ⟨blocks, touched⟩
  | case2 s now s' turned later ih =>
    obtain ⟨blocks, touched', observed'⟩ := ih ended
    obtain ⟨touched, observed⟩ := turnTouches s t now
    have more : (s.turn t now).1 = .again := congrArg Prod.fst turned
    have again : Blocks t (s.turn t now).2 expired w → Blocks t s expired w := .again more
    rw [turned] at touched observed again
    exact ⟨again blocks, touched.trans touched', observed'.trans observed⟩
  | case3 => cases ended

end System

/-! ### Reports -/

namespace Context

def hasUnread (c : Context K) (b : Bus) (h : Handle .subscription) : Bool :=
  (c.subscriptions.find? h).any fun r => 0 < TypeSupport.unread b r.reader

def isRaised (c : Context K) (b : Bus) (h : Handle .guardCondition) : Bool :=
  (c.guards.find? h).any fun g => b.conditionValue g.condition

def subscriptionConditions (c : Context K) (handles : List (Option (Handle .subscription))) :
    List ConditionId := c.subscriptions.conditionsOf (·.condition) handles

def guardConditions (c : Context K) (handles : List (Option (Handle .guardCondition))) :
    List ConditionId := c.guards.conditionsOf (·.condition) handles

end Context

section Claims

variable {s s' w : System K} {ctx : ContextId} {c : Context K} {t : Ticket}
  {subscriptions : List (Option (Handle .subscription))} {guards : List (Option (Handle .guardCondition))}

theorem claimedUnread (conditionsAgree : ConditionsAgree s.bus s.contexts) (known : s.contexts.get? ctx = some c)
    (begun : Site.Begun ⟨s.bus, s.observed, c⟩ subscriptions guards t ⟨s'.bus, s'.observed, c⟩)
    (statusesAgree : w.bus.StatusesAgree) (evolves : s'.bus.Evolves w.bus) {h : Handle .subscription}
    {r : SubscriptionRecord K} (listed : some h ∈ subscriptions)
    (found : c.subscriptions.find? h = some r) :
    w.bus.conditionValue r.condition = decide (0 < TypeSupport.unread w.bus r.reader) := by
  obtain ⟨x, reader, condition⟩ := conditionsAgree.subscriptions ctx c h r known found
  obtain ⟨before, there, shown⟩ := conditionsAgree.statusesAgree.shown _ x reader
  rw [condition] at there
  have claimed : r.condition ∈ t.subscriptions.conditions := by
    rw [Slots.conditionsFilled begun.subscriptions]
    exact Arena.memConditionsOf listed found
  have enabled := begun.triggers r.condition
  rw [Trigger.listeningMap, if_pos claimed] at enabled
  rw [← condition]
  refine Bus.unreadShown statusesAgree evolves (begun.waits.readers ▸ reader)
    (t := before.enable .dataAvailable) ?_ ?_
  · rw [condition, enabled, there]
    rfl
  · exact Trigger.enableListens ((Trigger.showsEnabled _ before).trans shown)

theorem claimedGuard (conditionsAgree : ConditionsAgree s.bus s.contexts) (known : s.contexts.get? ctx = some c)
    (begun : Site.Begun ⟨s.bus, s.observed, c⟩ subscriptions guards t ⟨s'.bus, s'.observed, c⟩)
    (evolves : s.bus.Evolves w.bus) {k : ConditionId} (claimed : k ∈ t.guards.conditions) :
    ∃ raised, w.bus.trigger? k = some (.guard raised) := by
  obtain ⟨h, mem⟩ := Site.memConditions.1 claimed
  obtain ⟨g, found, rfl⟩ := begun.guards.held h k mem
  obtain ⟨raised, there⟩ := conditionsAgree.guards ctx c h g known found
  obtain ⟨trigger, there', tends⟩ := evolves.triggers _ _ there
  obtain ⟨now, rfl⟩ := tends.guard
  exact ⟨now, there'⟩

theorem releasedClaims {expired : Bool} {observed : List ConditionId}
    (free : ∀ c ∈ t.conditions, c ∉ observed) (claimed : w.observed = t.conditions.reverse ++ observed) :
    (w.endWait t expired).2.observed = observed := by
  change w.observed.filter (· ∉ t.conditions) = observed
  have own : t.conditions.reverse.filter (· ∉ t.conditions) = [] :=
    List.filter_eq_nil_iff.2 fun c mem other => of_decide_eq_true other (List.mem_reverse.1 mem)
  have others : observed.filter (· ∉ t.conditions) = observed :=
    List.filter_eq_self.2 fun c mem => decide_eq_true fun listed => free c listed mem
  rw [claimed, List.filter_append, own, others, List.nil_append]

end Claims

variable [Catalog K] [DecidableEq K]

structure Reports (c : Context K) (ctx : ContextId) (subscriptions : List (Option (Handle .subscription)))
    (guards : List (Option (Handle .guardCondition))) (expired : Bool) (w : System K) (o : Outcome)
    (w' : System K) : Prop where
  unread : o.subscriptions = subscriptions.map (Option.filter (c.hasUnread w.bus))
  raised : o.guards = guards.map (Option.filter (c.isRaised w.bus))
  counts : o.report.readySubscriptions = (o.subscriptions.filter Option.isSome).length ∧
    o.report.readyGuards = (o.guards.filter Option.isSome).length
  timedOut : o.report.timedOut ↔
    expired ∧ (∀ slot ∈ o.subscriptions, slot = none) ∧ ∀ slot ∈ o.guards, slot = none
  lowered : ∀ h g, some h ∈ guards → c.guards.find? h = some g → w'.bus.conditionValue g.condition = false
  takes : ∀ h r, some h ∈ o.subscriptions → c.subscriptions.find? h = some r →
    (∀ c' r', w.contexts.get? ctx = some c' → c'.subscriptions.find? h = some r' → r' = r) →
    (w'.take ctx h (some r.support.carrier)).2 ≠ .ok none
  touches : w.Touches (Trigger.lowering (c.guardConditions guards)) w'
  released : w'.observed = w.observed.filter
    (· ∉ c.subscriptionConditions subscriptions ++ c.guardConditions guards)

structure Awaits (s s' : System K) (c : Context K) (ctx : ContextId)
    (subscriptions : List (Option (Handle .subscription))) (guards : List (Option (Handle .guardCondition)))
    (t : Ticket) : Prop where
  touches : s.Touches (Trigger.listening (c.subscriptionConditions subscriptions)) s'
  reports : ∀ expired w, System.Blocks t s' expired w →
    Reports c ctx subscriptions guards expired w (w.endWait t expired).1 (w.endWait t expired).2
  alone : ∀ now limit expired w, s'.block t now limit = (some expired, w) →
    System.Blocks t s' expired w ∧
      s.Touches (fun k => Trigger.lowering (c.guardConditions guards) k ∘
        Trigger.listening (c.subscriptionConditions subscriptions) k) (w.endWait t expired).2 ∧
      (w.endWait t expired).2.observed = s.observed

structure Waits (s : System K) : Prop where
  refused : ∀ ctx clock timeout subscriptions guards f,
    (s.beginWait ctx clock timeout subscriptions guards).2 = .error f →
    (s.beginWait ctx clock timeout subscriptions guards).1 = s.setError s!"wait: {f.message}"
  begun : ∀ ctx clock timeout subscriptions guards t s',
    s.beginWait ctx clock timeout subscriptions guards = (s', .ok t) →
    ∃ c, s.contexts.get? ctx = some c ∧ Awaits s s' c ctx subscriptions guards t
  turns : ∀ t now, s.Touches (fun _ => id) (s.turn t now).2

theorem takenSome (p : LedgerLine K) {q : Queue} (waiting : 0 < q.content.length) :
    p.taken q (some p.carrier) ≠ .ok none := by
  rw [LedgerLine.taken, if_pos rfl]
  cases queued : q.content with
  | nil =>
    rw [queued] at waiting
    contradiction
  | cons payload rest =>
    dsimp only
    cases Catalog.decode p.carrier payload <;>
      simp only [Except.map, ne_eq, reduceCtorEq, not_false_eq_true, Except.ok.injEq]

theorem takeUnread {s : System K} {l : QueueLedger K} (h : LedgerHolds s.bus (.of s.contexts) l) {ctx : ContextId}
    {k : Handle .subscription} {r : SubscriptionRecord K} (unread : 0 < TypeSupport.unread s.bus r.reader)
    (only : ∀ c' r', s.contexts.get? ctx = some c' → c'.subscriptions.find? k = some r' → r' = r) :
    (s.take ctx k (some r.support.carrier)).2 ≠ .ok none := by
  unfold System.take
  rcases performSplit s ctx "take" (Site.take · k (some r.support.carrier)) with
    ⟨_, _, _, refused⟩ | ⟨c, known, _, _, outcome⟩
  · intro ok
    rw [ok] at refused
    cases refused
  · rw [outcome]
    cases found : c.subscriptions.find? k with
    | none =>
      obtain ⟨f, gone⟩ := Arena.getNone found
      simp only [Site.take, gone, ne_eq, reduceCtorEq, not_false_eq_true]
    | some r' =>
      obtain rfl := only c r' known found
      have held : c.findEntry (.subscription k) = some r'.entry := by
        rw [Context.findEntry, found]
        rfl
      have line := h.linesExact.2 ⟨c, _, known, held, rfl⟩
      obtain ⟨y, there, mirrors⟩ := h.queue ctx k _ (holdsEntry.1 ⟨c, known, held⟩)
      have waiting : 0 < (l.queue ctx k).content.length := by
        rw [← mirrors.length]
        rwa [TypeSupport.unread, show r'.reader = r'.entry.endpoint from rfl, there] at unread
      rw [(h.taking known s.observed line _).2.1]
      exact takenSome _ waiting

theorem reported {s s' w : System K} {l : QueueLedger K} {ctx : ContextId} {c : Context K} {t : Ticket}
    {expired : Bool} {subscriptions : List (Option (Handle .subscription))}
    {guards : List (Option (Handle .guardCondition))} (conditionsAgree : ConditionsAgree s.bus s.contexts)
    (known : s.contexts.get? ctx = some c)
    (begun : Site.Begun ⟨s.bus, s.observed, c⟩ subscriptions guards t ⟨s'.bus, s'.observed, c⟩)
    (started : s.bus.Evolves s'.bus) (statusesAgree : w.bus.StatusesAgree) (evolves : s'.bus.Evolves w.bus)
    (ledgerHolds : LedgerHolds (w.endWait t expired).2.bus (.of (w.endWait t expired).2.contexts) l) :
    Reports c ctx subscriptions guards expired w (w.endWait t expired).1 (w.endWait t expired).2 := by
  have nodup : t.guards.conditions.Nodup := (List.nodup_append.1 begun.apart).2.1
  have lows := fun k claimed => claimedGuard conditionsAgree known begun (started.trans evolves) (k := k) claimed
  obtain ⟨kept, keptGuards, touches⟩ := System.endWaitOpens expired nodup lows
  rw [Slots.conditionsFilled begun.guards] at touches lows
  have unread : (w.endWait t expired).1.subscriptions =
      subscriptions.map (Option.filter (c.hasUnread w.bus)) := by
    rw [kept, Slots.keptFilled begun.subscriptions]
    refine List.map_congr_left fun slot listed => ?_
    cases slot with
    | none => rfl
    | some h =>
      have same : ((c.subscriptions.find? h).any fun r => w.bus.conditionValue r.condition) =
          c.hasUnread w.bus h := by
        rw [Context.hasUnread]
        cases found : c.subscriptions.find? h with
        | none => rfl
        | some r => exact claimedUnread conditionsAgree known begun statusesAgree evolves listed found
      simp only [Option.filter_some, same]
  refine ⟨unread, keptGuards.trans (Slots.keptFilled begun.guards _), ⟨rfl, rfl⟩, ?_,
    fun h g listed found => ?_, fun h r listed found only => ?_, touches, ?_⟩
  · rw [← System.countNone, ← System.countNone]
    change (expired && _ == 0) = true ↔ _
    rw [Bool.and_eq_true, beq_iff_eq, Nat.add_eq_zero_iff]
    rfl
  · have lowered := touches.triggers g.condition
    have mem : g.condition ∈ c.guards.conditionsOf (·.condition) guards :=
      Arena.memConditionsOf listed found
    obtain ⟨raised, there⟩ := lows _ mem
    rw [Trigger.lowering, if_pos mem, there] at lowered
    rw [Bus.conditionTrigger, lowered]
    rfl
  · rw [unread] at listed
    obtain ⟨slot, _, filtered⟩ := List.mem_map.1 listed
    obtain ⟨rfl, waiting⟩ := Option.filter_eq_some_iff.1 filtered
    rw [Context.hasUnread, found, Option.any_some, decide_eq_true_iff] at waiting
    refine takeUnread ledgerHolds ?_ only
    rwa [TypeSupport.unread, touches.bus.readers]
  · have claimed : t.conditions =
        c.subscriptionConditions subscriptions ++ c.guardConditions guards := by
      rw [Ticket.conditions, Slots.conditionsFilled begun.subscriptions,
        Slots.conditionsFilled begun.guards]
      rfl
    rw [← claimed]
    rfl

/-- In every state that calls lead to, waits report exactly what is ready and are refused without a trace. -/
theorem waitsReport (calls : List (Call K)) : Waits (({} : System K).serveAll calls) := by
  have sound := System.serveAllSound System.soundFresh calls
  obtain ⟨conditionsAgree, _⟩ := ConditionsAgree.fresh.serveAll System.soundFresh calls
  have ledgerHolds := LedgerHolds.serveAll System.soundFresh .fresh calls
  generalize ({} : System K).serveAll calls = s at sound conditionsAgree ledgerHolds
  refine ⟨fun _ _ _ _ _ _ refused => System.beginWaitRefused refused,
    fun ctx clock timeout subscriptions guards t s' ok => ?_, fun t now => (System.turnTouches s t now).1⟩
  obtain ⟨c, known, rest, begun⟩ := System.beginWaitBegun ok
  have begins : s' = s.serve (.beginWait ctx clock timeout subscriptions guards) :=
    (congrArg Prod.fst ok).symm
  obtain ⟨conditionsAgree', started⟩ := conditionsAgree.serve sound (.beginWait ctx clock timeout subscriptions guards)
  have sound' := System.serveSound sound (.beginWait ctx clock timeout subscriptions guards)
  have ledgerHolds' := ledgerHolds.serve sound (.beginWait ctx clock timeout subscriptions guards)
  rw [← begins] at conditionsAgree' started sound' ledgerHolds'
  have reports : ∀ expired w, System.Blocks t s' expired w → Reports c ctx subscriptions guards expired w
      (w.endWait t expired).1 (w.endWait t expired).2 := fun expired w blocks => by
    obtain ⟨others, rfl⟩ := System.blocksServe blocks
    obtain ⟨conditionsAgree'', evolves⟩ := conditionsAgree'.serveAll sound' others
    have sound'' := System.serveAllSound sound' others
    exact reported conditionsAgree known begun started conditionsAgree''.statusesAgree evolves
      ((ledgerHolds'.serveAll sound' others).serve sound'' (.endWait t expired))
  have listening : s.Touches (Trigger.listening (c.subscriptionConditions subscriptions)) s' := by
    refine ⟨rest, begun.waits, fun k => ?_⟩
    rw [begun.triggers, Slots.conditionsFilled begun.subscriptions]
    rfl
  refine ⟨c, known, listening, reports, fun now limit expired w ended => ?_⟩
  obtain ⟨blocks, blocking, observed⟩ := System.blockBlocks ended
  refine ⟨blocks, (listening.trans blocking).trans (reports expired w blocks).touches, ?_⟩
  exact releasedClaims begun.free (observed.trans begun.claimed)

example :
    let s := ({} : System ExampleCarrier).serveAll [.init {}, .createNode 1 "node",
      .createPublisher 1 ⟨implementationIdentifier, 1, 0, 0⟩ (.of .blob) "chatter",
      .createSubscription 1 ⟨implementationIdentifier, 1, 0, 0⟩ (.of .blob) "chatter" 2,
      .createSubscription 1 ⟨implementationIdentifier, 1, 0, 0⟩ (.of .counter) "count" 2, .createGuard 1,
      .publish 1 ⟨implementationIdentifier, 1, 0, 0⟩ (.of .blob [1])]
    let began := s.beginWait 1 ⟨0, 100⟩ (.finite 5)
      [none, some ⟨implementationIdentifier, 1, 1, 0⟩, some ⟨implementationIdentifier, 1, 0, 0⟩]
      [some ⟨implementationIdentifier, 1, 1, 0⟩]
    began.2.toOption.map (fun t => ((began.1.block t 0 10).1, (began.1.endWait t false).1)) =
      some (some false,
        ⟨⟨1, 0, false⟩, [none, none, some ⟨implementationIdentifier, 1, 0, 0⟩], [none]⟩) := by
  decide +kernel

end Middleware
end Databus
