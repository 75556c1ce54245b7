import Databus.Proofs.WaitSetAttachment
import Databus.Proofs.WaitProgress
import Databus.Proofs.SampleRetention

/-! What a wait can rely on while others go about their business: its subscriptions are read by nobody but their
callers, its guards stay guards, and only what it lists is attached to its wait set. -/
namespace Databus

namespace Bus

variable {a b b' c : Bus} {k : ConditionId}

def Unserved (b : Bus) (k : ConditionId) : Prop :=
  ∃ r x, b.readers.get? r = some x ∧ x.condition = k ∧ x.listener = none ∧ b.Outer r

def Listens (b : Bus) (k : ConditionId) : Prop :=
  ∃ t, b.trigger? k = some t ∧ t.setting = some .dataAvailable

structure KeepsWaits (b b' : Bus) : Prop where
  evolves : b.Evolves b'
  narrows : b.Narrows b'
  unserved : ∀ k, b.Unserved k → b'.Unserved k

theorem Evolves.listens (h : b.Evolves b') (listens : b.Listens k) : b'.Listens k := by
  obtain ⟨t, there, data⟩ := listens
  obtain ⟨t', there', tends⟩ := h.triggers k t there
  exact ⟨t', there', tends.listens data⟩

theorem Evolves.guard (h : b.Evolves b') (guard : b.IsGuard k) : b'.IsGuard k := by
  obtain ⟨raised, there⟩ := guard
  obtain ⟨t', there', tends⟩ := h.triggers k _ there
  obtain ⟨now, rfl⟩ := tends.guard
  exact ⟨now, there'⟩

namespace KeepsWaits

theorem refl (b : Bus) : KeepsWaits b b := ⟨.refl b, .refl b, fun _ => id⟩

theorem waits (membersAgree : b.MembersAgree) (waits : OnlyWaits b b') (evolves : b.Evolves b')
    (narrows : b.Narrows b') :
    KeepsWaits b b' := by
  refine ⟨evolves, narrows, fun k ⟨r, x, found, own, unserved, outer⟩ => ?_⟩
  have moves : Moves (fun _ _ => True) b b' := .waits waits
  exact ⟨r, x, waits.readers ▸ found, own, unserved, (outerMoves moves membersAgree outer).2⟩

end KeepsWaits
end Bus

namespace Middleware

open Bus (KeepsWaits LeavesGuards Narrows OnlyWaits)

variable {K : Type}

/-! ### Steps of a wait -/

namespace WaitCall

theorem blockKeys (s : System K) (v : WaitCall) :
    s.bus.nextKey < (Site.attachAll s.bus.newWaitSet.2 s.bus.newWaitSet.1 v.claims).1.nextKey :=
  Site.attachAllKeeps (R := fun b b' => b.nextKey ≤ b'.nextKey) (fun _ => Nat.le_refl _) Nat.le_trans
    (fun b c => (Narrows.setEnabled b c _).keys)
    (fun ok => Nat.le_of_eq (Bus.OnlyTraffic.ofSignals (Bus.attachQuiet ok).signals).nextKey.symm)
    s.bus.newWaitSet.1 v.claims s.bus.newWaitSet.2

theorem blockNarrows (clock : Clock) (s : System K) (v : WaitCall) : Narrows s.bus (v.block clock s).1.bus := by
  have attached : Narrows s.bus (Site.attachAll s.bus.newWaitSet.2 s.bus.newWaitSet.1 v.claims).1 := by
    refine ⟨fun ws old k mem => ?_, Nat.le_of_lt (blockKeys s v)⟩
    rcases Site.attachAllAttached mem with before | ⟨own, _⟩
    · rwa [Bus.attachedMap, Bus.newWaitSet, Table.getInsert, if_neg (Nat.ne_of_lt old), ← Bus.attachedMap] at before
    · exact absurd own (Nat.ne_of_lt old)
  unfold block
  split
  · dsimp only
    split <;> rename_i eq <;> rw [eq] at attached
    · exact attached.trans (.dropWaitSet _ _)
    · exact attached
  · exact .refl _

theorem blockLeavesGuards (clock : Clock) (s : System K) (v : WaitCall) : LeavesGuards s.bus (v.block clock s).1.bus :=
  blockKeeps LeavesGuards.refl .trans (fun _ => .same rfl rfl rfl (Nat.le_succ _) rfl) (fun b c => .setEnabled b c _)
    (fun ok => .quiet (Bus.attachQuiet ok)) (fun b ws => .quiet (Bus.dropWaitSetQuiet b ws)) clock s v

theorem turnLeavesGuards (now : Nat) (s : System K) (v : WaitCall) : LeavesGuards s.bus (v.turn now s).1.bus := by
  unfold turn
  split
  · rename_i t _
    have polled := LeavesGuards.quiet (Bus.pollQuiet s.bus t.waitSet)
    have turned : LeavesGuards s.bus (s.turn t now).2.bus := by
      unfold System.turn
      split <;> rename_i eq <;> rw [eq] at polled <;> exact polled
    split <;> rename_i eq <;> rw [eq] at turned <;> exact turned
  · exact .refl _

theorem turnNarrows (now : Nat) (s : System K) (v : WaitCall) : Narrows s.bus (v.turn now s).1.bus := by
  unfold turn
  split
  · rename_i t _
    have turned := System.turnNarrows s t now
    split <;> rename_i eq <;> rw [eq] at turned <;> exact turned
  · exact .refl _

theorem collectNarrows (s : System K) (v : WaitCall) : Narrows s.bus (v.collect s).1.bus := by
  unfold collect
  split
  · rename_i t expired _
    exact System.endWaitNarrows s t expired
  · exact .refl _

theorem collectWired [Catalog K] [DecidableEq K] (s : System K) (v : WaitCall) (wired : s.bus.Wired) :
    (v.collect s).1.bus.Wired := by
  unfold collect
  split
  · rename_i t expired _
    exact System.serveWired wired (.endWait t expired)
  · exact wired

theorem claimBus (s : System K) (v : WaitCall) : (v.claim s).1.bus = s.bus := by
  unfold claim
  split
  · split <;> rfl
  · rfl

theorem releaseBus (s : System K) (v : WaitCall) : (v.release s).1.bus = s.bus := by
  unfold release
  split <;> rfl

theorem leaveBus (s : System K) (v : WaitCall) : (v.leave s).1.bus = s.bus := by
  unfold leave
  split
  · rename_i answer _ _
    cases answer <;> rfl
  · rfl

end WaitCall

/-! ### Waiting systems -/

structure WaitCall.Sees (b : Bus) (v : WaitCall) : Prop where
  readers : ∀ h k, some (h, k) ∈ v.subscriptions → b.Unserved k
  guards : ∀ h k, some (h, k) ∈ v.guards → b.IsGuard k

structure WaitCall.Watches (b : Bus) (v : WaitCall) : Prop where
  listens : ∀ t, (v.stage = .blocked t ∨ ∃ expired, v.stage = .over t expired) →
    ∀ h k, some (h, k) ∈ v.subscriptions → b.Listens k
  attached : ∀ t, v.stage = .blocked t →
    t.waitSet < b.nextKey ∧ b.attachedTo t.waitSet ⊆ v.conditions ∧ t.pace.timeout = v.timeout

namespace WaitingSystem

structure WaitInvariant (l : WaitingSystem K) : Prop extends l.Orderly where
  wired : l.system.bus.Wired
  ledgerHolds : ∃ ledger, LedgerHolds l.system.bus (.of l.system.contexts) ledger
  sees : ∀ v ∈ l.waits, v.Sees l.system.bus
  watches : ∀ v ∈ l.waits, v.Watches l.system.bus

theorem waitInvariantFresh : ({} : WaitingSystem K).WaitInvariant where
  toOrderly := orderlyFresh
  wired := Bus.wiredEmpty
  ledgerHolds := ⟨{}, .fresh⟩
  sees := nofun
  watches := nofun

end WaitingSystem

namespace WaitCall

variable {s : System K} {v : WaitCall}

theorem Sees.mind {b b' : Bus} (h : v.Sees b) (keepsWaits : KeepsWaits b b') : v.Sees b' :=
  ⟨fun h' k mem => keepsWaits.unserved k (h.readers h' k mem), fun h' k mem =>
    keepsWaits.evolves.guard (h.guards h' k mem)⟩

theorem Goes.sees {v' : WaitCall} {b : Bus} (goes : v.Goes v') (h : v.Sees b) : v'.Sees b := by
  rw [goes]
  exact ⟨h.readers, h.guards⟩

theorem blockWatches (statusesAgree : s.bus.StatusesAgree) (sees : v.Sees s.bus) (nodup : v.conditions.Nodup)
    (clock : Clock) (stage : v.stage = .claiming []) : Watches (v.block clock s).1.bus (v.block clock s).2 := by
  have shown : ∀ h k, some (h, k) ∈ v.subscriptions → ∃ t, s.bus.trigger? k = some t ∧ ∃ w, t.shows = some w :=
    fun h k mem => by
      obtain ⟨r, x, found, own, _⟩ := sees.readers h k mem
      obtain ⟨t, there, shows⟩ := statusesAgree.shown r x found
      exact ⟨t, own ▸ there, _, shows⟩
  have apart : (v.claims.map Prod.snd).Nodup := v.claimsConditions ▸ nodup
  obtain ⟨b, attached, triggers⟩ := Site.attachAllNew s.bus apart
  have keys := blockKeys s v
  have only {k : ConditionId} (mem : k ∈ b.attachedTo s.bus.newWaitSet.1) : k ∈ v.conditions := by
    have mem' : k ∈ (Site.attachAll s.bus.newWaitSet.2 s.bus.newWaitSet.1 v.claims).1.attachedTo
      s.bus.newWaitSet.1 := by rwa [attached]
    rcases Site.attachAllAttached mem' with before | ⟨_, listed⟩
    · exact absurd (Bus.newAttached s.bus ▸ before) List.not_mem_nil
    · rwa [claimsConditions] at listed
  rw [attached] at keys
  simp only [block, stage, attached]
  refine ⟨fun t _ h k mem => ?_, fun t own => ?_⟩
  · obtain ⟨now, there, w, shows⟩ := shown h k mem
    have listed : (Waitable.subscription, k) ∈ v.claims :=
      List.mem_append_left _ (List.mem_map_of_mem (Site.memConditions.2 ⟨h, mem⟩))
    refine ⟨now.enable .dataAvailable, ?_, Trigger.enableListens ((Trigger.showsEnabled _ now).trans shows)⟩
    rw [triggers, if_pos listed, ← Option.map_some, ← there]
  · cases own
    exact ⟨keys, fun k mem => only mem, rfl⟩

theorem Watches.mind {b b' : Bus} (h : v.Watches b) (keepsWaits : KeepsWaits b b') : v.Watches b' := by
  refine ⟨fun t stage h' k mem => keepsWaits.evolves.listens (h.listens t stage h' k mem), fun t stage => ?_⟩
  obtain ⟨old, listed, pace⟩ := h.attached t stage
  exact ⟨Nat.lt_of_lt_of_le old keepsWaits.narrows.keys, fun k mem => listed (keepsWaits.narrows.attached _ old mem),
    pace⟩

theorem Goes.watches {v' : WaitCall} {b : Bus} (goes : v.Goes v') (same : v'.stage = v.stage) (h : v.Watches b) :
    v'.Watches b := by
  rw [goes, same]
  exact ⟨h.listens, h.attached⟩

theorem watchesNothing {b : Bus} (blocked : ∀ t, v.stage ≠ .blocked t)
    (ended : ∀ t expired, v.stage ≠ .over t expired) :
    v.Watches b := by
  refine ⟨fun t stage => ?_, fun t stage => absurd stage (blocked t)⟩
  rcases stage with stage | ⟨expired, stage⟩
  · exact absurd stage (blocked t)
  · exact absurd stage (ended t expired)

end WaitCall

/-! ### Steps of a waiting system -/

section Calls

variable [Catalog K] [DecidableEq K] {s : System K}

theorem serveNarrows (s : System K) {call : Call K} (plain : call.waits = false) :
    Narrows s.bus (s.serve call).bus := by
  cases signals : call.signals with
  | false => exact s.serveRuns signals ▸ .run s.bus (s.asks call)
  | true =>
    cases call with
    | triggerGuard ctx h =>
      rcases performSplit s ctx "trigger_guard_condition" (Site.triggerGuard · h) with ⟨_, bus, _⟩ | ⟨c, _, bus, _⟩
      · exact bus.symm ▸ .refl _
      · refine bus.symm ▸ ?_
        unfold Site.triggerGuard
        split
        · exact .refl _
        · exact .setGuard _ _ _
    | beginWait | turn | endWait => cases plain
    | _ => cases signals

theorem serveKeepsWaits (sound : s.Sound) (conditionsAgree : ConditionsAgree s.bus s.contexts)
    (membersAgree : s.bus.MembersAgree)
    (silent : s.bus.Silent) {call : Call K} (plain : call.waits = false) : KeepsWaits s.bus (s.serve call).bus := by
  obtain ⟨_, evolves⟩ := conditionsAgree.serve sound call
  refine ⟨evolves, serveNarrows s plain, fun k ⟨r, x, found, own, unserved, outer⟩ => ?_⟩
  obtain ⟨lasts, outer'⟩ := serveLasts membersAgree silent outer call
  obtain ⟨y, found', unserved', _⟩ := lasts x found unserved
  obtain ⟨y', found'', same⟩ := evolves.readers r x found
  cases Option.some.inj (found'.symm.trans found'')
  exact ⟨r, y, found', same.trans own, unserved', outer'⟩

end Calls

namespace WaitingSystem

variable [Catalog K] [DecidableEq K] {l : WaitingSystem K}

omit [Catalog K] [DecidableEq K] in
theorem actKeepsWaits (h : l.WaitInvariant) (n : Nat) {f : System K → WaitCall → System K × WaitCall}
    (moves : ∀ s v, WaitCall.Moved s v (f s v).1 (f s v).2) (narrows : ∀ s v, Narrows s.bus (f s v).1.bus)
    (wired : ∀ s v, s.bus.Wired → (f s v).1.bus.Wired) :
    KeepsWaits l.system.bus (l.act n f).system.bus ∧ (l.act n f).system.bus.Wired := by
  unfold act
  split
  · exact ⟨.refl _, h.wired⟩
  · rename_i v _
    have moved := moves l.system v
    exact ⟨.waits h.linked.membersAgree moved.waits (moved.leads h.conditionsAgree.statusesAgree).2 (narrows _ _),
      wired _ _ h.wired⟩

theorem stepKeepsWaits (h : l.WaitInvariant) (e : Event K) :
    KeepsWaits l.system.bus (l.step e).system.bus ∧ (l.step e).system.bus.Wired := by
  have idle : KeepsWaits l.system.bus l.system.bus ∧ l.system.bus.Wired := ⟨.refl _, h.wired⟩
  have still {n : Nat} {f : System K → WaitCall → System K × WaitCall}
      (moves : ∀ s v, WaitCall.Moved s v (f s v).1 (f s v).2) (same : ∀ s v, (f s v).1.bus = s.bus) :
      KeepsWaits l.system.bus (l.act n f).system.bus ∧ (l.act n f).system.bus.Wired :=
    actKeepsWaits h n moves (fun s v => same s v ▸ .refl _) fun s v wired => same s v ▸ wired
  cases e with
  | call c =>
    simp only [step]
    split
    · exact idle
    · rename_i plain
      obtain ⟨ledger, ledgerHolds⟩ := h.ledgerHolds
      exact ⟨serveKeepsWaits h.sound h.conditionsAgree h.linked.membersAgree ledgerHolds.silent
        (Bool.eq_false_iff.2 plain),
        System.serveWired h.wired c⟩
  | enter ctx timeout subscriptions guards =>
    simp only [step, enter]
    split
    · exact idle
    · split
      · exact idle
      · split <;> exact idle
  | claim n => exact still WaitCall.claimMoves WaitCall.claimBus
  | block n clock =>
    exact actKeepsWaits h n (WaitCall.blockMoves clock) (WaitCall.blockNarrows clock) fun s v =>
      (WaitCall.blockLeavesGuards clock s v).wired
  | turn n now =>
    exact actKeepsWaits h n (WaitCall.turnMoves now) (WaitCall.turnNarrows now) fun s v =>
      (WaitCall.turnLeavesGuards now s v).wired
  | collect n => exact actKeepsWaits h n WaitCall.collectMoves WaitCall.collectNarrows WaitCall.collectWired
  | release n => exact still WaitCall.releaseMoves WaitCall.releaseBus
  | leave n => exact still WaitCall.leaveMoves WaitCall.leaveBus

omit [Catalog K] [DecidableEq K] in
theorem listedSees (h : l.WaitInvariant) {c : Context K} {subscriptions : List (Option (Handle .subscription))}
    {guards : List (Option (Handle .guardCondition))} {v : WaitCall} (known : l.system.contexts.get? v.ctx = some c)
    (listed : Site.Filled c.subscriptions (·.condition) subscriptions v.subscriptions)
    (listed' : Site.Filled c.guards (·.condition) guards v.guards) : v.Sees l.system.bus := by
  obtain ⟨ledger, ledgerHolds⟩ := h.ledgerHolds
  refine ⟨fun k c' mem => ?_, fun k c' mem => ?_⟩
  · obtain ⟨r, found, rfl⟩ := listed.held k c' mem
    have held := Directory.ofSubscription known found
    obtain ⟨y, reader, mirrors⟩ := ledgerHolds.queue _ _ _ held
    obtain ⟨y', reader', condition⟩ := h.conditionsAgree.subscriptions _ c k r known found
    cases Option.some.inj (reader.symm.trans reader')
    exact ⟨r.reader, y, reader, condition, mirrors.unserved, h.linked.outer held⟩
  · obtain ⟨g, found, rfl⟩ := listed'.held k c' mem
    exact h.conditionsAgree.guards _ c k g known found

theorem stepSees (h : l.WaitInvariant) (e : Event K) : ∀ v ∈ (l.step e).waits, v.Sees (l.step e).system.bus := by
  have keepsWaits := (stepKeepsWaits h e).1
  have steps := l.stepSteps e
  generalize l.step e = l' at keepsWaits steps
  have old {v : WaitCall} (mem : v ∈ l.waits) : v.Sees l'.system.bus := (h.sees v mem).mind keepsWaits
  cases steps with
  | idle | calls => exact fun v => old
  | away ctx f =>
    intro v mem
    rcases List.mem_append.1 mem with before | new
    · exact old before
    · exact List.mem_singleton.1 new ▸ ⟨nofun, nofun⟩
  | joins known listed listed' =>
    intro v mem
    rcases List.mem_append.1 mem with before | new
    · exact old before
    · obtain rfl := List.mem_singleton.1 new
      exact listedSees h known listed listed'
  | moves there moved =>
    intro v mem
    rcases List.mem_or_eq_of_mem_set mem with before | rfl
    · exact old before
    · exact WaitCall.Goes.sees moved.slots (old (List.mem_of_getElem? there))

theorem stepLedgerHolds (h : l.WaitInvariant) (e : Event K) :
    ∃ ledger, LedgerHolds (l.step e).system.bus (.of (l.step e).system.contexts) ledger := by
  obtain ⟨ledger, ledgerHolds⟩ := h.ledgerHolds
  have steps := l.stepSteps e
  generalize l.step e = l' at steps
  cases steps with
  | idle | away | joins => exact ⟨ledger, ledgerHolds⟩
  | calls call => exact ⟨_, ledgerHolds.serve h.sound call⟩
  | @moves n v v' s' there moved =>
    have contexts : s'.contexts = l.system.contexts := by rw [moved.rest]
    exact ⟨ledger, contexts.symm ▸ ledgerHolds.waits moved.waits⟩

theorem stepWatches (h : l.WaitInvariant) (e : Event K) : ∀ v ∈ (l.step e).waits, v.Watches (l.step e).system.bus := by
  intro v' mem
  obtain ⟨n, there⟩ := List.getElem?_of_mem mem
  have keepsWaits := (stepKeepsWaits h e).1
  rcases stepPasses there with ⟨_, ⟨rest, fresh⟩ | ⟨f, fresh⟩⟩ | ⟨v, found, goes, passes⟩
  · exact WaitCall.watchesNothing (fun _ => by simp [fresh]) fun _ _ => by simp [fresh]
  · exact WaitCall.watchesNothing (fun _ => by simp [fresh]) fun _ _ => by simp [fresh]
  · have mem' := List.mem_of_getElem? found
    have old := (h.watches v mem').mind keepsWaits
    generalize same : v'.stage = stage at passes
    cases passes with
    | stays => exact goes.watches same old
    | claims | fails | collects | leaves =>
      exact WaitCall.watchesNothing (fun _ => by simp [same]) fun _ _ => by simp [same]
    | @blocks clock own stage =>
      have held : v.held = v.conditions := by
        have fit := h.fit v mem'
        simpa only [WaitCall.Fit, stage, List.map_nil, List.append_nil] using fit
      have nodup : v.conditions.Nodup := held ▸ heldThere found ▸ h.exact.once n
      have inside : n < l.waits.length := (List.getElem?_eq_some_iff.1 found).1
      have watches := WaitCall.blockWatches h.conditionsAgree.statusesAgree (h.sees v mem') nodup clock stage
      subst own
      simp only [step, act, found, List.getElem?_set_self inside] at there ⊢
      exact Option.some.inj there ▸ watches
    | @ends now t expired own stage ended =>
      refine ⟨fun t' later k c listed => ?_, fun t' blocked => ?_⟩
      · rw [goes] at listed
        exact old.listens t (.inl stage) k c listed
      · cases same.symm.trans blocked

theorem WaitInvariant.step (h : l.WaitInvariant) (e : Event K) : (l.step e).WaitInvariant :=
  ⟨h.toOrderly.steps (l.stepSteps e), (stepKeepsWaits h e).2, stepLedgerHolds h e, stepSees h e, stepWatches h e⟩

theorem WaitInvariant.run (h : l.WaitInvariant) (events : List (Event K)) : (l.run events).WaitInvariant := by
  induction events generalizing l with
  | nil => exact h
  | cons e rest ih => exact ih (h.step e)

end WaitingSystem
end Middleware
end Databus
