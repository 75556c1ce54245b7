import Databus.Proofs.ConditionOwners
import Databus.Proofs.GuardNotices
import Databus.Proofs.SampleSource

/-! A gid tells one publisher from all others, in whichever context and however often its slot is used again: writers
have handles that nothing had before, a gid spells out its writer's handle, and so do the samples written through it. -/
namespace Databus

def Bus.allocated (b : Bus) : Nat := b.nextHandle - 1

namespace Middleware

variable {K : Type}

/-! ### Spelling -/

namespace Gid

variable {h h' : InstanceHandle}

theorem checkOwn (h : InstanceHandle) : (ofPublication h).check = .ok () := by
  rw [check, checkImplementation]
  exact if_pos rfl

theorem handleRead (fits : h < UInt64.size) : (Octets.word 8 h).toNat = h := Octets.readWord fits

theorem publicationOf (fits : h < UInt64.size) : (ofPublication h).publication = .ok h := by
  have word : (ofPublication h).data.take 8 = Octets.word 8 h := List.take_left' (Octets.wordLength 8 h)
  rw [publication, checkOwn, word]
  exact congrArg Except.ok (handleRead fits)

theorem equalOf (fits : h < UInt64.size) (fits' : h' < UInt64.size) :
    (ofPublication h).equal (ofPublication h') = .ok (h = h') := by
  rw [equal, checkOwn, checkOwn]
  refine congrArg Except.ok (decide_eq_decide.2 ⟨fun same => ?_, fun same => same ▸ rfl⟩)
  have word : Octets.word 8 h = Octets.word 8 h' := List.append_cancel_right same
  rw [← handleRead fits, ← handleRead fits', word]

end Gid

namespace System

def publisher? (s : System K) (ctx : ContextId) (h : Handle .publisher) : Option (PublisherRecord K) :=
  (s.contexts.get? ctx).bind (·.publishers.find? h)

variable {s : System K} {ctx : ContextId}

theorem publisherEntry (s : System K) (ctx : ContextId) (h : Handle .publisher) :
    (Directory.of s.contexts).entry ctx (.publisher h) = (s.publisher? ctx h).map PublisherRecord.entry := by
  simp only [Directory.of, publisher?]
  cases s.contexts.get? ctx <;> rfl

theorem gidExact {h : Handle .publisher} {g : Gid} : (s.publisherGid ctx h).2 = .ok g ↔
    ∃ r, s.publisher? ctx h = some r ∧ g = Gid.ofPublication r.writer := by
  unfold publisher?
  cases known : s.contexts.get? ctx with
  | none => simp [publisherGid, perform, known, report]
  | some c =>
    rw [publisherGid, performAnswer _ known]
    simp only [Site.publisherGid, Option.bind_some, ← Arena.getExact]
    cases c.publishers.get h <;> simp [Except.map, eq_comm]

theorem compareKnown {c : Context K} (known : s.contexts.get? ctx = some c) (g g' : Gid) :
    (s.compareGids ctx g g').2 = g.equal g' := by
  rw [compareGids, performAnswer _ known]
  rfl

end System

/-! ### Writers of their own -/

structure Minted (b : Bus) (d : Directory K) : Prop where
  old : ∀ ctx ref r, d.entry ctx ref = some r → r.endpoint < b.nextHandle
  sole : ∀ ctx ref r ctx' ref' r', d.entry ctx ref = some r → d.entry ctx' ref' = some r' →
    r.endpoint = r'.endpoint → ctx = ctx' ∧ ref = ref'

theorem Minted.issues {b b' : Bus} {d d' : Directory K} (h : Minted b d) (grown : b.nextHandle ≤ b'.nextHandle)
    (issues : Issues b b' d d') : Minted b' d' := by
  cases issues with
  | none old =>
    exact ⟨fun ctx ref r found => Nat.lt_of_lt_of_le (h.old ctx ref r (old ctx ref r found)) grown,
      fun ctx ref r ctx' ref' r' found found' =>
        h.sole ctx ref r ctx' ref' r' (old ctx ref r found) (old ctx' ref' r' found')⟩
  | @one ctx₀ ref₀ r₀ vacant new made rest =>
    have apart {ctx ref r} (found : d.entry ctx ref = some r) : r.endpoint ≠ r₀.endpoint :=
      Nat.ne_of_lt (Nat.lt_of_lt_of_le (h.old ctx ref r found) new)
    refine ⟨fun ctx ref r found => ?_, fun ctx ref r ctx' ref' r' found found' same => ?_⟩
    · rcases rest ctx ref r found with ⟨_, _, rfl⟩ | old
      · exact made
      · exact Nat.lt_of_lt_of_le (h.old ctx ref r old) grown
    · rcases rest ctx ref r found with ⟨rfl, rfl, rfl⟩ | old
      · rcases rest ctx' ref' r' found' with ⟨rfl, rfl, _⟩ | old'
        · exact ⟨rfl, rfl⟩
        · exact absurd same.symm (apart old')
      · rcases rest ctx' ref' r' found' with ⟨_, _, rfl⟩ | old'
        · exact absurd same (apart old)
        · exact h.sole ctx ref r ctx' ref' r' old old' same

variable [Catalog K] [DecidableEq K]

namespace World

theorem stageKeeps {P : World K → Prop} (start : P {}) (next : ∀ w a, P w → P (w.act a)) (acts : List (Act K))
    (i : Nat) : P (stage acts i) := by
  induction i with
  | zero => exact start
  | succ i ih =>
    cases here : acts[i]? with
    | none => exact stageOver here ▸ ih
    | some a => exact stageNext here ▸ next _ a ih

theorem actGrows (w : World K) (a : Act K) : w.system.bus.nextHandle ≤ (w.act a).system.bus.nextHandle :=
  actHandles w a ▸ Bus.handlesGrowRun w.system.bus (w.asks a)

theorem actRuns (w : World K) (a : Act K) :
    Bus.OnlyWaits (w.system.bus.run (w.asks a)) (w.act a).system.bus := by
  cases a with
  | ask q => exact .ofSignals (.refl _)
  | call c =>
    change Bus.OnlyWaits (w.system.bus.run (w.system.asks c)) (w.system.serve c).bus
    cases signals : c.signals with
    | true => exact System.signalsAsk signals ▸ signalsWait w.system signals
    | false => exact System.serveRuns w.system signals ▸ .ofSignals (.refl _)

theorem actIssues {w : World K} (sound : w.system.Sound) (a : Act K) : Issues w.system.bus (w.act a).system.bus
    (Directory.of w.system.contexts) (.of (w.act a).system.contexts) := by
  cases a with
  | call c => exact stepIssues (System.serveSteps sound c).1
  | ask q => exact .none fun _ _ _ found => found

theorem actSound {w : World K} (sound : w.system.Sound) (a : Act K) : (w.act a).system.Sound := by
  cases a with
  | call c => exact System.serveSound sound c
  | ask q => exact ⟨sound.opened, sound.tables⟩

def Orderly (w : World K) : Prop := w.system.Sound ∧ Minted w.system.bus (Directory.of w.system.contexts)

theorem stageOrderly (acts : List (Act K)) (i : Nat) : (stage acts i).Orderly :=
  stageKeeps (P := Orderly)
    ⟨System.soundFresh, fun _ _ _ found => (nomatch found), fun _ _ _ _ _ _ found => (nomatch found)⟩
    (fun w a kept => ⟨actSound kept.1 a, kept.2.issues (actGrows w a) (actIssues kept.1 a)⟩) acts i

variable {acts : List (Act K)} {i j : Nat} {ctx ctx' : ContextId} {ref ref' : EndpointRef} {r r' : EndpointEntry K}

theorem stageGrows (acts : List (Act K)) (le : i ≤ j) :
    (stage acts i).system.bus.nextHandle ≤ (stage acts j).system.bus.nextHandle := by
  induction le with
  | refl => exact Nat.le_refl _
  | @step j _ ih =>
    cases here : acts[j]? with
    | none => exact stageOver here ▸ ih
    | some a => exact stageNext here ▸ Nat.le_trans ih (actGrows _ a)

theorem stageLast (acts : List (Act K)) (i : Nat) :
    (stage acts i).system.bus.nextHandle ≤ (({} : World K).run acts).system.bus.nextHandle := by
  have grown := stageGrows acts (Nat.le_max_left i acts.length)
  rwa [stage, stage, List.take_of_length_le (Nat.le_max_right ..)] at grown

/-! ### The same publisher -/

def entriesAt (acts : List (Act K)) (i : Nat) : ContextId → EndpointRef → Option (EndpointEntry K) :=
  (Directory.of (stage acts i).system.contexts).entry

theorem stageIssues (acts : List (Act K)) (i : Nat) : Issues (stage acts i).system.bus
    (stage acts (i + 1)).system.bus (Directory.of (stage acts i).system.contexts)
    (.of (stage acts (i + 1)).system.contexts) := by
  cases here : acts[i]? with
  | none => exact stageOver here ▸ .none fun _ _ _ found => found
  | some a => exact stageNext here ▸ actIssues (stageOrderly acts i).1 a

theorem ownsEndpointStays (le : i ≤ j) (live : ∀ k, i ≤ k → k ≤ j → entriesAt acts k ctx ref ≠ none)
    (found : entriesAt acts j ctx ref = some r) : entriesAt acts i ctx ref = some r := by
  induction le with
  | refl => exact found
  | @step j le ih =>
    refine ih (fun k from' until' => live k from' (Nat.le_succ_of_le until')) ?_
    cases stageIssues acts j with
    | none old => exact old ctx ref r found
    | one vacant new made rest =>
      rcases rest ctx ref r found with ⟨rfl, rfl, _⟩ | old
      · exact absurd vacant (live j le (Nat.le_succ j))
      · exact old

theorem ownsEndpointSince (le : i ≤ j) (found : entriesAt acts j ctx ref = some r)
    (old : r.endpoint < (stage acts i).system.bus.nextHandle) :
    ∀ k, i ≤ k → k ≤ j → entriesAt acts k ctx ref = some r := by
  induction le with
  | refl => exact fun k from' until' => Nat.le_antisymm from' until' ▸ found
  | @step j le ih =>
    intro k from' until'
    rcases Nat.le_succ_iff.1 until' with before | rfl
    · refine ih ?_ k from' before
      cases stageIssues acts j with
      | none kept => exact kept ctx ref r found
      | one vacant new made rest =>
        rcases rest ctx ref r found with ⟨_, _, rfl⟩ | kept
        · exact absurd (Nat.le_trans (stageGrows acts le) new) (Nat.not_le.2 old)
        · exact kept
    · exact found

theorem ownsEndpointSame (le : i ≤ j) (found : entriesAt acts i ctx ref = some r)
    (found' : entriesAt acts j ctx' ref' = some r') : r.endpoint = r'.endpoint ↔
      ctx = ctx' ∧ ref = ref' ∧ ∀ k, i ≤ k → k ≤ j → entriesAt acts k ctx ref ≠ none := by
  have minted := (stageOrderly acts i).2
  constructor
  · intro same
    have since := ownsEndpointSince le found' (same ▸ minted.old ctx ref r found)
    obtain ⟨rfl, rfl⟩ := minted.sole ctx ref r ctx' ref' r' found (since i (Nat.le_refl i) le) same
    exact ⟨rfl, rfl, fun k from' until' none => nomatch none.symm.trans (since k from' until')⟩
  · rintro ⟨rfl, rfl, live⟩
    cases found.symm.trans (ownsEndpointStays le live found')
    rfl

def Same (acts : List (Act K)) (i : Nat) (ctx : ContextId) (h : Handle .publisher) (j : Nat) (ctx' : ContextId)
    (h' : Handle .publisher) : Prop :=
  ctx = ctx' ∧ h = h' ∧ ∀ k, min i j ≤ k → k ≤ max i j → (stage acts k).system.publisher? ctx h ≠ none

theorem sameBack {h h' : Handle .publisher} : Same acts i ctx h j ctx' h' ↔ Same acts j ctx' h' i ctx h := by
  have turn {i j ctx ctx'} {h h' : Handle .publisher} :
      Same acts i ctx h j ctx' h' → Same acts j ctx' h' i ctx h := by
    rintro ⟨rfl, rfl, live⟩
    exact ⟨rfl, rfl, Nat.min_comm i j ▸ Nat.max_comm i j ▸ live⟩
  exact ⟨turn, turn⟩

theorem writersSame {h h' : Handle .publisher} {p p' : PublisherRecord K}
    (found : (stage acts i).system.publisher? ctx h = some p)
    (found' : (stage acts j).system.publisher? ctx' h' = some p') :
    p.writer = p'.writer ↔ Same acts i ctx h j ctx' h' := by
  have entries {k ctx} {h : Handle .publisher} :
      entriesAt acts k ctx (.publisher h) = ((stage acts k).system.publisher? ctx h).map PublisherRecord.entry :=
    System.publisherEntry _ ctx h
  have forward {i j ctx ctx'} {h h' : Handle .publisher} {p p' : PublisherRecord K} (le : i ≤ j)
      (found : (stage acts i).system.publisher? ctx h = some p)
      (found' : (stage acts j).system.publisher? ctx' h' = some p') :
      p.writer = p'.writer ↔ Same acts i ctx h j ctx' h' := by
    have exactly := ownsEndpointSame le (entries.trans (congrArg _ found)) (entries.trans (congrArg _ found'))
    simp only [entries, ne_eq, Option.map_eq_none_iff, EndpointRef.publisher.injEq] at exactly
    rw [Same, Nat.min_eq_left le, Nat.max_eq_right le]
    exact exactly
  rcases Nat.le_total i j with le | le
  · exact forward le found found'
  · exact eq_comm.trans ((forward le found' found).trans sameBack)

/-! ### What is sent -/

def requestsAt (acts : List (Act K)) (i : Nat) : List (Bus × Request) :=
  match acts[i]? with
  | some a => (stage acts i).system.bus.located ((stage acts i).asks a)
  | none => []

def performed (acts : List (Act K)) : Nat → List TimedTask
  | 0 => []
  | i + 1 => performed acts i ++ (requestsAt acts i).flatMap fun p => p.2.timedTasks p.1

theorem stageReceived (acts : List (Act K)) (i : Nat) :
    (stage acts i).system.bus.MembersAgree ∧ (stage acts i).system.bus.Received (.of (performed acts i)) := by
  induction i with
  | zero => exact ⟨Bus.membersAgreeEmpty, fun _ _ found => nomatch found⟩
  | succ i ih =>
    rw [performed, requestsAt]
    cases here : acts[i]? with
    | none =>
      rw [stageOver here, List.flatMap_nil, List.append_nil]
      exact ih
    | some a =>
      have waits := actRuns (stage acts i) a
      rw [stageNext here]
      exact ⟨(Bus.membersAgreeRun ih.1 _).waits waits, (Bus.performedReceived ih.1 ih.2 _).waits waits⟩

theorem publishRequestsAt {h : Handle .publisher} {m : Message K} (here : acts[i]? = some (.call (.publish ctx h m)))
    {p : Bus × Request} (mem : p ∈ requestsAt acts i) : ∃ x payload,
      (stage acts i).system.publisher? ctx h = some x ∧ p.2 = .write x.writer payload := by
  simp only [requestsAt, here, asks, System.asks, Site.publishAsks] at mem
  split at mem <;> try contradiction
  rename_i c known
  split at mem <;> try contradiction
  rename_i x found
  split at mem <;> try contradiction
  obtain rfl := List.mem_singleton.1 mem
  exact ⟨x, _, by rw [System.publisher?, known]; exact found, rfl⟩

end World

open World (stage requestsAt performed Same)

def HasGid (acts : List (Act K)) (i : Nat) (ctx : ContextId) (h : Handle .publisher) (g : Gid) : Prop :=
  ((stage acts i).system.publisherGid ctx h).2 = .ok g

structure GidsIdentify (acts : List (Act K)) : Prop where
  compared : ∀ i ctx h g j ctx' h' g', HasGid acts i ctx h g → HasGid acts j ctx' h' g' → ∀ k here c,
    (stage acts k).system.contexts.get? here = some c → ∃ equal,
      ((stage acts k).system.compareGids here g g').2 = .ok equal ∧ (equal = true ↔ Same acts i ctx h j ctx' h')
  spelled : ∀ i ctx h g, HasGid acts i ctx h g → ∃ x,
    (stage acts i).system.publisher? ctx h = some x ∧ g.publication = .ok x.writer
  asked : ∀ i a, acts[i]? = some a →
    Bus.OnlyWaits ((stage acts i).system.bus.run ((stage acts i).asks a)) (stage acts (i + 1)).system.bus
  posted : ∀ i ctx h g, HasGid acts i ctx h g → ∀ j ctx' h' m, acts[j]? = some (.call (.publish ctx' h' m)) →
    ∀ p ∈ requestsAt acts j, ∀ d ∈ p.2.timedTasks p.1, ∀ n, d.task = .deliver n → d.since = 0 →
      (g.publication = .ok n.arrival.publication ↔ Same acts i ctx h j ctx' h')
  marked : ∀ j, ∀ p ∈ requestsAt acts j, ∀ d ∈ p.2.timedTasks p.1, ∀ n, d.task = .deliver n →
    p.2.BroughtBy p.1 d.since n.arrival
  queued : ∀ j r x, (stage acts j).system.bus.readers.get? r = some x →
    x.mailbox.samples.map Sample.arrival <:+ TimedTask.arrivals r (performed acts j) ∧
      ((stage acts j).system.bus.take r).1 = x.mailbox.samples.head?

/-- Over any run that gives out fewer than 2^64 handles, gids got at any times in any contexts compare equal exactly if
they are of one publisher. What is published through it has its writer's handle in every queue that it comes to, and
nothing has that another publisher, or anyone through another writer, has written. -/
theorem gidsIdentify {acts : List (Act K)} (few : (({} : World K).run acts).system.bus.allocated < UInt64.size) :
    GidsIdentify acts := by
  have fits {i ctx h} {x : PublisherRecord K} (found : (stage acts i).system.publisher? ctx h = some x) :
      x.writer < UInt64.size := by
    have old := (World.stageOrderly acts i).2.old ctx (.publisher h) x.entry
      ((System.publisherEntry _ ctx h).trans (congrArg _ found))
    have last := Nat.lt_of_lt_of_le old (World.stageLast acts i)
    unfold Bus.allocated at few
    exact Nat.lt_of_lt_of_le last (Nat.le_of_pred_lt few)
  refine ⟨fun i ctx h g j ctx' h' g' hasGid hasGid' k here c known => ?_, fun i ctx h g hasGid => ?_,
    fun i a here => ?_, fun i ctx h g hasGid j ctx' h' m here p mem d done n task first => ?_,
    fun j p _ d done n task => Request.deliveriesMarked done task,
    fun j r x found => ⟨?_, Bus.takeFrontmost found⟩⟩
  · obtain ⟨x, found, rfl⟩ := System.gidExact.1 hasGid
    obtain ⟨x', found', rfl⟩ := System.gidExact.1 hasGid'
    refine ⟨_, (System.compareKnown known _ _).trans (Gid.equalOf (fits found) (fits found')), ?_⟩
    rw [decide_eq_true_iff]
    exact World.writersSame found found'
  · obtain ⟨x, found, rfl⟩ := System.gidExact.1 hasGid
    exact ⟨x, found, Gid.publicationOf (fits found)⟩
  · exact World.stageNext here ▸ World.actRuns _ a
  · obtain ⟨x, found, rfl⟩ := System.gidExact.1 hasGid
    obtain ⟨x', payload, found', asked⟩ := World.publishRequestsAt here mem
    have broughtBy := Request.deliveriesMarked done task
    rw [asked, first] at broughtBy
    rw [Gid.publicationOf (fits found), broughtBy.asked, Except.ok.injEq]
    exact World.writersSame found found'
  · exact DeliveryLog.ofArrivals (performed acts j) r ▸ (World.stageReceived acts j).2 r x found

def reissued (generation : UInt32) : Handle .publisher := ⟨implementationIdentifier, 1, 0, generation⟩

def reissue : List (Act ExampleCarrier) :=
  let node : Handle .node := ⟨implementationIdentifier, 1, 0, 0⟩
  [.call (.init {}), .call (.createNode 1 "talker"), .call (.createPublisher 1 node (.of .counter) "count"),
    .call (.createSubscription 1 node (.of .counter) "count" 3),
    .call (.publish 1 (reissued 0) (.of .counter (7 : UInt32))), .call (.destroyPublisher 1 (some (reissued 0))),
    .call (.createPublisher 1 node (.of .counter) "count"),
    .call (.publish 1 (reissued 1) (.of .counter (8 : UInt32)))]

theorem reissueIdentified :
    (({} : World ExampleCarrier).run reissue).system.bus.allocated < UInt64.size ∧ GidsIdentify reissue ∧
    HasGid reissue 4 1 (reissued 0) (.ofPublication 5) ∧ HasGid reissue 7 1 (reissued 1) (.ofPublication 9) ∧
    ((stage reissue 8).system.bus.readers.get? 7).map (·.mailbox.samples.map Sample.publication) = some [5, 9] := by
  have few : (({} : World ExampleCarrier).run reissue).system.bus.allocated < UInt64.size := by decide +kernel
  exact ⟨few, gidsIdentify few, grantedSome (by decide +kernel), grantedSome (by decide +kernel), by decide +kernel⟩

end Middleware
end Databus
