import Databus.Proofs.RecordCorrespondence
import Databus.Proofs.BoundedQueues

/-! A ledger of what applications have opened: for each publisher and subscription its domain, topic and type, and
for each subscription one bounded queue. Publishing and taking do to the queues what the ledger says, and every
outcome is the one that the ledger foretells. -/
namespace Databus.Middleware

open Bus (Moves Spare)

structure LedgerLine (K : Type) where
  domain : DomainId
  topic : String
  type : String
  carrier : K
  deriving DecidableEq, Repr

structure QueueLedger (K : Type) where
  domain : ContextId → Option DomainId := fun _ => none
  line : ContextId → EndpointRef → Option (LedgerLine K) := fun _ _ => none
  queue : ContextId → Handle .subscription → Queue := fun _ _ => ⟨0, []⟩

variable {K : Type}

namespace LedgerLine

def hears (s p : LedgerLine K) : Bool := s.domain = p.domain && s.topic = p.topic && s.type = p.type

variable [Catalog K]

def carrierName (s : LedgerLine K) : String := s!"{Catalog.package s.carrier}/{Catalog.name s.carrier}"

variable [DecidableEq K]

def encoded? (p : LedgerLine K) : Message K → Option Octets
  | .of k value =>
    if k = p.carrier then (Catalog.encode k value).toOption.filter (·.length ≤ 65536) else none
  | .foreign => none

def taken (s : LedgerLine K) (q : Queue) (slot : Option K) : Except Failure (Option (Message K)) :=
  if slot = some s.carrier then
    match q.content with
    | [] => .ok none
    | payload :: _ => (Catalog.decode s.carrier payload).map fun value => some (.of s.carrier value)
  else .error (.invalidArgument s!"output is not a {s.carrierName}")

end LedgerLine

namespace QueueLedger

def opened (l : QueueLedger K) (ctx : ContextId) (domain : DomainId) : QueueLedger K :=
  { l with domain := fun ctx' => if ctx' = ctx then some domain else l.domain ctx' }

def shut (l : QueueLedger K) (ctx : ContextId) : QueueLedger K :=
  { l with
    domain := fun ctx' => if ctx' = ctx then none else l.domain ctx'
    line := fun ctx' ref => if ctx' = ctx then none else l.line ctx' ref }

def enter (l : QueueLedger K) (ctx : ContextId) (ref : EndpointRef) (ts : TypeSupport K) (topic : String)
    (capacity : Nat) : QueueLedger K :=
  { l with
    line := fun ctx' ref' => if ctx' = ctx ∧ ref' = ref then
        (l.domain ctx).map fun domain =>
          ⟨domain, topic, qualifiedName ts.package ts.message, ts.carrier⟩
      else l.line ctx' ref'
    queue := fun ctx' h => if ctx' = ctx ∧ .subscription h = ref then ⟨capacity, []⟩
      else l.queue ctx' h }

def giveUp (l : QueueLedger K) (ctx : ContextId) (ref : EndpointRef) : QueueLedger K :=
  { l with line := fun ctx' ref' => if ctx' = ctx ∧ ref' = ref then none else l.line ctx' ref' }

def post (l : QueueLedger K) (p : LedgerLine K) (payload : Octets) : QueueLedger K :=
  { l with queue := fun ctx h =>
      if (l.line ctx (.subscription h)).any (·.hears p) then (l.queue ctx h).append payload
      else l.queue ctx h }

def advance (l : QueueLedger K) (ctx : ContextId) (h : Handle .subscription) : QueueLedger K :=
  { l with queue := fun ctx' h' =>
      if ctx' = ctx ∧ h' = h then (l.queue ctx h).advance else l.queue ctx' h' }

def capacity (size : Nat) : Nat := min (max size 1) (UInt32.size - 1)

variable [Catalog K] [DecidableEq K]

def serve (l : QueueLedger K) (s : System K) : Call K → QueueLedger K
  | .init settings =>
    ((s.init settings).2.toOption.map fun ctx => l.opened ctx settings.domain).getD l
  | .close ctx => l.shut ctx
  | .createPublisher ctx node ts topic =>
    ((s.createPublisher ctx node ts topic).2.toOption.map fun h =>
      l.enter ctx (.publisher h) ts topic 0).getD l
  | .destroyPublisher ctx h =>
    (((s.destroyPublisher ctx h).2.toOption.bind fun _ => h).map fun h =>
      l.giveUp ctx (.publisher h)).getD l
  | .createSubscription ctx node ts topic size =>
    ((s.createSubscription ctx node ts topic size).2.toOption.map fun h =>
      l.enter ctx (.subscription h) ts topic (capacity size)).getD l
  | .destroySubscription ctx h =>
    (((s.destroySubscription ctx h).2.toOption.bind fun _ => h).map fun h =>
      l.giveUp ctx (.subscription h)).getD l
  | .publish ctx h m =>
    ((l.line ctx (.publisher h)).bind fun p => (p.encoded? m).map fun payload => l.post p payload).getD l
  | .take ctx h slot =>
    if (l.line ctx (.subscription h)).any (slot = some ·.carrier) then l.advance ctx h else l
  | _ => l

def serveAll (l : QueueLedger K) (s : System K) : List (Call K) → QueueLedger K
  | [] => l
  | call :: rest => (l.serve s call).serveAll (s.serve call) rest

end QueueLedger

/-! ### The ledger agrees -/

namespace Directory

def line (d : Directory K) (ctx : ContextId) (ref : EndpointRef) : Option (LedgerLine K) :=
  (d.entry ctx ref).bind fun r => (d.domain ctx).map fun domain =>
    ⟨domain, r.topic.name, r.topic.type, r.support.carrier⟩

end Directory

structure LedgerHolds (b : Bus) (d : Directory K) (l : QueueLedger K) : Prop where
  linked : Linked b d
  silent : b.Silent
  domain : ∀ ctx, l.domain ctx = d.domain ctx
  line : ∀ ctx ref, l.line ctx ref = d.line ctx ref
  queue : ∀ ctx h r, d.entry ctx (.subscription h) = some r →
    ∃ y, b.readers.get? r.endpoint = some y ∧ y.Mirrors (l.queue ctx h)

theorem Linked.outer {b : Bus} {d : Directory K} (h : Linked b d) {ctx : ContextId} {ref : EndpointRef}
    {r : EndpointEntry K} (found : d.entry ctx ref = some r) : b.Outer r.endpoint := by
  obtain ⟨_, _, _, _, _, ownsEndpoint⟩ := h.ownsEndpoint ctx ref r found
  exact (h.membersAgree.endpoints _ _ ownsEndpoint.endpoint).1

namespace LedgerHolds

variable {b b' : Bus} {d d' : Directory K} {l : QueueLedger K} {t : Table ContextId (Context K)}
  {ctx : ContextId} {c : Context K} {s' : Site K} {observed : List ConditionId}

theorem fresh : LedgerHolds {} (Directory.of (.empty : Table ContextId (Context K))) {} :=
  ⟨.fresh, Bus.silentEmpty, fun _ => rfl, fun _ _ => rfl, fun _ _ _ found => (nomatch found)⟩

theorem lineKnown (h : LedgerHolds b (.of t) l) (known : t.get? ctx = some c) (ref : EndpointRef) :
    l.line ctx ref = (c.findEntry ref).map fun r =>
      ⟨c.settings.domain, r.topic.name, r.topic.type, r.support.carrier⟩ := by
  obtain ⟨domain, _, entry⟩ := Directory.ofKnown known
  rw [h.line, Directory.line, entry, domain]
  cases c.findEntry ref <;> rfl

theorem lineUnknown (h : LedgerHolds b (.of t) l) (none : t.get? ctx = none) (ref : EndpointRef) :
    l.line ctx ref = .none := by
  rw [h.line, Directory.line]
  simp only [Directory.of, none]
  rfl

theorem unlined (h : LedgerHolds b (.of t) l) (known : t.get? ctx = some c) {ref : EndpointRef}
    (none : l.line ctx ref = none) : c.findEntry ref = .none := by
  rwa [h.lineKnown known, Option.map_eq_none_iff] at none

theorem linesExact (h : LedgerHolds b (.of t) l) {ref : EndpointRef} {p : LedgerLine K} :
    l.line ctx ref = some p ↔ ∃ c r, t.get? ctx = some c ∧ c.findEntry ref = some r ∧
      p = ⟨c.settings.domain, r.topic.name, qualifiedName r.support.package r.support.message,
        r.support.carrier⟩ := by
  have typed : ∀ {c r}, t.get? ctx = some c → c.findEntry ref = some r →
      r.topic.type = qualifiedName r.support.package r.support.message := fun known held =>
    h.linked.typed ctx ref _ (((Directory.ofKnown known).2.2 ref).trans held)
  constructor
  · intro line
    cases known : t.get? ctx with
    | none => exact nomatch (h.lineUnknown known ref).symm.trans line
    | some c =>
      rw [h.lineKnown known] at line
      obtain ⟨r, held, same⟩ := Option.map_eq_some_iff.1 line
      exact ⟨c, r, rfl, held, typed known held ▸ same.symm⟩
  · rintro ⟨c, r, known, held, rfl⟩
    rw [h.lineKnown known, held, Option.map_some, typed known held]

theorem keep (h : LedgerHolds b d l) {keep : InstanceHandle → Prop} (moves : Moves (Spare keep) b b')
    (inside : ∀ ctx ref r, d.entry ctx ref = some r → keep r.endpoint) (linked : Linked b' d')
    (domain : d'.domain = d.domain) (entry : d'.entry = d.entry) : LedgerHolds b' d' l := by
  obtain ⟨silent, same⟩ := Bus.spareMoves moves h.linked.membersAgree h.silent
  refine ⟨linked, silent, fun ctx => ?_, fun ctx ref => ?_, fun ctx k r found => ?_⟩
  · rw [domain]
    exact h.domain ctx
  · rw [Directory.line, domain, entry]
    exact h.line ctx ref
  · rw [entry] at found
    rw [same _ (inside ctx _ r found) (h.linked.outer found)]
    exact h.queue ctx k r found

theorem aside (h : LedgerHolds b (.of t) l) (known : t.get? ctx = some c)
    (how : Site.Aside ⟨b, observed, c⟩ s') : LedgerHolds s'.bus (.of (t.insert ctx s'.context)) l := by
  have tables : (Directory.of (t.insert ctx s'.context)).domain = (Directory.of t).domain ∧
      (Directory.of (t.insert ctx s'.context)).entry = (Directory.of t).entry := by
    cases how with
    | quiet calm same sound =>
      rw [Directory.ofSame known same]
      exact ⟨rfl, rfl⟩
    | addsNode how =>
      cases how with
      | refused =>
        rw [Directory.ofSame known (.refl c)]
        exact ⟨rfl, rfl⟩
      | full joined sound same =>
        rw [Directory.ofSame known same]
        exact ⟨rfl, rfl⟩
      | nodeAdded joined sound addsNode =>
        rw [Directory.ofAddsNode known addsNode]
        exact ⟨rfl, rfl⟩
    | removesNode how =>
      cases how with
      | refused =>
        rw [Directory.ofSame known (.refl c)]
        exact ⟨rfl, rfl⟩
      | parted idle sound removesNode =>
        rw [Directory.ofRemovesNode known removesNode]
        exact ⟨rfl, rfl⟩
  exact h.keep (asideSpares how) (fun _ _ _ found => h.linked.endpointOld found)
    (h.linked.aside known how) tables.1 tables.2

theorem granting (h : LedgerHolds b (.of t) l) (known : t.get? ctx = some c) {side : Side}
    {node : Handle .node} {ts : TypeSupport K} {topic : String} {history : History}
    {ref : Option EndpointRef} {capacity : Nat} (limit : side = .subscription → history.limit = some capacity)
    (how : Site.Grants ⟨b, observed, c⟩ side node ts topic history s' ref) :
    LedgerHolds s'.bus (.of (t.insert ctx s'.context))
      ((ref.map fun ref => l.enter ctx ref ts topic capacity).getD l) := by
  have linked := h.linked.granting known how
  have bound : ∀ n : NodeRecord, LedgerHolds (b.run (Site.binding n.participant ts topic)) (.of t) l :=
    fun n => by
      obtain ⟨membersAgree, retains⟩ := bindingRetains h.linked.membersAgree n.participant ts topic
      exact h.keep (bindingSpares (fun _ => True) b n.participant ts topic) (fun _ _ _ _ => trivial)
        (h.linked.retain membersAgree retains) rfl rfl
  have same := Directory.ofSame known (.refl c)
  cases how with
  | refused =>
    rw [same]
    exact h
  | bound found =>
    rw [same]
    exact bound _
  | @full n _ t' x found binds named there =>
    -- the reader that comes and goes is newer than every one in the directory
    subst binds
    rw [same] at linked ⊢
    have up := Bus.putUpSpares (fun _ => True) (b.run (Site.binding n.participant ts topic)) side
      n.participant t' history
    refine (bound n).keep (.trans (Bus.movesWeaken (fun _ _ spare => ?_) up)
      (Bus.takeDownSpares _ side n.participant _ _)) (fun _ _ _ held => ?_) linked rfl rfl
    · exact ⟨spare.1, fun membersAgree r _ outer => spare.2 membersAgree r trivial outer⟩
    · exact Nat.ne_of_lt (Nat.lt_succ_of_lt ((bound n).linked.endpointOld held))
  | @granted n _ t' x ref _ found binds named there own sound enters =>
    subst binds own
    have books := bound n
    obtain ⟨silent, passed⟩ := Bus.spareMoves (Bus.putUpSpares (fun _ => True)
      (b.run (Site.binding n.participant ts topic)) ref.side n.participant t' history)
      books.linked.membersAgree books.silent
    have vacant : (Directory.of t).entry ctx ref = none :=
      ((Directory.ofKnown known).2.2 ref).trans enters.fresh
    rw [Directory.ofEnters known enters] at linked ⊢
    refine ⟨linked, silent, h.domain, fun ctx' ref' => ?_, fun ctx' k r held => ?_⟩
    · simp only [Option.map_some, Option.getD_some, QueueLedger.enter, Directory.line, Directory.enter,
        Directory.count, Directory.setEntry]
      split
      · rename_i here
        rw [here.1, h.domain, Option.bind_some, named.1, named.2]
      · exact h.line ctx' ref'
    · simp only [Option.map_some, Option.getD_some, QueueLedger.enter]
      rcases (Directory.enterEntry vacant).1 held with ⟨rfl, rfl, rfl⟩ | old
      · refine ⟨_, Bus.putUpReader books.linked.membersAgree books.silent there t' history, ?_⟩
        rw [if_pos ⟨rfl, rfl⟩]
        exact ⟨rfl, limit rfl, rfl, Nat.zero_le _⟩
      · rw [if_neg, passed _ trivial (books.linked.outer old)]
        · exact books.queue ctx' k r old
        · rintro ⟨rfl, rfl⟩
          cases vacant.symm.trans old

theorem releasing (h : LedgerHolds b (.of t) l) (known : t.get? ctx = some c) {side : Side}
    {ref : Option EndpointRef} (how : Site.Releases ⟨b, observed, c⟩ side ref s') :
    LedgerHolds s'.bus (.of (t.insert ctx s'.context)) ((ref.map fun ref => l.giveUp ctx ref).getD l) := by
  have linked := h.linked.releasing known how
  obtain ⟨_, nodes, entries⟩ := Directory.ofKnown known
  cases how with
  | refused =>
    rw [Directory.ofSame known (.refl c)]
    exact h
  | orphaned ref own absent sound givesUp =>
    obtain ⟨_, _, node, _⟩ := h.linked.ownsEndpoint ctx ref _ ((entries ref).trans givesUp.held)
    exact nomatch absent.symm.trans ((nodes _).symm.trans node)
  | @released ref r n _ own found sound givesUp =>
    have held := (entries ref).trans givesUp.held
    obtain ⟨silent, passed⟩ := Bus.spareMoves
      (Bus.takeDownSpares b side n.participant r.group r.endpoint) h.linked.membersAgree h.silent
    rw [Directory.ofGivesUp known givesUp] at linked ⊢
    refine ⟨linked, silent, h.domain, fun ctx' ref' => ?_, fun ctx' k r' there => ?_⟩
    · simp only [Option.map_some, Option.getD_some, QueueLedger.giveUp, Directory.line, Directory.giveUp,
        Directory.count, Directory.setEntry]
      split
      · rfl
      · exact h.line ctx' ref'
    · obtain ⟨other, before⟩ := Directory.giveUpEntry.1 there
      have apart : r'.endpoint ≠ r.endpoint := fun same => other (h.linked.sole _ _ _ _ _ _ before held same)
      rw [passed _ apart (h.linked.outer before)]
      exact h.queue ctx' k r' before

/-! ### Contexts -/

theorem opening (h : LedgerHolds b (.of t) l) (new : t.get? ctx = none) (sound : c.Sound)
    (bare : ∀ h, c.nodes.find? h = none) (unstaked : ∀ ref, c.findEntry ref = none) :
    LedgerHolds b (.of (t.insert ctx c)) (l.opened ctx c.settings.domain) := by
  have step : System.Step (fun _ _ => False) b t b (t.insert ctx c) := .opened new sound bare unstaked
  have linked := h.linked.step step
  rw [Directory.ofOpened new bare unstaked] at linked ⊢
  have none : ∀ ref, (Directory.of t).entry ctx ref = none := fun ref => by
    simp only [Directory.of, new]
    rfl
  refine ⟨linked, h.silent, fun ctx' => ?_, fun ctx' ref => (h.line ctx' ref).trans ?_, h.queue⟩
  · simp only [QueueLedger.opened, Directory.setDomain, h.domain]
  · simp only [Directory.line, Directory.setDomain]
    split
    · rename_i own
      rw [own, none]
      rfl
    · rfl

theorem closing (h : LedgerHolds b (.of t) l) (known : t.get? ctx = some c) :
    LedgerHolds (System.dismiss b c.nodes.values) (.of (t.erase ctx)) (l.shut ctx) := by
  have step : System.Step (fun _ _ => False) b t _ _ := .closed known
  have linked := h.linked.step step
  obtain ⟨silent, passed⟩ := Bus.spareMoves (dismissSpares (fun _ => True) b c.nodes.values)
    h.linked.membersAgree h.silent
  rw [Directory.ofErase] at linked ⊢
  refine ⟨linked, silent, fun ctx' => ?_, fun ctx' ref => ?_, fun ctx' k r found => ?_⟩
  · simp only [QueueLedger.shut, Directory.shut, h.domain]
  · simp only [QueueLedger.shut, Directory.line, Directory.shut]
    split
    · rfl
    · exact h.line ctx' ref
  · obtain ⟨_, before⟩ := Directory.shutEntry.1 found
    rw [passed _ trivial (h.linked.outer before)]
    exact h.queue ctx' k r before

theorem absent (h : LedgerHolds b (.of t) l) (none : t.get? ctx = none) :
    LedgerHolds b (.of t) (l.shut ctx) := by
  have unknown : (Directory.of t).domain ctx = .none ∧ ∀ ref, (Directory.of t).entry ctx ref = .none := by
    simp only [Directory.of, none]
    exact ⟨rfl, fun _ => rfl⟩
  refine ⟨h.linked, h.silent, fun ctx' => ?_, fun ctx' ref => ?_, h.queue⟩
  · simp only [QueueLedger.shut]
    split
    · rename_i own
      rw [own, unknown.1]
    · exact h.domain ctx'
  · simp only [QueueLedger.shut]
    split
    · rename_i own
      rw [own, Directory.line, unknown.2]
      rfl
    · exact h.line ctx' ref

/-! ### Messages -/

theorem heardAudience (h : LedgerHolds b d l) {x : Writer} {p : LedgerLine K} (domain : x.domain = p.domain)
    (topic : x.topic = p.topic) (type : x.type = p.type) {k : Handle .subscription} {r : EndpointEntry K}
    (held : d.entry ctx (.subscription k) = some r) :
    r.endpoint ∈ b.audience x ↔ (l.line ctx (.subscription k)).any (·.hears p) = true := by
  obtain ⟨n, own, _, there, _, ownsEndpoint⟩ := h.linked.ownsEndpoint ctx _ r held
  have line : l.line ctx (.subscription k) = some ⟨own, r.topic.name, r.topic.type, r.support.carrier⟩ := by
    rw [h.line, Directory.line, held, Option.bind_some, there]
    rfl
  rw [line, Bus.memAudience, ownsEndpoint.endpoint, domain, topic, type]
  simp [LedgerLine.hears, EndpointRef.side, and_assoc]

theorem posting (h : LedgerHolds b d l) (w : InstanceHandle) {x : Writer} {p : LedgerLine K}
    (domain : x.domain = p.domain) (topic : x.topic = p.topic) (type : x.type = p.type)
    (payload : Octets) :
    LedgerHolds (b.deliver (Bus.copies w payload (b.audience x))) d (l.post p payload) := by
  have steady := Bus.deliverSteady b (Bus.copies w payload (b.audience x))
  refine ⟨h.linked.retain (h.linked.membersAgree.steady steady) (.steady steady), h.silent.steady steady,
    h.domain, h.line, fun ctx k r held => ?_⟩
  obtain ⟨y, found, mirrors⟩ := h.queue ctx k r held
  obtain ⟨y', found', mirrors'⟩ := Bus.writeMirrored h.silent w x payload found mirrors
  refine ⟨y', found', ?_⟩
  simp only [QueueLedger.post, ← h.heardAudience domain topic type held]
  exact mirrors'

theorem drawing (h : LedgerHolds b d l) {k : Handle .subscription} {r : EndpointEntry K}
    (held : d.entry ctx (.subscription k) = some r) :
    LedgerHolds (b.take r.endpoint).2 d (l.advance ctx k) := by
  have steady := (Bus.takeAffects (b := b) (z := .all) (r := r.endpoint) trivial).steady
  refine ⟨h.linked.retain (h.linked.membersAgree.steady steady) (.steady steady), h.silent.steady steady,
    h.domain, h.line, fun ctx' k' r' held' => ?_⟩
  obtain ⟨y, found, mirrors⟩ := h.queue ctx' k' r' held'
  simp only [QueueLedger.advance]
  split
  · rename_i own
    obtain ⟨rfl, rfl⟩ := own
    cases Option.some.inj (held'.symm.trans held)
    cases there : (l.queue ctx' k').content with
    | nil =>
      -- nothing to take leaves the bus as it is, and an empty queue has no front
      obtain ⟨_, same⟩ := Bus.takeEmpty found mirrors there
      have idle : (l.queue ctx' k').advance = l.queue ctx' k' := by
        rw [Queue.advance, there, List.tail_nil, ← there]
      rw [same, idle]
      exact ⟨y, found, mirrors⟩
    | cons payload rest =>
      obtain ⟨_, y', _, _, found', mirrors'⟩ := Bus.takeFront found mirrors there
      exact ⟨y', found', mirrors'⟩
  · rename_i other
    have apart : r.endpoint ≠ r'.endpoint := fun same => by
      obtain ⟨here, this⟩ := h.linked.sole _ _ _ _ _ _ held held' same
      exact other ⟨here.symm, (EndpointRef.subscription.inj this).symm⟩
    have passed := Bus.passing h.linked.membersAgree h.silent (h.linked.outer held')
      (q := .take r.endpoint) rfl apart
    exact ⟨y, passed.trans found, mirrors⟩

variable [Catalog K] [DecidableEq K]

theorem encodedExact {ts : TypeSupport K} {p : LedgerLine K} (same : p.carrier = ts.carrier) {m : Message K}
    {payload : Octets} :
    p.encoded? m = some payload ↔ ts.encode m = .ok payload ∧ payload.length ≤ 65536 := by
  cases m with
  | foreign => simp [LedgerLine.encoded?, TypeSupport.encode]
  | of k value =>
    simp only [LedgerLine.encoded?, TypeSupport.encode, same]
    split
    · cases Catalog.encode k value with
      | error f => simp [Except.toOption]
      | ok o =>
        simp only [Except.toOption, Option.filter_eq_some_iff, Option.some.injEq, Except.ok.injEq,
          decide_eq_true_eq]
    · simp

theorem publishing (h : LedgerHolds b (.of t) l) (known : t.get? ctx = some c)
    (observed : List ConditionId) {k : Handle .publisher}
    {p : LedgerLine K} (line : l.line ctx (.publisher k) = some p) (m : Message K) :
    (∃ payload b', p.encoded? m = some payload ∧
      Site.publish ⟨b, observed, c⟩ k m = (⟨b', observed, c⟩, .ok ()) ∧
      LedgerHolds b' (.of t) (l.post p payload)) ∨
    (p.encoded? m = none ∧ ∃ f, Site.publish ⟨b, observed, c⟩ k m = (⟨b, observed, c⟩, .error f)) := by
  rw [h.line, Directory.line] at line
  obtain ⟨r, held, there⟩ := Option.bind_eq_some_iff.1 line
  obtain ⟨domain, own, same⟩ := Option.map_eq_some_iff.1 there
  obtain ⟨n, domain', _, own', _, ownsEndpoint⟩ := h.linked.ownsEndpoint ctx _ r held
  cases Option.some.inj (own.symm.trans own')
  obtain ⟨record, live, rfl⟩ := Option.map_eq_some_iff.1
    (((Directory.ofKnown known).2.2 (.publisher k)).symm.trans held)
  have writer := ownsEndpoint.writer rfl
  have got : c.publishers.get k = .ok record := Arena.getExact.2 live
  have exactly : ∀ payload, p.encoded? m = some payload ↔
      record.support.encode m = .ok payload ∧ payload.length ≤ 65536 :=
    fun _ => encodedExact (congrArg LedgerLine.carrier same.symm)
  simp only [Site.publish, got, TypeSupport.publish]
  cases encoded : record.support.encode m with
  | error f =>
    refine .inr ⟨Option.eq_none_iff_forall_ne_some.2 fun payload goes => ?_, f, rfl⟩
    cases encoded.symm.trans ((exactly payload).1 goes).1
  | ok payload =>
    by_cases fits : payload.length ≤ 65536
    · have written : b.write record.writer payload = _ := Bus.writeGranted writer rfl fits
      have posted := h.posting record.writer (x := ⟨record.entry.group, domain,
        record.entry.topic.name, record.entry.topic.type, standardPayloadLimit, false⟩)
        (congrArg LedgerLine.domain same) (congrArg LedgerLine.topic same) (congrArg LedgerLine.type same) payload
      refine .inl ⟨payload, _, (exactly payload).2 ⟨encoded, fits⟩, ?_, posted⟩
      dsimp only
      rw [written]
      rfl
    · have written : b.write record.writer payload = _ :=
        Bus.writeRefused writer rfl (Nat.not_le.1 fits)
      refine .inr ⟨Option.eq_none_iff_forall_ne_some.2 fun payload' goes => ?_, ?_⟩
      · obtain ⟨encoded', fits'⟩ := (exactly payload').1 goes
        cases Except.ok.inj (encoded.symm.trans encoded')
        exact fits fits'
      · dsimp only
        rw [written]
        exact ⟨_, rfl⟩

theorem nextPayloadFirst {r : InstanceHandle} {y : Reader} {q : Queue}
    (found : b.readers.get? r = some y) (mirrors : y.Mirrors q) (n : Nat) :
    TypeSupport.nextPayload r (n + 1) b = (q.content.head?, (b.take r).2) := by
  unfold TypeSupport.nextPayload
  cases there : q.content with
  | nil =>
    obtain ⟨none, _⟩ := Bus.takeEmpty found mirrors there
    rw [show b.take r = (.none, (b.take r).2) from Prod.ext none rfl]
    rfl
  | cons payload rest =>
    obtain ⟨s, _, first, carries, _⟩ := Bus.takeFront found mirrors there
    rw [show b.take r = (some s, (b.take r).2) from Prod.ext first rfl]
    simp only [carries]
    rfl

theorem taking (h : LedgerHolds b (.of t) l) (known : t.get? ctx = some c)
    (observed : List ConditionId) {k : Handle .subscription}
    {s : LedgerLine K} (line : l.line ctx (.subscription k) = some s) (slot : Option K) :
    (Site.take ⟨b, observed, c⟩ k slot).1.context = c ∧
      (Site.take ⟨b, observed, c⟩ k slot).2 = s.taken (l.queue ctx k) slot ∧
      LedgerHolds (Site.take ⟨b, observed, c⟩ k slot).1.bus (.of t)
        (if slot = some s.carrier then l.advance ctx k else l) := by
  rw [h.line, Directory.line] at line
  obtain ⟨r, held, there⟩ := Option.bind_eq_some_iff.1 line
  obtain ⟨domain, own, rfl⟩ := Option.map_eq_some_iff.1 there
  obtain ⟨record, live, rfl⟩ := Option.map_eq_some_iff.1
    (((Directory.ofKnown known).2.2 (.subscription k)).symm.trans held)
  obtain ⟨y, found, mirrors⟩ := h.queue ctx k _ held
  have got : c.subscriptions.get k = .ok record := Arena.getExact.2 live
  have next := nextPayloadFirst found mirrors (TypeSupport.unread b record.reader)
  have drawn := h.drawing held
  simp only [Site.take, got, TypeSupport.take, LedgerLine.taken, SubscriptionRecord.entry, true_and]
  by_cases fitting : slot = some record.support.carrier
  · simp only [fitting, if_true]
    change TypeSupport.nextPayload record.reader _ b = _ at next
    rw [next]
    cases (l.queue ctx k).content with
    | nil => exact ⟨rfl, drawn⟩
    | cons payload rest =>
      simp only [List.head?_cons]
      cases Catalog.decode record.support.carrier payload with
      | ok value => exact ⟨rfl, drawn⟩
      | error f => exact ⟨rfl, drawn⟩
  · simp only [fitting, if_false]
    exact ⟨rfl, h⟩

end LedgerHolds
end Databus.Middleware
