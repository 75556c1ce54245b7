import Databus.Bus.Entities

/-! What an application asks of a bus, and runs of such requests; a refused request changes nothing.
A request first changes the tables and draws up its news; then the news is delivered. -/
namespace Databus

inductive Request
  | join (domain : DomainId)
  | leave (participant : InstanceHandle)
  | registerType (participant : InstanceHandle) (type : String)
  | createTopic (participant : InstanceHandle) (name type : String) (history : History)
  | createGroup (side : Side) (participant : InstanceHandle)
  | deleteGroup (participant group : InstanceHandle)
  | createWriter (publisher : InstanceHandle) (topic : Topic) (maxPayload : Nat)
  | deleteWriter (publisher writer : InstanceHandle)
  | createReader (subscriber : InstanceHandle) (topic : Topic) (history : History)
  | deleteReader (subscriber reader : InstanceHandle)
  | write (writer : InstanceHandle) (payload : Octets)
  | take (reader : InstanceHandle)
  | drain (side : Side) (graph : GraphId) (guard : ConditionId) (reader : InstanceHandle)
  | setListener (reader : InstanceHandle) (listener : Option ListenerId)
  | newListener (listener : Listener)
  | newGraph
  | newGuard
  deriving DecidableEq, Repr

def Group.endpoint (x : Group) (topic : Topic) : Endpoint :=
  ⟨x.side, x.domain, x.participant, topic.name, topic.type⟩

namespace Bus

def after (b : Bus) : Except Fault Bus → Bus
  | .ok b' => b'
  | .error _ => b

def request (b : Bus) : Request → Bus
  | .join domain => b.after ((b.join domain).map (·.2))
  | .leave p => b.leave p
  | .registerType p type => b.after (b.registerType p type)
  | .createTopic p name type history => b.after ((b.createTopic p name type history).map (·.2))
  | .createGroup side p => b.after ((b.createGroup side p).map (·.2))
  | .deleteGroup p g => b.after (b.deleteGroup p g)
  | .createWriter g topic maxPayload => b.after ((b.createWriter g topic maxPayload).map (·.2))
  | .deleteWriter g w => b.after (b.deleteWriter g w)
  | .createReader g topic history => b.after ((b.createReader g topic history).map (·.2))
  | .deleteReader g r => b.after (b.deleteReader g r)
  | .write w payload => b.after (b.write w payload)
  | .take r => (b.take r).2
  | .drain side graph guard r => (b.drain side graph guard r).2
  | .setListener r listener => b.setListener r listener
  | .newListener listener => (b.newListener listener).2
  | .newGraph => b.newGraph.2
  | .newGuard => (b.newCondition .newGuard).2

def run (b : Bus) (requests : List Request) : Bus := requests.foldl request b

/-! ### Tables first -/

def newMember (b : Bus) (domain : DomainId) : Member := ⟨domain, b.nextHandle + 1, b.nextHandle + 2⟩

def welcome (b : Bus) (domain : DomainId) : Bus :=
  let (p, b) := b.takeHandle
  let (publications, b) :=
    b.newReader p Announcement.publicationTopic Announcement.typeName .keepAll
  let (subscriptions, b) :=
    b.newReader p Announcement.subscriptionTopic Announcement.typeName .keepAll
  { b with
    members := b.members.insert p ⟨domain, publications, subscriptions⟩
    participants := b.participants.insert p { domain, publications, subscriptions } }

def enrolled (b : Bus) (key : InstanceHandle) (e : Endpoint) : Bus :=
  { b with endpoints := b.endpoints.insert key e }

def withdrawn (b : Bus) (key : InstanceHandle) : Bus :=
  { b with endpoints := b.endpoints.erase key }

def vacated (b : Bus) (p : InstanceHandle) (x : Participant) : Bus :=
  let b := x.groups.foldl markDeleted b
  let b := (b.setListener x.publications none).setListener x.subscriptions none
  { b with
    participants := b.participants.erase p
    members := b.members.erase p
    endpoints := b.endpoints.filter fun _ e => e.owner ≠ p }

def withWriter (b : Bus) (g : InstanceHandle) (x : Group) (topic : Topic) (maxPayload : Nat) : Bus :=
  let (w, b) := b.takeHandle
  let new : Writer := { publisher := g, domain := x.domain, topic := topic.name,
                        type := topic.type, maxPayload }
  { b with writers := b.writers.insert w new }.addChild g w

def withReader (b : Bus) (g : InstanceHandle) (x : Group) (topic : Topic) (history : History) : Bus :=
  let (r, b) := b.newReader x.participant topic.name topic.type history
  b.addChild g r

def withoutWriter (b : Bus) (g w : InstanceHandle) : Bus :=
  let b := b.removeChild g w
  { b with writers := b.writers.modify w ({ · with deleted := true }) }

def arrivalNews (b : Bus) (key : InstanceHandle) (e : Endpoint) : List Notice :=
  announce (b.peers e.domain e.owner) key e .alive

def removalNews (b : Bus) (key : InstanceHandle) (e : Endpoint) : List Notice :=
  announce (b.peers e.domain e.owner) key e .disposed

def withdrawal (b : Bus) (key : InstanceHandle) : Bus × List Notice :=
  match b.endpoints.get? key with
  | some e => (b.withdrawn key, b.removalNews key e)
  | none => (b, [])

theorem marksGroups (gs : List InstanceHandle) (b : Bus) :
    gs.foldl markDeleted b =
      { b with groups := gs.foldl (fun t g => t.modify g ({ · with deleted := true })) b.groups } := by
  induction gs generalizing b with
  | nil => rfl
  | cons g rest ih => exact ih _

@[simp] theorem deliverNothing (b : Bus) : b.deliver [] = b := by
  simp only [deliver, List.map_nil, settle]

theorem joinOpens {b : Bus} {domain : DomainId} (fits : domain ≤ maxDomainId) :
    b.join domain =
      .ok (b.nextHandle, (b.welcome domain).deliver (b.replay (b.newMember domain))) := by
  unfold join
  rw [if_neg (Nat.not_lt.2 fits)]
  rfl

theorem joinRefused {b : Bus} {domain : DomainId} (large : maxDomainId < domain) :
    b.join domain = .error (.invalidDomain domain) := if_pos large

theorem leaveOpens {b : Bus} {p : InstanceHandle} {x : Participant}
    (found : b.participants.get? p = some x) :
    b.leave p = (b.vacated p x).deliver (b.farewell p x.domain) := by
  simp only [leave, found, vacated, marksGroups]
  rfl

structure Withdrew (b b' : Bus) : Prop where
  nextHandle : b'.nextHandle = b.nextHandle
  nextKey : b'.nextKey = b.nextKey
  readers : b'.readers = b.readers
  members : b'.members = b.members
  listeners : b'.listeners = b.listeners
  graphs : b'.graphs = b.graphs

theorem writerWithdrew (b : Bus) (g w : InstanceHandle) :
    Withdrew b ((b.withoutWriter g w).withdrawal w).1 := by
  unfold withdrawal
  split <;> exact ⟨rfl, rfl, rfl, rfl, rfl, rfl⟩

theorem readerWithdrew (b : Bus) (g r : InstanceHandle) :
    Withdrew b ((b.removeChild g r).withdrawal r).1 := by
  unfold withdrawal
  split <;> exact ⟨rfl, rfl, rfl, rfl, rfl, rfl⟩

theorem withdrawOpens (b : Bus) (key : InstanceHandle) :
    (b.withdraw key).2 = (b.withdrawal key).1.deliver (b.withdrawal key).2 := by
  unfold withdraw withdrawal
  cases b.endpoints.get? key with
  | none => exact (deliverNothing b).symm
  | some e => rfl

theorem openGroupExact {b : Bus} {side : Side} {g : InstanceHandle} {x : Group} :
    b.openGroup side g = .ok x ↔ b.groups.get? g = some x ∧ x.side = side ∧ x.deleted = false := by
  unfold openGroup
  cases found : b.groups.get? g with
  | none => simp
  | some y => grind

theorem createGroupOpens {b b' : Bus} {side : Side} {p g : InstanceHandle}
    (ok : b.createGroup side p = .ok (g, b')) :
    ∃ x, b.participants.get? p = some x ∧ g = b.nextHandle ∧
      b' = { b.takeHandle.2 with
        groups := b.groups.insert g { side, participant := p, domain := x.domain }
        participants := b.participants.modify p fun x => { x with groups := x.groups ++ [g] } } := by
  unfold createGroup at ok
  cases found : b.participants.get? p with
  | none => simp only [found] at ok; contradiction
  | some x =>
    simp only [found] at ok
    cases Except.ok.inj ok
    exact ⟨x, rfl, rfl, rfl⟩

theorem deleteGroupOpens {b b' : Bus} {p g : InstanceHandle} (ok : b.deleteGroup p g = .ok b') :
    ∃ x, b.groups.get? g = some x ∧ x.participant = p ∧ x.endpoints = [] ∧ b.owns p g ∧
      b' = { b.markDeleted g with
        participants := b.participants.modify p fun x => { x with groups := x.groups.erase g } } := by
  unfold deleteGroup at ok
  split at ok <;> try contradiction
  rename_i x found
  split at ok <;> try contradiction
  rename_i own
  split at ok <;> try contradiction
  rename_i bare
  split at ok <;> try contradiction
  rename_i listed
  cases Except.ok.inj ok
  exact ⟨x, found, Decidable.not_not.1 own, Decidable.not_not.1 bare, by simpa using listed, rfl⟩

theorem createTopicOpens {b b' : Bus} {p : InstanceHandle} {name type : String} {history : History}
    {t : Topic} (ok : b.createTopic p name type history = .ok (t, b')) :
    (b' = b ∧ b.findTopic p name = some t ∧ t.type = type) ∨
      (b.findTopic p name = none ∧ t = ⟨p, name, type, history⟩ ∧
        b' = { b with participants := b.participants.modify p fun x =>
          { x with topics := x.topics ++ [t] } }) := by
  unfold createTopic at ok
  split at ok <;> try contradiction
  split at ok <;> try contradiction
  split at ok
  · rename_i t' found
    split at ok <;> try contradiction
    rename_i same
    cases Except.ok.inj ok
    exact .inl ⟨rfl, found, same⟩
  · rename_i absent
    cases Except.ok.inj ok
    exact .inr ⟨absent, rfl, rfl⟩

theorem registerTypeOpens {b b' : Bus} {p : InstanceHandle} {type : String}
    (ok : b.registerType p type = .ok b') :
    type ≠ "" ∧ b' = { b with participants := b.participants.modify p fun x =>
      { x with types := if type ∈ x.types then x.types else x.types ++ [type] } } := by
  unfold registerType at ok
  split at ok <;> try contradiction
  rename_i named
  cases Except.ok.inj ok
  exact ⟨named, rfl⟩

theorem createWriterOpens {b : Bus} {g : InstanceHandle} {x : Group} (topic : Topic)
    {maxPayload : Nat} (isOpen : b.openGroup .publication g = .ok x) (positive : maxPayload ≠ 0) :
    b.createWriter g topic maxPayload =
      .ok (b.nextHandle,
        ((b.withWriter g x topic maxPayload).enrolled b.nextHandle (x.endpoint topic)).deliver
          (b.arrivalNews b.nextHandle (x.endpoint topic))) := by
  have side := (openGroupExact.1 isOpen).2.1
  simp only [createWriter, isOpen, if_neg positive, Group.endpoint, side]
  rfl

theorem createReaderOpens {b : Bus} {g : InstanceHandle} {x : Group} (topic : Topic)
    (history : History) (isOpen : b.openGroup .subscription g = .ok x) :
    b.createReader g topic history =
      .ok (b.nextHandle,
        ((b.withReader g x topic history).enrolled b.nextHandle (x.endpoint topic)).deliver
          (b.arrivalNews b.nextHandle (x.endpoint topic))) := by
  have side := (openGroupExact.1 isOpen).2.1
  simp only [createReader, isOpen, Group.endpoint, side]
  rfl

theorem createWriterMade {b b' : Bus} {g w : InstanceHandle} {topic : Topic} {n : Nat}
    (ok : b.createWriter g topic n = .ok (w, b')) : ∃ x, b.openGroup .publication g = .ok x ∧ w = b.nextHandle ∧
      b' = ((b.withWriter g x topic n).enrolled b.nextHandle (x.endpoint topic)).deliver
        (b.arrivalNews b.nextHandle (x.endpoint topic)) := by
  cases isOpen : b.openGroup .publication g with
  | error f => simp only [createWriter, isOpen] at ok; contradiction
  | ok x =>
    by_cases zero : n = 0
    · simp only [createWriter, isOpen, if_pos zero] at ok; contradiction
    · rw [createWriterOpens topic isOpen zero] at ok
      cases Except.ok.inj ok
      exact ⟨x, rfl, rfl, rfl⟩

theorem createReaderMade {b b' : Bus} {g r : InstanceHandle} {topic : Topic} {history : History}
    (ok : b.createReader g topic history = .ok (r, b')) :
    ∃ x, b.openGroup .subscription g = .ok x ∧ r = b.nextHandle ∧
      b' = ((b.withReader g x topic history).enrolled b.nextHandle (x.endpoint topic)).deliver
        (b.arrivalNews b.nextHandle (x.endpoint topic)) := by
  cases isOpen : b.openGroup .subscription g with
  | error f => simp only [createReader, isOpen] at ok; contradiction
  | ok x =>
    rw [createReaderOpens topic history isOpen] at ok
    cases Except.ok.inj ok
    exact ⟨x, rfl, rfl, rfl⟩

theorem deleteWriterOpens {b b' : Bus} {g w : InstanceHandle} (ok : b.deleteWriter g w = .ok b') :
    (∃ x, b.writers.get? w = some x ∧ x.publisher = g) ∧
      (∃ y, b.groups.get? g = some y ∧ w ∈ y.endpoints) ∧
      b' = ((b.withoutWriter g w).withdraw w).2 := by
  unfold deleteWriter at ok
  split at ok
  · rename_i x parent foundWriter foundGroup
    split at ok <;> try contradiction
    rename_i own
    split at ok <;> try contradiction
    rename_i child
    cases Except.ok.inj ok
    exact ⟨⟨x, foundWriter, Decidable.not_not.1 own⟩,
      ⟨parent, foundGroup, Decidable.not_not.1 child⟩, rfl⟩
  · contradiction

theorem deleteReaderOpens {b b' : Bus} {g r : InstanceHandle} (ok : b.deleteReader g r = .ok b') :
    (∃ x, b.readers.get? r = some x) ∧ (∃ y, b.groups.get? g = some y ∧ r ∈ y.endpoints) ∧
      b' = ((b.removeChild g r).withdraw r).2.setListener r none := by
  unfold deleteReader at ok
  split at ok
  · rename_i x parent foundReader foundGroup
    split at ok <;> try contradiction
    rename_i child
    cases Except.ok.inj ok
    exact ⟨⟨x, foundReader⟩, ⟨parent, foundGroup, Decidable.not_not.1 child⟩, rfl⟩
  · contradiction

end Bus

namespace Request
open Bus (Notice)

def topic? : Request → Option Topic
  | .createWriter _ topic _ | .createReader _ topic _ => some topic
  | _ => none

def isRoster : Request → Bool
  | .registerType _ _ | .createTopic _ _ _ _ | .createGroup _ _ | .deleteGroup _ _ => true
  | _ => false

inductive Rostered (b : Bus) : Request → Bus → Prop
  | same {q : Request} : Rostered b q b
  | typed {p : InstanceHandle} {type : String} : Rostered b (.registerType p type) { b with
      participants := b.participants.modify p fun x =>
        { x with types := if type ∈ x.types then x.types else x.types ++ [type] } }
  | bound {p : InstanceHandle} {name type : String} {history : History} {t : Topic}
    (ok : b.createTopic p name type history = .ok (t, { b with
      participants := b.participants.modify p fun x => { x with topics := x.topics ++ [t] } })) :
    Rostered b (.createTopic p name type history) { b with
      participants := b.participants.modify p fun x => { x with topics := x.topics ++ [t] } }
  | grouped {side : Side} {p g : InstanceHandle} {b' : Bus} (ok : b.createGroup side p = .ok (g, b')) :
    Rostered b (.createGroup side p) b'
  | parted {p g : InstanceHandle} {b' : Bus} (ok : b.deleteGroup p g = .ok b') : Rostered b (.deleteGroup p g) b'

theorem rostered (b : Bus) {q : Request} (roster : q.isRoster) : q.Rostered b (b.request q) := by
  cases q with
  | registerType p type =>
    rw [Bus.request]
    cases ok : b.registerType p type with
    | error f => exact .same
    | ok b' =>
      obtain ⟨_, rfl⟩ := Bus.registerTypeOpens ok
      exact .typed
  | createTopic p name type history =>
    rw [Bus.request]
    cases ok : b.createTopic p name type history with
    | error f => exact .same
    | ok made =>
      obtain ⟨t, b'⟩ := made
      obtain ⟨rfl, _⟩ | ⟨_, _, rfl⟩ := Bus.createTopicOpens ok
      · exact .same
      · exact .bound ok
  | createGroup side p =>
    rw [Bus.request]
    cases ok : b.createGroup side p with
    | error f => exact .same
    | ok made => exact .grouped ok
  | deleteGroup p g =>
    rw [Bus.request]
    cases ok : b.deleteGroup p g with
    | error f => exact .same
    | ok b' => exact .parted ok
  | _ => cases roster

def opening (b : Bus) : Request → Bus × List Notice
  | .join domain =>
    if maxDomainId < domain then (b, []) else (b.welcome domain, b.replay (b.newMember domain))
  | .leave p =>
    match b.participants.get? p with
    | some x => (b.vacated p x, b.farewell p x.domain)
    | none => (b, [])
  | .createWriter g topic maxPayload =>
    match b.openGroup .publication g with
    | .ok x =>
      if maxPayload = 0 then (b, [])
      else ((b.withWriter g x topic maxPayload).enrolled b.nextHandle (x.endpoint topic),
        b.arrivalNews b.nextHandle (x.endpoint topic))
    | .error _ => (b, [])
  | .createReader g topic history =>
    match b.openGroup .subscription g with
    | .ok x => ((b.withReader g x topic history).enrolled b.nextHandle (x.endpoint topic),
        b.arrivalNews b.nextHandle (x.endpoint topic))
    | .error _ => (b, [])
  | .deleteWriter g w =>
    match b.deleteWriter g w with
    | .ok _ => (b.withoutWriter g w).withdrawal w
    | .error _ => (b, [])
  | .deleteReader g r =>
    match b.deleteReader g r with
    | .ok _ => (b.removeChild g r).withdrawal r
    | .error _ => (b, [])
  | .write w payload =>
    match b.route w payload with
    | .ok news => (b, news)
    | .error _ => (b, [])
  | q => (b.request q, [])

theorem openingJoin (b : Bus) {domain : DomainId} (fits : domain ≤ maxDomainId) :
    opening b (.join domain) = (b.welcome domain, b.replay (b.newMember domain)) :=
  if_neg (Nat.not_lt.2 fits)

inductive Opened (b : Bus) : Request → Bus → List Notice → Prop
  | refused {q : Request} : Opened b q b []
  | roster {q : Request} (roster : q.isRoster) : Opened b q (b.request q) []
  | joined {domain : DomainId} (fits : domain ≤ maxDomainId) :
    Opened b (.join domain) (b.welcome domain) (b.replay (b.newMember domain))
  | left {p : InstanceHandle} {x : Participant} (found : b.participants.get? p = some x) :
    Opened b (.leave p) (b.vacated p x) (b.farewell p x.domain)
  | writer {g : InstanceHandle} {x : Group} {topic : Topic} {n : Nat}
    (isOpen : b.openGroup .publication g = .ok x) :
    Opened b (.createWriter g topic n)
      ((b.withWriter g x topic n).enrolled b.nextHandle (x.endpoint topic))
      (b.arrivalNews b.nextHandle (x.endpoint topic))
  | reader {g : InstanceHandle} {x : Group} {topic : Topic} {history : History}
    (isOpen : b.openGroup .subscription g = .ok x) :
    Opened b (.createReader g topic history)
      ((b.withReader g x topic history).enrolled b.nextHandle (x.endpoint topic))
      (b.arrivalNews b.nextHandle (x.endpoint topic))
  | unwritten {g w : InstanceHandle} : Opened b (.deleteWriter g w)
      ((b.withoutWriter g w).withdrawal w).1 ((b.withoutWriter g w).withdrawal w).2
  | unread {g r : InstanceHandle} : Opened b (.deleteReader g r)
      ((b.removeChild g r).withdrawal r).1 ((b.removeChild g r).withdrawal r).2
  | sent {w : InstanceHandle} {payload : Octets} {news : List Notice}
    (routed : b.route w payload = .ok news) : Opened b (.write w payload) b news
  | took {r : InstanceHandle} : Opened b (.take r) (b.take r).2 []
  | drained {side : Side} {graph : GraphId} {guard : ConditionId} {r : InstanceHandle} :
    Opened b (.drain side graph guard r) (b.drain side graph guard r).2 []
  | attached {r : InstanceHandle} {l : Option ListenerId} :
    Opened b (.setListener r l) (b.setListener r l) []
  | listener {l : Listener} : Opened b (.newListener l) (b.newListener l).2 []
  | graph : Opened b .newGraph b.newGraph.2 []
  | guard : Opened b .newGuard (b.newCondition .newGuard).2 []

theorem opened (b : Bus) (q : Request) : q.Opened b (q.opening b).1 (q.opening b).2 := by
  cases q with
  | join domain =>
    simp only [opening]
    split
    · exact .refused
    · exact .joined (Nat.not_lt.1 ‹_›)
  | leave p =>
    simp only [opening]
    split
    · exact .left ‹_›
    · exact .refused
  | registerType | createTopic | createGroup | deleteGroup => exact .roster rfl
  | createWriter g topic n =>
    simp only [opening]
    split
    · split
      · exact .refused
      · exact .writer ‹_›
    · exact .refused
  | createReader g topic history =>
    simp only [opening]
    split
    · exact .reader ‹_›
    · exact .refused
  | deleteWriter g w =>
    simp only [opening]
    split
    · exact .unwritten
    · exact .refused
  | deleteReader g r =>
    simp only [opening]
    split
    · exact .unread
    · exact .refused
  | write w payload =>
    simp only [opening]
    split
    · exact .sent ‹_›
    · exact .refused
  | take r => exact .took
  | drain side graph guard r => exact .drained
  | setListener r l => exact .attached
  | newListener l => exact .listener
  | newGraph => exact .graph
  | newGuard => exact .guard

def closing (b b' : Bus) : Request → Bus
  | .deleteReader g r =>
    match b.deleteReader g r with
    | .ok _ => b'.setListener r none
    | .error _ => b'
  | _ => b'

theorem opens (b : Bus) (q : Request) :
    b.request q = q.closing b ((q.opening b).1.deliver (q.opening b).2) := by
  cases q with
  | join domain =>
    by_cases large : maxDomainId < domain
    · simp only [opening, if_pos large, closing, Bus.request, Bus.joinRefused large, Except.map,
        Bus.after, Bus.deliverNothing]
    · simp only [opening, if_neg large, closing, Bus.request, Bus.joinOpens (Nat.not_lt.1 large),
        Except.map, Bus.after]
  | leave p =>
    cases found : b.participants.get? p with
    | some x => simp only [opening, found, closing, Bus.request, Bus.leaveOpens found]
    | none => simp only [opening, found, closing, Bus.request, Bus.leave, Bus.deliverNothing]
  | createWriter g topic maxPayload =>
    cases isOpen : b.openGroup .publication g with
    | error f =>
      simp only [opening, isOpen, closing, Bus.request, Bus.createWriter, Except.map, Bus.after,
        Bus.deliverNothing]
    | ok x =>
      by_cases zero : maxPayload = 0
      · simp only [opening, isOpen, closing, Bus.request, Bus.createWriter, if_pos zero, Except.map,
          Bus.after, Bus.deliverNothing]
      · simp only [opening, isOpen, closing, Bus.request, Bus.createWriterOpens topic isOpen zero,
          if_neg zero, Except.map, Bus.after]
  | createReader g topic history =>
    cases isOpen : b.openGroup .subscription g with
    | error f =>
      simp only [opening, isOpen, closing, Bus.request, Bus.createReader, Except.map, Bus.after,
        Bus.deliverNothing]
    | ok x =>
      simp only [opening, isOpen, closing, Bus.request, Bus.createReaderOpens topic history isOpen, Except.map,
        Bus.after]
  | deleteWriter g w =>
    cases deleted : b.deleteWriter g w with
    | error f => simp only [opening, deleted, closing, Bus.request, Bus.after, Bus.deliverNothing]
    | ok b' =>
      obtain ⟨_, _, rfl⟩ := Bus.deleteWriterOpens deleted
      simp only [opening, deleted, closing, Bus.request, Bus.after]
      exact Bus.withdrawOpens _ _
  | deleteReader g r =>
    cases deleted : b.deleteReader g r with
    | error f => simp only [opening, deleted, closing, Bus.request, Bus.after, Bus.deliverNothing]
    | ok b' =>
      obtain ⟨_, _, rfl⟩ := Bus.deleteReaderOpens deleted
      simp only [opening, deleted, closing, Bus.request, Bus.after]
      exact congrArg (·.setListener r none) (Bus.withdrawOpens _ _)
  | write w payload =>
    cases routed : b.route w payload with
    | error f =>
      simp only [opening, routed, closing, Bus.request, Bus.write, Bus.after, Bus.deliverNothing]
    | ok news => simp only [opening, routed, closing, Bus.request, Bus.write, Bus.after]
  | _ => exact (Bus.deliverNothing _).symm

end Request

namespace Bus

def OnlyRoster (b b' : Bus) : Prop :=
  { b' with nextHandle := b.nextHandle, participants := b.participants, groups := b.groups } = b

namespace OnlyRoster

variable {b b' : Bus}

theorem same (h : OnlyRoster b b') :
    { b' with nextHandle := b.nextHandle, participants := b.participants, groups := b.groups } = b :=
  h

theorem endpoints (h : OnlyRoster b b') : b'.endpoints = b.endpoints := by
  have e := congrArg Bus.endpoints h.same
  exact e

theorem readers (h : OnlyRoster b b') : b'.readers = b.readers := by
  have e := congrArg Bus.readers h.same
  exact e

theorem members (h : OnlyRoster b b') : b'.members = b.members := by
  have e := congrArg Bus.members h.same
  exact e

theorem listeners (h : OnlyRoster b b') : b'.listeners = b.listeners := by
  have e := congrArg Bus.listeners h.same
  exact e

theorem graphs (h : OnlyRoster b b') : b'.graphs = b.graphs := by
  have e := congrArg Bus.graphs h.same
  exact e

theorem nextKey (h : OnlyRoster b b') : b'.nextKey = b.nextKey := by
  have e := congrArg Bus.nextKey h.same
  exact e

end OnlyRoster

theorem rosterHandles {b : Bus} {q : Request} (roster : q.isRoster) :
    b.nextHandle ≤ (b.request q).nextHandle := by
  have changed := q.rostered b roster
  generalize b.request q = b' at changed ⊢
  cases changed with
  | same | typed | bound => exact Nat.le_refl _
  | grouped ok =>
    obtain ⟨_, _, _, rfl⟩ := createGroupOpens ok
    exact Nat.le_succ _
  | parted ok =>
    obtain ⟨_, _, _, _, _, rfl⟩ := deleteGroupOpens ok
    exact Nat.le_refl _

theorem rosterFrame {b : Bus} {q : Request} (roster : q.isRoster) : OnlyRoster b (b.request q) := by
  have changed := q.rostered b roster
  generalize b.request q = b' at changed ⊢
  cases changed with
  | same | typed | bound => rfl
  | grouped ok =>
    obtain ⟨_, _, _, rfl⟩ := createGroupOpens ok
    rfl
  | parted ok =>
    obtain ⟨_, _, _, _, _, rfl⟩ := deleteGroupOpens ok
    rfl

end Bus
end Databus
