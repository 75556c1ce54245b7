import Databus.Bus.Membership

/-!
Creating and deleting what a participant owns. A parent goes only without children, a child only through
its parent, and a refused request changes nothing.
-/
namespace Databus

def Side.parent : Side → String
  | .publication => "publisher"
  | .subscription => "subscriber"

def Side.children : Side → String
  | .publication => "writers"
  | .subscription => "readers"

namespace Fault

def otherParticipant (side : Side) : Fault :=
  preconditionNotMet s!"{side.parent} belongs to another participant"

def stillOwns (side : Side) (count : Nat) : Fault :=
  preconditionNotMet s!"{side.parent} still owns {count} {side.children}"

def otherPublisher (writer : InstanceHandle) : Fault :=
  preconditionNotMet s!"writer {writer.display} belongs to another publisher"

def readerOfOther (reader : InstanceHandle) : Fault :=
  preconditionNotMet s!"reader {reader.display} belongs to another participant"

end Fault

namespace Bus

/-! ### Types and topics -/

def registerType (b : Bus) (p : InstanceHandle) (type : String) : Except Fault Bus :=
  if type = "" then .error .emptyTypeName
  else .ok { b with participants := b.participants.modify p fun x =>
    { x with types := if type ∈ x.types then x.types else x.types ++ [type] } }

def isTypeRegistered (b : Bus) (p : InstanceHandle) (type : String) : Bool :=
  match b.participants.get? p with
  | some x => type ∈ x.types
  | none => false

def findTopic (b : Bus) (p : InstanceHandle) (name : String) : Option Topic :=
  match b.participants.get? p with
  | some x => x.topics.find? (·.name = name)
  | none => none

def createTopic (b : Bus) (p : InstanceHandle) (name type : String) (history : History) :
    Except Fault (Topic × Bus) :=
  if name = "" then .error .emptyTopicName
  else if !b.isTypeRegistered p type then .error (.typeNotRegistered type)
  else
    match b.findTopic p name with
    | some t => if t.type = type then .ok (t, b) else .error (.typeMismatch name t.type type)
    | none =>
      let t : Topic := ⟨p, name, type, history⟩
      .ok (t, { b with participants := b.participants.modify p fun x =>
        { x with topics := x.topics ++ [t] } })

/-! ### Publishers and subscribers -/

def createGroup (b : Bus) (side : Side) (p : InstanceHandle) : Except Fault (InstanceHandle × Bus) :=
  match b.participants.get? p with
  | none => .error .alreadyDeleted
  | some x =>
    let (g, b) := b.takeHandle
    .ok (g, { b with
      groups := b.groups.insert g { side, participant := p, domain := x.domain }
      participants := b.participants.modify p fun x => { x with groups := x.groups ++ [g] } })

def owns (b : Bus) (p g : InstanceHandle) : Bool :=
  match b.participants.get? p with
  | some x => g ∈ x.groups
  | none => false

def deleteGroup (b : Bus) (p g : InstanceHandle) : Except Fault Bus :=
  match b.groups.get? g with
  | none => .error .alreadyDeleted
  | some x =>
    if x.participant ≠ p then .error (.otherParticipant x.side)
    else if x.endpoints ≠ [] then .error (.stillOwns x.side x.endpoints.length)
    else if !b.owns p g then .error .alreadyDeleted
    else .ok { b.markDeleted g with
      participants := b.participants.modify p fun x => { x with groups := x.groups.erase g } }

def hasContained (b : Bus) (p : InstanceHandle) : Bool :=
  match b.participants.get? p with
  | some x => !x.groups.isEmpty
  | none => false

def openGroup (b : Bus) (side : Side) (g : InstanceHandle) : Except Fault Group :=
  match b.groups.get? g with
  | some x => if x.side ≠ side ∨ x.deleted then .error .alreadyDeleted else .ok x
  | none => .error .alreadyDeleted

def addChild (b : Bus) (g child : InstanceHandle) : Bus :=
  { b with groups := b.groups.modify g fun x => { x with endpoints := x.endpoints ++ [child] } }

def removeChild (b : Bus) (g child : InstanceHandle) : Bus :=
  { b with groups := b.groups.modify g fun x => { x with endpoints := x.endpoints.erase child } }

/-! ### Writers -/

def createWriter (b : Bus) (g : InstanceHandle) (topic : Topic) (maxPayload : Nat) :
    Except Fault (InstanceHandle × Bus) :=
  match b.openGroup .publication g with
  | .error f => .error f
  | .ok x =>
    if maxPayload = 0 then .error .zeroPayloadLimit
    else
      let (w, b) := b.takeHandle
      let new : Writer := { publisher := g, domain := x.domain, topic := topic.name,
                            type := topic.type, maxPayload }
      let b := { b with writers := b.writers.insert w new }
      .ok (w, (b.addChild g w).enroll w
        ⟨.publication, x.domain, x.participant, topic.name, topic.type⟩)

def deleteWriter (b : Bus) (g w : InstanceHandle) : Except Fault Bus :=
  match b.writers.get? w, b.groups.get? g with
  | some x, some parent =>
    if x.publisher ≠ g then .error (.otherPublisher w)
    else if w ∉ parent.endpoints then .error .alreadyDeleted
    else
      let b := b.removeChild g w
      let b := { b with writers := b.writers.modify w ({ · with deleted := true }) }
      .ok (b.withdraw w).2
  | _, _ => .error .alreadyDeleted

def write (b : Bus) (w : InstanceHandle) (payload : Octets) : Except Fault Bus :=
  match b.route w payload with
  | .ok notices => .ok (b.deliver notices)
  | .error f => .error f

/-! ### Readers -/

def createReader (b : Bus) (g : InstanceHandle) (topic : Topic) (history : History) :
    Except Fault (InstanceHandle × Bus) :=
  match b.openGroup .subscription g with
  | .error f => .error f
  | .ok x =>
    let (r, b) := b.newReader x.participant topic.name topic.type history
    .ok (r, (b.addChild g r).enroll r
      ⟨.subscription, x.domain, x.participant, topic.name, topic.type⟩)

def deleteReader (b : Bus) (g r : InstanceHandle) : Except Fault Bus :=
  match b.readers.get? r, b.groups.get? g with
  | some x, some parent =>
    if r ∉ parent.endpoints then
      .error (if x.participant = parent.participant then .alreadyDeleted else .readerOfOther r)
    else .ok (((b.removeChild g r).withdraw r).2.setListener r none)
  | _, _ => .error .alreadyDeleted

end Bus
end Databus
