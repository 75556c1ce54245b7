import Databus.Condition
import Databus.Graph

/-!
The state of a bus: the entities applications hold, what each domain has registered of them, and the
conditions, wait sets and listeners around its readers. Entities outlive their deletion as stale references.
-/
namespace Databus

abbrev ListenerId := Nat
abbrev GraphId := Nat
abbrev WaitSetId := Nat
abbrev SignalId := Nat

structure Topic where
  owner : InstanceHandle
  name : String
  type : String
  history : History
  deriving DecidableEq, Repr

structure Participant where
  domain : DomainId
  publications : InstanceHandle
  subscriptions : InstanceHandle
  types : List String := []
  topics : List Topic := []
  groups : List InstanceHandle := []
  deriving DecidableEq, Repr

structure Group where
  side : Side
  participant : InstanceHandle
  domain : DomainId
  endpoints : List InstanceHandle := []
  deleted : Bool := false
  deriving DecidableEq, Repr

structure Writer where
  publisher : InstanceHandle
  domain : DomainId
  topic : String
  type : String
  maxPayload : Nat
  deleted : Bool := false
  deriving DecidableEq, Repr

structure Reader where
  participant : InstanceHandle
  topic : String
  type : String
  history : History
  condition : ConditionId
  mailbox : Mailbox := {}
  listener : Option ListenerId := none
  deriving DecidableEq, Repr

structure Member where
  domain : DomainId
  publications : InstanceHandle
  subscriptions : InstanceHandle
  deriving DecidableEq, Repr

def Member.inbox (m : Member) : Side → InstanceHandle
  | .publication => m.publications
  | .subscription => m.subscriptions

inductive Action
  | noteUnread
  | install (listener : Option ListenerId)
  | takeOne
  | takeAll
  /-- Take one sample, if the budget allows, and pass its payload on to the writer, if there is one. -/
  | forward (writer : Option InstanceHandle)
  | emit (writer : InstanceHandle) (payload : Octets)
  deriving DecidableEq, Repr

inductive Note
  | unread (count : Nat)
  | payload (content : Option Octets)
  | refused (fault : Fault)
  | exhausted
  deriving DecidableEq, Repr

/-- An application's listener: what each of its next calls does, then what every call does after those.
The budget bounds how often it may still write. -/
structure Script where
  plan : List (List Action) := []
  actions : List Action
  budget : Nat
  log : List Note := []
  deriving DecidableEq, Repr

def Script.current (s : Script) : List Action := s.plan.headD s.actions

def Script.called (s : Script) : Script := { s with plan := s.plan.tail }

inductive Listener
  | discovery (side : Side) (graph : GraphId) (guard : ConditionId)
  | scripted (script : Script)
  deriving DecidableEq, Repr

structure WaitSet where
  conditions : List ConditionId := []
  pending : Bool := false
  deriving DecidableEq, Repr

structure Bus where
  nextHandle : Nat := 1
  nextCondition : Nat := 1
  nextKey : Nat := 1
  participants : Table InstanceHandle Participant := .empty
  groups : Table InstanceHandle Group := .empty
  writers : Table InstanceHandle Writer := .empty
  readers : Table InstanceHandle Reader := .empty
  members : Table InstanceHandle Member := .empty
  endpoints : Table InstanceHandle Endpoint := .empty
  conditions : Table ConditionId Condition := .empty
  waitSets : Table WaitSetId WaitSet := .empty
  signals : Table SignalId Nat := .empty
  listeners : Table ListenerId Listener := .empty
  graphs : Table GraphId Graph := .empty
  deriving DecidableEq, Repr

namespace Bus

def takeHandle (b : Bus) : InstanceHandle × Bus :=
  (b.nextHandle, { b with nextHandle := b.nextHandle + 1 })

def newCondition (b : Bus) (c : Condition) : ConditionId × Bus :=
  (b.nextCondition, { b with
    nextCondition := b.nextCondition + 1
    conditions := b.conditions.insert b.nextCondition c })

def newGraph (b : Bus) : GraphId × Bus :=
  (b.nextKey, { b with nextKey := b.nextKey + 1, graphs := b.graphs.insert b.nextKey {} })

def newListener (b : Bus) (l : Listener) : ListenerId × Bus :=
  (b.nextKey, { b with nextKey := b.nextKey + 1, listeners := b.listeners.insert b.nextKey l })

def newReader (b : Bus) (participant : InstanceHandle) (topic type : String) (history : History) :
    InstanceHandle × Bus :=
  let (handle, b) := b.takeHandle
  let (condition, b) := b.newCondition .newStatus
  (handle, { b with
    readers := b.readers.insert handle { participant, topic, type, history, condition } })

def setGraph (b : Bus) (graph : GraphId) (g : Graph) : Bus :=
  { b with graphs := b.graphs.insert graph g }

def modifyReader (b : Bus) (reader : InstanceHandle) (f : Reader → Reader) : Bus :=
  { b with readers := b.readers.modify reader f }

def setListener (b : Bus) (reader : InstanceHandle) (listener : Option ListenerId) : Bus :=
  b.modifyReader reader ({ · with listener })

def modifyScript (b : Bus) (listener : ListenerId) (f : Script → Script) : Bus :=
  { b with listeners := b.listeners.modify listener fun
      | .scripted s => .scripted (f s)
      | l => l }

def note (b : Bus) (listener : ListenerId) (n : Note) : Bus :=
  b.modifyScript listener fun s => { s with log := s.log ++ [n] }

end Bus
end Databus
