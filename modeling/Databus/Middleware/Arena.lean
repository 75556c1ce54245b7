import Databus.Middleware.Handle

/-!
Arenas: a bounded table of one kind of resource. A slot's generation counts its removals modulo 2^32, so a
handle resolves only while the resource it was issued for is in its slot. Freed slots are reused last first.
-/
namespace Databus.Middleware

structure Slot (α : Type) where
  generation : UInt32 := 0
  value : Option α := none
  deriving DecidableEq, Repr

structure Arena (kind : Kind) (α : Type) where
  context : ContextId
  capacity : Nat
  slots : List (Slot α) := []
  free : List Nat := []
  live : Nat := 0
  deriving DecidableEq, Repr

namespace Arena

variable {kind : Kind} {α : Type}

def isFull (a : Arena kind α) : Bool := a.capacity ≤ a.live

def full (a : Arena kind α) : Failure :=
  .resourceExhausted s!"{kind.name} table full ({a.capacity} live handles)"

def noIndex (kind : Kind) : Failure :=
  .resourceExhausted s!"{kind.name} index space exhausted"

def put (a : Arena kind α) (index : Nat) (generation : UInt32) (value : Option α) : Arena kind α :=
  { a with slots := a.slots.set index ⟨generation, value⟩ }

def issue (a : Arena kind α) (index : Nat) (generation : UInt32) : Handle kind :=
  ⟨implementationIdentifier, a.context, index, generation⟩

def insert (a : Arena kind α) (value : α) : Except Failure (Handle kind × Arena kind α) :=
  if a.isFull then .error a.full
  else
    match a.free with
    | index :: rest =>
      let generation := ((a.slots[index]?).map (·.generation)).getD 0
      .ok (a.issue index generation,
        { a.put index generation (some value) with free := rest, live := a.live + 1 })
    | [] =>
      if UInt32.size ≤ a.slots.length then .error (noIndex kind)
      else .ok (a.issue a.slots.length 0,
        { a with slots := a.slots ++ [⟨0, some value⟩], live := a.live + 1 })

def find? (a : Arena kind α) (h : Handle kind) : Option α :=
  if h.implementation = implementationIdentifier ∧ h.context = a.context then
    match a.slots[h.index]? with
    | some slot => if slot.generation = h.generation then slot.value else none
    | none => none
  else none

def stale (a : Arena kind α) (h : Handle kind) : Failure :=
  if h.context ≠ a.context then .invalidArgument s!"{h.text} belongs to another context"
  else .invalidArgument s!"{h.text} is not a live {kind.name}"

def get (a : Arena kind α) (h : Handle kind) : Except Failure α :=
  match h.check with
  | .error f => .error f
  | .ok () =>
    match a.find? h with
    | some value => .ok value
    | none => .error (a.stale h)

def remove (a : Arena kind α) (h : Handle kind) : Except Failure (α × Arena kind α) :=
  match a.get h with
  | .error f => .error f
  | .ok value => .ok (value,
      { a.put h.index (h.generation + 1) none with free := h.index :: a.free, live := a.live - 1 })

def modify (a : Arena kind α) (h : Handle kind) (f : α → α) : Arena kind α :=
  match a.find? h with
  | some value => a.put h.index h.generation (some (f value))
  | none => a

def values (a : Arena kind α) : List α := a.slots.filterMap (·.value)

end Arena
end Databus.Middleware
