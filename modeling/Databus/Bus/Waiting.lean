import Databus.Bus.Signalling

/-!
Wait sets: conditions attached once each, a pending flag their hooks raise, and the scan that clears it.
A wait scans, and scans again whenever it finds the flag raised, until something triggers.
-/
namespace Databus.Bus

def newWaitSet (b : Bus) : WaitSetId × Bus :=
  (b.nextKey, { b with nextKey := b.nextKey + 1, waitSets := b.waitSets.insert b.nextKey {} })

def swapRemove (l : List ConditionId) (c : ConditionId) : List ConditionId :=
  match l.getLast? with
  | none => []
  | some last => if c = last then l.dropLast else l.dropLast.map fun x => if x = c then last else x

def attachedTo (b : Bus) (ws : WaitSetId) : List ConditionId :=
  match b.waitSets.get? ws with
  | some x => x.conditions
  | none => []

def attach (b : Bus) (ws : WaitSetId) (c : ConditionId) : Except Fault Bus :=
  if c ∈ b.attachedTo ws then .error (.alreadyAttached c)
  else
    let b := b.addHook c (.waitSet ws)
    .ok { b with waitSets := b.waitSets.modify ws fun x => { x with conditions := x.conditions ++ [c] } }

def isWaitSet (ws : WaitSetId) : Hook → Bool
  | .waitSet key => key == ws
  | .signal _ _ => false

def detach (b : Bus) (ws : WaitSetId) (c : ConditionId) : Except Fault Bus :=
  if c ∉ b.attachedTo ws then .error (.notAttached c)
  else
    let b := { b with waitSets := b.waitSets.modify ws fun x =>
      { x with conditions := swapRemove x.conditions c } }
    .ok (b.removeHooks c (isWaitSet ws))

def dropWaitSet (b : Bus) (ws : WaitSetId) : Bus :=
  let b := (b.attachedTo ws).foldl (fun b c => b.removeHooks c (isWaitSet ws)) b
  { b with waitSets := b.waitSets.erase ws }

/-- Whether the wait set was signalled since it was last scanned; who blocks on it scans again only then. -/
def isPending (b : Bus) (ws : WaitSetId) : Bool := (b.waitSets.get? ws).any (·.pending)

def triggered (b : Bus) (ws : WaitSetId) : List ConditionId :=
  (b.attachedTo ws).filter b.conditionValue

def scan (b : Bus) (ws : WaitSetId) : List ConditionId × Bus :=
  let b := { b with waitSets := b.waitSets.modify ws ({ · with pending := false }) }
  (b.triggered ws, b)

def poll (b : Bus) (ws : WaitSetId) : Except Fault (List ConditionId) × Bus :=
  match b.scan ws with
  | ([], b) => (.error .timeout, b)
  | (found, b) => (.ok found, b)

end Databus.Bus
