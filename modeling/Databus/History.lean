/-!
How many samples a reader keeps before it gives up the oldest.
-/
namespace Databus

inductive History
  | keepLast (depth : Nat)
  | keepAll
  deriving DecidableEq, Repr

namespace History

def standard : History := keepLast 1

instance : Inhabited History := ⟨standard⟩

/-- A depth of zero still keeps one sample. -/
def limit : History → Option Nat
  | keepLast depth => some (max depth 1)
  | keepAll => none

theorem limitPositive {h : History} {n : Nat} (bounded : h.limit = some n) : 0 < n := by
  cases h with
  | keepLast depth => simp only [limit, Option.some.injEq] at bounded; omega
  | keepAll => simp [limit] at bounded

end History

def standardPayloadLimit : Nat := 65536

end Databus
