import Databus.Middleware.Handle
import Databus.Octets
import Databus.Sample

/-!
Global identifiers of publishers: 24 octets, the first eight the publication handle, the rest zero.
-/
namespace Databus.Middleware

def gidSize : Nat := 24

structure Gid where
  implementation : String
  data : Octets
  deriving DecidableEq, Repr

namespace Gid

def ofPublication (h : InstanceHandle) : Gid :=
  ⟨implementationIdentifier, Octets.word 8 h ++ List.replicate (gidSize - 8) 0⟩

def check (g : Gid) : Except Failure Unit := checkImplementation g.implementation

def publication (g : Gid) : Except Failure InstanceHandle :=
  match g.check with
  | .error f => .error f
  | .ok () => .ok (Octets.toNat (g.data.take 8))

def equal (a b : Gid) : Except Failure Bool :=
  match a.check, b.check with
  | .error f, _ => .error f
  | .ok (), .error f => .error f
  | .ok (), .ok () => .ok (a.data = b.data)

end Gid
end Databus.Middleware
