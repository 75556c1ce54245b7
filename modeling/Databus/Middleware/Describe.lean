import Databus.Middleware.System
import Databus.Text.Record

/-!
The live resources of a context in numbers, and the line that diagnostics show of it.
-/
namespace Databus.Middleware.Context

open Text

variable {K : Type}

def counts (c : Context K) : List Nat :=
  [c.nodes.live, c.publishers.live, c.subscriptions.live, c.guards.live]

def describe (c : Context K) : String :=
  record "RmwContext"
    [("id", toString c.id), ("domain_id", toString c.settings.domain),
      ("nodes", toString c.nodes.live), ("publishers", toString c.publishers.live),
      ("subscriptions", toString c.subscriptions.live),
      ("guard_conditions", toString c.guards.live)]

end Databus.Middleware.Context
