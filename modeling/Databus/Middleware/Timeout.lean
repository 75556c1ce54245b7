import Databus.Middleware.Settings

/-!
How long a wait may block, and the slices it blocks in: none longer than the poll interval or than the
time left. A deadline past the clock's last instant never comes.
-/
namespace Databus.Middleware

inductive Timeout
  | nonBlocking
  | finite (span : Nat)
  | infinite
  deriving DecidableEq, Repr

def Timeout.ofSpan? : Option Nat → Timeout
  | none => infinite
  | some 0 => nonBlocking
  | some (d + 1) => finite (d + 1)

structure Clock where
  now : Nat
  last : Nat
  deriving DecidableEq, Repr

structure Pace where
  timeout : Timeout
  pollInterval : Nat
  deadline : Option Nat
  deriving DecidableEq, Repr

namespace Pace

def start (clock : Clock) (timeout : Timeout) (pollInterval : Nat) : Pace where
  timeout := timeout
  pollInterval := pollInterval
  deadline := match timeout with
    | .finite span => if clock.now + span ≤ clock.last then some (clock.now + span) else none
    | .nonBlocking | .infinite => none

def slice (p : Pace) (now : Nat) : Nat :=
  match p.timeout, p.deadline with
  | .nonBlocking, _ => 0
  | .infinite, _ => p.pollInterval
  | .finite _, none => p.pollInterval
  | .finite _, some deadline => min (deadline - now) p.pollInterval

def isOver (p : Pace) (now : Nat) : Bool :=
  match p.timeout, p.deadline with
  | .nonBlocking, _ => true
  | .infinite, _ => false
  | .finite _, none => false
  | .finite _, some deadline => deadline ≤ now

end Pace
end Databus.Middleware
