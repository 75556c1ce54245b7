import Databus.Octets
import Databus.Text.Numeral

/-!
Settings of a context and how environment variables give them. A variable that is no text, no numeral or
out of its range counts as unset; only a domain that parses but is too large is left for the caller to refuse.
-/
namespace Databus.Middleware

namespace Nanos

/-! Spans of time and clock readings are numbers of nanoseconds. -/

def ofMillis (n : Nat) : Nat := n * 1000000
def ofParts (secs nanos : Nat) : Nat := secs * 1000000000 + nanos
def secs (span : Nat) : Nat := span / 1000000000
def subsec (span : Nat) : Nat := span % 1000000000
def millis (span : Nat) : Nat := span / 1000000

def longest : Nat := ofParts (UInt64.size - 1) 999999999

end Nanos

structure Settings where
  domain : Nat := 0
  logLevel : String := "info"
  pollInterval : Nat := Nanos.ofMillis 1000
  maxHandles : Nat := 4096
  deriving DecidableEq, Repr

inductive Variable
  | domainId
  | sharedDomainId
  | logLevel
  | waitPollMs
  | maxHandles
  | logFilter
  deriving DecidableEq, Repr

def Variable.name : Variable → String
  | domainId => "CONDUIT_DOMAIN_ID"
  | sharedDomainId => "ROS_DOMAIN_ID"
  | logLevel => "CONDUIT_LOG_LEVEL"
  | waitPollMs => "CONDUIT_WAIT_POLL_MS"
  | maxHandles => "CONDUIT_MAX_HANDLES"
  | logFilter => "RUST_LOG"

abbrev Environment := Variable → Option Octets

namespace Environment

def text? (env : Environment) (v : Variable) : Option String := (env v).bind Octets.text?

def numeral? (env : Environment) (v : Variable) (bound : Nat) : Option Nat :=
  (env.text? v).bind (Text.numeral? bound)

def positive? (env : Environment) (v : Variable) (bound : Nat) : Option Nat :=
  (env.numeral? v bound).filter (0 < ·)

def set (env : Environment) (v : Variable) (value : Octets) : Environment :=
  fun v' => if v' = v then some value else env v'

end Environment

namespace Settings

def standard : Settings := {}

def isCustom (s : Settings) : Bool := s ≠ standard

def ofEnvironment (env : Environment) : Settings where
  domain := ((env.numeral? .domainId UInt32.size).or (env.numeral? .sharedDomainId UInt32.size)).getD 0
  logLevel := ((env.text? .logLevel).filter (· ≠ "")).getD standard.logLevel
  pollInterval := ((env.positive? .waitPollMs UInt64.size).map Nanos.ofMillis).getD
    standard.pollInterval
  maxHandles := (env.positive? .maxHandles UInt64.size).getD standard.maxHandles

def applyLogLevel (s : Settings) (env : Environment) : Environment :=
  match env .logFilter with
  | some _ => env
  | none => env.set .logFilter (Octets.ofText s.logLevel)

end Settings
end Databus.Middleware
