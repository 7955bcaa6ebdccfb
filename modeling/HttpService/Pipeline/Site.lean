import HttpService.Metrics.Instruments
import HttpService.RateLimit.Limiter
import HttpService.Tracing.Span

/-!
# What exchanges share

The clocks, the logs, the limiters, the metrics and the finished spans of a service. A `State` is one
exchange together with all of it.
-/

set_option autoImplicit false

namespace HttpService

/-- What user code may note about an exchange. -/
inductive Note
  | value (v : Json)
  /-- Whether a write was accepted. -/
  | wrote (accepted : Bool)
  | wroteJson (accepted : Bool)
  | notWritten (f : Failure)
  | writer (w : Writer)
  /-- Whether there was a payload to take. -/
  | took (payload : Bool)
  | exchange (x : Exchange)
  | param (value : Option String)
  | firstError (f : Option Failure)
  | traceId (id : String)
  /-- The value attached before, and the one attached now. -/
  | attached (previous : Option String) (current : String)
  | span (s : SpanState)
  deriving Inhabited

/-- Where fresh identifiers come from. -/
structure Identifiers where
  uuid : String
  trace : String
  deriving Inhabited

/-- What the exchanges of a service share. -/
structure Site where
  /-- The timer that sleeping requests wait on, in nanoseconds. -/
  timer : Nat
  /-- The clock that limiters read, in nanoseconds. -/
  clock : Nat
  fresh : Identifiers
  notes : List Note
  events : List Event
  limiters : List (Limiter Float)
  metrics : Metrics
  spans : List Span
  deriving Inhabited

/-- One exchange and what it shares with others. -/
structure State where
  exchange : Exchange
  site : Site
  deriving Inhabited

namespace Site

def start (fresh : Identifiers) (limiters : List (Limiter Float)) : Site :=
  ⟨0, 0, fresh, [], [], limiters, .empty, []⟩

/-- Logs events. -/
def log (s : Site) (events : List Event) : Site :=
  { s with events := s.events ++ events }

end Site

namespace State

/-- Adds a note. -/
def note (s : State) (n : Note) : State :=
  { s with site.notes := s.site.notes ++ [n] }

/-- Logs an event. -/
def log (s : State) (e : Event) : State :=
  { s with site := s.site.log [e] }

/-- Replaces the exchange and logs what that gave rise to. -/
def put (s : State) (step : Exchange × List Event) : State :=
  { exchange := step.1, site := s.site.log step.2 }

/-- Replaces the writer and logs what that gave rise to. -/
def putWriter (s : State) (step : Writer × List Event) : State :=
  s.put ({ s.exchange with writer := step.1 }, step.2)

end State

end HttpService
