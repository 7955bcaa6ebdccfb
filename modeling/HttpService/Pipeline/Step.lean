import HttpService.Duration
import HttpService.Pipeline.Site

/-!
# Steps of a pipeline

A step works on a state and returns, panics, or is abandoned because an enclosing deadline passed while
it slept. `guarded` catches panics, `limited` catches the passing of its own deadline.
-/

set_option autoImplicit false

namespace HttpService

/-- How a step ends. -/
inductive Outcome
  | returned
  /-- A panic and its text, if it has one. -/
  | panicked (message : Option String)
  /-- Cut off by the deadline that has so many others around it. -/
  | abandoned (level : Nat)
  deriving DecidableEq, Repr, Inhabited

/-- A step, run under the deadlines around it, innermost first. -/
abbrev Step := List Nat → State → Outcome × State

namespace Step

/-- Does nothing. -/
def skip : Step := fun _ s => (.returned, s)

/-- Changes the state. -/
def update (f : State → State) : Step := fun _ s => (.returned, f s)

/-- One step after another, unless the first does not return. -/
def andThen (first second : Step) : Step := fun ds s =>
  match first ds s with
  | (.returned, s) => second ds s
  | stopped => stopped

/-- Steps in order. -/
def sequence (steps : List Step) : Step :=
  steps.foldr andThen skip

/-- The deadline that passes first before `wake`: its time and its level; of equal ones the
innermost. -/
def passed? (wake : Nat) : List Nat → Option (Nat × Nat)
  | [] => none
  | d :: outer =>
    match passed? wake outer with
    | some (e, level) =>
      if d < wake ∧ d ≤ e then some (d, outer.length) else some (e, level)
    | none => if d < wake then some (d, outer.length) else none

/-- Waits; the deadline of an enclosing step may pass first. -/
def sleep (nanos : Nat) : Step := fun ds s =>
  let wake := s.site.timer + nanos
  match passed? wake ds with
  | some (deadline, level) => (.abandoned level, { s with site.timer := deadline })
  | none => (.returned, { s with site.timer := wake })

/-- The text of a panic that carries none. -/
def unknownPanic : String := "unknown panic"

/-- The error of a recovered panic. -/
def recoveredError (message : Option String) : Failure :=
  .new .internalError ("Panic recovered: " ++ message.getD unknownPanic)

/-- Turns a panic into an error and a response. -/
def recover (message : Option String) (s : State) : State :=
  let s := s.log ⟨.error, "handler panicked", [("panic", message.getD unknownPanic)]⟩
  let s := s.put (s.exchange.pushError (recoveredError message))
  s.put (s.exchange.materialise s.exchange.request.policy)

/-- Runs a step and recovers its panic. -/
def guarded (inner : Step) : Step := fun ds s =>
  match inner ds s with
  | (.panicked message, s) => (.returned, recover message s)
  | other => other

/-- The error of a request that took too long. -/
def timeoutError : Failure :=
  (Failure.new .serverBusy "request timed out").withStatus 503

/-- Answers a request that took too long, unless a body was written. -/
def timedOut (limit : Duration) (s : State) : State :=
  let s := s.log (.warning "request exceeded the write timeout"
    [("timeout_ms", toString limit.millis)])
  if s.exchange.writer.isWritten then s
  else
    let s := s.put (s.exchange.pushError timeoutError)
    s.put (s.exchange.writeEnvelope 503 (.failure .serverBusy "request timed out"))

/-- Runs a step under a deadline. -/
def limited (limit : Duration) (inner : Step) : Step := fun ds s =>
  match inner ((s.site.timer + limit.nanos) :: ds) s with
  | (.abandoned level, s) =>
    if level = ds.length then (.returned, timedOut limit s) else (.abandoned level, s)
  | other => other

end Step

end HttpService
