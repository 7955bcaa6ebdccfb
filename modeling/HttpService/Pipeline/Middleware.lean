import HttpService.Pipeline.Action
import HttpService.RateLimit.Config

/-!
# Middleware

A middleware runs the rest of the chain inside it, or does not. A chain is a list of middleware around
an endpoint, the first outermost.
-/

set_option autoImplicit false

namespace HttpService

/-- Middleware of one's own: what it does on the way in, whether it goes on, and what it does on the way
out. -/
structure UserMiddleware where
  name : String
  pre : List Action
  continues : Bool
  post : List Action
  deriving Inhabited

/-- A middleware. -/
inductive Middleware
  /-- Recovers panics. -/
  | recovery
  /-- Makes the response once the rest returned. -/
  | respond (p : ResponsePolicy)
  /-- Opens a span, which records or not. -/
  | tracing (records : Bool)
  | metrics
  | timeout (limit : Duration)
  /-- Rejects clients that ask too often; the limiter is the one at a position of the site. -/
  | rateLimit (limiter : Nat) (key : ClientKey)
  | user (u : UserMiddleware)

namespace Middleware

/-- The time limit where none is given. -/
def defaultTimeout : Duration := .ofSecs 30

/-- Opens the span of an exchange and echoes its trace id. -/
def openSpan (records : Bool) (s : State) : State :=
  let x := s.exchange
  let recorded := if records then some s.site.fresh.trace else none
  let id := Span.resolveTraceId recorded x.request s.site.fresh.uuid
  { s with exchange := { x with
      traceId := id, span := if records then .recorded else .unrecorded
      writer := x.writer.insertText Span.traceHeader id } }

/-- Ends a span that records. -/
def closeSpan (records : Bool) (span : Exchange → Span) (s : State) : State :=
  if records then { s with site.spans := s.site.spans ++ [span s.exchange] } else s

/-- Runs a step in a span of its own, which ends with the step, also if that is dropped. -/
def traced (records : Bool) (inner : Step) : Step := fun ds s =>
  match Step.guarded inner ds (openSpan records s) with
  | (.returned, s) => (.returned, closeSpan records .ofExchange s)
  | (stopped, s) => (stopped, closeSpan records .ofDropped s)

/-- Counts a completed exchange that started at a time. -/
def complete (started : Nat) (s : State) : State :=
  let x := s.exchange
  let metrics := s.site.metrics.record x.labels x.request.body.length x.writer.length
    (s.site.timer - started)
  { s with site.metrics := metrics }

/-- The request is no longer in flight. -/
def leave (labels : RequestLabels) (s : State) : State :=
  { s with site.metrics := s.site.metrics.leave labels }

/-- Counts an exchange: in flight while it runs, completed if it is not dropped. -/
def counted (inner : Step) : Step := fun ds s =>
  let labels := s.exchange.request.labels
  let started := s.site.timer
  match Step.guarded inner ds { s with site.metrics := s.site.metrics.enter labels } with
  | (.returned, s) => (.returned, leave labels (complete started s))
  | (stopped, s) => (stopped, leave labels s)

/-- The error of a client that asks too often. -/
def rateLimitError : Failure :=
  (Failure.new .serverBusy "too many requests").withStatus 429

/-- Answers a client that asks too often. -/
def rejectClient (wait : Float) (s : State) : State :=
  let s := s.putWriter
    (s.exchange.writer.insertHeader "retry-after" (toString (RateLimit.retryAfter wait)), [])
  s.put (s.exchange.pushError rateLimitError)

/-- Asks a limiter of the site. -/
def checkLimit (limiter : Nat) (key : String) (s : State) : Except Float Unit × State :=
  match s.site.limiters[limiter]? with
  | none => (.ok (), s)
  | some l =>
    let (answer, l) := l.check key s.site.clock
    (answer, { s with site.limiters := s.site.limiters.set limiter l })

/-- Runs the rest of the chain inside a middleware. -/
def around (m : Middleware) (next : Step) : Step :=
  match m with
  | .recovery => .guarded next
  | .respond p => next.andThen (.update fun s => s.put (s.exchange.materialise p))
  | .tracing records => traced records next
  | .metrics => counted next
  | .timeout limit => .limited limit next
  | .rateLimit limiter key => fun ds s =>
    match checkLimit limiter (key.extract s.exchange.request) s with
    | (.ok _, s) => next ds s
    | (.error wait, s) => (.returned, rejectClient wait s)
  | .user u =>
    let enter := (Step.update fun s => s.note (.value (.str (u.name ++ ".pre")))).andThen
      (Action.steps u.pre)
    let exit := (Action.steps u.post).andThen
      (.update fun s => s.note (.value (.str (u.name ++ ".post"))))
    if u.continues then enter.andThen (next.andThen exit) else enter

/-- A chain around an endpoint. -/
def chain (ms : List Middleware) (endpoint : Step) : Step :=
  ms.foldr around endpoint

/-- How logs show a stack. -/
def describeStack (ms : List Middleware) : String :=
  "MiddlewareStack \x7b len: " ++ toString ms.length ++ " \x7d"

end Middleware

end HttpService
