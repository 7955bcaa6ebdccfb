import HttpService.Pipeline.Exchange

/-!
# Server spans

A span records one exchange: what was asked, how it ended, and an event for each error.
-/

set_option autoImplicit false

namespace HttpService

/-- How a span ended. -/
inductive SpanStatus
  | unset
  | error (description : String)
  deriving DecidableEq, Repr, Inhabited

/-- How logs show the end of a span. -/
def SpanStatus.describe : SpanStatus → String
  | .unset => "Unset"
  | .error d => "Error \x7b description: " ++ Text.quoted d ++ " \x7d"

/-- A finished span. -/
structure Span where
  name : String
  status : SpanStatus
  attributes : List (String × String)
  /-- The texts of the recorded errors. -/
  exceptions : List String
  deriving DecidableEq, Repr, Inhabited

/-- The number of a protocol version. -/
def Version.number : Version → String
  | .http10 => "1.0"
  | .http11 => "1.1"

namespace Span

/-- The header that carries the trace id. -/
def traceHeader : String := "x-trace-id"

/-- The name of the span of a request. -/
def nameOf (r : Request) : String :=
  "HTTP " ++ r.method ++ " " ++ r.routeOrPath

/-- What was asked, and the status of the answer. -/
def attributesOf (x : Exchange) : List (String × String) :=
  let r := x.request
  [("http.request.method", r.method), ("url.full", r.uri.display), ("url.scheme", r.scheme),
    ("network.protocol.version", r.version.number), ("http.route", r.routeOrPath)] ++
    (r.host?.map fun h => ("server.address", h)).toList ++
    [("http.response.status_code", toString x.writer.sentStatus)]

/-- The span of a finished exchange. -/
def ofExchange (x : Exchange) : Span :=
  let texts := x.errors.map Failure.display
  { name := nameOf x.request, attributes := attributesOf x, exceptions := texts
    status := if texts.isEmpty then .unset else .error (Text.join "; " texts) }

/-- The span of an exchange that was dropped: nothing is known of its end. -/
def ofDropped (x : Exchange) : Span := ⟨nameOf x.request, .unset, [], []⟩

/-- The trace id of a request: that of its recorded span, else the one it brings along, else a fresh
one. -/
def resolveTraceId (recorded : Option String) (r : Request) (fresh : String) : String :=
  match recorded with
  | some id => id
  | none => ((r.headers.text? traceHeader).filter (· ≠ "")).getD fresh

end Span

end HttpService
