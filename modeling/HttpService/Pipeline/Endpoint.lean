import HttpService.Binding.Bind
import HttpService.Metrics.Exposition
import HttpService.OpenApi.Document
import HttpService.OpenApi.Page
import HttpService.Pipeline.Middleware

/-!
# Endpoints

The end of a chain: a handler behind the binder, or one of the built-in pages.
-/

set_option autoImplicit false

namespace HttpService

/-- What a handler answers with. -/
inductive Reply
  /-- The bound value. -/
  | echo
  | payload (p : Payload)
  /-- No result. -/
  | nothing
  /-- A value that has no JSON form. -/
  | unencodable
  | failure (f : Failure)
  /-- What the handler sees of the request, with one of its headers. -/
  | context (header : String)
  deriving Inhabited

/-- A handler: the type of its requests, what it does, and what it answers. -/
structure Handler where
  family : Family
  request : Shape
  decode : Json → Except DecodeError Json
  actions : List Action
  reply : Reply

/-- The end of a chain. -/
inductive Endpoint
  | actions (as : List Action)
  | handler (h : Handler)
  /-- A bare status. -/
  | status (s : Status)
  /-- Nothing: the errors are recorded already. -/
  | rejected
  | health
  | document (text : String)
  | page (template path : String)
  | metrics

namespace Endpoint

/-- The body that says that the service is up. -/
def healthBody : Bytes := Text.encode "\x7b\"status\":\"ok\"\x7d"

/-- How versions are named. -/
def versionName : Version → String
  | .http10 => "HTTP/1.0"
  | .http11 => "HTTP/1.1"

/-- What a handler sees of an exchange. -/
def contextView (header : String) (x : Exchange) : Json :=
  let r := x.request
  .ofPairs [("method", .str r.method), ("uri", .str r.uri.display),
    ("route", .option .str r.route), ("version", .str (versionName r.version)),
    ("header", .option .str (r.headers.text? (Headers.normaliseName header))),
    ("headers", .nat r.headers.length), ("remote_ip", .option (fun e => .str e.ip) r.remote),
    ("fast", .bool true)]

/-- Records what a handler answered. -/
def answer (bound : Json) (reply : Reply) (s : State) : State :=
  let set (p : Payload) : State := { s with exchange.payload := some p }
  match reply with
  | .echo => set (.json bound)
  | .payload p => set p
  | .nothing => s
  | .unencodable => s.put (s.exchange.pushError Payload.noText)
  | .failure f => s.put (s.exchange.pushError f)
  | .context header => set (.json (contextView header s.exchange))

/-- Binds the request and runs the handler; a request that cannot be bound is an error. -/
def invoke (h : Handler) : Step := fun ds s =>
  match HttpService.bind h.family h.request h.decode s.exchange.request with
  | .error f => (.returned, s.put (s.exchange.pushError f))
  | .ok bound => (Action.steps h.actions).andThen (.update (answer bound h.reply)) ds s

/-- Writes a page with status 200. -/
def respond (contentType : String) (body : State → Bytes) : Step :=
  .update fun s => s.putWriter (s.exchange.writer.write 200 contentType (body s))

/-- What an endpoint does. -/
def step : Endpoint → Step
  | .actions as => Action.steps as
  | .handler h => invoke h
  | .status n => .update fun s => s.putWriter (s.exchange.writer.setStatus n)
  | .rejected => .skip
  | .health => respond ContentType.json fun _ => healthBody
  | .document text => respond ContentType.json fun _ => Text.encode text
  | .page template path => respond ContentType.html fun _ => Text.encode (Page.fill template path)
  | .metrics => respond ContentType.exposition fun s => Text.encode (Exposition.text s.site.metrics)

end Endpoint

end HttpService
