import HttpService.Failure
import HttpService.Http.Request
import HttpService.Response.Envelope
import HttpService.Response.Payload
import HttpService.Response.Writer
import HttpService.Text.Quoted

/-!
# Exchanges

An exchange is a request under way: the errors recorded so far, the handler's payload, and the response
as far as it is made. `materialise` makes the final body from the first error, else from the payload,
else from the status alone, unless a body was written before.
-/

set_option autoImplicit false

namespace HttpService

/-- The span that an exchange runs in. -/
inductive SpanState
  | none
  /-- A span that records nothing. -/
  | unrecorded
  | recorded
  deriving DecidableEq, Repr, Inhabited

/-- A request under way. -/
structure Exchange where
  request : Request
  traceId : String
  span : SpanState
  errors : List Failure
  payload : Option Payload
  writer : Writer
  /-- A value that user code attached to the request. -/
  attached : Option String
  deriving Inhabited

namespace Exchange

/-- An exchange before anything was done. -/
def start (r : Request) (traceId : String) : Exchange :=
  ⟨r, traceId, .none, [], none, .empty, none⟩

/-- The primary error: the first recorded one. -/
def error? (x : Exchange) : Option Failure := x.errors.head?

/-- Records an error. The status it asks for applies unless one was set before. -/
def pushError (x : Exchange) (f : Failure) : Exchange × List Event :=
  let recorded := { x with errors := x.errors ++ [f] }
  match f.report.status, x.writer.status with
  | some s, none =>
    let (w, events) := x.writer.setStatus s
    ({ recorded with writer := w }, events)
  | _, _ => (recorded, [])

/-- The status of a response to an error. -/
def errorStatus (x : Exchange) (p : ResponsePolicy) (code : Code) : Status :=
  match p with
  | .envelope => x.writer.sentStatus
  | .httpNative => x.writer.status.getD code.status

/-- Writes an envelope. -/
def writeEnvelope (x : Exchange) (s : Status) (e : Envelope) : Exchange × List Event :=
  let (w, events) := x.writer.write s ContentType.json e.encode
  ({ x with writer := w }, events)

/-- The envelope of a response that carries neither error nor payload. -/
def statusEnvelope (s : Status) : Envelope :=
  let code := Code.ofStatus s
  .failure code (s.reason?.getD code.message)

/-- Writes the payload, or the status alone. -/
def writePayload (x : Exchange) (s : Status) : Exchange × List Event :=
  let raw (contentType : String) (body : Bytes) : Exchange × List Event :=
    let (w, events) := x.writer.write s contentType body
    ({ x with writer := w, payload := none }, events)
  match x.payload with
  | some (.text t) => raw ContentType.text (Text.encode t)
  | some (.binary b) => raw ContentType.binary b
  | some (.json v) => { x with payload := none }.writeEnvelope s (.success v)
  | none => x.writeEnvelope s (statusEnvelope s)

/-- Makes the final response, unless a body was written. -/
def materialise (x : Exchange) (p : ResponsePolicy) : Exchange × List Event :=
  if x.writer.isWritten then (x, [])
  else
    match x.error? with
    | some f => x.writeEnvelope (x.errorStatus p f.code) (.failure f.code f.display)
    | none => x.writePayload x.writer.sentStatus

/-- How logs show a request. -/
def describe (x : Exchange) : String :=
  "Request \x7b method: " ++ x.request.method ++ ", uri: " ++ x.request.uri.display ++ ", route: " ++
    Text.quotedOption x.request.route ++ ", errors: " ++ toString x.errors.length ++ " \x7d"

end Exchange

end HttpService
