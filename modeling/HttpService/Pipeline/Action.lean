import HttpService.Pipeline.Step

/-!
# What user code does

User code works on an exchange by a sequence of actions: it records errors, sets the status, writes,
waits, panics, and notes what it sees.
-/

set_option autoImplicit false

namespace HttpService

/-- A step of user code. -/
inductive Action
  | note (v : Json)
  | setStatus (s : Status)
  | insertHeader (name value : String)
  | write (s : Status) (contentType : String) (body : Bytes)
  | writeJson (s : Status) (v : Json)
  /-- Writes a value that has no JSON form. -/
  | writeUnencodable
  | pushError (f : Failure)
  | setPayload (p : Payload)
  | takePayload
  | materialise (p : ResponsePolicy)
  | setTraceId (id : String)
  | attach (v : String)
  | sleep (d : Duration)
  | panic (message : Option String)
  | noteWriter
  | noteExchange
  | noteParam (name : String)
  | noteFirstError
  | noteSpan
  deriving Inhabited

namespace Action

/-- What an action that always returns does to the state. -/
def apply : Action → State → State
  | .note v, s => s.note (.value v)
  | .setStatus n, s => s.putWriter (s.exchange.writer.setStatus n)
  | .insertHeader name value, s => s.putWriter (s.exchange.writer.insertHeader name value, [])
  | .write n contentType body, s =>
    let accepted := !s.exchange.writer.isWritten
    (s.putWriter (s.exchange.writer.write n contentType body)).note (.wrote accepted)
  | .writeJson n v, s =>
    let accepted := !s.exchange.writer.isWritten
    (s.putWriter (s.exchange.writer.write n ContentType.json (Text.encode v.print))).note
      (.wroteJson accepted)
  | .writeUnencodable, s => s.note (.notWritten Payload.noText)
  | .pushError f, s => s.put (s.exchange.pushError f)
  | .setPayload p, s => { s with exchange.payload := some p }
  | .takePayload, s =>
    { s with exchange.payload := none }.note (.took s.exchange.payload.isSome)
  | .materialise p, s => s.put (s.exchange.materialise p)
  | .setTraceId id, s => { s with exchange.traceId := id }.note (.traceId id)
  | .attach v, s =>
    { s with exchange.attached := some v }.note (.attached s.exchange.attached v)
  | .sleep _, s => s
  | .panic _, s => s
  | .noteWriter, s => s.note (.writer s.exchange.writer)
  | .noteExchange, s => s.note (.exchange s.exchange)
  | .noteParam name, s => s.note (.param (s.exchange.request.param? name))
  | .noteFirstError, s => s.note (.firstError s.exchange.error?)
  | .noteSpan, s => s.note (.span s.exchange.span)

/-- An action as a step. -/
def step : Action → Step
  | .sleep d => .sleep d.nanos
  | .panic message => fun _ s => (.panicked message, s)
  | a => .update a.apply

/-- Actions in order. -/
def steps (actions : List Action) : Step :=
  .sequence (actions.map step)

end Action

end HttpService
