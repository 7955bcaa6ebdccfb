import HttpService.Pipeline.Exchange
import HttpService.Tracing.Span

/-!
# Request metrics

Every exchange counts as in flight from its start until it ends or is dropped. A completed one adds to
the tally of its labels: a count, its duration, and the sizes of both bodies.
-/

set_option autoImplicit false

namespace HttpService

/-- What is known of a request when it starts. -/
structure RequestLabels where
  address : String
  port : String
  route : String
  scheme : String
  method : String
  version : String
  deriving DecidableEq, Repr, Inhabited

/-- What is known of it when it is completed. -/
structure OutcomeLabels extends RequestLabels where
  status : Status
  /-- The value of the primary error's code; empty without an error. -/
  errorCode : String
  deriving DecidableEq, Repr, Inhabited

/-- What the completed requests of one kind add up to. -/
structure Tally where
  /-- The number of completed requests. -/
  count : Nat
  requestBytes : Nat
  responseBytes : Nat
  /-- The durations in nanoseconds, one for each request. -/
  durations : List Nat
  deriving DecidableEq, Repr, Inhabited

/-- All counts of a service. -/
structure Metrics where
  inFlight : List (RequestLabels × Int)
  tallies : List (OutcomeLabels × Tally)
  deriving Repr, Inhabited

/-- Changes the value under a key, which starts from a default. -/
def adjust {κ υ : Type} [DecidableEq κ] (key : κ) (start : υ) (f : υ → υ) :
    List (κ × υ) → List (κ × υ)
  | [] => [(key, f start)]
  | (k, v) :: rest => if k = key then (k, f v) :: rest else (k, v) :: adjust key start f rest

namespace Metrics

def empty : Metrics := ⟨[], []⟩

/-- A request starts. -/
def enter (m : Metrics) (l : RequestLabels) : Metrics :=
  { m with inFlight := adjust l 0 (· + 1) m.inFlight }

/-- A request ends or is dropped. -/
def leave (m : Metrics) (l : RequestLabels) : Metrics :=
  { m with inFlight := adjust l 0 (· - 1) m.inFlight }

/-- A request is completed. -/
def record (m : Metrics) (l : OutcomeLabels) (requestBytes responseBytes duration : Nat) : Metrics :=
  let add (t : Tally) : Tally :=
    { count := t.count + 1, requestBytes := t.requestBytes + requestBytes
      responseBytes := t.responseBytes + responseBytes, durations := t.durations ++ [duration] }
  { m with tallies := adjust l ⟨0, 0, 0, []⟩ add m.tallies }

/-- The requests in flight under some labels. -/
def inFlight? (m : Metrics) (l : RequestLabels) : Int :=
  (m.inFlight.lookup l).getD 0

end Metrics

/-- A path with its numeric segments replaced, so that identifiers do not multiply labels. -/
def collapsedPath (path : String) : String :=
  Text.join "/" <| (Text.splitOn path '/').map fun segment =>
    if segment ≠ "" ∧ segment.toList.all Char.isDigit then ":id" else segment

/-- The labels of a request. -/
def Request.labels (r : Request) : RequestLabels :=
  { address := (r.local'.map (·.ip)).getD "", port := (r.local'.map (·.port)).getD ""
    route := r.route.getD (collapsedPath r.uri.path), scheme := r.scheme, method := r.method
    version := r.version.number }

/-- The labels of a completed exchange. -/
def Exchange.labels (x : Exchange) : OutcomeLabels :=
  { x.request.labels with
    status := x.writer.sentStatus
    errorCode := (x.error?.map fun f => toString f.code.value).getD "" }

end HttpService
