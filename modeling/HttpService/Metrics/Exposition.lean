import HttpService.Metrics.Instruments

/-!
# The exposition of metrics

Metrics are shown as text, one family after the other by name, and within a family by the values of
the labels in the order of their names.
-/

set_option autoImplicit false

namespace HttpService.Exposition

/-- A sample's labels by name. -/
abbrev Labels := List (String × String)

/-- Escapes a label value. -/
def escapeValue (s : String) : String :=
  String.ofList <| s.toList.flatMap fun c =>
    if c = '\\' then ['\\', '\\'] else if c = '"' then ['\\', '"']
    else if c = '\n' then ['\\', 'n'] else [c]

/-- One line: a name, labels and a value. -/
def sample (name : String) (labels : Labels) (value : String) : String :=
  let pairs := labels.map fun (k, v) => k ++ "=\"" ++ escapeValue v ++ "\""
  name ++ "\x7b" ++ Text.join "," pairs ++ "\x7d " ++ value ++ "\n"

def requestLabels (l : RequestLabels) : Labels :=
  [("http_request_method", l.method), ("http_route", l.route),
    ("network_protocol_version", l.version), ("server_address", l.address),
    ("server_port", l.port), ("url_scheme", l.scheme)]

def outcomeLabels (l : OutcomeLabels) : Labels :=
  [("error_code", l.errorCode), ("http_request_method", l.method),
    ("http_response_status_code", toString l.status), ("http_route", l.route),
    ("network_protocol_version", l.version), ("server_address", l.address),
    ("server_port", l.port), ("url_scheme", l.scheme)]

/-- Whether one list of label values comes before another, or is it. -/
def labelsLe (a b : Labels) : Bool :=
  match a, b with
  | [], _ => true
  | _ :: _, [] => false
  | (_, v) :: a, (_, w) :: b => v < w || (v == w && labelsLe a b)

/-- The head of a family. -/
def header (name help kind : String) : String :=
  "# HELP " ++ name ++ " " ++ help ++ "\n# TYPE " ++ name ++ " " ++ kind ++ "\n"

/-- A family: its head and its samples in label order; a family without samples is left out. -/
def family {α : Type} (name help kind : String) (labels : α → Labels) (lines : α → String)
    (rows : List α) : String :=
  if rows.isEmpty then ""
  else
    header name help kind ++
      String.join ((rows.mergeSort fun a b => labelsLe (labels a) (labels b)).map lines)

/-- Measured numbers are shown positional. -/
def layout : Decimal.Layout where
  positional _ := true
  pointZero := false
  plus := false

def millis (nanos : Nat) : Float :=
  Float.ofNat nanos / 1000000.0

/-- The upper bounds of the duration buckets in milliseconds. -/
def bounds : List (Float × String) :=
  [(1.0, "1"), (2.5, "2.5"), (5.0, "5"), (10.0, "10"), (25.0, "25"), (50.0, "50"), (100.0, "100"),
    (250.0, "250"), (500.0, "500"), (1000.0, "1000"), (2500.0, "2500"), (5000.0, "5000")]

/-- The lines of a histogram: requests up to each bound, the sum, and the count. -/
def histogram (name : String) (labels : Labels) (durations : List Nat) : String :=
  let buckets := bounds.map fun (bound, text) =>
    sample (name ++ "_bucket") (labels ++ [("le", text)])
      (toString (durations.countP fun d => millis d ≤ bound))
  String.join buckets ++
    sample (name ++ "_bucket") (labels ++ [("le", "+Inf")]) (toString durations.length) ++
    sample (name ++ "_sum") labels (layout.float ((durations.map millis).foldl (· + ·) 0.0)) ++
    sample (name ++ "_count") labels (toString durations.length)

/-- A counter over completed requests. -/
def counter (name help : String) (value : Tally → Nat) (rows : List (OutcomeLabels × Tally)) :
    String :=
  family name help "counter" (fun (l, _) => outcomeLabels l)
    (fun (l, t) => sample name (outcomeLabels l) (toString (value t))) rows

/-- All metrics. -/
def text (m : Metrics) : String :=
  let duration := "http_server_request_duration_ms"
  let inFlight := "http_server_requests_in_flight"
  counter "http_server_request_body_size_bytes_total"
      "Total size of HTTP request bodies in bytes" (·.requestBytes) m.tallies ++
    family duration "Duration of HTTP server requests in milliseconds" "histogram"
      (fun (l, _) => outcomeLabels l)
      (fun (l, t) => histogram duration (outcomeLabels l) t.durations) m.tallies ++
    counter "http_server_request_duration_ms_total"
      "Total time spent serving HTTP requests in milliseconds"
      (fun t => t.durations.foldl (fun n d => n + (d + 500000) / 1000000) 0) m.tallies ++
    family inFlight "Number of HTTP server requests currently being processed" "gauge"
      (fun (l, _) => requestLabels l)
      (fun (l, n) => sample inFlight (requestLabels l) (toString n)) m.inFlight ++
    counter "http_server_requests_total" "Total number of HTTP server requests" (·.count)
      m.tallies ++
    counter "http_server_response_body_size_bytes_total"
      "Total size of HTTP response bodies in bytes" (·.responseBytes) m.tallies

end HttpService.Exposition
