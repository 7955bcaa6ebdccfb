import HttpService.Route.Table
import HttpService.Server.Basic

/-!
# Services

What a started server answers requests with: its bound routes and the built-in pages, each with the
whole chain of its middleware, and the answers to requests that lead nowhere.
-/

set_option autoImplicit false

namespace HttpService

/-- What serves a request: its pattern if a route matched, the chain around it, and its end. -/
structure Entry where
  pattern : Option String
  chain : List Middleware
  endpoint : Endpoint

structure Service where
  table : RouteTable Entry
  /-- The chain of requests that lead to no route. -/
  base : List Middleware
  policy : ResponsePolicy
  locale : Locale

namespace Server

/-- The built-in pages with their paths, and a warning if there is nothing to show on one. -/
def builtins (F : Family) (s : Server) : List (String × Endpoint) × List Event :=
  let c := s.settings
  let health := if c.healthCheck then [("/health", Endpoint.health)] else []
  let document := if c.openapiPath = "" then []
    else [(c.openapiPath, Endpoint.document (OpenApi.served F c.name s.registry.docs))]
  let page := if c.openapiPath = "" ∨ c.swaggerPath = "" then []
    else [(c.swaggerPath, Endpoint.page c.swaggerTemplate c.openapiPath)]
  let metrics := if c.metricsPath ≠ "" ∧ s.metrics then [(c.metricsPath, Endpoint.metrics)] else []
  let warnings := if c.metricsPath ≠ "" ∧ !s.metrics then
      [Event.warning "metrics path set without a metric manager, endpoint disabled"
        [("path", c.metricsPath)]]
    else []
  (health ++ document ++ page ++ metrics, warnings)

/-- The table of the bound routes, in the order of the registry. -/
def insertRoutes (s : Server) :
    RouteTable Entry → List (Route Middleware Endpoint) → Except Failure (RouteTable Entry)
  | t, [] => .ok t
  | t, r :: rs =>
    match t.insert r.method r.path ⟨r.path, s.chainOf r, r.endpoint⟩ with
    | (.ok _, t) => insertRoutes s t rs
    | (.error f, _) => .error f

/-- Adds the built-in pages; a bound route hides the page with its path, with a warning. -/
def insertBuiltins (s : Server) :
    RouteTable Entry → List (String × Endpoint) → Except Failure (RouteTable Entry) × List Event
  | t, [] => (.ok t, [])
  | t, (path, endpoint) :: rest =>
    let path := Path.normalise path
    if (s.registry.get? "GET" path).isSome then
      let (result, events) := insertBuiltins s t rest
      (result, .warning "built-in endpoint shadowed by a bound route" [("path", path)] :: events)
    else
      match t.insert "GET" path ⟨path, s.baseChain, endpoint⟩ with
      | (.ok _, t) => insertBuiltins s t rest
      | (.error f, _) => (.error f, [])

/-- What the server answers with once it is started, or the first route that cannot stand beside the
others; gives the warnings either way. -/
def service (F : Family) (s : Server) : Except Failure Service × List Event :=
  match s.insertRoutes {} s.registry with
  | .error f => (.error f, [])
  | .ok t =>
    let (pages, warnings) := s.builtins F
    let (result, events) := s.insertBuiltins t pages
    (result.map fun t => ⟨t, s.baseChain, s.policy, s.settings.locale⟩, warnings ++ events)

end Server

namespace Service

/-- What serves a request; one whose body could not be read is not routed. A place without an entry would
be a fault of the table. -/
def entry (v : Service) (unread : Bool) (r : Request) : Entry × PathParameters :=
  let fallback (e : Endpoint) : Entry × PathParameters := (⟨none, v.base, e⟩, [])
  if unread then fallback .rejected
  else
    match v.table.lookup r.method r.uri.path with
    | .found e ps => (e, ps)
    | .methodNotAllowed => fallback (.status 405)
    | .notFound => fallback (.status 404)
    | .missing _ => fallback (.status 500)

/-- Serves a request; `failed` says why its body could not be read. -/
def serve (v : Service) (failed : Option Failure) (r : Request) (site : Site) : State :=
  let (e, params) := v.entry failed.isSome r
  let request := { r with route := e.pattern, params, policy := v.policy, locale := v.locale }
  let start : State := ⟨.start request site.fresh.uuid, site⟩
  let start := match failed with
    | some f => start.put (start.exchange.pushError f)
    | none => start
  (Middleware.chain e.chain e.endpoint.step [] start).2

end Service

end HttpService
