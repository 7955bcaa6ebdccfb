import HttpService.Controller.Group
import HttpService.Pipeline.Endpoint
import HttpService.Server.Listener

/-!
# Servers

A server collects routes and middleware until it is started. Routes registered later are ignored with
a warning, middleware of the server holds for all routes whenever it was added.
-/

set_option autoImplicit false

namespace HttpService

/-- Where a server is in its life. -/
inductive Phase
  | idle
  | running (address : SocketAddress)
  | stopped
  deriving DecidableEq, Repr, Inhabited

structure Server where
  settings : Settings
  /-- Holds for every request. -/
  middleware : List Middleware := []
  registry : Registry Middleware Endpoint := []
  /-- Whether requests are measured. -/
  metrics : Bool := false
  policy : ResponsePolicy := .envelope
  /-- Whether the routes are fixed. -/
  frozen : Bool := false
  phase : Phase := .idle

namespace Server

def isRunning (s : Server) : Bool :=
  match s.phase with
  | .running _ => true
  | _ => false

/-- The address while the server runs. -/
def address? (s : Server) : Option SocketAddress :=
  match s.phase with
  | .running a => some a
  | _ => none

/-- How logs show a server. -/
def describe (s : Server) : String :=
  let policy := match s.policy with
    | .envelope => "Envelope"
    | .httpNative => "HttpNative"
  "Server \x7b name: " ++ Text.quoted s.settings.name ++ ", address: " ++
    Text.quoted s.settings.address ++ ", routes: " ++ toString s.registry.length ++
    ", policy: " ++ policy ++ " \x7d"

/-! ## Building -/

/-- Registers routes in order; a server whose routes are fixed ignores them. -/
def register (s : Server) (routes : List (Route Middleware Endpoint)) : Server × List Event :=
  if s.frozen then
    (s, [.warning "server already started, routes ignored" [("count", toString routes.length)]])
  else
    let (registry, events) := s.registry.registerAll routes
    ({ s with registry }, events)

/-- One step of building; gives the warnings and the prefixes of the groups entered. -/
def step (F : Family) (s : Server) : GroupStep Middleware Endpoint → Server × List Event × List String
  | .use m => ({ s with middleware := s.middleware ++ [m] }, [], [])
  | item =>
    let built := item.build F "/" []
    let (s, events) := s.register built.routes
    (s, built.warnings ++ events, built.prefixes)

/-- Steps of building in order. -/
def build (F : Family) (s : Server) :
    List (GroupStep Middleware Endpoint) → Server × List Event × List String
  | [] => (s, [], [])
  | item :: items =>
    let (s, events, prefixes) := step F s item
    let (s, more, rest) := build F s items
    (s, events ++ more, prefixes ++ rest)

/-! ## Chains -/

/-- The middleware that every request passes, outermost first. -/
def baseChain (s : Server) : List Middleware :=
  [.recovery, .tracing false] ++ (if s.metrics then [.metrics] else []) ++ [.respond s.policy] ++
    (if s.settings.writeTimeout.isZero then [] else [.timeout s.settings.writeTimeout]) ++
    s.middleware

/-- The middleware that the requests of a route pass. -/
def chainOf (s : Server) (r : Route Middleware Endpoint) : List Middleware :=
  s.baseChain ++ r.middleware

end Server

end HttpService
