import HttpService.Event
import HttpService.Route.Basic

/-!
# The route registry

Routes in the order of their first registration, one for each method and path. A route registered
again takes the place of the earlier one, with a warning.
-/

set_option autoImplicit false

namespace HttpService

variable {M E : Type}

/-- Registered routes. -/
abbrev Registry (M E : Type) := List (Route M E)

namespace Registry

/-- Whether two routes answer the same requests. -/
def sameKey (a b : RouteDoc) : Bool :=
  a.method == b.method && a.path == b.path

/-- The route under a method and a path. -/
def get? (reg : Registry M E) (method path : String) : Option (Route M E) :=
  reg.find? fun r => r.method == method && r.path == path

/-- Puts a route in the place of the first one with its key, or at the end. -/
def put (route : Route M E) : Registry M E → Registry M E
  | [] => [route]
  | r :: rest => if sameKey r.toRouteDoc route.toRouteDoc then route :: rest else r :: put route rest

/-- The warning about a replaced route. -/
def replaced (old new : RouteDoc) : Event :=
  .warning "duplicate route replaced"
    [("method", new.method), ("path", new.path), ("replaced", old.handler), ("by", new.handler)]

/-- Registers a route. -/
def register (reg : Registry M E) (route : Route M E) : Registry M E × List Event :=
  (put route reg, ((get? reg route.method route.path).map fun old =>
    replaced old.toRouteDoc route.toRouteDoc).toList)

/-- Registers routes in order. -/
def registerAll (reg : Registry M E) : List (Route M E) → Registry M E × List Event
  | [] => (reg, [])
  | route :: routes =>
    let (reg, events) := reg.register route
    let (reg, more) := registerAll reg routes
    (reg, events ++ more)

/-- What is documented of the routes. -/
def docs (reg : Registry M E) : List RouteDoc :=
  reg.map (·.toRouteDoc)

end Registry

end HttpService
