import HttpService.Http.MediaType
import HttpService.Route.Path
import HttpService.Route.Registry

/-!
# Controllers

A controller offers methods. `Controller.introspect` makes a route of each method that can be bound and
whose type of request names a path and a method, and warns about each other one.
-/

set_option autoImplicit false

namespace HttpService

/-- A method of a controller: one that can be bound, or one that cannot, and why. -/
inductive ControllerMethod (E : Type)
  | bindable (name : String) (request response : TypeInfo) (endpoint : E)
  | rejected (name reason : String)

/-- A controller: the name of its type and its methods in order. -/
structure Controller (E : Type) where
  typeName : String
  methods : List (ControllerMethod E)

variable {M E : Type}

namespace ControllerMethod

def name : ControllerMethod E → String
  | bindable n .. => n
  | rejected n _ => n

/-- Why the method is rejected. -/
def rejection? : ControllerMethod E → Option String
  | bindable .. => none
  | rejected _ reason => some reason

/-- The type of its requests. -/
def request? : ControllerMethod E → Option TypeInfo
  | bindable _ request .. => some request
  | rejected .. => none

end ControllerMethod

/-- The HTTP method that a text names: in capitals, without blanks around it. -/
def httpMethod? (verb : String) : Option String :=
  let token := (Text.trim verb).toList.map Char.toUpper
  if token ≠ [] ∧ token.all MediaType.isTokenChar then some (String.ofList token) else none

namespace Controller

/-- What is documented of a route, from the metadata of its request; a group named there replaces the
group that encloses it. -/
def routeDoc (group : String) (meta' : Assoc String) (path verb handler : String)
    (request response : TypeInfo) : RouteDoc :=
  let group := (meta'.find? "group").getD group
  let shown := Path.normalise group
  let text (key : String) := (meta'.find? key).filter (· ≠ "")
  { method := verb
    path := Path.normalise (group ++ "/" ++ path)
    groupPrefix := if shown = "/" then none else some shown
    summary := text "summary"
    tag := text "tag"
    description := text "dc"
    request, response, handler }

/-- The route of a method, or the warning that it has none. -/
def introspectMethod (F : Family) (controller group : String) (middleware : List M) :
    ControllerMethod E → Except Event (Route M E)
  | .rejected name reason =>
    .error (.warning "method skipped"
      [("controller", controller), ("method", name), ("reason", reason)])
  | .bindable name request response endpoint =>
    let meta' := F.metadata request.shape
    match meta'.find? "path", meta'.find? "method" with
    | some path, some verb =>
      match httpMethod? verb with
      | some method =>
        let doc := routeDoc group meta' path method (controller ++ "." ++ name) request response
        .ok { doc with middleware, endpoint }
      | none =>
        .error (.warning "method skipped: invalid HTTP method"
          [("controller", controller), ("method", name), ("verb", verb)])
    | _, _ =>
      .error (.warning "method skipped: request marker needs both path and method"
        [("controller", controller), ("method", name), ("req", shortTypeName request.name)])

/-- The routes of a controller and the warnings, each in the order of the methods. -/
def introspect (F : Family) (c : Controller E) (group : String) (middleware : List M) :
    List (Route M E) × List Event :=
  let results := c.methods.map
    (introspectMethod F (shortTypeName c.typeName) group middleware)
  (results.filterMap (·.toOption), results.filterMap fun r =>
    match r with
    | .ok _ => none
    | .error warning => some warning)

end Controller

end HttpService
