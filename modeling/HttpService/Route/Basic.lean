import HttpService.Shape
import HttpService.Text.Quoted

/-!
# Routes

A route is a method and a normalised path with everything that is known about its handler: what is
documented of it, its own middleware, and the endpoint that serves it.
-/

set_option autoImplicit false

namespace HttpService

/-- A type as routes know it: its name and its shape. -/
structure TypeInfo where
  name : String
  shape : Shape
  deriving DecidableEq, Repr, Inhabited

/-- What is documented of a route. -/
structure RouteDoc where
  method : String
  /-- Normalised, with `:name` parameters. -/
  path : String
  groupPrefix : Option String
  summary : Option String
  tag : Option String
  description : Option String
  request : TypeInfo
  response : TypeInfo
  /-- The controller and the method, which also identifies the documented operation. -/
  handler : String
  deriving DecidableEq, Repr, Inhabited

/-- A route with its middleware, outermost first, and its endpoint. -/
structure Route (M E : Type) extends RouteDoc where
  middleware : List M
  endpoint : E

/-- How logs show a route. -/
def RouteDoc.describe (r : RouteDoc) : String :=
  "RouteMeta \x7b method: " ++ r.method ++ ", path: " ++ Text.quoted r.path ++ ", handler: " ++
    Text.quoted r.handler ++ ", req_type: " ++ Text.quoted r.request.name ++ ", res_type: " ++
    Text.quoted r.response.name ++ " \x7d"

end HttpService
