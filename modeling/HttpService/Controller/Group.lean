import HttpService.Controller.Basic

/-!
# Groups of routes

A group is a program: middleware added, controllers bound and groups nested, one after another.
Middleware holds for what comes after it in the group, and prefixes add up.
-/

set_option autoImplicit false

namespace HttpService

/-- One step of building a group. -/
inductive GroupStep (M E : Type)
  | use (m : M)
  /-- Binds a controller; the middleware holds for its routes alone. -/
  | bind (c : Controller E) (middleware : List M)
  | group (path : String) (steps : List (GroupStep M E))

instance {M E : Type} : Inhabited (GroupStep M E) := ⟨.group "/" []⟩

/-- What building gives: routes and warnings, and the prefixes of the groups in the order entered. -/
structure Built (M E : Type) where
  routes : List (Route M E) := []
  warnings : List Event := []
  prefixes : List String := []

variable {M E : Type}

namespace Built

def append (a b : Built M E) : Built M E :=
  ⟨a.routes ++ b.routes, a.warnings ++ b.warnings, a.prefixes ++ b.prefixes⟩

end Built

namespace GroupStep

/-- The middleware that a step adds to the group. -/
def added : GroupStep M E → List M
  | use m => [m]
  | _ => []

mutual

/-- What a step gives in a group with a prefix and the middleware added so far. -/
def build (F : Family) (path : String) (middleware : List M) : GroupStep M E → Built M E
  | use _ => {}
  | bind c own =>
    let (routes, warnings) := c.introspect F path (middleware ++ own)
    { routes, warnings }
  | group sub steps =>
    let path := Path.normalise (path ++ "/" ++ sub)
    Built.append { prefixes := [path] } (buildAll F path middleware steps)

/-- What steps give in order; each sees the middleware added before it. -/
def buildAll (F : Family) (path : String) (middleware : List M) :
    List (GroupStep M E) → Built M E
  | [] => {}
  | step :: steps =>
    Built.append (build F path middleware step)
      (buildAll F path (middleware ++ step.added) steps)

end

end GroupStep

end HttpService
