import HttpService.Failure
import HttpService.Route.Matcher

/-!
# The route table

One matcher for each method, over the entries of all of them. A path that no pattern of the method matches
is not allowed if another method has it, and not found otherwise; `HEAD` is answered by what `GET` has
unless it has its own.
-/

set_option autoImplicit false

namespace HttpService

/-- Entries and the patterns that lead to them. -/
structure RouteTable (α : Type) where
  /-- The matchers of the methods, in the order in which the methods came. A pattern leads to the place of
  its entry. -/
  matchers : List (String × Matcher Nat) := []
  /-- The entries, oldest first. -/
  entries : List α := []

/-- What a method and a path lead to. -/
inductive Lookup (α : Type)
  | found (entry : α) (parameters : PathParameters)
  | methodNotAllowed
  | notFound
  /-- A place that no entry has. -/
  | missing (place : Nat)
  deriving Repr

namespace RouteTable

variable {α : Type}

/-- The matcher of a method; without routes it is empty. -/
def matcher (t : RouteTable α) (method : String) : Matcher Nat :=
  (t.matchers.lookup method).getD []

/-- Puts the matcher of a method in place. -/
def update (method : String) (m : Matcher Nat) :
    List (String × Matcher Nat) → List (String × Matcher Nat)
  | [] => [(method, m)]
  | (name, old) :: rest =>
    if name = method then (method, m) :: rest else (name, old) :: update method m rest

/-- Adds an entry under a method and a route path. One that is refused takes no place, but its method has
a matcher from then on. -/
def insert (t : RouteTable α) (method path : String) (entry : α) :
    Except Failure Unit × RouteTable α :=
  let m := t.matcher method
  match (Pattern.parse (Path.pattern path)).bind fun p => m.insert p t.entries.length with
  | .ok m => (.ok (), ⟨update method m t.matchers, t.entries ++ [entry]⟩)
  | .error fault =>
    (.error (.wrap [.foreign fault.message] ("registering route " ++ method ++ " " ++ path)),
      { t with matchers := update method m t.matchers })

/-- The place that the method itself has for a path, or for `HEAD` that of `GET`. -/
def find? (t : RouteTable α) (method path : String) : Option (Nat × PathParameters) :=
  match (t.matcher method).find? path with
  | some found => some found
  | none => if method = "HEAD" then (t.matcher "GET").find? path else none

/-- Whether another method has the path. -/
def elsewhere (t : RouteTable α) (method path : String) : Bool :=
  t.matchers.any fun (name, m) => name ≠ method && (m.find? path).isSome

/-- What a request leads to. -/
def lookup (t : RouteTable α) (method path : String) : Lookup α :=
  match t.find? method path with
  | some (place, parameters) =>
    match t.entries[place]? with
    | some entry => .found entry parameters
    | none => .missing place
  | none => if t.elsewhere method path then .methodNotAllowed else .notFound

end RouteTable

end HttpService
