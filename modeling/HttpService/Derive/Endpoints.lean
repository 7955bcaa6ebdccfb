import HttpService.Derive.Attribute
import HttpService.Json.Basic
import HttpService.Text.Blank

/-!
# Endpoints derived from the methods of a controller

Each method with a receiver becomes one endpoint: bindable if it has the shape of an endpoint, and
rejected with the first reason against it otherwise.
-/

set_option autoImplicit false

namespace HttpService.Derive

/-- How a type is written, as far as endpoints ask: a shared or exclusive reference, or a path. -/
inductive TypeForm
  | shared
  | exclusive
  | path (last : String)
  | other
  deriving DecidableEq, Repr

namespace TypeForm

/-- Skips the generic arguments that an angle bracket has opened. -/
def skipAngles : Nat → List Token → List Token
  | _, [] => []
  | depth, .mark ">" :: ts =>
    match depth with
    | 0 => ts
    | d + 1 => skipAngles d ts
  | depth, .mark "<" :: ts => skipAngles (depth + 1) ts
  | depth, _ :: ts => skipAngles depth ts

/-- What is left of a path after the arguments of a segment: generic ones, or those of a function with
all of its result. -/
def afterArguments : List Token → List Token
  | .mark "<" :: ts => skipAngles 0 ts
  | .mark "::" :: .mark "<" :: ts => skipAngles 0 ts
  | .mark "(" :: ts =>
    match Token.takeGroup 0 ts with
    | some (_, .mark "->" :: _) => []
    | some (_, after) => after
    | none => ts
  | ts => ts

/-- The last segment of a path that all tokens belong to; `fuel` bounds the number of segments. -/
def lastSegment? : Nat → List Token → Option String
  | fuel + 1, .word n :: ts =>
    match afterArguments ts with
    | [] => some n
    | .mark "::" :: rest => lastSegment? fuel rest
    | _ => none
  | _, _ => none

/-- A path may start with `::` or with a type in angle brackets. -/
def pathOf (ts : List Token) : TypeForm :=
  let start := match ts with
    | .mark "::" :: rest => rest
    | .mark "<" :: rest =>
      match skipAngles 0 rest with
      | .mark "::" :: after => after
      | _ => []
    | _ => ts
  match lastSegment? ts.length start with
  | some n => path n
  | none => other

/-- What follows `&` and a lifetime. -/
def referenceOf : List Token → TypeForm
  | .lifetime _ :: .word "mut" :: _ => exclusive
  | .word "mut" :: _ => exclusive
  | _ => shared

def ofTokens : List Token → TypeForm
  | .mark "&" :: ts => referenceOf ts
  | ts => pathOf ts

def ofText (s : String) : TypeForm :=
  ofTokens ((Token.read? s).getD [])

end TypeForm

/-- How a method takes its controller: as `&self`, or in another way that is no endpoint. -/
inductive Receiver
  | shared
  | other
  deriving DecidableEq, Repr

namespace Receiver

/-- A first parameter that is no form of `self` is no receiver. -/
def ofTokens? : List Token → Option Receiver
  | [.mark "&", .word "self"] => some shared
  | [.mark "&", .lifetime _, .word "self"] => some shared
  | .mark "&" :: .word "mut" :: .word "self" :: _ => some other
  | .mark "&" :: .lifetime _ :: .word "mut" :: .word "self" :: _ => some other
  | .word "mut" :: .word "self" :: _ => some other
  | .word "self" :: _ => some other
  | _ => none

end Receiver

/-- The signature of a method; types are texts, and no result is the unit type. -/
structure Signature where
  name : String
  isAsync : Bool
  generics : String
  receiver : String
  parameters : List String
  result : Option String
  deriving Repr

/-- Why a method is no endpoint. -/
inductive Rejection
  | sync
  | generic
  | receiver
  | arity
  | context
  | request
  | result
  deriving DecidableEq, Repr

namespace Rejection

def reason : Rejection → String
  | sync => "endpoint methods must be async"
  | generic => "endpoint methods cannot be generic"
  | receiver => "endpoint methods must take &self"
  | arity => "expected exactly two parameters: a context reference and a request"
  | context => "the first parameter must be a shared context reference"
  | request => "the request must be taken by value"
  | result => "endpoint methods must return a Result"

end Rejection

/-- What a method becomes: an endpoint for a type of request, or a rejected one. -/
inductive DeclaredEndpoint
  | bindable (name request : String)
  | rejected (name : String) (why : Rejection)
  deriving DecidableEq, Repr

namespace Signature

/-- The receiver, if the method has one. -/
def receiver? (s : Signature) : Option Receiver :=
  Receiver.ofTokens? ((Token.read? s.receiver).getD [])

def isGeneric (s : Signature) : Bool :=
  let text := Text.withoutBlanks s.generics
  text ≠ "" && text ≠ "<>"

def returnsResult (s : Signature) : Bool :=
  s.result.map TypeForm.ofText = some (.path "Result")

/-- The endpoint that a method with a receiver becomes; the conditions are checked in this order. -/
def endpoint (s : Signature) (receiver : Receiver) : DeclaredEndpoint :=
  if !s.isAsync then .rejected s.name .sync
  else if s.isGeneric then .rejected s.name .generic
  else if receiver ≠ .shared then .rejected s.name .receiver
  else
    match s.parameters with
    | [context, request] =>
      let form := TypeForm.ofText request
      if TypeForm.ofText context ≠ .shared then .rejected s.name .context
      else if form = .shared ∨ form = .exclusive then .rejected s.name .request
      else if !s.returnsResult then .rejected s.name .result
      else .bindable s.name (Text.withoutBlanks request)
    | _ => .rejected s.name .arity

/-- Associated functions, which have no receiver, are left alone. -/
def endpoint? (s : Signature) : Option DeclaredEndpoint :=
  s.receiver?.map s.endpoint

end Signature

/-- A block of methods with the arguments of the controller attribute. -/
structure MethodBlock where
  arguments : String
  generics : String
  trait : Option String
  target : String
  methods : List Signature
  deriving Repr

namespace MethodBlock

/-- One endpoint for each method with a receiver, in the order written. -/
def endpoints (b : MethodBlock) : Except Fault (List DeclaredEndpoint) :=
  let generics := Text.withoutBlanks b.generics
  if Text.withoutBlanks b.arguments ≠ "" then .error .arguments
  else if b.trait.isSome then .error .traitBlock
  else if generics ≠ "" ∧ generics ≠ "<>" then .error .genericBlock
  else .ok (b.methods.filterMap Signature.endpoint?)

end MethodBlock

/-! ## Description of the derived code -/

namespace DeclaredEndpoint

def json : DeclaredEndpoint → Json
  | bindable name request => Json.ofPairs [("name", .str name),
      ("kind", .str "maltose::controller::Endpoint::bindable"), ("req", .str request)]
  | rejected name why => Json.ofPairs [("name", .str name),
      ("kind", .str "maltose::controller::Endpoint::rejected"), ("reason", .str why.reason)]

end DeclaredEndpoint

namespace MethodBlock

def json (b : MethodBlock) : Except Fault Json := do
  let endpoints ← b.endpoints
  return Json.ofPairs [("for", .str (Text.withoutBlanks b.target)),
    ("endpoints", .arr (endpoints.map (·.json)))]

end MethodBlock

end HttpService.Derive
