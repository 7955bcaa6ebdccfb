import HttpService.Derive.Token

/-!
# Generic parameters

The generic parameters of a declaration, and how the declared type is named with them: lifetimes first,
then types and constants, without their bounds.
-/

set_option autoImplicit false

namespace HttpService.Derive

/-- A generic parameter; the bounds of a type are kept as they are written. -/
inductive Parameter
  | lifetime (name : String)
  | type (name : String) (bounds : List String)
  | const (name : String)
  deriving DecidableEq, Repr

namespace Parameter

def name : Parameter → String
  | lifetime n | type n _ | const n => n

def isLifetime : Parameter → Bool
  | lifetime _ => true
  | _ => false

/-- The types with their bounds. -/
def type? : Parameter → Option (String × List String)
  | type n bounds => some (n, bounds)
  | _ => none

def opens (t : Token) : Bool :=
  t.opens || t = .mark "<"

def closes (t : Token) : Bool :=
  t.closes || t = .mark ">"

/-- The pieces of a list of tokens, where angle brackets group as well. -/
def pieces (sep : String) (ts : List Token) : List (List Token) :=
  Token.splitAt sep opens closes 0 [] ts

/-- The bounds after a colon, up to a default. -/
def bounds : List Token → List String
  | .mark ":" :: rest =>
    let before := ((pieces "=" rest).head?).getD []
    ((pieces "+" before).map Token.compact).filter (· ≠ "")
  | _ => []

def read? : List Token → Option Parameter
  | .lifetime n :: _ => some (lifetime n)
  | .word "const" :: .word n :: _ => some (const n)
  | .word n :: rest => some (type n (bounds rest))
  | _ => none

end Parameter

/-- Generic parameters in the order written; `trailing` says whether a comma follows the last. -/
structure Generics where
  parameters : List Parameter := []
  trailing : Bool := false
  deriving DecidableEq, Repr

namespace Generics

/-- Reads parameters between angle brackets; no text is no parameters. -/
def read? (source : String) : Option Generics :=
  match Token.read? source with
  | none => none
  | some [] => some {}
  | some (.mark "<" :: rest) =>
    if rest.getLast? = some (.mark ">") then
      let pieces := Parameter.pieces "," rest.dropLast
      let kept := Token.dropTrailing pieces
      (kept.mapM Parameter.read?).map fun ps => ⟨ps, kept.length < pieces.length && !kept.isEmpty⟩
    else none
  | some _ => none

/-- A name with its arguments, lifetimes first. Each argument but the last written keeps its comma, so
one stands at the end also when a lifetime was written last. -/
def applied (g : Generics) (name : String) : String :=
  if g.parameters.isEmpty then name
  else
    let lifetimes := g.parameters.filter (·.isLifetime)
    let others := g.parameters.filter (!·.isLifetime)
    let moved := !others.isEmpty && (g.parameters.getLast?.any (·.isLifetime))
    let comma := if g.trailing || moved then "," else ""
    name ++ "<" ++ ",".intercalate ((lifetimes ++ others).map (·.name)) ++ comma ++ ">"

/-- The type parameters, each with one bound more. -/
def bounded (g : Generics) (bound : String) : List (String × List String) :=
  (g.parameters.filterMap Parameter.type?).map fun (n, bs) => (n, bs ++ [bound])

end Generics

end HttpService.Derive
