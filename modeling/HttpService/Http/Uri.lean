import HttpService.Text.Split

/-!
# Request targets

A target is a path with a query, or has an authority, with or without a scheme before it. A fragment
is dropped.
-/

set_option autoImplicit false

namespace HttpService

/-- A request target. -/
structure Uri where
  scheme : Option String
  authority : Option String
  /-- The written path, which may be empty after an authority. -/
  rawPath : String
  query : Option String
  deriving DecidableEq, Repr, Inhabited

namespace Uri

/-- Cuts a path from its query. -/
def ofPath (scheme authority : Option String) (cs : List Char) : Uri :=
  let cs := cs.takeWhile (· ≠ '#')
  match Text.cutChars '?' cs with
  | some (path, query) => ⟨scheme, authority, String.ofList path, some (String.ofList query)⟩
  | none => ⟨scheme, authority, String.ofList cs, none⟩

/-- The scheme before `://`, and what follows. -/
def cutScheme? (cs : List Char) : Option (List Char × List Char) :=
  match Text.cutChars ':' cs with
  | some (scheme, '/' :: '/' :: rest) =>
    if scheme.all fun c => c.isAlphanum || c == '+' || c == '-' || c == '.' then some (scheme, rest)
    else none
  | _ => none

/-- A scheme as it is shown: the common ones in lower case. -/
def schemeText (scheme : List Char) : String :=
  let lower := String.ofList (scheme.map Char.toLower)
  if lower = "http" ∨ lower = "https" then lower else String.ofList scheme

/-- Reads a target. -/
def parse (text : String) : Uri :=
  let cs := text.toList
  match cs with
  | '/' :: _ => ofPath none none cs
  | ['*'] => ⟨none, none, "*", none⟩
  | _ =>
    match cutScheme? cs with
    | some (scheme, rest) =>
      let isEnd (c : Char) : Bool := c == '/' || c == '?' || c == '#'
      ofPath (some (schemeText scheme)) (some (String.ofList (rest.takeWhile (!isEnd ·))))
        (rest.dropWhile (!isEnd ·))
    | none => ⟨none, some text, "", none⟩

/-- The path; the root where none is written after an authority with a scheme. -/
def path (u : Uri) : String :=
  if u.rawPath = "" then if u.scheme.isSome then "/" else "" else u.rawPath

/-- The host of the authority, without user and port. -/
def host? (u : Uri) : Option String :=
  u.authority.map fun a =>
    let cs := a.toList
    let hostPort := (cs.reverse.takeWhile (· ≠ '@')).reverse
    String.ofList <|
      match hostPort with
      | '[' :: _ => hostPort.takeWhile (· ≠ ']') ++ [']']
      | _ => hostPort.takeWhile (· ≠ ':')

/-- The written form. -/
def display (u : Uri) : String :=
  ((u.scheme.map (· ++ "://")).getD "") ++ u.authority.getD "" ++ u.path ++
    ((u.query.map ("?" ++ ·)).getD "")

end Uri

end HttpService
