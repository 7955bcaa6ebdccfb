import HttpService.Text.Split
import HttpService.Text.Blank

/-!
# Media types

A type and a subtype of token characters, then parameters after semicolons. `essence` reads the type
tolerantly for the choice of a body reader; `parameters?` is strict.
-/

set_option autoImplicit false

namespace HttpService.MediaType

/-- The characters of a token. -/
def isTokenChar (c : Char) : Bool :=
  c.isAlphanum || "!#$%&'*+-.^_`|~".toList.contains c

/-- The part before the parameters, trimmed, in lower case. -/
def essence (contentType : String) : String :=
  String.ofList
    ((Text.trimBy Text.isBlank (contentType.toList.takeWhile (· ≠ ';'))).map Char.toLower)

/-- A quoted value and what follows it: it holds at least one character, and no control
characters. -/
def quotedValue? (cs : List Char) : Option (List Char × List Char) :=
  match cs with
  | [] => none
  | c :: cs =>
    let isControl (c : Char) : Bool := c.toNat < 0x20 || c.toNat == 0x7F
    match Text.cutChars '"' cs with
    | some (rest, after) =>
      if isControl c || rest.any isControl then none else some (c :: rest, after)
    | none => none

/-- Reads parameters; `fuel` bounds their count and the spaces between them. -/
def parametersFrom : Nat → List Char → Option (List (String × String))
  | 0, _ => none
  | _ + 1, [] => some []
  | fuel + 1, ' ' :: cs => parametersFrom fuel cs
  | fuel + 1, cs => do
    let name := cs.takeWhile isTokenChar
    if name.isEmpty then none
    let entry (value : List Char) (rest : List Char) := do
      let more ← parametersFrom fuel rest
      return (String.ofList (name.map Char.toLower), String.ofList value) :: more
    match cs.dropWhile isTokenChar with
    | '=' :: '"' :: rest =>
      let (value, after) ← quotedValue? rest
      match after.dropWhile (· = ' ') with
      | [] => entry value []
      | ';' :: rest => entry value rest
      | _ => none
    | '=' :: rest =>
      let value := rest.takeWhile isTokenChar
      match rest.dropWhile isTokenChar with
      | [] => entry value []
      | ';' :: after => if value.isEmpty then none else entry value after
      | _ => none
    | _ => none

/-- The type before its parameters, in lower case, and the parameters; none if malformed. -/
def parse? (text : String) : Option (String × List (String × String)) := do
  let cs := text.toList
  let type := cs.takeWhile isTokenChar
  match cs.dropWhile isTokenChar with
  | '/' :: rest =>
    let subtype := rest.takeWhile isTokenChar
    if type.isEmpty || subtype.isEmpty then none
    let name := String.ofList ((type ++ '/' :: subtype).map Char.toLower)
    match rest.dropWhile isTokenChar with
    | [] => return (name, [])
    | ';' :: after => return (name, ← parametersFrom (after.length + 1) after)
    | _ => none
  | _ => none

end HttpService.MediaType
