import HttpService.Assoc

/-!
# Headers

Header fields in the order in which their names were first set. Names are kept in lower case; a name
may have several values.
-/

set_option autoImplicit false

namespace HttpService

/-- Header fields, names in lower case. -/
abbrev Headers := List (String × String)

namespace Headers

/-- The first value of a name. -/
def get? (h : Headers) (name : String) : Option String :=
  Assoc.find? name h

/-- Replaces every value of a name. -/
def insert (h : Headers) (name value : String) : Headers :=
  if h.any (·.1 = name) then replaceFirst h else h ++ [(name, value)]
where
  replaceFirst : Headers → Headers
    | [] => []
    | (n, v) :: rest =>
      if n = name then (name, value) :: rest.filter (·.1 ≠ name) else (n, v) :: replaceFirst rest

/-- Adds a value to a name. -/
def append (h : Headers) (name value : String) : Headers :=
  h ++ [(name, value)]

/-- A header name in the form in which it is kept. -/
def normaliseName (name : String) : String :=
  String.ofList (name.toList.map Char.toLower)

/-- The distinct names. -/
def names (h : Headers) : List String :=
  (h.map (·.1)).eraseDups

/-- Whether a value shows as text: printable ASCII and tabs. -/
def isVisible (value : String) : Bool :=
  value.toList.all fun c => (' ' ≤ c && c.toNat < 0x7F) || c == '\t'

/-- The first value of a name, if it is printable ASCII. -/
def text? (h : Headers) (name : String) : Option String :=
  (h.get? name).filter isVisible

end Headers

end HttpService
