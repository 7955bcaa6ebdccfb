import HttpService.Text.Split

/-!
# Route paths

A route path is a sequence of non-empty segments; a segment that starts with `:` is a parameter and
one that starts with `*` takes the rest of the path. `normalise` is the one written form of a path.
-/

set_option autoImplicit false

namespace HttpService.Path

/-- The segments of a path, empty ones left out. -/
def segments (cs : List Char) : List (List Char) :=
  (Text.splitChars '/' cs).filter (· ≠ [])

/-- Each segment after a slash; the root for none. -/
def ofSegments : List (List Char) → List Char
  | [] => ['/']
  | segs => segs.flatMap ('/' :: ·)

/-- The written form: a leading slash, no empty segment, no trailing slash except for the root. -/
def normalise (path : String) : String :=
  String.ofList (ofSegments (segments path.toList))

/-- The name of a parameter or rest segment. -/
def parameter? (segment : List Char) : Option String :=
  match segment with
  | ':' :: name => some (String.ofList name)
  | '*' :: name => some (String.ofList name)
  | _ => none

/-- The parameter names of a path in order. -/
def parameters (path : String) : List String :=
  (Text.splitChars '/' path.toList).filterMap parameter?

/-- The documented form, with parameter names in braces. -/
def documented (path : String) : String :=
  Text.join "/" <| (Text.splitChars '/' path.toList).map fun segment =>
    match parameter? segment with
    | some name => "\x7b" ++ name ++ "\x7d"
    | none => String.ofList segment

/-- Doubles the braces of a literal segment. -/
def escapeBraces (segment : List Char) : List Char :=
  segment.flatMap fun c => if c = '\x7b' ∨ c = '\x7d' then [c, c] else [c]

/-- The form that the matcher reads: parameters and rests in braces, braces of literals doubled. -/
def pattern (path : String) : String :=
  Text.join "/" <| (Text.splitChars '/' path.toList).map fun segment =>
    match segment with
    | ':' :: name => String.ofList ('\x7b' :: name ++ ['\x7d'])
    | '*' :: name => String.ofList ('\x7b' :: '*' :: name ++ ['\x7d'])
    | _ => String.ofList (escapeBraces segment)

end HttpService.Path
