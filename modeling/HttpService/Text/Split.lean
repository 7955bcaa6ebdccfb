/-!
# Cutting and replacing

Cuts are made at single characters; `splitOn` keeps empty pieces, so joining the pieces with the
separator gives the text back.
-/

set_option autoImplicit false

namespace HttpService.Text

/-- The pieces between occurrences of `sep`, empty ones included; never an empty list. -/
def splitChars (sep : Char) : List Char → List (List Char)
  | [] => [[]]
  | c :: cs =>
    if c = sep then [] :: splitChars sep cs
    else
      match splitChars sep cs with
      | [] => [[c]]
      | piece :: rest => (c :: piece) :: rest

theorem splitChars_ne_nil (sep : Char) (cs : List Char) : splitChars sep cs ≠ [] := by
  induction cs with
  | nil => simp [splitChars]
  | cons c cs ih =>
    rw [splitChars]
    split
    · simp
    · split <;> simp

/-- The pieces of a text between occurrences of `sep`. -/
def splitOn (s : String) (sep : Char) : List String :=
  (splitChars sep s.toList).map String.ofList

/-- The part before the first `sep` and the part after it. -/
def cutChars (sep : Char) : List Char → Option (List Char × List Char)
  | [] => none
  | c :: cs =>
    if c = sep then some ([], cs)
    else (cutChars sep cs).map fun (before, after) => (c :: before, after)

/-- The part before the first `sep` and the part after it. -/
def cut (s : String) (sep : Char) : Option (String × String) :=
  (cutChars sep s.toList).map fun (before, after) => (String.ofList before, String.ofList after)

/-- The part before the first `sep`, or everything. -/
def before (s : String) (sep : Char) : String :=
  String.ofList (s.toList.takeWhile (· ≠ sep))

/-- Everything after `front`, if the text starts with it. -/
def dropFront? (front s : String) : Option String :=
  if front.toList.isPrefixOf s.toList then some (String.ofList (s.toList.drop front.length))
  else none

/-- Everything before `back`, if the text ends with it. -/
def dropBack? (back s : String) : Option String :=
  if back.toList.isSuffixOf s.toList then
    some (String.ofList (s.toList.take (s.length - back.length)))
  else none

/-- Replaces each occurrence of `pattern` from left to right; `skip` characters belong to the
occurrence just replaced. -/
def replaceFrom (pattern new : List Char) : Nat → List Char → List Char
  | _, [] => []
  | skip + 1, _ :: cs => replaceFrom pattern new skip cs
  | 0, c :: cs =>
    if pattern.isPrefixOf (c :: cs) then new ++ replaceFrom pattern new (pattern.length - 1) cs
    else c :: replaceFrom pattern new 0 cs

/-- Replaces every occurrence of the non-empty `pattern`. -/
def replace (s pattern new : String) : String :=
  String.ofList (replaceFrom pattern.toList new.toList 0 s.toList)

/-- Joins texts with a separator. -/
def join (sep : String) (parts : List String) : String :=
  sep.intercalate parts

end HttpService.Text
