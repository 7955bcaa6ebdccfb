import HttpService.Text.Split
import HttpService.Text.Words

/-!
# Case styles of names

The case styles under which the members of a type are written on the wire, and how each restyles the
name of a member.
-/

set_option autoImplicit false

namespace HttpService

/-- How a name is written on the wire. -/
inductive Casing
  | lower
  | upper
  | pascal
  | camel
  | snake
  | screamingSnake
  | kebab
  | screamingKebab
  deriving DecidableEq, Repr

/-- What a name belongs to: in fields, unlike variants, the snake style keeps the name. -/
inductive Member
  | field
  | variant
  deriving DecidableEq, Repr

namespace Casing

/-- Each style is named by an example of itself. -/
def all : List (String × Casing) :=
  [("lowercase", .lower), ("UPPERCASE", .upper), ("PascalCase", .pascal), ("camelCase", .camel),
   ("snake_case", .snake), ("SCREAMING_SNAKE_CASE", .screamingSnake), ("kebab-case", .kebab),
   ("SCREAMING-KEBAB-CASE", .screamingKebab)]

def parse? (s : String) : Option Casing :=
  all.lookup s

/-- The words of a name, each rewritten, joined by a separator. -/
def joined (name sep : String) (word : List Char → List Char) : String :=
  Text.join sep ((Text.caseWords name).map fun w => String.ofList (word w))

/-- All words capitalised but the first, which is in lower case. -/
def camelWords : List (List Char) → List Char
  | [] => []
  | w :: ws => Text.lowerWord w ++ ws.flatMap Text.capitalWord

/-- The name of a member in a style. -/
def rename (style : Casing) (member : Member) (name : String) : String :=
  match style, member with
  | .lower, _ => Text.lowercase name
  | .upper, _ => Text.uppercase name
  | .pascal, _ => joined name "" Text.capitalWord
  | .camel, _ => String.ofList (camelWords (Text.caseWords name))
  | .snake, .field => name
  | .snake, .variant => joined name "_" Text.lowerWord
  | .screamingSnake, _ => joined name "_" Text.upperWord
  | .kebab, _ => joined name "-" Text.lowerWord
  | .screamingKebab, _ => joined name "-" Text.upperWord

end Casing

end HttpService
