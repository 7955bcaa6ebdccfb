/-!
# Blank characters and the edges of a text

`isBlank` is the Unicode property White_Space; trimming and splitting at blanks follow it.
-/

set_option autoImplicit false

namespace HttpService.Text

/-- Unicode White_Space: the ASCII blanks, next line, and the separators of the general category Z. -/
def isBlank (c : Char) : Bool :=
  let n := c.toNat
  (9 ≤ n && n ≤ 13) || n == 0x20 || n == 0x85 || n == 0xA0 || n == 0x1680 ||
    (0x2000 ≤ n && n ≤ 0x200A) || n == 0x2028 || n == 0x2029 || n == 0x202F || n == 0x205F ||
    n == 0x3000

/-- Drops what satisfies `p` from both ends. -/
def trimBy (p : Char → Bool) (cs : List Char) : List Char :=
  ((cs.dropWhile p).reverse.dropWhile p).reverse

/-- Drops the blanks at both ends. -/
def trim (s : String) : String :=
  String.ofList (trimBy isBlank s.toList)

/-- A text without its blanks. -/
def withoutBlanks (s : String) : String :=
  String.ofList (s.toList.filter (!isBlank ·))

/-- The non-empty runs between blanks; `word` holds the run being read. -/
def wordsFrom (word : List Char) : List Char → List (List Char)
  | [] => if word.isEmpty then [] else [word]
  | c :: cs =>
    if isBlank c then
      if word.isEmpty then wordsFrom [] cs else word :: wordsFrom [] cs
    else wordsFrom (word ++ [c]) cs

/-- The non-empty runs between blanks. -/
def words (s : String) : List String :=
  (wordsFrom [] s.toList).map String.ofList

end HttpService.Text
