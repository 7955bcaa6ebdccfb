import HttpService.Text.LetterTable

/-!
# Letters and case

Alphanumeric characters and case for all of Unicode: ASCII by rule, the rest by table. A case mapping
may give several characters.
-/

set_option autoImplicit false

namespace HttpService.Text

/-- Whether a row of a property table holds a character. -/
def inRow (n : Nat) : Nat × Nat × Nat → Bool
  | (low, high, step) => low ≤ n && n ≤ high && (n - low) % step == 0

def inTable (table : List (Nat × Nat × Nat)) (c : Char) : Bool :=
  table.any (inRow c.toNat)

/-- Letters, marks that act as letters, and numbers. -/
def isAlphanumeric (c : Char) : Bool :=
  if c.toNat < 0x80 then c.isAlphanum else inTable LetterTable.alphanumeric c

def isLower (c : Char) : Bool :=
  if c.toNat < 0x80 then c.isLower else inTable LetterTable.lowercase c

def isUpper (c : Char) : Bool :=
  if c.toNat < 0x80 then c.isUpper else inTable LetterTable.uppercase c

/-- The letters that have case: lower, upper or title case. -/
def isCased (c : Char) : Bool :=
  isLower c || isUpper c || inTable LetterTable.titlecase c

/-- The characters that do not end a word for the case of its letters: apostrophe, full stop, colon,
circumflex and grave accent, marks and the like. -/
def isCaseIgnorable (c : Char) : Bool :=
  if c.toNat < 0x80 then [0x27, 0x2E, 0x3A, 0x5E, 0x60].contains c.toNat
  else inTable LetterTable.caseIgnorable c

/-- The mapping of a character by a table of single characters and one of several. -/
def mapBy (single : List (Nat × Nat × Nat × Int)) (several : List (Nat × List Nat)) (c : Char) :
    List Char :=
  let n := c.toNat
  match several.find? (·.1 == n) with
  | some (_, ns) => ns.map Char.ofNat
  | none =>
    match single.find? fun (low, high, step, _) => inRow n (low, high, step) with
    | some (_, _, _, delta) => [Char.ofNat ((n : Int) + delta).toNat]
    | none => [c]

def toLower (c : Char) : List Char :=
  if c.toNat < 0x80 then [c.toLower] else mapBy LetterTable.toLower LetterTable.toLowerSeveral c

def toUpper (c : Char) : List Char :=
  if c.toNat < 0x80 then [c.toUpper] else mapBy LetterTable.toUpper LetterTable.toUpperSeveral c

end HttpService.Text
