import HttpService.Text.Blank
import HttpService.Text.Letter
import HttpService.Text.Utf8

/-!
# Tokens of a declaration

Attributes and generic parameters of a declaration are read as tokens: words, lifetimes, literals and
marks. Brackets are marks too; `takeGroup` finds the bracket that closes one. Reading never fails to
end: each token takes at least one character.
-/

set_option autoImplicit false

namespace HttpService.Derive

/-- A word keeps its `r#`; a literal carries its value if it is a plain text. -/
inductive Token
  | word (name : String)
  | lifetime (name : String)
  | literal (source : String) (text : Option String)
  | mark (source : String)
  deriving DecidableEq, Repr

namespace Token

/-- The token as it is written. -/
def source : Token → String
  | word s | lifetime s | literal s _ | mark s => s

/-- Tokens written without blanks between them. -/
def compact (ts : List Token) : String :=
  String.join (ts.map source)

def opens : Token → Bool
  | mark s => s = "(" || s = "[" || s = "\x7b"
  | _ => false

def closes : Token → Bool
  | mark s => s = ")" || s = "]" || s = "\x7d"
  | _ => false

/-- The tokens up to the bracket that closes the group already opened, and those after it. -/
def takeGroup : Nat → List Token → Option (List Token × List Token)
  | _, [] => none
  | depth, t :: ts =>
    if t.closes then
      match depth with
      | 0 => some ([], ts)
      | d + 1 => (takeGroup d ts).map fun (inner, rest) => (t :: inner, rest)
    else
      (takeGroup (if t.opens then depth + 1 else depth) ts).map fun (inner, rest) =>
        (t :: inner, rest)

/-- The pieces between the marks `sep` outside all brackets; `opens'` and `closes'` say what brackets
are, and `piece` holds what has been read of the first one. -/
def splitAt (sep : String) (opens' closes' : Token → Bool) :
    Nat → List Token → List Token → List (List Token)
  | _, piece, [] => [piece]
  | depth, piece, t :: ts =>
    if depth = 0 ∧ t = mark sep then piece :: splitAt sep opens' closes' 0 [] ts
    else
      let depth := if opens' t then depth + 1 else if closes' t then depth - 1 else depth
      splitAt sep opens' closes' depth (piece ++ [t]) ts

/-- Drops the empty piece after a trailing separator. -/
def dropTrailing (pieces : List (List Token)) : List (List Token) :=
  if pieces.getLast? = some [] then pieces.dropLast else pieces

/-! ## Reading -/

def isWordChar (c : Char) : Bool :=
  Text.isAlphanumeric c || c = '_'

/-- What a backslash in a text stands for with the characters after it. -/
def readEscape : List Char → Option (List Char × List Char)
  | 'n' :: r => some (['\n'], r)
  | 'r' :: r => some (['\r'], r)
  | 't' :: r => some (['\t'], r)
  | '0' :: r => some ([Char.ofNat 0], r)
  | '\\' :: r => some (['\\'], r)
  | '\'' :: r => some (['\''], r)
  | '"' :: r => some (['"'], r)
  | '\n' :: r => some ([], r.dropWhile Text.isBlank)
  | 'x' :: a :: b :: r => do
    let x ← Text.hexValue? a
    let y ← Text.hexValue? b
    return ([Char.ofNat (16 * x + y)], r)
  | 'u' :: '{' :: r => do
    let digits ← ((r.takeWhile (· ≠ '}')).filter (· ≠ '_')).mapM Text.hexValue?
    match r.dropWhile (· ≠ '}') with
    | _ :: rest => return ([Char.ofNat (digits.foldl (fun n d => 16 * n + d) 0)], rest)
    | [] => none
  | _ => none

/-- A text up to its closing quote. -/
def readText (cs : List Char) : Option (List Char × List Char) :=
  match cs with
  | [] => none
  | '"' :: rest => some ([], rest)
  | '\\' :: rest =>
    match readEscape rest with
    | none => none
    | some (meant, after) =>
      if after.length < rest.length then
        (readText after).map fun (text, rest) => (meant ++ text, rest)
      else none
  | c :: rest => (readText rest).map fun (text, rest) => (c :: text, rest)
termination_by cs.length

/-- A raw text up to the quote that `hashes` hash signs follow. -/
def readRaw (hashes : Nat) : List Char → Option (List Char × List Char)
  | [] => none
  | c :: cs =>
    if c = '"' ∧ cs.take hashes = List.replicate hashes '#' then some ([], cs.drop hashes)
    else (readRaw hashes cs).map fun (text, rest) => (c :: text, rest)

/-- The quoted text that starts here after an `r`, with any number of hash signs. -/
def readRawStart (cs : List Char) : Option (List Char × List Char) :=
  let hashes := (cs.takeWhile (· = '#')).length
  match cs.drop hashes with
  | '"' :: rest => readRaw hashes rest
  | _ => none

/-- The token at the front and what follows it; blanks are skipped before. -/
def next (cs : List Char) : Option (Token × List Char) :=
  let taken (rest : List Char) := String.ofList (cs.take (cs.length - rest.length))
  let name := cs.takeWhile isWordChar
  let afterName := cs.dropWhile isWordChar
  match cs with
  | [] => none
  | '"' :: rest =>
    (readText rest).map fun (text, after) => (literal (taken after) (String.ofList text), after)
  | '\'' :: rest =>
    let word := rest.takeWhile isWordChar
    match rest.dropWhile isWordChar with
    | '\'' :: after => some (literal (taken after) none, after)
    | after => some (lifetime (String.ofList ('\'' :: word)), after)
  | ':' :: ':' :: rest => some (mark "::", rest)
  | '-' :: '>' :: rest => some (mark "->", rest)
  | c :: rest =>
    if !isWordChar c then some (mark c.toString, rest)
    else if c.isDigit then some (literal (String.ofList name) none, afterName)
    else if name = ['r'] then
      match readRawStart afterName, afterName with
      | some (text, after), _ => some (literal (taken after) (String.ofList text), after)
      | none, '#' :: d :: more =>
        if isWordChar d then
          let after := (d :: more).dropWhile isWordChar
          some (word (taken after), after)
        else some (word "r", afterName)
      | none, _ => some (word "r", afterName)
    else
      match name == ['b'] || name == ['c'], afterName with
      | true, '"' :: text => (readText text).map fun (_, after) => (literal (taken after) none, after)
      | _, _ => some (word (String.ofList name), afterName)

/-- All tokens of a list of characters; a literal that does not end has none. -/
def readFrom (cs : List Char) : Option (List Token) :=
  match cs.dropWhile Text.isBlank with
  | [] => some []
  | front =>
    match next front with
    | none => none
    | some (t, rest) =>
      if rest.length < cs.length then (readFrom rest).map (t :: ·) else none
termination_by cs.length

/-- All tokens of a text. -/
def read? (s : String) : Option (List Token) :=
  readFrom s.toList

/-- A text as a literal. -/
def ofText (s : String) : Token :=
  literal s s

end Token

end HttpService.Derive
