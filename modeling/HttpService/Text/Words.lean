import HttpService.Text.Letter

/-!
# The words of an identifier

An identifier is cut into words at everything that is neither letter nor digit, before an upper-case
letter that follows a lower-case one, and before the last capital of a run that a lower-case letter
follows: `XMLHttp_2go` has the words `XML`, `Http` and `2go`.
-/

set_option autoImplicit false

namespace HttpService.Text

/-- The case of the letters read last in a word; unknown before the first letter. -/
inductive LetterCase
  | unknown
  | lower
  | upper
  deriving DecidableEq, Repr

namespace LetterCase

/-- A character without case, such as a digit, leaves the case as it was. -/
def next (before : LetterCase) (c : Char) : LetterCase :=
  if isLower c then .lower else if isUpper c then .upper else before

end LetterCase

/-- The words of a run of letters and digits; `word` holds what has been read of the first one. -/
def wordsOfRun (case : LetterCase) (word : List Char) : List Char → List (List Char)
  | [] => if word.isEmpty then [] else [word]
  | [c] => [word ++ [c]]
  | c :: d :: rest =>
    if case.next c = .lower && isUpper d then
      (word ++ [c]) :: wordsOfRun .unknown [] (d :: rest)
    else if case = .upper && isUpper c && isLower d then
      word :: wordsOfRun .unknown [c] (d :: rest)
    else wordsOfRun (case.next c) (word ++ [c]) (d :: rest)

/-- The maximal runs of letters and digits; `run` holds the one being read. -/
def runsOf (run : List Char) : List Char → List (List Char)
  | [] => if run.isEmpty then [] else [run]
  | c :: cs =>
    if isAlphanumeric c then runsOf (run ++ [c]) cs
    else if run.isEmpty then runsOf [] cs
    else run :: runsOf [] cs

/-- The words of an identifier, in order. -/
def caseWords (name : String) : List (List Char) :=
  (runsOf [] name.toList).flatMap (wordsOfRun .unknown [])

/-- A word in lower case; a capital sigma at its end becomes a final sigma. -/
def lowerWord : List Char → List Char
  | [] => []
  | [c] => if c = 'Σ' then ['ς'] else toLower c
  | c :: cs => toLower c ++ lowerWord cs

def upperWord (word : List Char) : List Char :=
  word.flatMap toUpper

/-- A word with its first letter in upper case and the others in lower case. -/
def capitalWord : List Char → List Char
  | [] => []
  | c :: cs => toUpper c ++ lowerWord cs

/-- Whether the first character that counts for case is a letter with case. -/
def meetsCased (cs : List Char) : Bool :=
  (cs.dropWhile isCaseIgnorable).head?.any isCased

/-- Lower case; a capital sigma that ends a word, behind a letter with case and in front of none, becomes a
final sigma. `before` holds the characters in front, the nearest first. -/
def lowerFrom (before : List Char) : List Char → List Char
  | [] => []
  | c :: cs =>
    let final := meetsCased before && !meetsCased cs
    (if c = 'Σ' then [if final then 'ς' else 'σ'] else toLower c) ++ lowerFrom (c :: before) cs

/-- A text in lower case. -/
def lowercase (s : String) : String :=
  String.ofList (lowerFrom [] s.toList)

/-- A text in upper case. -/
def uppercase (s : String) : String :=
  String.ofList (s.toList.flatMap toUpper)

end HttpService.Text
