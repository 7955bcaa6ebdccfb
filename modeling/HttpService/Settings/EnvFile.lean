import HttpService.Settings.Environment
import HttpService.Text.Letter

/-!
# Environment files

A file of lines `KEY=value`, with comments, quotes, escapes and references to other variables. A
quoted value may run over several lines. Loading sets the variables that are not set yet and stops
at the first line that cannot be read.
-/

set_option autoImplicit false

namespace HttpService.EnvFile

/-! ## Lines -/

/-- Where the end of a line falls. -/
inductive Ending
  | complete | escape | strong | strongEscape | weak | weakEscape | blank
  deriving DecidableEq

/-- The state after one character; `none` where a comment starts. -/
def Ending.next : Ending → Char → Option Ending
  | .blank, c =>
    if c = '#' then none
    else some (if c = '\\' then .escape else if c = '"' then .weak else if c = '\'' then .strong
      else .complete)
  | .escape, _ => some .complete
  | .complete, c =>
    some (if Text.isBlank c ∧ c ≠ '\n' ∧ c ≠ '\r' then .blank
      else if c = '\\' then .escape else if c = '"' then .weak else if c = '\'' then .strong
      else .complete)
  | .weak, c => some (if c = '\\' then .weakEscape else if c = '"' then .complete else .weak)
  | .weakEscape, _ => some .weak
  | .strong, c => some (if c = '\\' then .strongEscape else if c = '\'' then .complete else .strong)
  | .strongEscape, _ => some .strong

/-- The text of a line before its comment, and the state at its end; `none` if a comment ends it. -/
def Ending.run (state : Ending) : List Char → List Char × Option Ending
  | [] => ([], some state)
  | c :: cs =>
    match state.next c with
    | none => ([], none)
    | some state =>
      let (text, last) := Ending.run state cs
      (c :: text, last)

/-- Cuts after each line feed. -/
def physicalLines : List Char → List (List Char)
  | [] => []
  | c :: cs =>
    if c = '\n' then [c] :: physicalLines cs
    else
      match physicalLines cs with
      | [] => [[c]]
      | line :: rest => (c :: line) :: rest

/-- Drops the line feed, and a carriage return before it. -/
def dropLineEnd (line : List Char) : List Char :=
  match line.reverse with
  | '\n' :: '\r' :: rest => rest.reverse
  | '\n' :: rest => rest.reverse
  | _ => line

/-- Joins physical lines while a quote or an escape is open; `none` for one left open at the end. -/
def logicalLines (open' : List Char) (state : Ending) : List (List Char) → List (Option (List Char))
  | [] => if state = .complete then [] else [none]
  | line :: rest =>
    let buffer := open' ++ line
    if (buffer.dropWhile Text.isBlank).head? = some '#' then
      some [] :: logicalLines [] .complete rest
    else
      match state.run line with
      | (text, none) => some (open' ++ text) :: logicalLines [] .complete rest
      | (_, some .complete) => some (dropLineEnd buffer) :: logicalLines [] .complete rest
      | (_, some state) => logicalLines buffer state rest

/-! ## Values -/

/-- How a reference is being read. -/
inductive Reference
  | none | bare | braced
  deriving DecidableEq

/-- The state of a value reader. -/
structure Reader where
  output : List Char
  strong : Bool
  weak : Bool
  escaped : Bool
  ended : Bool
  reference : Reference
  name : List Char

def Reader.start : Reader := ⟨[], false, false, false, false, .none, []⟩

/-- The value a name refers to: the environment first, then the file. -/
def resolve (env seen : Environment) (name : List Char) : List Char :=
  let name := String.ofList name
  (((env.get? name).or (seen.get? name)).getD "").toList

/-- Ends the reference being read. -/
def Reader.substitute (r : Reader) (env seen : Environment) : Reader :=
  { r with output := r.output ++ resolve env seen r.name, name := [] }

def Reader.push (r : Reader) (c : Char) : Reader := { r with output := r.output ++ [c] }

/-- Reads one character; `none` if it does not fit. -/
def Reader.next (env seen : Environment) (r : Reader) (c : Char) : Option Reader :=
  if r.ended then if c = ' ' ∨ c = '\t' then some r else none
  else if r.escaped then
    if c = '\\' ∨ c = '\'' ∨ c = '"' ∨ c = '$' ∨ c = ' ' then
      some { r.push c with escaped := false }
    else if c = 'n' then some { r.push '\n' with escaped := false }
    else none
  else if r.strong then some (if c = '\'' then { r with strong := false } else r.push c)
  else
    match r.reference with
    | .bare =>
      if Text.isAlphanumeric c then some { r with name := r.name ++ [c] }
      else if c = '\x7b' ∧ r.name.isEmpty then some { r with reference := .braced }
      else if c = '$' then some (r.substitute env seen)
      else some { (r.substitute env seen).push c with reference := .none }
    | .braced =>
      if Text.isAlphanumeric c then some { r with name := r.name ++ [c] }
      else if c = '\x7d' then some { r.substitute env seen with reference := .none }
      else some { r with name := r.name ++ [c] }
    | .none =>
      some <|
        if c = '$' then { r with reference := .bare }
        else if r.weak then
          if c = '"' then { r with weak := false }
          else if c = '\\' then { r with escaped := true }
          else r.push c
        else if c = '\'' then { r with strong := true }
        else if c = '"' then { r with weak := true }
        else if c = '\\' then { r with escaped := true }
        else if c = ' ' ∨ c = '\t' then { r with ended := true }
        else r.push c

/-- Reads a value; a comment may follow it after a blank. -/
def Reader.run (env seen : Environment) (r : Reader) : List Char → Option (List Char)
  | [] =>
    if r.reference = .braced ∨ r.strong ∨ r.weak then none
    else some (r.substitute env seen).output
  | c :: cs =>
    if r.ended ∧ c = '#' then Reader.run env seen r []
    else (r.next env seen c).bind fun r => Reader.run env seen r cs

/-! ## Entries -/

def skipBlanks (cs : List Char) : List Char := cs.dropWhile Text.isBlank

/-- A key at the front. -/
def key? (cs : List Char) : Option (List Char × List Char) :=
  match cs with
  | [] => none
  | c :: _ =>
    if c.isAlpha ∨ c = '_' then
      let isKeyChar (c : Char) : Bool := c.isAlphanum || c == '_' || c == '.'
      some (cs.takeWhile isKeyChar, cs.dropWhile isKeyChar)
    else none

/-- What a line holds. -/
inductive Line
  | empty
  | entry (key value : String)
  | bad

/-- The key of a line and what follows its equals sign; `export` may precede the key. -/
def head? (cs : List Char) : Option (List Char × List Char) := do
  let (key, rest) ← key? cs
  match skipBlanks rest with
  | '=' :: rest => return (key, rest)
  | rest =>
    if key ≠ "export".toList then none
    let (key, rest) ← key? rest
    match skipBlanks rest with
    | '=' :: rest => return (key, rest)
    | _ => none

/-- Reads a line. -/
def Line.parse (env seen : Environment) (line : List Char) : Line :=
  let cs := skipBlanks (line.reverse.dropWhile Text.isBlank).reverse
  if cs.isEmpty ∨ cs.head? = some '#' then .empty
  else
    match head? cs with
    | none => .bad
    | some (key, rest) =>
      let rest := skipBlanks rest
      if rest.isEmpty ∨ rest.head? = some '#' then .entry (String.ofList key) ""
      else
        match Reader.start.run env seen rest with
        | none => .bad
        | some value => .entry (String.ofList key) (String.ofList value)

/-- Sets the variables of lines that are not set yet, up to the first bad line. -/
def loadLines (env seen : Environment) : List (Option (List Char)) → Environment
  | [] => env
  | none :: _ => env
  | some line :: rest =>
    match Line.parse env seen line with
    | .empty => loadLines env seen rest
    | .bad => env
    | .entry key value =>
      let env := if (env.get? key).isSome then env else env.set key value
      loadLines env (seen.set key value) rest

/-- Loads a file into an environment. -/
def load (env : Environment) (text : String) : Environment :=
  let cs := match text.toList with
    | '\uFEFF' :: cs => cs
    | cs => cs
  loadLines env [] (logicalLines [] .complete (physicalLines cs))

end HttpService.EnvFile
