import HttpService.Route.Pattern

/-!
# Matching paths

A matcher holds patterns that do not compete: wherever two of them differ, a path decides by its next
characters. At each character a literal is tried first, then a parameter, then the rest of the path, and
a choice that leads nowhere is taken back.
-/

set_option autoImplicit false

namespace HttpService

/-- Accepted patterns, oldest first, each with what it leads to. -/
abbrev Matcher (α : Type) := List (Pattern × α)

/-- Parameter names and values in the order of the path. -/
abbrev PathParameters := List (String × String)

namespace Matcher

variable {α β : Type}

/-- What is left of the patterns whose next step satisfies `p`, after that step. -/
def follow (p : PatternStep → Bool) (rows : List (Pattern × β)) : List (Pattern × β) :=
  rows.filterMap fun (left, b) =>
    match left with
    | step :: steps => if p step then some (steps, b) else none
    | [] => none

def isParameter (step : PatternStep) : Bool :=
  step.isWild && !step.isRest

/-! ## Conflicts -/

/-- The steps read so far, newest first, and the one that was first to reach the highest count. -/
def countStep (seen : List PatternStep × Option PatternStep) (step : PatternStep) :
    List PatternStep × Option PatternStep :=
  let best := (seen.2.map fun b => seen.1.count b).getD 0
  (step :: seen.1, if seen.1.count step + 1 > best then some step else seen.2)

/-- The next step that most patterns share, first come first; a wild one only if there is no other. -/
def favourite (rows : List (Pattern × β)) : Option PatternStep :=
  let heads := rows.filterMap (·.1.head?)
  match (heads.filter (!·.isWild)).foldl countStep ([], none) with
  | (_, some step) => some step
  | (_, none) => heads.head?

/-- The pattern reached by always following the favourite step, `depth` steps at most. -/
def leading : Nat → List (Pattern × Pattern) → Option Pattern
  | 0, rows => rows.head?.map (·.2)
  | depth + 1, rows =>
    match favourite rows with
    | none => rows.head?.map (·.2)
    | some step => leading depth (follow (fun s => s = step || (s.isWild && step.isWild)) rows)

/-- As many steps as the longest pattern has left. -/
def depth (rows : List (Pattern × Pattern)) : Nat :=
  (rows.map (·.1.length)).foldl max 0

/-- The accepted pattern that a new one competes with. Equal steps compete, whatever their names; a
rest competes with every other wild step at its place. -/
def conflict? (rows : List (Pattern × Pattern)) : Pattern → Option Pattern
  | [] => (rows.find? (·.1.isEmpty)).map (·.2)
  | .literal c :: steps => conflict? (follow (· = .literal c) rows) steps
  | .parameter _ :: steps =>
    let rests := follow PatternStep.isRest rows
    match leading (depth rests) rests with
    | some other => some other
    | none => conflict? (follow isParameter rows) steps
  | .rest _ :: _ =>
    let wild := follow PatternStep.isWild rows
    leading (depth wild) wild

/-- Accepts a pattern, or says why not. -/
def insert (m : Matcher α) (pattern : Pattern) (a : α) : Except PatternFault (Matcher α) :=
  match conflict? (m.map fun (p, _) => (p, p)) pattern with
  | some other => .error (.conflict other)
  | none => if pattern.restInside then .error .restNotLast else .ok (m ++ [(pattern, a)])

/-! ## Search -/

/-- The pattern that the path leads to, and what its wild steps take after `taken`. -/
def search (rows : List (Pattern × β)) (taken : List (List Char)) (path : List Char) :
    Option (β × List (List Char)) :=
  if rows.isEmpty then none
  else
    match path with
    | [] => (rows.find? (·.1.isEmpty)).map fun (_, b) => (b, taken)
    | c :: cs =>
      match search (follow (· = .literal c) rows) taken cs with
      | some found => some found
      | none =>
        let segment := cs.takeWhile (· ≠ '/')
        let viaParameter :=
          if c = '/' then none
          else search (follow isParameter rows) (taken ++ [c :: segment]) (cs.drop segment.length)
        match viaParameter with
        | some found => some found
        | none => (follow PatternStep.isRest rows).head?.map fun (_, b) => (b, taken ++ [c :: cs])
termination_by path.length
decreasing_by
  · simp
  · simp only [List.length_drop, List.length_cons]; omega

/-- The names of the wild steps of a pattern. -/
def names (pattern : Pattern) : List String :=
  pattern.filterMap fun step =>
    match step with
    | .literal _ => none
    | .parameter name | .rest name => some (String.ofList name)

/-- What a path leads to, with the parameters that the pattern names. -/
def find? (m : Matcher α) (path : String) : Option (α × PathParameters) :=
  (search (m.map fun (p, a) => (p, (p, a))) [] path.toList).map fun ((p, a), values) =>
    (a, (names p).zip (values.map String.ofList))

end Matcher

end HttpService
