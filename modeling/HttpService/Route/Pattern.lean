import HttpService.Route.Path

/-!
# Route patterns

A pattern is read from the form that `Path.pattern` writes: `{name}` takes one segment, `{*name}` the
rest of the path, and a doubled brace is a brace. The whole pattern is checked before it is compared
with others.
-/

set_option autoImplicit false

namespace HttpService

/-- One step of a pattern. -/
inductive PatternStep
  | literal (c : Char)
  /-- One segment, not empty. -/
  | parameter (name : List Char)
  /-- All that is left of the path, not empty. -/
  | rest (name : List Char)
  deriving DecidableEq, Repr

/-- A pattern as its steps. -/
abbrev Pattern := List PatternStep

/-- Why a pattern is not accepted. -/
inductive PatternFault
  | invalidName
  | severalInSegment
  | restNotLast
  /-- It cannot stand beside a pattern accepted before. -/
  | conflict (other : Pattern)
  deriving DecidableEq, Repr

namespace PatternStep

/-- A step with single braces around a name. -/
def text : PatternStep → List Char
  | literal c => [c]
  | parameter name => '\x7b' :: name ++ ['\x7d']
  | rest name => '\x7b' :: '*' :: name ++ ['\x7d']

/-- Whether the step takes whatever stands in the path. -/
def isWild : PatternStep → Bool
  | literal _ => false
  | _ => true

def isRest : PatternStep → Bool
  | rest _ => true
  | _ => false

end PatternStep

namespace Pattern

/-- A pattern without the doubling of braces. -/
def text (p : Pattern) : String :=
  String.ofList (p.flatMap PatternStep.text)

/-- A character of a pattern, and whether it is a brace that was doubled. -/
abbrev Mark := Char × Bool

/-- Reads doubled braces from the front, as many as there are. -/
def unescape : List Char → List Mark
  | '\x7b' :: '\x7b' :: cs => ('\x7b', true) :: unescape cs
  | '\x7d' :: '\x7d' :: cs => ('\x7d', true) :: unescape cs
  | c :: cs => (c, false) :: unescape cs
  | [] => []

/-- The rest of a name up to its closing brace; neither a star nor a slash may stand in it. -/
def readName : List Mark → Except PatternFault (List Char × List Mark)
  | [] => .error .invalidName
  | ('\x7d', false) :: ms => .ok ([], ms)
  | (c, _) :: ms =>
    if c = '*' ∨ c = '/' then .error .invalidName
    else (readName ms).map fun (name, after) => (c :: name, after)

/-- What stands after an opening brace; the first character may be any but a closing brace. -/
def readWild : List Mark → Except PatternFault (PatternStep × List Mark)
  | [] => .error .invalidName
  | (c, _) :: ms =>
    if c = '\x7d' then .error .invalidName
    else do
      let (name, after) ← readName ms
      if c = '*' ∧ name.isEmpty then throw .invalidName
      match after with
      | [] => pure ()
      | (d, _) :: _ => if d ≠ '/' then throw .severalInSegment
      return (if c = '*' then .rest name else .parameter (c :: name), after)

theorem readName_length {ms after : List Mark} {name : List Char}
    (h : readName ms = .ok (name, after)) : after.length < ms.length := by
  induction ms generalizing name after with
  | nil => simp [readName] at h
  | cons m ms ih =>
    unfold readName at h
    split at h
    · cases h
    · cases h; simp_all
    · rename_i _ c b ms' _ heq
      obtain ⟨_, rfl⟩ := List.cons.inj heq
      split at h
      · cases h
      · match hr : readName ms with
        | .error _ => rw [hr] at h; cases h
        | .ok (n, a) =>
          rw [hr] at h
          cases h
          have := ih hr
          simp only [List.length_cons]
          omega

theorem readWild_length {ms after : List Mark} {step : PatternStep}
    (h : readWild ms = .ok (step, after)) : after.length < ms.length := by
  unfold readWild at h
  split at h
  · cases h
  · rename_i c b ms'
    split at h
    · cases h
    · match hr : readName ms' with
      | .error _ => rw [hr] at h; cases h
      | .ok (n, a) =>
        have hl := readName_length hr
        rw [hr] at h
        simp only [bind, Except.bind, pure, Except.pure, throw, throwThe, MonadExceptOf.throw] at h
        simp only [List.length_cons]
        split at h
        · cases h
        · split at h
          · cases h; omega
          · split at h
            · cases h
            · cases h; omega

/-- The steps of a pattern; a closing brace needs an opening one. -/
def readSteps (ms : List Mark) : Except PatternFault Pattern :=
  match ms with
  | [] => .ok []
  | ('\x7d', false) :: _ => .error .invalidName
  | ('\x7b', false) :: rest =>
    match h : readWild rest with
    | .error e => .error e
    | .ok (step, after) =>
      have := readWild_length h
      (readSteps after).map (step :: ·)
  | (c, _) :: rest => (readSteps rest).map (.literal c :: ·)
termination_by ms.length

/-- Reads a pattern. -/
def parse (s : String) : Except PatternFault Pattern :=
  readSteps (unescape s.toList)

/-- Whether the rest of the path is taken before the end of the pattern. -/
def restInside : Pattern → Bool
  | [] => false
  | step :: steps => (step.isRest && !steps.isEmpty) || restInside steps

end Pattern

namespace PatternFault

def message : PatternFault → String
  | invalidName => "Parameters must be registered with a valid name"
  | severalInSegment => "Only one parameter is allowed per path segment"
  | restNotLast => "Catch-all parameters are only allowed at the end of a route"
  | conflict other =>
    "Insertion failed due to conflict with previously registered route: " ++ other.text

end PatternFault

end HttpService
