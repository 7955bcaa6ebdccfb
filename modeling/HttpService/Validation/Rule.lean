import HttpService.Address.Email
import HttpService.Address.Url
import HttpService.Validation.Message

/-!
# Validation rules

A rule is a name with a parameter after `=`. Unknown rules and unusable parameters are ignored, the
value null only answers to `required`, and a field reports its first failing rule.
-/

set_option autoImplicit false

namespace HttpService.Validation

/-- A rule: its name and its parameter. -/
structure Rule where
  name : String
  param : String
  deriving DecidableEq, Repr

/-- Reads a rule. -/
def Rule.parse (text : String) : Rule :=
  match Text.cut text '=' with
  | some (name, param) => ⟨name, param⟩
  | none => ⟨text, ""⟩

/-- Whether a value says something: not null, not empty, not zero, not false. -/
def hasValue : Json → Bool
  | .null => false
  | .str s => s != ""
  | .num n => n.toFloat != 0.0
  | .bool b => b
  | .arr items => !items.isEmpty
  | .obj _ => true

/-- The number of characters or items, or the number itself. -/
def measure? : Json → Option Float
  | .str s => some (Float.ofNat s.length)
  | .num n => some n.toFloat
  | .arr items => some (Float.ofNat items.length)
  | .obj members => some (Float.ofNat members.length)
  | _ => none

/-- An optional sign, digits, and perhaps a point with digits. -/
def isNumeric (s : String) : Bool :=
  let digits := match s.toList with
    | '+' :: rest => rest
    | '-' :: rest => rest
    | cs => cs
  let allDigits (cs : List Char) : Bool := !cs.isEmpty && cs.all Char.isDigit
  match Text.cutChars '.' digits with
  | some (whole, fraction) => allDigits whole && allDigits fraction
  | none => allDigits digits

/-- Compares the measure of a value with a parameter. -/
def compare? (holds : Float → Float → Bool) (value : Json) (param : String) : Option Bool := do
  let m ← measure? value
  let p ← Decimal.float? param
  return holds m p

/-- Whether a non-empty text consists of characters that `p` accepts. -/
def consistsOf (p : Char → Bool) : Json → Bool
  | .str s => s != "" && s.toList.all p
  | _ => false

/-- Whether a value passes a rule; none for an unknown rule or an unusable parameter. -/
def Rule.check? (r : Rule) (value : Json) : Option Bool :=
  match r.name with
  | "required" => some (hasValue value)
  | "email" => some ((value.text?.map Address.isEmail).getD false)
  | "url" => some ((value.text?.map Address.isUrl).getD false)
  | "numeric" =>
    match value with
    | .num _ => some true
    | .str s => some (isNumeric s)
    | _ => some false
  | "alpha" => some (consistsOf Char.isAlpha value)
  | "alphanum" => some (consistsOf Char.isAlphanum value)
  | "oneof" =>
    match value with
    | .str s => some ((Text.words r.param).contains s)
    | .num n => some ((Text.words r.param).contains n.print)
    | _ => some false
  | "min" | "gte" => compare? (fun m p => m ≥ p) value r.param
  | "max" | "lte" => compare? (fun m p => m ≤ p) value r.param
  | "gt" => compare? (fun m p => m > p) value r.param
  | "lt" => compare? (fun m p => m < p) value r.param
  | "len" => compare? (fun m p => m == p) value r.param
  | _ => none

/-- Whether a value fails a rule that applies to it. -/
def Rule.fails (r : Rule) (value : Json) : Bool :=
  r.name != "" && r.name != "omitempty" && !(value.isNull && r.name != "required") &&
    r.check? value == some false

/-- The first failing rule of a field; a value that says nothing may be left out under `omitempty`. -/
def firstFailure (field : String) (rules : List String) (value : Json) : Option RuleFailure :=
  if !hasValue value && rules.contains "omitempty" then none
  else
    ((rules.map Rule.parse).find? (·.fails value)).map fun r =>
      ⟨field, r.name, r.param, Kind.of value⟩

end HttpService.Validation
