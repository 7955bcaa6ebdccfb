import HttpService.Decimal.Read
import HttpService.Text.Blank

/-!
# Environment variables

Variables in the order in which they were set. A variable set again keeps its place.
-/

set_option autoImplicit false

namespace HttpService

/-- Environment variables in the order in which they were set. -/
abbrev Environment := List (String × String)

namespace Environment

/-- The value of a variable. -/
def get? (env : Environment) (key : String) : Option String :=
  (env.find? (·.1 = key)).map (·.2)

/-- Sets a variable. -/
def set (env : Environment) (key value : String) : Environment :=
  if (get? env key).isSome then env.map fun p => if p.1 = key then (key, value) else p
  else env ++ [(key, value)]

def ofList (pairs : List (String × String)) : Environment :=
  pairs.foldl (fun env (k, v) => set env k v) []

end Environment

/-- What a configuration lacks or cannot use. -/
inductive ConfigError
  | missing (key : String)
  | missingMultiple (keys : List String)
  | invalid (key value : String)
  deriving DecidableEq, Repr

/-- The wording of a configuration error. -/
def ConfigError.message : ConfigError → String
  | .missing key => "Missing required configuration '" ++ key ++ "'"
  | .missingMultiple keys =>
    "Missing required configuration:\n" ++ String.join (keys.map ("  - " ++ · ++ "\n"))
  | .invalid key value => "Invalid value '" ++ value ++ "' for configuration '" ++ key ++ "'"

namespace Environment

/-- The value of a required variable. -/
def require (env : Environment) (key : String) : Except ConfigError String :=
  match get? env key with
  | some v => .ok v
  | none => .error (.missing key)

/-- The value of a required variable, read by `read`. -/
def requireAs {α : Type} (read : String → Option α) (env : Environment) (key : String) :
    Except ConfigError α := do
  let value ← require env key
  match read value with
  | some x => return x
  | none => throw (.invalid key value)

/-- The value of a variable read by `read`, or a default. -/
def getAs {α : Type} (read : String → Option α) (env : Environment) (key : String) (default : α) :
    α :=
  ((get? env key).bind read).getD default

/-- What a variable may be read as; the answer is the written form of the value read. -/
inductive Kind
  | natural (bits : Nat)
  | integer (bits : Nat)
  | boolean
  | text

/-- Reads a text as a kind of value and writes the value. -/
def Kind.read : Kind → String → Option String
  | .natural bits, s => (Decimal.unsigned? bits s).map toString
  | .integer bits, s => (Decimal.signed? bits s).map toString
  | .boolean, s => if s = "true" ∨ s = "false" then some s else none
  | .text, s => some s

end Environment

end HttpService
