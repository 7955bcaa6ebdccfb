import HttpService.Event
import HttpService.Failure
import HttpService.Settings.Environment

/-!
# Log settings

The format and the level of the log, read from two variables.
-/

set_option autoImplicit false

namespace HttpService

/-- Reads a level: its name in any case, or its number from 1. -/
def Level.parse? (text : String) : Option Level :=
  match Decimal.unsigned? 64 text with
  | some (n + 1) => Level.all[n]?
  | some 0 => none
  | none =>
    let name := String.ofList (text.toList.map Char.toUpper)
    Level.all.find? (·.name = name)

/-- How log lines are written. -/
structure LogSettings where
  json : Bool
  level : Level
  target : Bool
  file : Bool
  line : Bool
  deriving DecidableEq, Repr

namespace LogSettings

def levelVariable : String := "MALTOSE_LOG_LEVEL"

def formatVariable : String := "MALTOSE_LOG_FORMAT"

/-- Plain lines with their target, from `INFO` on. -/
def default : LogSettings := ⟨false, .info, true, false, false⟩

/-- Reads the level, then the format. -/
def ofEnvironment (env : Environment) : Except ConfigError LogSettings := do
  let level := (env.get? levelVariable).getD "info"
  let format := (env.get? formatVariable).getD "text"
  match Level.parse? (Text.trim level) with
  | none => throw (.invalid levelVariable level)
  | some l =>
    let name := String.ofList ((Text.trim format).toList.map Char.toLower)
    if name = "json" then return { default with json := true, level := l }
    else if name = "text" ∨ name = "" then return { default with level := l }
    else throw (.invalid formatVariable format)

/-- The settings in words. -/
def describe (s : LogSettings) : String :=
  let level := match s.level with
    | .error => "Error"
    | .warn => "Warn"
    | .info => "Info"
    | .debug => "Debug"
    | .trace => "Trace"
  "TracingConfig \x7b json: " ++ toString s.json ++ ", level: Level(" ++ level ++
    "), with_target: " ++ toString s.target ++ ", with_file: " ++ toString s.file ++
    ", with_line_number: " ++ toString s.line ++ " \x7d"

/-- A log that is already being written cannot be replaced. -/
def alreadyInstalled : Failure :=
  .wrap [.foreign "a global default trace dispatcher has already been set"]
    "installing tracing subscriber"

end LogSettings

end HttpService
