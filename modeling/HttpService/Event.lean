/-!
# Log events

What the service writes to its log at the levels that matter to an operator.
-/

set_option autoImplicit false

namespace HttpService

/-- Levels of the log, most urgent first. -/
inductive Level
  | error | warn | info | debug | trace
  deriving DecidableEq, Repr, Inhabited

/-- A log event: a message and named texts. -/
structure Event where
  level : Level
  message : String
  fields : List (String × String)
  deriving DecidableEq, Repr, Inhabited

/-- A warning. -/
def Event.warning (message : String) (fields : List (String × String)) : Event :=
  ⟨.warn, message, fields⟩

namespace Level

/-- The name of a level in capitals. -/
def name : Level → String
  | .error => "ERROR"
  | .warn => "WARN"
  | .info => "INFO"
  | .debug => "DEBUG"
  | .trace => "TRACE"

def all : List Level := [.error, .warn, .info, .debug, .trace]

end Level

end HttpService
