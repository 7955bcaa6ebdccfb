import HttpService.Code
import HttpService.Json.Basic

/-!
# Failures and their causes

A failure is what a handler or a middleware reports. It stands at the head of a chain of causes,
each either another failure or a foreign error that only shows a text. The business code of a chain
is the first one found along it.
-/

set_option autoImplicit false

namespace HttpService

/-- What a failure carries apart from its causes. -/
structure Report where
  code : Option Code
  message : String
  detail : Option Json
  /-- The HTTP status asked for. -/
  status : Option Status
  deriving Inhabited

/-- One link of a chain of causes. -/
inductive Cause
  | report (r : Report)
  | foreign (message : String)
  deriving Inhabited

namespace Cause

/-- The code a link carries itself. -/
def ownCode? : Cause → Option Code
  | .report r => r.code
  | .foreign _ => none

/-- The business code of a chain; no error at all is a success. -/
def codeOf : List Cause → Code
  | [] => .ok
  | chain => (chain.findSome? ownCode?).getD .internalError

/-- The text of a chain: a report puts its message before the text of its cause, an empty message is
left out, and a foreign error ends the text. -/
def display : List Cause → String
  | [] => ""
  | .foreign message :: _ => message
  | [.report r] => r.message
  | .report r :: rest => if r.message = "" then display rest else r.message ++ ": " ++ display rest

end Cause

/-- A failure: its own report and the chain of its causes. -/
structure Failure where
  report : Report
  causes : List Cause
  deriving Inhabited

namespace Failure

/-- The chain that starts with the failure itself. -/
def chain (f : Failure) : List Cause := .report f.report :: f.causes

/-- A failure with a code. -/
def new (code : Code) (message : String) : Failure := ⟨⟨some code, message, none, none⟩, []⟩

/-- A failure without a code. -/
def plain (message : String) : Failure := ⟨⟨none, message, none, none⟩, []⟩

/-- Puts a message before a cause and keeps the code of the cause. -/
def wrap (causes : List Cause) (message : String) : Failure := ⟨⟨none, message, none, none⟩, causes⟩

/-- Puts a code and a message before a cause. -/
def wrapCode (code : Code) (causes : List Cause) (message : String) : Failure :=
  ⟨⟨some code, message, none, none⟩, causes⟩

def withDetail (f : Failure) (detail : Json) : Failure :=
  { f with report.detail := some detail }

def withStatus (f : Failure) (status : Status) : Failure :=
  { f with report.status := some status }

/-- The failure's own code, else the first along its causes, else the internal error. -/
def code (f : Failure) : Code :=
  match f.report.code, f.causes with
  | some c, _ => c
  | none, [] => .internalError
  | none, causes => Cause.codeOf causes

/-- The text of the failure and its causes. -/
def display (f : Failure) : String := Cause.display f.chain

/-- A refused request: an invalid parameter, answered as a bad request. -/
def invalid (message : String) : Failure :=
  (new .invalidParameter message).withStatus 400

end Failure

end HttpService
