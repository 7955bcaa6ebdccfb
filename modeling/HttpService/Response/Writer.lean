import HttpService.Code
import HttpService.Event
import HttpService.Http.Headers
import HttpService.Text.Utf8

/-!
# The response writer

The response of one exchange while it is made. The body is written once: later writes and later changes
of the status are ignored with a warning. Headers may be set at any time.
-/

set_option autoImplicit false

namespace HttpService

/-- A status with its reason. -/
def Status.display (s : Status) : String :=
  toString s ++ " " ++ s.reason?.getD "<unknown status code>"

/-- A response as far as it is known. -/
structure Writer where
  status : Option Status
  headers : Headers
  body : Option Bytes
  deriving DecidableEq, Repr, Inhabited

namespace Writer

def empty : Writer := ⟨none, [], none⟩

/-- Whether a body was written. -/
def isWritten (w : Writer) : Bool := w.body.isSome

/-- The status that will be sent: the one set, or 200. -/
def sentStatus (w : Writer) : Status := w.status.getD 200

/-- The number of bytes in the body. -/
def length (w : Writer) : Nat := (w.body.map List.length).getD 0

/-- Sets the status, unless a body was written. -/
def setStatus (w : Writer) (s : Status) : Writer × List Event :=
  if w.isWritten then
    (w, [.warning "status change after response was written ignored" [("status", s.display)]])
  else ({ w with status := some s }, [])

/-- Replaces the values of a header. -/
def insertHeader (w : Writer) (name value : String) : Writer :=
  { w with headers := w.headers.insert name value }

/-- Sets a header if its value has no control characters but tabs. -/
def insertText (w : Writer) (name value : String) : Writer :=
  if value.toList.all fun c => (' ' ≤ c && c.toNat ≠ 0x7F) || c == '\t' then
    w.insertHeader name value
  else w

/-- Writes status, content type and body, unless a body was written. -/
def write (w : Writer) (s : Status) (contentType : String) (body : Bytes) : Writer × List Event :=
  if w.isWritten then
    (w, [.warning "response already written, write ignored" [("status", s.display)]])
  else ({ w.insertText "content-type" contentType with status := some s, body := some body }, [])

/-- How logs show a writer. -/
def describe (w : Writer) : String :=
  let option (n : Option Nat) : String := match n with
    | some n => "Some(" ++ toString n ++ ")"
    | none => "None"
  "ResponseWriter \x7b status: " ++ option w.status ++ ", written: " ++
    option (w.body.map List.length) ++ " \x7d"

end Writer

end HttpService
