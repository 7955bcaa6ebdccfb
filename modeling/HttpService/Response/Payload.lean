import HttpService.Datatype.Basic
import HttpService.Failure
import HttpService.Json.Basic
import HttpService.Text.Utf8

/-!
# Payloads

What a handler returns, ready to be written: a text, bytes, or a JSON value for the envelope.
-/

set_option autoImplicit false

namespace HttpService

/-- A handler's result. -/
inductive Payload
  | text (value : String)
  | binary (value : Bytes)
  | json (value : Json)
  deriving Inhabited

namespace Payload

/-- Texts and bytes of these types are sent as they are. -/
def raw? : Datatype → Json → Option Payload
  | .optional inner, v => if v.isNull then none else raw? inner v
  | .text, .str s => some (.text s)
  | .bytes, .str s => some (.binary (Text.encode s))
  | .bytes, .arr items =>
    some (.binary (items.map fun v => UInt8.ofNat ((v.int?.map Int.toNat).getD 0)))
  | _, _ => none

/-- The payload of a value of a type. -/
def ofValue (t : Datatype) (v : Json) : Payload :=
  (raw? t v).getD (.json v)

/-- The failure of a value that has no JSON form, such as a map whose keys are no texts. -/
def noText : Failure :=
  .wrap [.foreign "key must be a string"] "encoding response"

end Payload

end HttpService
