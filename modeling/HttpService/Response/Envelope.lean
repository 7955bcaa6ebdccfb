import HttpService.Code
import HttpService.Json.Printer

/-!
# The response envelope

Every JSON response is an object of a code, a message and the data, in this order.
-/

set_option autoImplicit false

namespace HttpService

/-- What a JSON response holds. -/
structure Envelope where
  code : Int
  message : String
  data : Json
  deriving Inhabited

namespace Envelope

/-- The envelope of a result. -/
def success (data : Json) : Envelope := ⟨Code.ok.value, Code.ok.message, data⟩

/-- The envelope of a failure: it holds no data. -/
def failure (code : Code) (message : String) : Envelope := ⟨code.value, message, .null⟩

/-- The members in writing order. -/
def json (e : Envelope) : Json :=
  .obj [("code", .int e.code), ("message", .str e.message), ("data", e.data)]

/-- The written form. -/
def encode (e : Envelope) : Bytes := Text.encode e.json.print

end Envelope

/-- The content types of responses. -/
def ContentType.json : String := "application/json"

def ContentType.text : String := "text/plain; charset=utf-8"

def ContentType.binary : String := "application/octet-stream"

def ContentType.html : String := "text/html; charset=utf-8"

def ContentType.exposition : String := "text/plain; version=0.0.4; charset=utf-8"

end HttpService
