import HttpService.Decimal.Read
import HttpService.Failure
import HttpService.Json.Parser
import HttpService.Shape
import HttpService.Text.Blank

/-!
# Values of texts

A path parameter, a query value or a form value is bytes; the shape of its field says which JSON value
it stands for. Numbers and booleans are read from the trimmed text, and an empty one is zero. Structs
and maps are written as JSON.
-/

set_option autoImplicit false

namespace HttpService.Binding

/-- The boolean of a word; the empty word is false. -/
def boolean? (text : String) : Option Bool :=
  if ["", "0", "f", "F", "false", "FALSE", "False", "off"].contains text then some false
  else if ["1", "t", "T", "true", "TRUE", "True", "on"].contains text then some true
  else none

/-- The integer of a text, 64 bits wide whatever the documented width. -/
def integer? (signed : Bool) (text : String) : Option Json :=
  if text = "" then some (.nat 0)
  else if signed then (Decimal.signed? 64 text).map .int
  else (Decimal.unsigned? 64 text).map .nat

/-- The finite double of a text. -/
def number? (text : String) : Option Json :=
  if text = "" then some (.float 0.0)
  else ((Decimal.float? text).filter (·.isFinite)).map .float

/-- The JSON value of a text. -/
def json? (text : String) : Option Json :=
  (Json.parse (Text.encode text)).toOption

/-- The value of a raw text, none if it does not fit the shape. -/
def value? (raw : Bytes) : Shape → Option Json
  | .optional inner => value? raw inner
  | .bytes => some (.arr (raw.map fun b => .nat b.toNat))
  | .integer _ signed => integer? signed text
  | .number _ => number? text
  | .boolean => (boolean? text).map .bool
  | .array elem => (value? raw elem).map fun v => .arr [v]
  | .struct _ => json? text
  | .map _ => json? text
  | _ => some (.str (Text.decodeLossy raw))
where
  text : String := Text.trim (Text.decodeLossy raw)

/-- The value that a source gives the field `name`. -/
def coerce (name : String) (s : Shape) (raw : Bytes) : Except Failure Json :=
  match value? raw s with
  | some v => .ok v
  | none =>
    .error (.invalid ("invalid value for " ++ name ++ ": " ++ Text.trim (Text.decodeLossy raw)))

end HttpService.Binding
