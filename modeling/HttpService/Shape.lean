import HttpService.Tag
import HttpService.Text.Split
import HttpService.Text.Blank

/-!
# Shapes of requests and responses

A shape describes the structure of a type. Structs are named through a family, so that shapes may
refer to each other in any way, themselves included.
-/

set_option autoImplicit false

namespace HttpService

/-- The documented width of a number. -/
inductive Width
  | w32 | w64
  deriving DecidableEq, Repr, Inhabited

/-- The position of a struct in its family. -/
abbrev StructId := Nat

/-- The structure of a type. -/
inductive Shape
  | string
  | integer (width : Width) (signed : Bool)
  | number (width : Width)
  | boolean
  | array (elem : Shape)
  | map (value : Shape)
  | struct (id : StructId)
  /-- Unit variants, written as one of the names. -/
  | enum (variants : List String)
  | optional (inner : Shape)
  | any
  | bytes
  /-- The routing marker: never bound, never documented. -/
  | marker
  deriving DecidableEq, Repr, Inhabited

namespace Shape

/-- The documented format of an integer. -/
def integerFormat : Width → String
  | .w32 => "int32"
  | .w64 => "int64"

/-- The documented format of a number with a fraction. -/
def numberFormat : Width → String
  | .w32 => "float"
  | .w64 => "double"

/-- Strips every optional layer. -/
def unwrap : Shape → Shape
  | .optional inner => inner.unwrap
  | s => s

/-- The struct of the shape, through optional layers. -/
def struct? (s : Shape) : Option StructId :=
  match s.unwrap with
  | .struct id => some id
  | _ => none

end Shape

/-- A named field of a struct. -/
structure Field where
  name : String
  /-- The name under which values are stored and serialised. -/
  key : String
  /-- Items `key:"value"`. -/
  tag : String
  doc : String
  skip : Bool
  shape : Shape
  deriving DecidableEq, Repr, Inhabited

/-- A struct: its name and its fields in order. -/
structure Struct where
  name : String
  fields : List Field
  deriving DecidableEq, Repr, Inhabited

/-- Structs that may refer to each other by position. -/
structure Family where
  structs : List Struct
  deriving Repr, Inhabited

/-- The struct at a position; positions outside the family hold an empty struct. -/
def Family.get (F : Family) (id : StructId) : Struct :=
  F.structs.getD id default

namespace Field

/-- The value of a tag key. -/
def tagged? (f : Field) (key : String) : Option String :=
  Tag.lookup f.tag key

/-- The name part of a tag value, what follows a comma left out; an empty name is none. -/
def taggedName? (f : Field) (key : String) : Option String :=
  ((f.tagged? key).map (Text.before · ',')).filter (· ≠ "")

/-- A tagged name, hidden by `-`, or a fallback. -/
def visibleName? (f : Field) (key : String) (fallback : Option String) : Option String :=
  match f.taggedName? key with
  | some name => if name = "-" then none else some name
  | none => fallback

/-- The name in JSON bodies. -/
def jsonName? (f : Field) : Option String :=
  f.visibleName? "json" (some f.key)

/-- The name in query texts and form bodies. -/
def formName? (f : Field) : Option String :=
  f.visibleName? "form" f.jsonName?

/-- The path parameter the field is bound from. -/
def uriName? (f : Field) : Option String :=
  f.visibleName? "uri" none

/-- Whether the path is the only source the field names. -/
def isPathOnly (f : Field) : Bool :=
  f.uriName?.isSome && (f.taggedName? "json").isNone && (f.taggedName? "form").isNone

/-- The text of the validation rules. -/
def binding? (f : Field) : Option String :=
  (f.tagged? "binding").filter (· ≠ "")

/-- The validation rules, trimmed. -/
def rules (f : Field) : List String :=
  match f.binding? with
  | none => []
  | some b => (Text.splitOn b ',').map Text.trim

/-- Whether `required` is among the rules. -/
def isRequired (f : Field) : Bool :=
  f.rules.contains "required"

/-- The tagged description, or the documentation text. -/
def description? (f : Field) : Option String :=
  match (f.tagged? "dc").filter (· ≠ "") with
  | some d => some d
  | none => if f.doc = "" then none else some f.doc

/-- Whether the field takes part in binding and documentation. -/
def isData (f : Field) : Bool :=
  !f.skip && f.shape != .marker

end Field

namespace Struct

/-- The field that carries the route. -/
def marker? (s : Struct) : Option Field :=
  s.fields.find? (·.shape = .marker)

/-- The fields that take part in binding and documentation. -/
def dataFields (s : Struct) : List Field :=
  s.fields.filter Field.isData

end Struct

/-- The routing metadata of a shape: the items of its struct's marker. -/
def Family.metadata (F : Family) (s : Shape) : Assoc String :=
  match s.struct? with
  | none => []
  | some id =>
    match (F.get id).marker? with
    | none => []
    | some f => Tag.toMap f.tag

/-- The last path segment of a type name, type arguments left out. -/
def shortTypeName (name : String) : String :=
  String.ofList (segment (name.toList.takeWhile (· ≠ '<')).reverse).reverse
where
  /-- What stands before the first `::`. -/
  segment : List Char → List Char
    | ':' :: ':' :: _ => []
    | c :: rest => c :: segment rest
    | [] => []

end HttpService
