import HttpService.Json.Basic
import HttpService.Shape

/-!
# Zero values

A field that a request does not mention takes the zero value of its shape. Zero structs are filled in
turn down to a fixed depth; below it stands null. Filling never replaces a member, it only adds
members, inside nested objects as well.
-/

set_option autoImplicit false

namespace HttpService.Binding

/-- How deep nested structs are filled and renamed. -/
def maxDepth : Nat := 32

/-- Adds members to an object. -/
abbrev Extension := Assoc Json → Assoc Json

/-- The zero value of a shape; a struct without an extension is null. -/
def zeroWith (inner : StructId → Option Extension) : Shape → Json
  | .string => .str ""
  | .integer .. => .nat 0
  | .number _ => .float 0.0
  | .boolean => .bool false
  | .array _ => .arr []
  | .bytes => .arr []
  | .map _ => .obj []
  | .struct id =>
    match inner id with
    | some extend => .obj (extend [])
    | none => .null
  | .enum variants => (variants.head?.map .str).getD .null
  | .optional _ => .null
  | .any => .null
  | .marker => .null

/-- Gives a field its zero value, or extends the object that stands there. -/
def fillField (inner : StructId → Option Extension) (members : Assoc Json) (f : Field) : Assoc Json :=
  match Assoc.find? f.key members with
  | none => Assoc.insert f.key (zeroWith inner f.shape) members
  | some (.obj nested) =>
    match f.shape.struct?.bind inner with
    | some extend => Assoc.insert f.key (.obj (extend nested)) members
    | none => members
  | some _ => members

/-- Fills the fields in order, skipped ones left out. -/
def fillFields (inner : StructId → Option Extension) (fields : List Field) : Extension :=
  (fields.filter (!·.skip)).foldl (fillField inner)

/-- The extension of a nested struct where `room` levels are left. -/
def extension (F : Family) : Nat → StructId → Option Extension
  | 0, _ => none
  | room + 1, id => some (fillFields (extension F room) (F.get id).fields)

/-- Fills the members of a struct with `room` levels below it. -/
def fill (F : Family) (room : Nat) (st : Struct) : Extension :=
  fillFields (extension F room) st.fields

/-- The zero value of a shape with `room` levels left. -/
def zero (F : Family) (room : Nat) (s : Shape) : Json :=
  zeroWith (extension F room) s

end HttpService.Binding
