import HttpService.Binding.Gather
import HttpService.Datatype.Basic
import HttpService.Text.Quoted
import HttpService.Validation.Struct

/-!
# Decoding values

`Datatype.decode` reads a JSON value as a data type and gives it back in the form in which the type
writes it: numbers in their width, sets in order, absent optional fields as null. Members of an object
are read in key order; missing fields are noticed afterwards, in the order of the record.
-/

set_option autoImplicit false

namespace HttpService

/-- Why a value does not have a type. -/
inductive DecodeError
  /-- A value of another kind. -/
  | invalidType (found : Json) (expected : String)
  /-- A value of the right kind outside the type. -/
  | invalidValue (found : Json) (expected : String)
  | invalidLength (length : Nat) (expected : String)
  | unknownVariant (found : String) (variants : List String)
  | missingField (key : String)
  deriving Inhabited

namespace DecodeError

/-- How a message shows a value that does not fit. -/
def shown : Json → String
  | .null => "null"
  | .bool b => "boolean `" ++ toString b ++ "`"
  | .num (.int i) => "integer `" ++ toString i ++ "`"
  | .num (.float x) => "floating point `" ++ (Number.float x).print ++ "`"
  | .str s => "string " ++ Text.quoted s
  | .arr _ => "sequence"
  | .obj _ => "map"

/-- The names a variant may have. -/
def choice : List String → String
  | [] => "there are no variants"
  | [a] => "expected `" ++ a ++ "`"
  | [a, b] => "expected `" ++ a ++ "` or `" ++ b ++ "`"
  | names => "expected one of " ++ Text.join ", " (names.map fun n => "`" ++ n ++ "`")

/-- The wording of an error. -/
def message : DecodeError → String
  | .invalidType found expected => "invalid type: " ++ shown found ++ ", expected " ++ expected
  | .invalidValue found expected => "invalid value: " ++ shown found ++ ", expected " ++ expected
  | .invalidLength length expected =>
    "invalid length " ++ toString length ++ ", expected " ++ expected
  | .unknownVariant found variants => "unknown variant `" ++ found ++ "`, " ++ choice variants
  | .missingField key => "missing field `" ++ key ++ "`"

end DecodeError

namespace Datatype

/-- The short name of an integer type. -/
def integerName (bits : Nat) (signed : Bool) : String :=
  (if signed then "i" else "u") ++ toString bits

def decodeInteger (bits : Nat) (signed : Bool) (v : Json) : Except DecodeError Json :=
  match v with
  | .num (.int i) =>
    if Decimal.fits bits signed i then .ok v else .error (.invalidValue v (integerName bits signed))
  | _ => .error (.invalidType v (integerName bits signed))

/-- The number in its width; a number beyond a narrow width has no text and is null. -/
def decodeNumber (width : Width) (v : Json) : Except DecodeError Json :=
  match v, width with
  | .num n, .w64 => .ok (.float n.toFloat)
  | .num n, .w32 =>
    let x := n.toFloat32.toFloat
    .ok (if x.isFinite then .float x else .null)
  | _, .w64 => .error (.invalidType v "f64")
  | _, .w32 => .error (.invalidType v "f32")

def decodeChar (v : Json) : Except DecodeError Json :=
  match v with
  | .str s => if s.length = 1 then .ok v else .error (.invalidValue v "a character")
  | _ => .error (.invalidType v "a character")

/-- Bytes are numbers, or the bytes of a text. -/
def decodeBytes (v : Json) : Except DecodeError Json :=
  match v with
  | .str s => .ok (.arr ((Text.encode s).map fun b => .nat b.toNat))
  | .arr items => (items.mapM (decodeInteger 8 false)).map .arr
  | _ => .error (.invalidType v "byte array")

/-- A unit variant is its name, alone or as the only key of an object over null. -/
def decodeVariant (variants : List String) (v : Json) : Except DecodeError Json :=
  match v with
  | .str s => if variants.contains s then .ok v else .error (.unknownVariant s variants)
  | .obj [(s, content)] =>
    if ¬variants.contains s then .error (.unknownVariant s variants)
    else if content.isNull then .ok (.str s)
    else .error (.invalidType content "unit")
  | .obj _ => .error (.invalidValue v "map with a single key")
  | _ => .error (.invalidType v "string or map")

/-- The order of scalar values. -/
def scalarLt : Json → Json → Bool
  | .num (.int i), .num (.int j) => i < j
  | .str s, .str t => s < t
  | .bool a, .bool b => !a && b
  | _, _ => false

/-- Puts a scalar at its place unless it is present. -/
def insertSorted (v : Json) : List Json → List Json
  | [] => [v]
  | w :: rest =>
    if scalarLt v w then v :: w :: rest
    else if scalarLt w v then w :: insertSorted v rest
    else w :: rest

/-- The items in ascending order, each once. -/
def sortedItems (items : List Json) : List Json :=
  items.foldl (fun set v => insertSorted v set) []

/-- What a record expects where a sequence stands for it. -/
def sequenceOf (name : String) (count : Nat) : String :=
  "struct " ++ name ++ " with " ++ toString count ++
    if count = 1 then " element" else " elements"

/-- The value of a field that no member gives. -/
def absent (f : RecordField) : Except DecodeError Json :=
  match f.type with
  | .optional _ => .ok .null
  | _ => .error (.missingField f.key)

/-- Puts together a record from the decoded members. -/
def assemble (fields : List RecordField) (decoded : Assoc Json) : Except DecodeError Json := do
  let members ← fields.mapM fun f =>
    match Assoc.find? f.key decoded with
    | some v => .ok (f.key, v)
    | none => (absent f).map fun v => (f.key, v)
  return .ofPairs members

theorem sizeOf_item_lt {w : Json} {items : List Json} (h : w ∈ items) :
    sizeOf w < sizeOf (Json.arr items) := by
  have := List.sizeOf_lt_of_mem h
  simp
  omega

theorem sizeOf_member_lt {k : String} {w : Json} {members : List (String × Json)}
    (h : (k, w) ∈ members) : sizeOf w < sizeOf (Json.obj members) := by
  have := List.sizeOf_lt_of_mem h
  simp at this ⊢
  omega

/-- Reads a value as a type. -/
def decode (C : Catalogue) (t : Datatype) (v : Json) : Except DecodeError Json :=
  match t with
  | .text =>
    match v with
    | .str _ => .ok v
    | _ => .error (.invalidType v "a string")
  | .char => decodeChar v
  | .boolean =>
    match v with
    | .bool _ => .ok v
    | _ => .error (.invalidType v "a boolean")
  | .integer bits signed => decodeInteger bits signed v
  | .number width => decodeNumber width v
  | .bytes => decodeBytes v
  | .any => .ok v
  | .marker => .ok .null
  | .optional inner => if v.isNull then .ok v else decode C inner v
  | .list elem =>
    match v with
    | .arr items => do
      let decoded ← items.attach.mapM fun ⟨w, _⟩ => decode C elem w
      return .arr decoded
    | _ => .error (.invalidType v "a sequence")
  | .set elem =>
    match v with
    | .arr items => do
      let decoded ← items.attach.mapM fun ⟨w, _⟩ => decode C elem w
      return .arr (sortedItems decoded)
    | _ => .error (.invalidType v "a sequence")
  | .map value =>
    match v with
    | .obj members => do
      let decoded ← members.attach.mapM fun ⟨(k, w), _⟩ => (decode C value w).map fun w => (k, w)
      return .obj decoded
    | _ => .error (.invalidType v "a map")
  | .enum _ variants => decodeVariant variants v
  | .record id =>
    let r := C.get id
    let fields := r.fields.filter (!·.skip)
    match v with
    | .obj members => do
      let decoded ← members.attach.filterMapM fun ⟨(k, w), _⟩ =>
        match fields.find? (·.key = k) with
        | none => .ok none
        | some f => (decode C f.type w).map fun w => some (k, w)
      assemble fields decoded
    | .arr items => do
      let decoded ← (fields.zip items).attach.mapM fun ⟨(f, w), _⟩ =>
        (decode C f.type w).map fun w => (f.key, w)
      if items.length < fields.length then
        .error (.invalidLength items.length (sequenceOf r.name fields.length))
      else if fields.length < items.length then
        .error (.invalidLength items.length "fewer elements in array")
      else return .ofPairs decoded
    | _ => .error (.invalidType v ("struct " ++ r.name))
termination_by (sizeOf v, sizeOf t)
decreasing_by
  · exact Prod.Lex.right _ (by simp)
  · rename_i h
    exact Prod.Lex.left _ _ (sizeOf_item_lt h)
  · rename_i h
    exact Prod.Lex.left _ _ (sizeOf_item_lt h)
  · rename_i h
    exact Prod.Lex.left _ _ (sizeOf_member_lt h)
  · rename_i h
    exact Prod.Lex.left _ _ (sizeOf_member_lt h)
  · rename_i h
    exact Prod.Lex.left _ _ (sizeOf_item_lt (List.of_mem_zip h).2)

end Datatype

end HttpService
