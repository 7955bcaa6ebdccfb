import HttpService.OpenApi.Schema

/-!
# Walking shapes with a stack

A walk makes the schema of a shape and keeps the names of the structs that are being written out on a stack:
`object` puts the name of its struct there before the fields are walked, and takes a name away after them.
Structs may refer to each other in any way; `calls` bounds how many calls may be open inside each other, and
where they are too few there is no result.
-/

set_option autoImplicit false

namespace HttpService.Schema

/-- A computation on the stack of the names that are being written out, innermost first. -/
abbrev Walk := StateT (List String) Option

namespace Walk

/-- The properties of an object so far, and the names of the required ones in order. -/
structure Draft where
  properties : Assoc Json
  required : List String

/-- The object that was drafted. -/
def Draft.schema (d : Draft) : Assoc Json :=
  typed "object" <| Assoc.insert "properties" (.obj d.properties) <|
    if d.required.isEmpty then [] else [("required", .strings d.required)]

/-- Adds a field to a draft, unless it has no name; `walk` makes the schema of its shape. -/
def property (n : Naming) (walk : Shape → Walk (Assoc Json)) (d : Draft) (f : Field) : Walk Draft :=
  match n.name? f with
  | none => pure d
  | some name => do
    let schema ← walk f.shape
    return ⟨Assoc.insert name (.obj (describe f schema)) d.properties,
      if f.isRequired then d.required ++ [name] else d.required⟩

/-- Writes a struct out, fields that `exclude` picks left out, unless its name is on the stack. -/
def object (n : Naming) (walk : Shape → Walk (Assoc Json)) (st : Struct) (exclude : Field → Bool) :
    Walk (Assoc Json) := do
  if st.name ∈ (← get) then
    return typed "object" []
  modify (st.name :: ·)
  let d ← (st.dataFields.filter (!exclude ·)).foldlM (property n walk) ⟨[], []⟩
  modify List.tail
  return d.schema

/-- Makes the schema of a shape. -/
def shape (F : Family) (n : Naming) : Nat → Shape → Walk (Assoc Json)
  | 0, _ => failure
  | calls + 1, s =>
    match s with
    | .string => pure (typed "string" [])
    | .integer w signed =>
      pure <| typed "integer" <| Assoc.insert "format" (.str (Shape.integerFormat w)) <|
        if signed then [] else [("minimum", .nat 0)]
    | .number w => pure (typed "number" [("format", .str (Shape.numberFormat w))])
    | .boolean => pure (typed "boolean" [])
    | .bytes => pure (typed "string" [("format", .str "binary")])
    | .array elem => do
      let items ← shape F n calls elem
      return typed "array" [("items", .obj items)]
    | .map value => do
      let values ← shape F n calls value
      return typed "object" [("additionalProperties", .obj values)]
    | .enum variants => pure (typed "string" [("enum", .strings variants)])
    | .optional inner => do
      let schema ← shape F n calls inner
      return Assoc.insert "nullable" (.bool true) schema
    | .struct id => object n (shape F n calls) (F.get id) fun _ => false
    | .any | .marker => pure (typed "object" [])

end Walk

end HttpService.Schema
