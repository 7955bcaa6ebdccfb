import HttpService.Json.Basic
import HttpService.Shape

/-!
# Schemas of shapes

A shape is documented by a JSON schema. A struct inside a struct of the same name is documented as a
plain object, so that recursive structs have finite schemas.
-/

set_option autoImplicit false

namespace HttpService.Schema

/-- Which names a schema gives to properties. -/
inductive Naming
  /-- The names in request bodies. -/
  | bound
  /-- The names in responses. -/
  | serialised
  deriving DecidableEq, Repr, Inhabited

/-- The property name of a field. -/
def Naming.name? (n : Naming) (f : Field) : Option String :=
  match n with
  | .bound => f.jsonName?
  | .serialised => some f.key

/-- The schema of a JSON type. -/
def typed (type : String) (more : Assoc Json) : Assoc Json :=
  Assoc.insert "type" (.str type) more

/-- The structs of a family that are not being documented. -/
def unvisited (F : Family) (visiting : List String) : Nat :=
  F.structs.countP fun s => !visiting.contains s.name

theorem countP_lt {α : Type} {p q : α → Bool} (hpq : ∀ x, p x → q x) {x : α} {l : List α}
    (hx : x ∈ l) (hq : q x) (hp : ¬p x) : l.countP p < l.countP q := by
  induction l with
  | nil => simp at hx
  | cons y l ih =>
    have hle : l.countP p ≤ l.countP q := List.countP_mono_left fun z _ => hpq z
    rcases List.mem_cons.1 hx with rfl | hx
    · rw [List.countP_cons_of_neg hp, List.countP_cons_of_pos hq]
      omega
    · have := ih hx
      by_cases hy : p y
      · rw [List.countP_cons_of_pos hy, List.countP_cons_of_pos (hpq y hy)]
        omega
      · rw [List.countP_cons_of_neg hy]
        rw [List.countP_cons]
        omega

theorem get_mem {F : Family} {id : StructId} {f : Field} (hf : f ∈ (F.get id).dataFields) :
    F.get id ∈ F.structs := by
  rw [Family.get, List.getD_eq_getElem?_getD] at *
  cases h : F.structs[id]? with
  | none =>
    rw [h] at hf
    simp [Struct.dataFields, default, instInhabitedStruct.default] at hf
  | some st => exact List.mem_of_getElem? h

/-- Each struct entered leaves fewer to enter. -/
theorem unvisited_lt {F : Family} {visiting : List String} {id : StructId} {f : Field}
    (hf : f ∈ (F.get id).dataFields) (hn : (F.get id).name ∉ visiting) :
    unvisited F ((F.get id).name :: visiting) < unvisited F visiting := by
  refine countP_lt (fun s hs => ?_) (get_mem hf) (by simpa using hn) (by simp)
  simp at hs ⊢
  exact hs.2

/-- A documented field: its property name, its schema, and whether it is required. -/
structure Property where
  name : String
  schema : Assoc Json
  required : Bool

/-- The description of a field, over what its schema says itself. -/
def describe (f : Field) (schema : Assoc Json) : Assoc Json :=
  match f.description? with
  | some d => Assoc.insert "description" (.str d) schema
  | none => schema

/-- The schema of an object with these properties. -/
def object (properties : List Property) : Assoc Json :=
  let members := Assoc.ofList (properties.map fun p => (p.name, Json.obj p.schema))
  let required := (properties.filter (·.required)).map (·.name)
  typed "object" <| Assoc.insert "properties" (.obj members) <|
    if required.isEmpty then [] else [("required", .strings required)]

/-- The schema of a shape inside the structs `visiting`. -/
def ofShape (F : Family) (n : Naming) (visiting : List String) : Shape → Assoc Json
  | .string => typed "string" []
  | .integer w signed =>
    typed "integer" <| Assoc.insert "format" (.str (Shape.integerFormat w)) <|
      if signed then [] else [("minimum", .nat 0)]
  | .number w => typed "number" [("format", .str (Shape.numberFormat w))]
  | .boolean => typed "boolean" []
  | .bytes => typed "string" [("format", .str "binary")]
  | .array elem => typed "array" [("items", .obj (ofShape F n visiting elem))]
  | .map value => typed "object" [("additionalProperties", .obj (ofShape F n visiting value))]
  | .enum variants => typed "string" [("enum", .strings variants)]
  | .optional inner => Assoc.insert "nullable" (.bool true) (ofShape F n visiting inner)
  | .any => typed "object" []
  | .marker => typed "object" []
  | .struct id =>
    let st := F.get id
    if _hn : st.name ∈ visiting then typed "object" []
    else
      object <| st.dataFields.attach.filterMap fun ⟨f, _⟩ =>
        (n.name? f).map fun name =>
          ⟨name, describe f (ofShape F n (st.name :: visiting) f.shape), f.isRequired⟩
termination_by s => (unvisited F visiting, sizeOf s)
decreasing_by
  · exact Prod.Lex.right _ (by simp)
  · exact Prod.Lex.right _ (by simp)
  · exact Prod.Lex.right _ (by simp)
  · rename_i hf
    exact Prod.Lex.left _ _ (unvisited_lt hf _hn)

/-- The schema of the outermost struct of a request body, fields that `exclude` picks left out. -/
def ofStruct (F : Family) (st : Struct) (exclude : Field → Bool) : Assoc Json :=
  object <| (st.dataFields.filter (!exclude ·)).filterMap fun f =>
    f.jsonName?.map fun name =>
      ⟨name, describe f (ofShape F .bound [st.name] f.shape), f.isRequired⟩

/-- The schema of a request. -/
def request (F : Family) (s : Shape) : Json := .obj (ofShape F .bound [] s)

/-- The schema of a response. -/
def response (F : Family) (s : Shape) : Json := .obj (ofShape F .serialised [] s)

/-- The schema of a body: fields that only the path gives are left out. -/
def body (F : Family) (st : Struct) : Json := .obj (ofStruct F st Field.isPathOnly)

end HttpService.Schema
