import HttpService.Derive.Attribute
import HttpService.Derive.Casing
import HttpService.Derive.Generics
import HttpService.Json.Basic

/-!
# Reflection derived from a declaration

What a declaration says of its type: `Declaration.derive` gives the reflected shape, with every member
under its name on the wire, or the reason why there is none.
-/

set_option autoImplicit false

namespace HttpService.Derive

/-- A named field of a struct; its type stays text. -/
structure FieldDecl where
  name : String
  type : String
  attributes : List Attribute
  deriving Repr

/-- A variant of an enum; its payload is the text after its name. -/
structure VariantDecl where
  name : String
  payload : String
  attributes : List Attribute
  deriving Repr

inductive Body
  | fields (fs : List FieldDecl)
  | positions (types : List String)
  | unit
  | variants (vs : List VariantDecl)
  | union
  deriving Repr

structure Declaration where
  name : String
  generics : Generics
  attributes : List Attribute
  body : Body
  deriving Repr

/-- A field as it is reflected. -/
structure ReflectedField where
  name : String
  key : String
  tag : String
  doc : String
  skip : Bool
  type : String
  deriving DecidableEq, Repr

inductive ReflectedShape
  | struct (name : String) (fields : List ReflectedField)
  | newtype (type : String)
  | unit
  | enum (names : List String)
  deriving DecidableEq, Repr

/-- The reflection of a type: its name with arguments, its bounded type parameters, its shape. -/
structure Reflected where
  target : String
  generics : List (String × List String)
  shape : ReflectedShape
  deriving DecidableEq, Repr

/-- The name of a member on the wire: its own, or the name restyled. -/
def wireName (style : Option Casing) (member : Member) (name : String) (w : WireName) : String :=
  w.rename.getD (match style with
    | some s => s.rename member name
    | none => name)

namespace FieldDecl

def reflect (style : Option Casing) (f : FieldDecl) : Except Fault ReflectedField := do
  let w := WireName.ofAttributes f.attributes
  let name := Tags.plainKey f.name
  let tag ← Tags.ofAttributes f.attributes
  return ⟨name, wireName style .field name w, tag, docText f.attributes, w.skip, f.type⟩

end FieldDecl

namespace VariantDecl

/-- Whether a variant holds values; a number given to it is none. -/
def holds (v : VariantDecl) : Bool :=
  match v.payload.toList.dropWhile Text.isBlank with
  | c :: _ => c = '(' || c = '{'
  | [] => false

end VariantDecl

/-- The names of the variants that are not skipped; one that holds values is refused. -/
def variantNames (style : Option Casing) : List VariantDecl → Except Fault (List String)
  | [] => .ok []
  | v :: vs => do
    if v.holds then throw .payload
    let w := WireName.ofAttributes v.attributes
    let names ← variantNames style vs
    return if w.skip then names else wireName style .variant v.name w :: names

namespace Declaration

/-- The case style that the type gives its members; an unknown one changes nothing. -/
def style (d : Declaration) : Option Casing :=
  (WireName.ofAttributes d.attributes).renameAll.bind Casing.parse?

def shape (d : Declaration) : Except Fault ReflectedShape :=
  match d.body with
  | .fields fs => return .struct d.name (← fs.mapM (·.reflect d.style))
  | .positions [t] => .ok (.newtype t)
  | .positions _ => .error .tuple
  | .unit => .ok .unit
  | .variants vs => return .enum (← variantNames d.style vs)
  | .union => .error .union

/-- The path of the trait that derived code implements. -/
def reflectTrait : String := "maltose::reflect::Reflect"

def derive (d : Declaration) : Except Fault Reflected := do
  let shape ← d.shape
  return ⟨d.generics.applied d.name, d.generics.bounded reflectTrait, shape⟩

end Declaration

/-! ## Description of the derived code -/

/-- The function of the derived code that gives the shape of a type, without blanks. -/
def shapeOf (type : String) : String :=
  "<" ++ Text.withoutBlanks type ++ "as" ++ Declaration.reflectTrait ++ ">::shape"

namespace ReflectedShape

def json : ReflectedShape → Json
  | struct name fields =>
    let field (f : ReflectedField) := Json.ofPairs [("name", .str f.name), ("key", .str f.key),
      ("tag", .str f.tag), ("doc", .str f.doc), ("skip", .bool f.skip),
      ("shape", .str (shapeOf f.type))]
    Json.ofPairs [("struct", .str name), ("fields", .arr (fields.map field))]
  | newtype type => Json.ofPairs [("newtype", .str (shapeOf type ++ "()"))]
  | unit => Json.ofPairs [("unit", .str "maltose::reflect::Shape::Any")]
  | enum names => Json.ofPairs [("enum", .strings names)]

end ReflectedShape

namespace Reflected

def json (r : Reflected) : Json :=
  let parameter (p : String × List String) :=
    Json.ofPairs [("name", .str p.1), ("bounds", .strings p.2)]
  Json.ofPairs [("for", .str r.target), ("generics", .arr (r.generics.map parameter)),
    ("shape", r.shape.json)]

end Reflected

end HttpService.Derive
