import HttpService.Json.Printer
import HttpService.OpenApi.Operation

/-!
# The service document

Every registered route has a place by its documented path and its verb. Verbs that documents do not
know leave their path without an operation.
-/

set_option autoImplicit false

namespace HttpService.OpenApi

/-- The verbs of a path, in the order in which they are written. -/
inductive Slot
  | get | post | put | patch | delete | head | options
  deriving DecidableEq, Repr

namespace Slot

def all : List Slot := [.get, .post, .put, .patch, .delete, .head, .options]

/-- The key of a verb. -/
def key : Slot → String
  | .get => "get"
  | .post => "post"
  | .put => "put"
  | .patch => "patch"
  | .delete => "delete"
  | .head => "head"
  | .options => "options"

/-- The verb of a method. -/
def ofMethod? : String → Option Slot
  | "GET" => some .get
  | "POST" => some .post
  | "PUT" => some .put
  | "PATCH" => some .patch
  | "DELETE" => some .delete
  | "HEAD" => some .head
  | "OPTIONS" => some .options
  | _ => none

end Slot

/-- The operations of a path by verb. -/
abbrev PathItem := Slot → Option Operation

namespace PathItem

def empty : PathItem := fun _ => none

/-- Puts an operation in the place of a verb. -/
def set (item : PathItem) (slot : Slot) (op : Operation) : PathItem :=
  fun s => if s = slot then some op else item s

/-- The operations in writing order. -/
def operations (item : PathItem) : List (Slot × Operation) :=
  Slot.all.filterMap fun s => (item s).map fun op => (s, op)

end PathItem

/-- A service document. -/
structure Document where
  title : String
  version : String
  paths : Assoc PathItem

/-- Adds the operation of a route. -/
def addRoute (F : Family) (paths : Assoc PathItem) (r : RouteDoc) : Assoc PathItem :=
  let path := Path.documented r.path
  let item := (Assoc.find? path paths).getD PathItem.empty
  Assoc.insert path
    (match Slot.ofMethod? r.method with
      | some slot => item.set slot (operation F r)
      | none => item)
    paths

/-- The document of all routes. -/
def document (F : Family) (title version : String) (routes : List RouteDoc) : Document :=
  ⟨title, version, routes.foldl (addRoute F) []⟩

/-! ## Writing the document

Members stand in the order in which they are read: what a thing is before what it consists of. -/

/-- The keywords of a schema that come first. -/
def leadingKeywords : List String := ["title", "description", "type", "format", "properties"]

mutual

/-- A schema with its leading keywords in front, at every level. -/
def ordered : Json → Json
  | .obj members =>
    let members := orderedMembers members
    .obj (leadingKeywords.filterMap (fun k => (Assoc.find? k members).map fun v => (k, v)) ++
      members.filter fun (k, _) => !leadingKeywords.contains k)
  | v => v

/-- The members of a schema; the properties keep their order. -/
def orderedMembers : List (String × Json) → List (String × Json)
  | [] => []
  | (k, v) :: rest =>
    (match k, v with
      | "properties", .obj properties => (k, .obj (orderedProperties properties))
      | k, v => (k, ordered v)) :: orderedMembers rest

def orderedProperties : List (String × Json) → List (String × Json)
  | [] => []
  | (k, v) :: rest => (k, ordered v) :: orderedProperties rest

end

/-- The members whose value is known. -/
def present (members : List (String × Option Json)) : Json :=
  .obj (members.filterMap fun (k, v) => v.map fun v => (k, v))

/-- A list, if it holds anything. -/
def nonEmpty (items : List Json) : Option Json :=
  if items.isEmpty then none else some (.arr items)

def Parameter.json (p : Parameter) : Json :=
  present [("name", some (.str p.name)),
    ("in", some (.str (match p.location with | .path => "path" | .query => "query"))),
    ("description", p.description.map .str), ("required", some (.bool p.required)),
    ("schema", some (ordered p.schema))]

def Content.json (c : Content) : Json :=
  .obj [(c.mediaType, .obj [("schema", ordered c.schema)])]

def Operation.json (op : Operation) : Json :=
  present [("tags", nonEmpty (op.tag.toList.map .str)), ("summary", op.summary.map .str),
    ("description", op.description.map .str), ("operationId", some (.str op.id)),
    ("parameters", nonEmpty (op.parameters.map Parameter.json)),
    ("requestBody", op.body.map fun schema =>
      .obj [("required", .bool true), ("content", Content.json ⟨jsonType, schema⟩)]),
    ("responses", some (.obj [("200", .obj [("description", .str "Success"),
      ("content", op.response.json)])]))]

def PathItem.json (item : PathItem) : Json :=
  .obj (item.operations.map fun (s, op) => (s.key, op.json))

/-- The document as JSON. -/
def Document.json (d : Document) : Json :=
  .obj [("openapi", .str "3.0.0"),
    ("info", .obj [("title", .str d.title), ("version", .str d.version)]),
    ("paths", .obj (d.paths.map fun (path, item) => (path, item.json)))]

/-- The version that the served document states. -/
def servedVersion : String := "1.0.0"

/-- The text that is served. -/
def served (F : Family) (title : String) (routes : List RouteDoc) : String :=
  (document F title servedVersion routes).json.print

end HttpService.OpenApi
