import HttpService.OpenApi.Schema
import HttpService.Route.Basic
import HttpService.Route.Path

/-!
# Documented operations

An operation documents one route: its path parameters, its query parameters or its body, and its
response. Methods without a body document their fields as query parameters.
-/

set_option autoImplicit false

namespace HttpService.OpenApi

/-- Where a parameter stands. -/
inductive Location
  | path | query
  deriving DecidableEq, Repr

/-- A documented parameter. -/
structure Parameter where
  name : String
  location : Location
  description : Option String
  required : Bool
  schema : Json

/-- The content of a response: a media type and a schema. -/
structure Content where
  mediaType : String
  schema : Json

/-- A documented operation. -/
structure Operation where
  tag : Option String
  summary : Option String
  description : Option String
  id : String
  parameters : List Parameter
  /-- The schema of the JSON body. -/
  body : Option Json
  response : Content

def jsonType : String := "application/json"

def textType : String := "text/plain"

def binaryType : String := "application/octet-stream"

/-- Whether requests of a method are documented with a body. -/
def documentsBody (method : String) : Bool :=
  !(["GET", "DELETE", "HEAD"].contains method)

/-- The struct of a shape, if it has one. -/
def structOf? (F : Family) (s : Shape) : Option Struct :=
  s.struct?.map F.get

/-- A parameter of the path, documented by the field that is bound from it. -/
def pathParameter (F : Family) (fields : List Field) (name : String) : Parameter :=
  let field := fields.find? (·.uriName? = some name)
  { name, location := .path, description := field.bind (·.description?), required := true
    schema := (field.map fun f => Schema.request F f.shape.unwrap).getD
      (.obj (Schema.typed "string" [])) }

/-- A parameter of the query. -/
def queryParameter? (F : Family) (f : Field) : Option Parameter :=
  if f.isPathOnly then none
  else
    f.formName?.map fun name =>
      { name, location := .query, description := f.description?, required := f.isRequired
        schema := Schema.request F f.shape.unwrap }

/-- The schema of the response envelope over the schema of its data. -/
def envelopeSchema (data : Json) : Json :=
  .ofPairs [("type", .str "object"),
    ("properties", .ofPairs [
      ("code", .ofPairs [("type", .str "integer"), ("format", .str "int32")]),
      ("message", .ofPairs [("type", .str "string")]),
      ("data", data)]),
    ("required", .strings ["code", "message"])]

/-- What a response of a shape is documented as: texts and bytes as they are, the rest inside the
envelope. -/
def responseContent (F : Family) (s : Shape) : Content :=
  match s.unwrap with
  | .string => ⟨textType, .obj (Schema.typed "string" [])⟩
  | .bytes => ⟨binaryType, .obj (Schema.typed "string" [("format", .str "binary")])⟩
  | data => ⟨jsonType, envelopeSchema (Schema.response F data)⟩

/-- The operation of a route. -/
def operation (F : Family) (r : RouteDoc) : Operation :=
  let st := structOf? F r.request.shape
  let fields := (st.map Struct.dataFields).getD []
  let inPath := (Path.parameters r.path).map (pathParameter F fields)
  let withBody := documentsBody r.method
  { tag := r.tag, summary := r.summary, description := r.description, id := r.handler
    parameters := inPath ++ if withBody then [] else fields.filterMap (queryParameter? F)
    body := if withBody then st.map (Schema.body F) else none
    response := responseContent F r.response.shape }

end HttpService.OpenApi
