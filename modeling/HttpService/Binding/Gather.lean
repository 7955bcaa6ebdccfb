import HttpService.Binding.Coerce
import HttpService.Binding.Zero
import HttpService.Http.Form
import HttpService.Http.Multipart
import HttpService.Http.Request

/-!
# Gathering a request

The members of a request struct come from the path, then from the query (GET, DELETE and HEAD) or from
the body (POST, PUT and PATCH), then from zero values. An earlier source is never replaced by a later
one. `Gather.members` is the whole of it.
-/

set_option autoImplicit false

namespace HttpService.Gather

/-- Members found so far, by key. -/
abbrev Members := Assoc Json

/-! ## Path parameters -/

/-- Takes a field from the path, if it names a parameter that the request has. -/
def fromPath (r : Request) (members : Members) (f : Field) : Except Failure Members :=
  match f.uriName? with
  | none => .ok members
  | some name =>
    match r.param? name with
    | none => .ok members
    | some raw => do
      let v ← Binding.coerce name f.shape (Text.encode raw)
      return Assoc.insert f.key v members

/-! ## Pairs of texts -/

/-- The value of a field from the raw values under its name: an array takes all, any other shape the
first. -/
def ofValues (name : String) (s : Shape) (first : Bytes) (values : List Bytes) :
    Except Failure Json :=
  match s.unwrap with
  | .array elem => do return .arr (← values.mapM (Binding.coerce name elem))
  | _ => Binding.coerce name s first

/-- Takes a field from pairs unless an earlier source had it. -/
def fromPairs (pairs : List (String × Bytes)) (members : Members) (f : Field) :
    Except Failure Members :=
  match f.formName? with
  | none => .ok members
  | some name =>
    if Assoc.contains f.key members then .ok members
    else
      match (pairs.filter (·.1 = name)).map (·.2) with
      | [] => .ok members
      | first :: others => do
        let v ← ofValues name f.shape first (first :: others)
        return Assoc.insert f.key v members

/-- The pairs of an urlencoded text. -/
def formPairs (bytes : Bytes) : List (String × Bytes) :=
  (Form.decode bytes).map fun (name, value) => (name, Text.encode value)

/-- The pairs of a multipart body. -/
def multipartPairs (contentType : String) (body : Bytes) : Except Failure (List (String × Bytes)) :=
  match Multipart.parts contentType body with
  | .ok pairs => .ok pairs
  | .error (.stream f) => .error (.invalid ("malformed multipart: " ++ f.message))
  | .error (.field name f) =>
    .error (.invalid ("malformed multipart field " ++ name ++ ": " ++ f.message))

/-! ## JSON bodies -/

/-- Moves the members of an object from the names of the fields to their keys; what no field names is
dropped, and a name that two fields share goes to the first. -/
def renameMembers (place : Shape → Json → Json) : List Field → Members → Members → Members
  | [], _, out => out
  | f :: fs, rest, out =>
    match f.jsonName? with
    | none => renameMembers place fs rest out
    | some name =>
      match Assoc.find? name rest with
      | none => renameMembers place fs rest out
      | some v =>
        renameMembers place fs (Assoc.erase name rest) (Assoc.insert f.key (place f.shape v) out)

/-- Renames the members of nested structs, in arrays as well, with `room` levels left. -/
def rename (F : Family) : Nat → Shape → Json → Json
  | 0, _, v => v
  | room + 1, s, v =>
    match v, s.unwrap with
    | .obj members, .struct id =>
      .obj (renameMembers (rename F room) (F.get id).dataFields members [])
    | .arr items, .array elem => .arr (items.map (rename F room elem))
    | v, _ => v

/-- Takes the fields from a JSON object unless an earlier source had them. -/
def fromObject (F : Family) : List Field → Members → Members → Members
  | [], _, members => members
  | f :: fs, rest, members =>
    match f.jsonName? with
    | none => fromObject F fs rest members
    | some name =>
      if Assoc.contains f.key members then fromObject F fs rest members
      else
        match Assoc.find? name rest with
        | none => fromObject F fs rest members
        | some v =>
          fromObject F fs (Assoc.erase name rest)
            (Assoc.insert f.key (rename F Binding.maxDepth f.shape v) members)

/-- The JSON value of a body. -/
def bodyJson (body : Bytes) : Except Failure Json :=
  match Json.parse body with
  | .ok v => .ok v
  | .error e => .error (.invalid ("malformed JSON body: " ++ e.message))

/-! ## The body as a whole -/

/-- How a body is read. -/
inductive BodyKind
  | json
  | form
  | multipart
  | unsupported (type : String)
  deriving DecidableEq, Repr

/-- The kind of a body by its media type; an untyped body is JSON if it starts like an object. -/
def bodyKind (type : String) (body : Bytes) : BodyKind :=
  let isBlank (b : UInt8) : Bool := b == 0x20 || b == 9 || b == 10 || b == 12 || b == 13
  match type with
  | "application/json" => .json
  | "application/x-www-form-urlencoded" => .form
  | "multipart/form-data" => .multipart
  | "" => if (body.dropWhile isBlank).head? = some 0x7B then .json else .form
  | other => .unsupported other

/-- Takes fields from the body. -/
def fromBody (F : Family) (st : Struct) (r : Request) (members : Members) : Except Failure Members :=
  let contentType := (r.headers.text? "content-type").getD ""
  match bodyKind (MediaType.essence contentType) r.body with
  | .json => do
    match ← bodyJson r.body with
    | .obj body => return fromObject F st.dataFields body members
    | _ => .error (.invalid "request body must be a JSON object")
  | .form => st.dataFields.foldlM (fromPairs (formPairs r.body)) members
  | .multipart => do
    st.dataFields.foldlM (fromPairs (← multipartPairs contentType r.body)) members
  | .unsupported type => .error (.invalid ("unsupported content type: " ++ type))

/-- Whether requests of a method carry their fields in the query. -/
def readsQuery (method : String) : Bool :=
  ["GET", "DELETE", "HEAD"].contains method

/-- Whether requests of a method carry their fields in the body. -/
def readsBody (method : String) : Bool :=
  ["POST", "PUT", "PATCH"].contains method

/-- What the request itself says about the fields of a struct. -/
def found (F : Family) (st : Struct) (r : Request) : Except Failure Members := do
  let members ← st.dataFields.foldlM (fromPath r) []
  if readsQuery r.method then
    match r.uri.query with
    | none => return members
    | some q => st.dataFields.foldlM (fromPairs (formPairs (Text.encode q))) members
  else if readsBody r.method && !r.body.isEmpty then fromBody F st r members
  else return members

/-- The members of a request struct, zero values included. -/
def members (F : Family) (st : Struct) (r : Request) : Except Failure Members :=
  (found F st r).map (Binding.fill F Binding.maxDepth st)

end HttpService.Gather
