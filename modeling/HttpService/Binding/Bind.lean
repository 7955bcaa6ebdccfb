import HttpService.Binding.Gather
import HttpService.Datatype.Decode
import HttpService.Validation.Struct

/-!
# Binding requests

A request struct is gathered, checked against its rules, and only then decoded. Any other type is
decoded from the whole body. What fails before or after the rules is an invalid parameter.
-/

set_option autoImplicit false

namespace HttpService

/-- The value that a request gives a shape, before it is decoded. -/
def Gather.value (F : Family) (s : Shape) (r : Request) : Except Failure Json :=
  match s.struct? with
  | some id => do
    let members ← Gather.members F (F.get id) r
    Validation.check F r.locale (F.get id) (.obj members)
    return .obj members
  | none => if r.body.isEmpty then .ok .null else Gather.bodyJson r.body

/-- The failure of a value that cannot be decoded. -/
def DecodeError.failure (e : DecodeError) : Failure :=
  (Failure.wrapCode .invalidParameter [.foreign e.message] "invalid request").withStatus 400

/-- Binds a request to a shape and decodes what it gave. -/
def bind {α : Type} (F : Family) (s : Shape) (decode : Json → Except DecodeError α) (r : Request) :
    Except Failure α := do
  let v ← Gather.value F s r
  match decode v with
  | .ok x => return x
  | .error e => .error e.failure

/-- Binds a request to a data type. -/
def Datatype.bind (C : Catalogue) (t : Datatype) (r : Request) : Except Failure Json :=
  HttpService.bind C.family t.shape (t.decode C) r

end HttpService
