import HttpService.Failure
import HttpService.Shape
import HttpService.Validation.Rule

/-!
# Validating bound values

`failures` walks a value along a struct: the rules of each field, then the fields of nested structs
and of structs in arrays, in declaration order. `check` answers with the first failure.
-/

set_option autoImplicit false

namespace HttpService.Validation

/-- The name that messages give a field: its name in JSON, else its path parameter. -/
def messageName? (f : Field) : Option String :=
  f.jsonName?.or f.uriName?

/-- The struct of an array's elements. -/
def elementStruct? (s : Shape) : Option StructId :=
  match s.unwrap with
  | .array elem => elem.struct?
  | _ => none

theorem sizeOf_get?_lt {key : String} {value v : Json} (h : value.get? key = some v) :
    sizeOf v < sizeOf value := by
  cases value with
  | obj members => exact Json.sizeOf_find?_lt h
  | _ => simp [Json.get?] at h

/-- The failures of a value in field order. -/
def failures (F : Family) (st : Struct) (value : Json) : List RuleFailure :=
  st.dataFields.flatMap fun f =>
    match messageName? f with
    | none => []
    | some name =>
      (firstFailure name f.rules ((value.get? f.key).getD .null)).toList ++
        match _h : value.get? f.key with
        | some (.obj members) =>
          match f.shape.struct? with
          | some id => failures F (F.get id) (.obj members)
          | none => []
        | some (.arr items) =>
          match elementStruct? f.shape with
          | some id => items.attach.flatMap fun ⟨item, _⟩ => failures F (F.get id) item
          | none => []
        | _ => []
termination_by sizeOf value
decreasing_by
  · exact sizeOf_get?_lt _h
  · rename_i hm
    have h1 := sizeOf_get?_lt _h
    have h2 := List.sizeOf_lt_of_mem hm
    simp at h1
    omega

/-- The failure of a request whose value breaks a rule. -/
def rejection (l : Locale) (e : RuleFailure) : Failure :=
  ((Failure.new .validationFailed (e.sentence l)).withDetail (.str (e.sentence l))).withStatus 400

/-- Refuses a value with its first failure. -/
def check (F : Family) (l : Locale) (st : Struct) (value : Json) : Except Failure Unit :=
  match failures F st value with
  | [] => .ok ()
  | e :: _ => .error (rejection l e)

end HttpService.Validation
