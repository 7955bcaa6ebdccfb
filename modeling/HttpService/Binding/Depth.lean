import HttpService.Binding.Zero

/-!
# Filling by depth

`fillAt` and `zeroAt` call each other and count how deep they are: the object of a struct field is entered
one level deeper, and so is a struct that is made from nothing. At `maxDepth` and below neither is. `calls`
bounds how many calls may be open inside each other; where they are too few there is no result.
-/

set_option autoImplicit false

namespace HttpService.Binding

/-- Does at a depth what a field needs, by the zero values there and by the fill one level deeper. -/
def fillFieldAt (F : Family) (depth : Nat) (zeroed : Shape → Option Json)
    (deeper : Struct → Assoc Json → Option (Assoc Json)) (ms : Assoc Json) (f : Field) :
    Option (Assoc Json) :=
  match Assoc.find? f.key ms with
  | none => (zeroed f.shape).map fun v => Assoc.insert f.key v ms
  | some (.obj nested) =>
    match f.shape.struct? with
    | some id =>
      if depth < maxDepth then
        (deeper (F.get id) nested).map fun filled => Assoc.insert f.key (.obj filled) ms
      else some ms
    | none => some ms
  | some _ => some ms

mutual

/-- Fills the fields of a struct in order, skipped ones left out. -/
def fillAt (F : Family) : Nat → Nat → Struct → Assoc Json → Option (Assoc Json)
  | 0, _, _, _ => none
  | calls + 1, depth, st, ms =>
    (st.fields.filter (!·.skip)).foldlM
      (fillFieldAt F depth (zeroAt F calls depth) (fillAt F calls (depth + 1))) ms

/-- The zero value of a shape. -/
def zeroAt (F : Family) : Nat → Nat → Shape → Option Json
  | 0, _, _ => none
  | calls + 1, depth, s =>
    match s with
    | .string => some (.str "")
    | .integer .. => some (.nat 0)
    | .number _ => some (.float 0.0)
    | .boolean => some (.bool false)
    | .array _ | .bytes => some (.arr [])
    | .map _ => some (.obj [])
    | .struct id =>
      if depth < maxDepth then (fillAt F calls (depth + 1) (F.get id) []).map .obj else some .null
    | .enum variants => some ((variants.head?.map .str).getD .null)
    | .optional _ | .any | .marker => some .null

end

end HttpService.Binding
