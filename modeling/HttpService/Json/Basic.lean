import HttpService.Assoc
import HttpService.Decimal.Shortest

/-!
# JSON values

Integers and doubles are different numbers: `1` and `1.0` are not the same value. The members of an
object are kept in key order.
-/

set_option autoImplicit false

namespace HttpService

/-- A JSON number: an integer in the signed or unsigned 64-bit range, or a finite double. -/
inductive Number
  | int (value : Int)
  | float (value : Float)
  deriving Inhabited

/-- A JSON value. -/
inductive Json
  | null
  | bool (value : Bool)
  | num (value : Number)
  | str (value : String)
  | arr (items : List Json)
  | obj (members : List (String × Json))
  deriving Inhabited

/-- The double nearest to a number. -/
def Number.toFloat : Number → Float
  | .int i => Float.ofInt i
  | .float x => x

/-- The single nearest to a number; an integer is rounded once, not by way of a double. -/
def Number.toFloat32 : Number → Float32
  | .int i =>
    let magnitude := (UInt64.ofNat i.natAbs).toFloat32
    if i < 0 then -magnitude else magnitude
  | .float x => x.toFloat32

/-- JSON doubles: a point or an exponent always shows, positional from 1e-5 up to 1e16, and an
exponent carries its sign. -/
def Number.layout : Decimal.Layout where
  positional e := -5 ≤ e && e < 16
  pointZero := true
  plus := true

/-- The JSON text of a number. -/
def Number.print : Number → String
  | .int i => toString i
  | .float x => Number.layout.float x

namespace Json

/-- The JSON integer of a natural number. -/
def nat (n : Nat) : Json := .num (.int n)

/-- The JSON integer. -/
def int (i : Int) : Json := .num (.int i)

/-- The JSON number of a double. -/
def float (x : Float) : Json := .num (.float x)

/-- An object from pairs; the last value of a key stays. -/
def ofPairs (pairs : List (String × Json)) : Json := .obj (Assoc.ofList pairs)

/-- A list of texts. -/
def strings (xs : List String) : Json := .arr (xs.map .str)

/-- The value, or null. -/
def option {α : Type} (f : α → Json) : Option α → Json
  | none => .null
  | some x => f x

/-- The member under a key of an object. -/
def get? (key : String) : Json → Option Json
  | .obj members => Assoc.find? key members
  | _ => none

/-- The text of a string value. -/
def text? : Json → Option String
  | .str s => some s
  | _ => none

/-- The items of an array value. -/
def items? : Json → Option (List Json)
  | .arr items => some items
  | _ => none

/-- The integer of an integer value. -/
def int? : Json → Option Int
  | .num (.int i) => some i
  | _ => none

/-- Whether the value is null. -/
def isNull : Json → Bool
  | .null => true
  | _ => false

/-- Whether the value is an object. -/
def isObject : Json → Bool
  | .obj _ => true
  | _ => false

/-! ## Size of members -/

theorem sizeOf_find?_lt {key : String} {members : List (String × Json)} {v : Json}
    (h : Assoc.find? key members = some v) : sizeOf v < sizeOf (Json.obj members) := by
  have mem : ∀ {ms : List (String × Json)}, Assoc.find? key ms = some v → sizeOf v < sizeOf ms := by
    intro ms
    induction ms with
    | nil => simp [Assoc.find?]
    | cons p rest ih =>
      obtain ⟨k, w⟩ := p
      rw [Assoc.find?]
      split
      · rintro ⟨⟩
        simp
        omega
      · intro h
        have := ih h
        simp
        omega
  have := mem h
  simp
  omega

end Json

end HttpService
