import HttpService.Text.Utf8

/-!
# Tagged binary values

Certificates and keys are written as values of a tag, a length and a content, which may hold such values
again. A length is written in the shortest way.
-/

set_option autoImplicit false

namespace HttpService.Der

/-- A value: what kind it is of, and what it holds. -/
structure Value where
  tag : UInt8
  content : Bytes
  deriving DecidableEq, Repr

/-! ## Kinds -/

def integer : UInt8 := 0x02
def bits : UInt8 := 0x03
def octets : UInt8 := 0x04
def name : UInt8 := 0x06
def sequence : UInt8 := 0x30

/-- The kind of the member at a marked place of a sequence. -/
def marked (place : UInt8) : UInt8 := 0xA0 + place

/-! ## Reading -/

/-- A length at the front, and what follows it. -/
def length? : Bytes → Option (Nat × Bytes)
  | [] => none
  | b :: rest =>
    if b < 0x80 then some (b.toNat, rest)
    else
      let digits := rest.take (b.toNat - 0x80)
      let n := digits.foldl (fun n b => n * 256 + b.toNat) 0
      if digits.length < b.toNat - 0x80 ∨ n < 0x80 ∨ digits.head? = some 0 then none
      else some (n, rest.drop digits.length)

/-- A value at the front, and what follows it. -/
def value? : Bytes → Option (Value × Bytes)
  | [] => none
  | tag :: rest => do
    let (n, rest) ← length? rest
    if rest.length < n then none
    return (⟨tag, rest.take n⟩, rest.drop n)

/-- The values that bytes consist of; `fuel` bounds their count. -/
def valuesFrom : Nat → Bytes → Option (List Value)
  | _, [] => some []
  | 0, _ => none
  | fuel + 1, bytes => do
    let (v, rest) ← value? bytes
    return v :: (← valuesFrom fuel rest)

/-- The values that bytes consist of. -/
def values? (bytes : Bytes) : Option (List Value) :=
  valuesFrom bytes.length bytes

/-- The members of a sequence. -/
def Value.members? (v : Value) : Option (List Value) :=
  if v.tag = sequence then values? v.content else none

/-- The members of the sequence that bytes consist of. -/
def members? (bytes : Bytes) : Option (List Value) :=
  match values? bytes with
  | some [v] => v.members?
  | _ => none

end HttpService.Der
