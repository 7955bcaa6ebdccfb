import HttpService.Text.Split

/-!
# Reading decimal texts

`nearest` rounds a decimal to the nearest double. `float?` reads the usual grammar: a sign, digits
with an optional point, an optional exponent, or the words for infinity and not-a-number in any
case. `integer?` reads an optional sign and decimal digits.
-/

set_option autoImplicit false

namespace HttpService.Decimal

/-- The double nearest to `digits · 10 ^ exponent`. Values beyond the range of doubles are cut off
before the power is formed. -/
def nearest (digits : Nat) (exponent : Int) : Float :=
  let size : Int := (Nat.toDigits 10 digits).length + exponent
  if digits = 0 ∨ size < -400 then 0.0
  else if 400 < size then 1.0 / 0.0
  else if exponent < 0 then Float.ofScientific digits true exponent.natAbs
  else Float.ofScientific digits false exponent.natAbs

/-- The number written by decimal digits. -/
def ofDigits (cs : List Char) : Nat :=
  cs.foldl (fun n c => n * 10 + (c.toNat - '0'.toNat)) 0

/-- A sign and what follows it; no sign counts as `+`. -/
def sign : List Char → Bool × List Char
  | '-' :: cs => (true, cs)
  | '+' :: cs => (false, cs)
  | cs => (false, cs)

/-- The exponent part after the mantissa: nothing, or `e` with a sign and digits. -/
def exponent? : List Char → Option Int
  | [] => some 0
  | c :: cs =>
    if c = 'e' ∨ c = 'E' then
      let (negative, ds) := sign cs
      if ds.isEmpty ∨ ¬ds.all Char.isDigit then none
      else some (if negative then -(ofDigits ds : Int) else ofDigits ds)
    else none

/-- An unsigned decimal: at least one digit around an optional point, and an exponent part. -/
def magnitude? (cs : List Char) : Option Float := do
  let whole := cs.takeWhile Char.isDigit
  let rest := cs.dropWhile Char.isDigit
  let (fraction, rest) := match rest with
    | '.' :: rest => (rest.takeWhile Char.isDigit, rest.dropWhile Char.isDigit)
    | rest => ([], rest)
  if whole.isEmpty && fraction.isEmpty then none
  let e ← exponent? rest
  return nearest (ofDigits (whole ++ fraction)) (e - fraction.length)

/-- Reads a double. -/
def float? (s : String) : Option Float := do
  let (negative, cs) := sign s.toList
  let word := String.ofList (cs.map Char.toLower)
  let x ←
    if word = "inf" ∨ word = "infinity" then some (1.0 / 0.0)
    else if word = "nan" then some (0.0 / 0.0)
    else magnitude? cs
  return if negative then -x else x

/-- Reads a natural number with an optional `+`. -/
def natural? (s : String) : Option Nat :=
  match sign s.toList with
  | (false, cs) => if cs.isEmpty ∨ ¬cs.all Char.isDigit then none else some (ofDigits cs)
  | (true, _) => none

/-- Reads an integer with an optional sign. -/
def integer? (s : String) : Option Int :=
  let (negative, cs) := sign s.toList
  if cs.isEmpty ∨ ¬cs.all Char.isDigit then none
  else some (if negative then -(ofDigits cs : Int) else ofDigits cs)

/-- Reads a natural number below `2 ^ bits`. -/
def unsigned? (bits : Nat) (s : String) : Option Nat :=
  (natural? s).filter (· < Nat.pow 2 bits)

/-- Whether an integer has `bits` bits, in two's complement if it is signed. -/
def fits (bits : Nat) (signed : Bool) (i : Int) : Bool :=
  if signed then -(Nat.pow 2 (bits - 1) : Int) ≤ i && i < Nat.pow 2 (bits - 1)
  else 0 ≤ i && i < Nat.pow 2 bits

/-- Reads an integer of `bits` bits in two's complement. -/
def signed? (bits : Nat) (s : String) : Option Int :=
  (integer? s).filter (fits bits true)

end HttpService.Decimal
