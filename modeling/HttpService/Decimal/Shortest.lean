/-!
# Shortest decimal digits of a double

A positive finite double is `m · 2 ^ q`. The reals that round to it form an interval, closed exactly
when `m` is even. `shortest` gives the fewest digits whose decimal lies in that interval, and of
those the nearest to the double; a tie goes to the even digit.
-/

set_option autoImplicit false

namespace HttpService.Decimal

/-- A positive finite double `mantissa · 2 ^ exponent`; `narrow` when the gap below it is half the
gap above. -/
structure Binary where
  mantissa : Nat
  exponent : Int
  narrow : Bool

/-- The parts of a finite non-zero double, its sign dropped. -/
def Binary.ofBits (bits : UInt64) : Binary :=
  let fraction := (bits % (1 <<< 52)).toNat
  let biased := ((bits >>> 52) % 2048).toNat
  if biased = 0 then ⟨fraction, -1074, false⟩
  else ⟨Nat.pow 2 52 + fraction, (biased : Int) - 1075, fraction = 0 && 1 < biased⟩

/-- The decimal `digits · 10 ^ exponent`. -/
structure Digits where
  digits : Nat
  exponent : Int
  deriving DecidableEq, Repr

/-- Scales so that quarters of a unit and powers of ten become natural numbers: the pair holds the
factors of a count of quarter units and of a digit string at `10 ^ j`. -/
def Binary.factors (b : Binary) (j : Int) : Nat × Nat :=
  let q := b.exponent - 2
  (Nat.pow 2 q.toNat * Nat.pow 10 (-j).toNat, Nat.pow 2 (-q).toNat * Nat.pow 10 j.toNat)

/-- Whether `digits · 10 ^ j` rounds to the double. -/
def Binary.covers (b : Binary) (j : Int) (digits : Nat) : Bool :=
  let (unit, ten) := b.factors j
  let low := (4 * b.mantissa - if b.narrow then 1 else 2) * unit
  let high := (4 * b.mantissa + 2) * unit
  let x := digits * ten
  if b.mantissa % 2 = 0 then low ≤ x && x ≤ high else low < x && x < high

/-- The nearer of the two neighbours of the double on the grid of multiples of `10 ^ j` that round
to it, if any does. -/
def Binary.onGrid? (b : Binary) (j : Int) : Option Digits :=
  let (unit, ten) := b.factors j
  let x := 4 * b.mantissa * unit
  let below := x / ten
  let gap := 2 * (x % ten)
  let first := if gap < ten || (gap == ten && below % 2 == 0) then below else below + 1
  let second := if first = below then below + 1 else below
  if b.covers j first then some ⟨first, j⟩
  else if b.covers j second then some ⟨second, j⟩
  else none

/-- The exponent of the leading decimal digit. -/
def Binary.magnitude (b : Binary) : Int :=
  let num := b.mantissa * Nat.pow 2 b.exponent.toNat
  let den := Nat.pow 2 (-b.exponent).toNat
  if den ≤ num then ((Nat.toDigits 10 (num / den)).length : Int) - 1
  else
    let t := (Nat.toDigits 10 (den / num)).length
    if den ≤ num * Nat.pow 10 (t - 1) then -((t : Int) - 1) else -(t : Int)

/-- Removes trailing zeros; `fuel` bounds their number. -/
def Digits.strip : Nat → Digits → Digits
  | 0, d => d
  | fuel + 1, d =>
    if d.digits % 10 = 0 ∧ d.digits ≠ 0 then Digits.strip fuel ⟨d.digits / 10, d.exponent + 1⟩ else d

/-- Tries grids of `count`, `count + 1`, … digits. -/
def Binary.search (b : Binary) (magnitude : Int) : Nat → Nat → Digits
  | 0, count => (b.onGrid? (magnitude + 1 - count)).getD ⟨b.mantissa, b.exponent⟩
  | fuel + 1, count =>
    match b.onGrid? (magnitude + 1 - count) with
    | some d => d
    | none => Binary.search b magnitude fuel (count + 1)

/-- The shortest digits of a positive finite double. -/
def Binary.shortest (b : Binary) : Digits :=
  Digits.strip 17 (b.search b.magnitude 17 1)

/-! ## Layout -/

/-- How a decimal is written. -/
structure Layout where
  /-- The leading exponents written without an exponent part. -/
  positional : Int → Bool
  /-- Whether an integral value ends in `.0`. -/
  pointZero : Bool
  /-- Whether a positive exponent carries `+`. -/
  plus : Bool

/-- The digits with a point, and an exponent part where the layout asks for one. -/
def Layout.write (l : Layout) (d : Digits) : String :=
  let ds := Nat.toDigits 10 d.digits
  let point : Int := ds.length + d.exponent
  let zeros (n : Int) : List Char := List.replicate n.toNat '0'
  String.ofList <|
    if l.positional (point - 1) then
      if 0 ≤ d.exponent then ds ++ zeros d.exponent ++ if l.pointZero then ['.', '0'] else []
      else if 0 < point then ds.take point.toNat ++ '.' :: ds.drop point.toNat
      else '0' :: '.' :: zeros (-point) ++ ds
    else
      let e := point - 1
      let sign := if e < 0 then ['-'] else if l.plus then ['+'] else []
      let fraction := match ds.drop 1 with
        | [] => []
        | rest => '.' :: rest
      ds.take 1 ++ fraction ++ 'e' :: sign ++ Nat.toDigits 10 e.natAbs

/-- The text of a double: its shortest digits in a layout. -/
def Layout.float (l : Layout) (x : Float) : String :=
  let bits := x.toBits
  let negative := bits >>> 63 == 1
  if x.isNaN then "NaN"
  else
    let body :=
      if x.isInf then "inf"
      else if (bits <<< 1) == 0 then if l.pointZero then "0.0" else "0"
      else l.write (Binary.ofBits bits).shortest
    if negative then "-" ++ body else body

end HttpService.Decimal
