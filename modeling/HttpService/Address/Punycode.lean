import HttpService.Text.Letter

/-!
# Punycode

The ASCII form of a label: its ASCII characters, then the differences between the others in code
point order as numbers of variable length in base 36.
-/

set_option autoImplicit false

namespace HttpService.Address.Punycode

def digitChar (d : Nat) : Char :=
  if d < 26 then Char.ofNat ('a'.toNat + d) else Char.ofNat ('0'.toNat + (d - 26))

def digitValue? (c : Char) : Option Nat :=
  if c.isDigit then some (c.toNat - '0'.toNat + 26)
  else if c.isLower then some (c.toNat - 'a'.toNat)
  else if c.isUpper then some (c.toNat - 'A'.toNat)
  else none

/-- The threshold of the digit at distance `k`. -/
def threshold (k bias : Nat) : Nat :=
  if k ≤ bias then 1 else if bias + 26 ≤ k then 26 else k - bias

/-- Divides a difference down; `fuel` bounds the number of divisions. -/
def reduce : Nat → Nat → Nat → Nat
  | 0, delta, k => k + 36 * delta / (delta + 38)
  | fuel + 1, delta, k =>
    if 455 < delta then reduce fuel (delta / 35) (k + 36) else k + 36 * delta / (delta + 38)

/-- The bias after a difference. -/
def adapt (delta count : Nat) (first : Bool) : Nat :=
  let d := if first then delta / 700 else delta / 2
  reduce d (d + d / count) 0

/-- A number as digits; `fuel` bounds their count. -/
def digits (bias : Nat) : Nat → Nat → Nat → List Char
  | 0, _, _ => []
  | fuel + 1, k, q =>
    let t := threshold k bias
    if q < t then [digitChar q]
    else digitChar (t + (q - t) % (36 - t)) :: digits bias fuel (k + 36) ((q - t) / (36 - t))

/-- The state of an encoder. -/
structure Encoder where
  output : List Char
  delta : Nat
  bias : Nat
  handled : Nat

/-- Handles the occurrences of code point `m` in the input. -/
def Encoder.pass (basic m : Nat) (e : Encoder) (c : Char) : Encoder :=
  if c.toNat < m then { e with delta := e.delta + 1 }
  else if c.toNat = m then
    ⟨e.output ++ digits e.bias (e.delta + 1) 36 e.delta, 0,
      adapt e.delta (e.handled + 1) (e.handled == basic), e.handled + 1⟩
  else e

/-- Handles the code points in ascending order, from `n` on. -/
def Encoder.run (input : List Char) (basic : Nat) : List Nat → Nat → Encoder → Encoder
  | [], _, e => e
  | m :: rest, n, e =>
    let e := { e with delta := e.delta + (m - n) * (e.handled + 1) }
    let e := input.foldl (Encoder.pass basic m) e
    Encoder.run input basic rest (m + 1) { e with delta := e.delta + 1 }

/-- The ASCII form of a label, without its marker. -/
def encode (input : List Char) : List Char :=
  let basic := input.filter (·.toNat < 0x80)
  let others := ((input.filter (0x80 ≤ ·.toNat)).map Char.toNat).mergeSort.eraseDups
  let start := if basic.isEmpty then [] else basic ++ ['-']
  (Encoder.run input basic.length others 0x80 ⟨start, 0, 72, basic.length⟩).output

/-- Reads a number; gives it and what follows. -/
def readNumber (bias : Nat) : List Char → Nat → Nat → Nat → Option (Nat × List Char)
  | [], _, _, _ => none
  | c :: rest, i, w, k => do
    let d ← digitValue? c
    let i := i + d * w
    let t := threshold k bias
    if 0x1000000000 < i then none
    else if d < t then some (i, rest)
    else readNumber bias rest i (w * (36 - t)) (k + 36)

/-- Inserts the characters that the differences name; `fuel` bounds their count. -/
def insertAll : Nat → List Char → Nat → Nat → Nat → List Char → Option (List Char)
  | 0, _, _, _, _, _ => none
  | fuel + 1, input, n, i, bias, output =>
    if input.isEmpty then some output
    else
      match readNumber bias input i 1 36 with
      | none => none
      | some (j, rest) =>
        let size := output.length + 1
        let n := n + j / size
        let place := j % size
        if 0x10FFFF < n ∨ (0xD800 ≤ n ∧ n ≤ 0xDFFF) then none
        else
          insertAll fuel rest n (place + 1) (adapt (j - i) size (i == 0))
            (output.take place ++ Char.ofNat n :: output.drop place)

/-- The label behind an ASCII form. -/
def decode? (input : List Char) : Option (List Char) :=
  let tail := (input.reverse.takeWhile (· ≠ '-')).reverse
  let basic := input.take (input.length - tail.length - 1)
  insertAll (input.length + 1) tail 0x80 0 72 basic

end HttpService.Address.Punycode
