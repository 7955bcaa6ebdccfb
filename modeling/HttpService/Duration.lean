import HttpService.Decimal.Shortest
import HttpService.Decimal.Read
import HttpService.Text.Blank

/-!
# Durations

A duration is a whole number of nanoseconds below 2^64 seconds. `ofSeconds?` rounds a double to the
nearest nanosecond, a tie to the even one. `parse` reads a decimal with an optional unit.
-/

set_option autoImplicit false

namespace HttpService

/-- A length of time in nanoseconds. -/
structure Duration where
  nanos : Nat
  deriving DecidableEq, Repr, Inhabited

namespace Duration

def second : Nat := 1000000000

def zero : Duration := ⟨0⟩

def ofSecs (n : Nat) : Duration := ⟨n * second⟩

def ofMillis (n : Nat) : Duration := ⟨n * 1000000⟩

/-- Whole seconds. -/
def secs (d : Duration) : Nat := d.nanos / second

/-- The nanoseconds beyond the whole seconds. -/
def subNanos (d : Duration) : Nat := d.nanos % second

/-- Whole milliseconds. -/
def millis (d : Duration) : Nat := d.nanos / 1000000

def isZero (d : Duration) : Bool := d.nanos == 0

/-- `num / den` rounded to the nearest natural number, a tie to the even one. -/
def roundDiv (num den : Nat) : Nat :=
  let q := num / den
  let r := 2 * (num % den)
  if r < den ∨ (r = den ∧ q % 2 = 0) then q else q + 1

/-- The duration nearest to a number of seconds; none for negative numbers, for numbers from 2^64
seconds on, and for what is no number. -/
def ofSeconds? (x : Float) : Option Duration :=
  if x.isNaN ∨ x < 0.0 ∨ 18446744073709551616.0 ≤ x then none
  else
    let b := Decimal.Binary.ofBits x.toBits
    some ⟨roundDiv (b.mantissa * Nat.pow 2 b.exponent.toNat * second) (Nat.pow 2 (-b.exponent).toNat)⟩

/-- The seconds as a double. -/
def toSeconds (d : Duration) : Float :=
  Float.ofNat d.secs + Float.ofNat d.subNanos / 1000000000.0

/-- Why a text is no duration. -/
inductive Fault
  | malformed
  | tooLong
  deriving DecidableEq, Repr

/-- What went wrong, for a length that does not fit. -/
def Fault.message : Fault → String
  | .malformed => "malformed duration"
  | .tooLong => "cannot convert float seconds to Duration: value is either too big or NaN"

/-- The seconds in a number of units. -/
def inSeconds? (number : Float) (unit : String) : Option Float :=
  if unit = "ms" then some (number / 1000.0)
  else if unit = "" ∨ unit = "s" then some number
  else if unit = "m" then some (number * 60.0)
  else if unit = "h" then some (number * 3600.0)
  else none

/-- Reads `500ms`, `30s`, `1m`, `1h`, or bare seconds. -/
def parse (text : String) : Except Fault Duration :=
  let cs := Text.trimBy Text.isBlank text.toList
  let isNumeric (c : Char) : Bool := c.isDigit || c == '.'
  let unit := Text.trim (String.ofList (cs.dropWhile isNumeric))
  match Decimal.magnitude? (cs.takeWhile isNumeric) with
  | none => .error .malformed
  | some number =>
    if number.isInf then .error .malformed
    else
      match inSeconds? number unit with
      | none => .error .malformed
      | some seconds =>
        match ofSeconds? seconds with
        | none => .error .tooLong
        | some d => .ok d

/-- The text of a duration in the largest unit that leaves an integral part. -/
def display (d : Duration) : String :=
  if 0 < d.secs then decimal d.secs d.subNanos 9 ++ "s"
  else if 1000000 ≤ d.nanos then decimal (d.nanos / 1000000) (d.nanos % 1000000) 6 ++ "ms"
  else if 1000 ≤ d.nanos then decimal (d.nanos / 1000) (d.nanos % 1000) 3 ++ "µs"
  else toString d.nanos ++ "ns"
where
  decimal (whole fraction places : Nat) : String :=
    if fraction = 0 then toString whole
    else
      let ds := Nat.toDigits 10 fraction
      let padded := List.replicate (places - ds.length) '0' ++ ds
      toString whole ++ "." ++ String.ofList (padded.reverse.dropWhile (· = '0')).reverse

end Duration

end HttpService
