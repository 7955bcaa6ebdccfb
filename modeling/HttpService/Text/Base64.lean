import HttpService.Text.Utf8

/-!
# Base64

Four characters stand for three bytes; `=` fills up the last group. Blanks between characters do not
count.
-/

set_option autoImplicit false

namespace HttpService.Base64

/-- Why a text is not base64. -/
inductive Fault
  | character (c : Char)
  | padding
  deriving DecidableEq, Repr

def isSpace (c : Char) : Bool :=
  c == ' ' || (9 ≤ c.toNat && c.toNat ≤ 13)

/-- The six bits of a character. -/
def value? (c : Char) : Option Nat :=
  if c.isUpper then some (c.toNat - 'A'.toNat)
  else if c.isLower then some (c.toNat - 'a'.toNat + 26)
  else if c.isDigit then some (c.toNat - '0'.toNat + 52)
  else if c = '+' then some 62
  else if c = '/' then some 63
  else none

/-- The bytes of groups of six bits. -/
def bytesOf : List Nat → Bytes
  | a :: b :: c :: d :: rest =>
    UInt8.ofNat (a * 4 + b / 16) :: UInt8.ofNat (b % 16 * 16 + c / 4) ::
      UInt8.ofNat (c % 4 * 64 + d) :: bytesOf rest
  | [a, b, c] => [UInt8.ofNat (a * 4 + b / 16), UInt8.ofNat (b % 16 * 16 + c / 4)]
  | [a, b] => [UInt8.ofNat (a * 4 + b / 16)]
  | _ => []

/-- The bytes of a text. -/
def decode (text : List Char) : Except Fault Bytes :=
  let digits := text.filter (!isSpace ·)
  match digits.find? fun c => c != '=' && (value? c).isNone with
  | some c => .error (.character c)
  | none =>
    let padding := (digits.reverse.takeWhile (· = '=')).length
    if digits.length % 4 = 0 ∧ padding ≤ 2 ∧ digits.count '=' = padding then
      .ok (bytesOf (digits.filterMap value?))
    else .error .padding

end HttpService.Base64
