import HttpService.Text.Utf8

/-!
# Urlencoded forms

Pairs of names and values joined by `&` and `=`. In names and values a space is written as `+`, and
bytes other than letters, digits and `*-._` as a percent sign with two digits.
-/

set_option autoImplicit false

namespace HttpService.Form

/-- The byte written as a space, a percent escape, or itself. -/
def unescape : Bytes → Bytes
  | 0x2B :: rest => 0x20 :: unescape rest
  | 0x25 :: h :: l :: rest =>
    match Text.hexValue? (Char.ofNat h.toNat), Text.hexValue? (Char.ofNat l.toNat) with
    | some a, some b => UInt8.ofNat (a * 16 + b) :: unescape rest
    | _, _ => 0x25 :: unescape (h :: l :: rest)
  | b :: rest => b :: unescape rest
  | [] => []

/-- The text of a written name or value. -/
def decodeText (bytes : Bytes) : String :=
  Text.decodeLossy (unescape bytes)

/-- Pieces between occurrences of a byte. -/
def splitBytes (sep : UInt8) : Bytes → List Bytes
  | [] => [[]]
  | b :: bs =>
    if b = sep then [] :: splitBytes sep bs
    else
      match splitBytes sep bs with
      | [] => [[b]]
      | piece :: rest => (b :: piece) :: rest

/-- Reads pairs; a piece without `=` has an empty value, an empty piece is no pair. -/
def decode (bytes : Bytes) : List (String × String) :=
  ((splitBytes 0x26 bytes).filter (· ≠ [])).map fun piece =>
    let name := piece.takeWhile (· ≠ 0x3D)
    (decodeText name, decodeText (piece.drop (name.length + 1)))

/-- Whether a byte is written as itself. -/
def isPlain (b : UInt8) : Bool :=
  (0x30 ≤ b && b ≤ 0x39) || (0x41 ≤ b && b ≤ 0x5A) || (0x61 ≤ b && b ≤ 0x7A) || b == 0x2A ||
    b == 0x2D || b == 0x2E || b == 0x5F

def upperHexDigit (n : Nat) : Char := (Text.hexDigit n).toUpper

/-- The written form of a byte. -/
def escapeByte (b : UInt8) : List Char :=
  if b = 0x20 then ['+']
  else if isPlain b then [Char.ofNat b.toNat]
  else ['%', upperHexDigit (b.toNat / 16), upperHexDigit (b.toNat % 16)]

def encodeText (s : String) : String :=
  String.ofList ((Text.encode s).flatMap escapeByte)

/-- Writes pairs. -/
def encode (pairs : List (String × String)) : String :=
  "&".intercalate (pairs.map fun (k, v) => encodeText k ++ "=" ++ encodeText v)

end HttpService.Form
