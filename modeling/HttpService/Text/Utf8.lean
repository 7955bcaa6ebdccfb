/-!
# Bytes and UTF-8

`scan` reads bytes as UTF-8 and marks each maximal ill-formed part once. Strict decoding refuses
marks; lossy decoding shows each as U+FFFD.
-/

set_option autoImplicit false

namespace HttpService

/-- A byte string. -/
abbrev Bytes := List UInt8

namespace Text

/-- The UTF-8 form of a text. -/
def encode (s : String) : Bytes :=
  s.toUTF8.data.toList

/-- A started sequence: the bits read, how many bytes are missing, and the range the next byte must
be in. -/
structure Started where
  value : Nat
  missing : Nat
  low : UInt8
  high : UInt8

/-- What a byte starts. -/
inductive Lead
  | char (c : Char)
  | started (s : Started)
  | broken

/-- The first byte fixes the length and, against overlong forms and surrogates, the range of the
second byte. -/
def lead (b : UInt8) : Lead :=
  if b < 0x80 then .char (Char.ofNat b.toNat)
  else if b < 0xC2 then .broken
  else if b < 0xE0 then .started ⟨b.toNat - 0xC0, 1, 0x80, 0xBF⟩
  else if b < 0xF0 then
    .started ⟨b.toNat - 0xE0, 2, if b == 0xE0 then 0xA0 else 0x80, if b == 0xED then 0x9F else 0xBF⟩
  else if b < 0xF5 then
    .started ⟨b.toNat - 0xF0, 3, if b == 0xF0 then 0x90 else 0x80, if b == 0xF4 then 0x8F else 0xBF⟩
  else .broken

/-- The characters of a byte string, `none` for each maximal ill-formed part. -/
def scan : Option Started → Bytes → List (Option Char)
  | none, [] => []
  | some _, [] => [none]
  | none, b :: bs =>
    match lead b with
    | .char c => some c :: scan none bs
    | .started s => scan (some s) bs
    | .broken => none :: scan none bs
  | some s, b :: bs =>
    if s.low ≤ b ∧ b ≤ s.high then
      let value := s.value * 64 + (b.toNat - 0x80)
      if s.missing ≤ 1 then some (Char.ofNat value) :: scan none bs
      else scan (some ⟨value, s.missing - 1, 0x80, 0xBF⟩) bs
    else
      none :: match lead b with
        | .char c => some c :: scan none bs
        | .started s => scan (some s) bs
        | .broken => none :: scan none bs

/-- The characters of a well-formed byte string. -/
def allChars? : List (Option Char) → Option (List Char)
  | [] => some []
  | none :: _ => none
  | some c :: rest => (allChars? rest).map (c :: ·)

/-- The text of well-formed UTF-8. -/
def decode? (bytes : Bytes) : Option String :=
  (allChars? (scan none bytes)).map String.ofList

/-- The text of any bytes, with U+FFFD for each ill-formed part. -/
def decodeLossy (bytes : Bytes) : String :=
  String.ofList ((scan none bytes).map (·.getD (Char.ofNat 0xFFFD)))

/-! ## Hexadecimal -/

/-- The value of a hexadecimal digit in either case. -/
def hexValue? (c : Char) : Option Nat :=
  if c.isDigit then some (c.toNat - '0'.toNat)
  else if 'a' ≤ c ∧ c ≤ 'f' then some (c.toNat - 'a'.toNat + 10)
  else if 'A' ≤ c ∧ c ≤ 'F' then some (c.toNat - 'A'.toNat + 10)
  else none

/-- The lower-case digit of a value below 16. -/
def hexDigit (n : Nat) : Char :=
  if n < 10 then Char.ofNat ('0'.toNat + n) else Char.ofNat ('a'.toNat + (n - 10))

/-- Bytes as pairs of lower-case digits. -/
def toHex (bytes : Bytes) : String :=
  String.ofList (bytes.flatMap fun b => [hexDigit (b.toNat / 16), hexDigit (b.toNat % 16)])

/-- Reads pairs of hexadecimal digits. -/
def ofHexChars? : List Char → Option Bytes
  | [] => some []
  | [_] => none
  | hi :: lo :: rest => do
    let h ← hexValue? hi
    let l ← hexValue? lo
    let bytes ← ofHexChars? rest
    return UInt8.ofNat (h * 16 + l) :: bytes

/-- Reads pairs of hexadecimal digits. -/
def ofHex? (s : String) : Option Bytes :=
  ofHexChars? s.toList

end Text

end HttpService
