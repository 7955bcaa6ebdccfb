import HttpService.Json.Basic
import HttpService.Text.Utf8
import HttpService.Decimal.Read

/-!
# Reading JSON

The reader works on bytes and reports where it stopped as a line and a column. Lines and columns
count bytes; most faults are reported just after the byte they are about. Containers nest less than
128 deep, and of members with one key the last stays.

Doubles are read fast, not exactly: the first digits that fit 64 bits are scaled by one correctly
rounded power of ten.
-/

set_option autoImplicit false

namespace HttpService.Json

/-- Why a text is not JSON. -/
inductive Reason
  | eofList | eofObject | eofString | eofValue
  | expectedColon | expectedListEnd | expectedObjectEnd | expectedIdent | expectedValue
  | invalidEscape | invalidNumber | numberOutOfRange | invalidCodePoint | controlCharacter
  | keyMustBeString | loneSurrogate | trailingComma | trailingCharacters | endOfHexEscape
  | tooDeep
  deriving DecidableEq, Repr

/-- The wording of a reason. -/
def Reason.message : Reason → String
  | .eofList => "EOF while parsing a list"
  | .eofObject => "EOF while parsing an object"
  | .eofString => "EOF while parsing a string"
  | .eofValue => "EOF while parsing a value"
  | .expectedColon => "expected `:`"
  | .expectedListEnd => "expected `,` or `]`"
  | .expectedObjectEnd => "expected `,` or `\x7d`"
  | .expectedIdent => "expected ident"
  | .expectedValue => "expected value"
  | .invalidEscape => "invalid escape"
  | .invalidNumber => "invalid number"
  | .numberOutOfRange => "number out of range"
  | .invalidCodePoint => "invalid unicode code point"
  | .controlCharacter => "control character (\\u0000-\\u001F) found while parsing a string"
  | .keyMustBeString => "key must be a string"
  | .loneSurrogate => "lone leading surrogate in hex escape"
  | .trailingComma => "trailing comma"
  | .trailingCharacters => "trailing characters"
  | .endOfHexEscape => "unexpected end of hex escape"
  | .tooDeep => "recursion limit exceeded"

/-- A reason and the number of unread bytes at the place it is reported for. -/
structure Fault where
  reason : Reason
  unread : Nat

/-- A fault reported for the place before `rest`. -/
def fault {α : Type} (reason : Reason) (rest : Bytes) : Except Fault α :=
  .error ⟨reason, rest.length⟩

/-- A fault reported for the place after the first byte of `rest`. -/
def faultAfter {α : Type} (reason : Reason) (rest : Bytes) : Except Fault α :=
  .error ⟨reason, rest.length - 1⟩

def isSpace (b : UInt8) : Bool :=
  b == 0x20 || b == 0x0A || b == 0x09 || b == 0x0D

def isDigit (b : UInt8) : Bool :=
  0x30 ≤ b && b ≤ 0x39

def digitValue (b : UInt8) : Nat :=
  b.toNat - 0x30

/-! ## Numbers -/

/-- Appends digits to a significand while it stays below `2 ^ 64`; gives the significand and the
digits left over. -/
def accumulate (significand : Nat) : Bytes → Nat × Bytes
  | [] => (significand, [])
  | d :: ds =>
    let next := significand * 10 + digitValue d
    if next < Nat.pow 2 64 then accumulate next ds else (significand, d :: ds)

/-- A power of ten that is a double. -/
def power (n : Nat) : Float := Float.ofScientific 1 false n

/-- Scales by powers of ten down to the range of doubles. -/
def scaleDown : Nat → Float → Nat → Float
  | 0, f, _ => f
  | fuel + 1, f, n =>
    if n ≤ 308 then f / power n
    else if f == 0.0 then f
    else scaleDown fuel (f / power 308) (n - 308)

/-- The double of a significand and a decimal exponent. -/
def scale (negative : Bool) (significand : Nat) (exponent : Int) (rest : Bytes) :
    Except Fault Number :=
  let f := significand.toUInt64.toFloat
  if exponent < 0 then
    let x := scaleDown 4 f exponent.natAbs
    .ok (.float (if negative then -x else x))
  else if exponent ≤ 308 then
    let x := f * power exponent.natAbs
    if x.isInf then fault .numberOutOfRange rest
    else .ok (.float (if negative then -x else x))
  else if f == 0.0 then .ok (.float (if negative then -f else f))
  else fault .numberOutOfRange rest

/-- Exponents are read while they stay below `2 ^ 31`. -/
def exponentLimit : Nat := Nat.pow 2 31

/-- Reads exponent digits; `none` once they pass the limit, with the bytes after the digit that did. -/
def exponentDigits (exponent : Nat) : Bytes → Option Nat × Bytes
  | [] => (some exponent, [])
  | b :: bs =>
    if isDigit b then
      let next := exponent * 10 + digitValue b
      if next < exponentLimit then exponentDigits next bs else (none, bs)
    else (some exponent, b :: bs)

/-- The exponent part, after its letter. -/
def readExponent (negative : Bool) (significand : Nat) (start : Int) (bs : Bytes) : Except Fault (Number × Bytes) :=
  let (down, bs) : Bool × Bytes := match bs with
    | 0x2B :: rest => (false, rest)
    | 0x2D :: rest => (true, rest)
    | _ => (false, bs)
  match bs with
  | [] => fault .eofValue []
  | b :: rest =>
    if isDigit b then
      match exponentDigits (digitValue b) rest with
      | (some e, rest) => do
        let x ← scale negative significand (if down then start - e else start + e) rest
        return (x, rest)
      | (none, rest) =>
        if significand ≠ 0 ∧ ¬down then fault .numberOutOfRange rest
        else .ok (.float (if negative then -0.0 else 0.0), rest.dropWhile isDigit)
    else fault .invalidNumber rest

/-- What follows the integer digits of a double. -/
def readFraction (negative : Bool) (significand : Nat) (start : Int) (bs : Bytes) : Except Fault (Number × Bytes) :=
  match bs with
  | 0x2E :: rest =>
    let digits := rest.takeWhile isDigit
    let after := rest.dropWhile isDigit
    if digits.isEmpty then
      match rest with
      | [] => faultAfter .eofValue rest
      | _ => faultAfter .invalidNumber rest
    else
      let (significand, cut) := accumulate significand digits
      let exponent := start - (digits.length - cut.length : Nat)
      finish significand exponent after
  | _ => finish significand start bs
where
  finish (significand : Nat) (exponent : Int) (bs : Bytes) : Except Fault (Number × Bytes) :=
    match bs with
    | 0x65 :: rest => readExponent negative significand exponent rest
    | 0x45 :: rest => readExponent negative significand exponent rest
    | _ => do
      let x ← scale negative significand exponent bs
      return (x, bs)

/-- Whether a byte continues a number after its integer digits. -/
def continues : Bytes → Bool
  | b :: _ => b == 0x2E || b == 0x65 || b == 0x45
  | [] => false

/-- A number after its sign. -/
def readNumber (negative : Bool) (bs : Bytes) : Except Fault (Number × Bytes) :=
  match bs with
  | [] => fault .eofValue []
  | b :: rest =>
    if ¬isDigit b then fault .invalidNumber rest
    else if b == 0x30 ∧ (rest.head?.map isDigit).getD false then faultAfter .invalidNumber rest
    else
      let digits := bs.takeWhile isDigit
      let after := bs.dropWhile isDigit
      let (significand, cut) := accumulate 0 digits
      if ¬cut.isEmpty ∨ continues after then readFraction negative significand cut.length after
      else if ¬negative then .ok (.int significand, after)
      else if 0 < significand ∧ significand ≤ Nat.pow 2 63 then .ok (.int (-significand), after)
      else .ok (.float (-significand.toUInt64.toFloat), after)

/-! ## Strings -/

/-- The value of four hexadecimal digits. -/
def readHex (bs : Bytes) : Except Fault (Nat × Bytes) :=
  match bs with
  | a :: b :: c :: d :: rest =>
    let digit (x : UInt8) := Text.hexValue? (Char.ofNat x.toNat)
    match digit a, digit b, digit c, digit d with
    | some a, some b, some c, some d => .ok (((a * 16 + b) * 16 + c) * 16 + d, rest)
    | _, _, _, _ => fault .invalidEscape rest
  | _ => fault .eofString []

/-- The character of an escape by code, after its letter: a surrogate needs its partner. -/
def readCode (bs : Bytes) : Except Fault (Char × Bytes) := do
  let (n, rest) ← readHex bs
  if 0xDC00 ≤ n ∧ n ≤ 0xDFFF then fault .loneSurrogate rest
  else if n < 0xD800 ∨ 0xDBFF < n then return (Char.ofNat n, rest)
  else
    match rest with
    | [] => fault .eofString []
    | [0x5C] => fault .eofString []
    | 0x5C :: 0x75 :: rest =>
      let (m, rest) ← readHex rest
      if m < 0xDC00 ∨ 0xDFFF < m then fault .loneSurrogate rest
      else return (Char.ofNat ((n - 0xD800) * 1024 + (m - 0xDC00) + 0x10000), rest)
    | 0x5C :: _ :: rest => fault .endOfHexEscape rest
    | _ :: rest => fault .endOfHexEscape rest

/-- The rest of a string; `seen` holds its bytes so far in reverse. -/
def readString : Nat → Bytes → Bytes → Except Fault (String × Bytes)
  | 0, _, _ => fault .eofString []
  | fuel + 1, seen, bs =>
    match bs with
    | [] => fault .eofString []
    | 0x22 :: rest =>
      match Text.decode? seen.reverse with
      | some s => .ok (s, rest)
      | none => fault .invalidCodePoint (0x22 :: rest)
    | 0x5C :: rest =>
      match rest with
      | [] => fault .eofString []
      | 0x75 :: rest => do
        let (c, rest) ← readCode rest
        readString fuel ((Text.encode (String.singleton c)).reverse ++ seen) rest
      | e :: rest =>
        match letter? e with
        | some b => readString fuel (b :: seen) rest
        | none => fault .invalidEscape rest
    | b :: rest => if b < 0x20 then fault .controlCharacter rest else readString fuel (b :: seen) rest
where
  letter? (e : UInt8) : Option UInt8 :=
    if e == 0x22 || e == 0x5C || e == 0x2F then some e
    else if e == 0x62 then some 0x08
    else if e == 0x66 then some 0x0C
    else if e == 0x6E then some 0x0A
    else if e == 0x72 then some 0x0D
    else if e == 0x74 then some 0x09
    else none

/-! ## Values -/

/-- Reads the rest of a word byte by byte. -/
def readWord (value : Json) : Bytes → Bytes → Except Fault (Json × Bytes)
  | [], rest => .ok (value, rest)
  | _ :: _, [] => fault .eofValue []
  | b :: bs, c :: rest => if b = c then readWord value bs rest else fault .expectedIdent rest

mutual

/-- Reads a value; `depth` containers may still be opened, less one. -/
def readValue : Nat → Nat → Bytes → Except Fault (Json × Bytes)
  | 0, _, _ => fault .eofValue []
  | fuel + 1, depth, bs =>
    match bs.dropWhile isSpace with
    | [] => faultAfter .eofValue []
    | b :: rest =>
      if b == 0x6E then readWord .null [0x75, 0x6C, 0x6C] rest
      else if b == 0x74 then readWord (.bool true) [0x72, 0x75, 0x65] rest
      else if b == 0x66 then readWord (.bool false) [0x61, 0x6C, 0x73, 0x65] rest
      else if b == 0x2D then (readNumber true rest).map fun (n, rest) => (.num n, rest)
      else if isDigit b then (readNumber false (b :: rest)).map fun (n, rest) => (.num n, rest)
      else if b == 0x22 then
        (readString (rest.length + 1) [] rest).map fun (s, rest) => (.str s, rest)
      else if b == 0x5B then
        if depth ≤ 1 then faultAfter .tooDeep (b :: rest) else readItems fuel (depth - 1) [] rest
      else if b == 0x7B then
        if depth ≤ 1 then faultAfter .tooDeep (b :: rest) else readMembers fuel (depth - 1) none rest
      else faultAfter .expectedValue (b :: rest)

/-- Reads the items of an array up to its end; `seen` holds those read in reverse. -/
def readItems : Nat → Nat → List Json → Bytes → Except Fault (Json × Bytes)
  | 0, _, _, _ => fault .eofList []
  | fuel + 1, depth, seen, bs =>
    match bs.dropWhile isSpace with
    | [] => faultAfter .eofList []
    | 0x5D :: rest => .ok (.arr seen.reverse, rest)
    | b :: rest =>
      if seen.isEmpty then do
        let (v, rest) ← readValue fuel depth (b :: rest)
        readItems fuel depth [v] rest
      else if b == 0x2C then
        match rest.dropWhile isSpace with
        | [] => faultAfter .eofValue []
        | 0x5D :: rest => faultAfter .trailingComma (0x5D :: rest)
        | rest => do
          let (v, rest) ← readValue fuel depth rest
          readItems fuel depth (v :: seen) rest
      else faultAfter .expectedListEnd (b :: rest)

/-- Reads the members of an object up to its end; `seen` is `none` before the first. -/
def readMembers : Nat → Nat → Option (List (String × Json)) → Bytes → Except Fault (Json × Bytes)
  | 0, _, _, _ => fault .eofObject []
  | fuel + 1, depth, seen, bs =>
    match bs.dropWhile isSpace with
    | [] => faultAfter .eofObject []
    | 0x7D :: rest => .ok (.obj (seen.getD []), rest)
    | b :: rest =>
      match seen with
      | none =>
        if b == 0x22 then readMember fuel depth [] rest
        else faultAfter .keyMustBeString (b :: rest)
      | some members =>
        if b == 0x2C then
          match rest.dropWhile isSpace with
          | [] => faultAfter .eofValue []
          | 0x22 :: rest => readMember fuel depth members rest
          | 0x7D :: rest => faultAfter .trailingComma (0x7D :: rest)
          | rest => faultAfter .keyMustBeString rest
        else faultAfter .expectedObjectEnd (b :: rest)

/-- Reads one member after the opening quote of its key, then the others. -/
def readMember : Nat → Nat → List (String × Json) → Bytes → Except Fault (Json × Bytes)
  | 0, _, _, _ => fault .eofObject []
  | fuel + 1, depth, members, bs => do
    let (key, rest) ← readString (bs.length + 1) [] bs
    match rest.dropWhile isSpace with
    | [] => faultAfter .eofObject []
    | 0x3A :: rest =>
      let (v, rest) ← readValue fuel depth rest
      readMembers fuel depth (some (Assoc.insert key v members)) rest
    | rest => faultAfter .expectedColon rest

end

/-- Why and where a text is not JSON. -/
structure ParseError where
  reason : Reason
  line : Nat
  column : Nat
  deriving DecidableEq, Repr

/-- The wording of an error, with its place. -/
def ParseError.message (e : ParseError) : String :=
  e.reason.message ++ " at line " ++ toString e.line ++ " column " ++ toString e.column

/-- The line and the column after `consumed` bytes. -/
def ParseError.at (text : Bytes) (f : Fault) : ParseError :=
  let consumed := text.take (text.length - f.unread)
  ⟨f.reason, 1 + consumed.count 0x0A, (consumed.reverse.takeWhile (· ≠ 0x0A)).length⟩

/-- How many containers a text may nest, plus one. -/
def nesting : Nat := 128

/-- Reads a whole text as one value. -/
def parse (text : Bytes) : Except ParseError Json :=
  match readValue (3 * text.length + 3) nesting text with
  | .error f => .error (.at text f)
  | .ok (v, rest) =>
    match rest.dropWhile isSpace with
    | [] => .ok v
    | rest => .error (.at text ⟨.trailingCharacters, rest.length - 1⟩)

end HttpService.Json
