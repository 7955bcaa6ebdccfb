import HttpService.Address.Ip
import HttpService.Address.Punycode

/-!
# Host names

The ASCII form of a domain: characters are mapped to lower case and to their plain forms, and labels
that keep characters beyond ASCII are written in Punycode. Hosts of common schemes are domains or
addresses; other schemes take any text without delimiters.
-/

set_option autoImplicit false

namespace HttpService.Address

/-- Characters that a domain drops. -/
def isDropped (n : Nat) : Bool :=
  n == 0xAD || n == 0x34F || n == 0x180B || n == 0x180C || n == 0x180D || n == 0x180F ||
    n == 0x200B || n == 0x2060 || n == 0x2064 || n == 0xFEFF || (0xFE00 ≤ n && n ≤ 0xFE0F)

/-- Characters that no domain holds. -/
def isDisallowed (n : Nat) : Bool :=
  (0x80 ≤ n && n ≤ 0xA0) || n == 0xA8 || n == 0xAF || n == 0xB4 || n == 0xB8 ||
    (0x2000 ≤ n && n ≤ 0x200A) || n == 0x200C || n == 0x200D || n == 0x200E || n == 0x200F ||
    (0x2028 ≤ n && n ≤ 0x202F) || n == 0x205F || (0x2061 ≤ n && n ≤ 0x206F) || n == 0x3000 ||
    (0xE000 ≤ n && n ≤ 0xF8FF) || (0xFFF0 ≤ n && n ≤ 0xFFFF) || 0xE0000 ≤ n

/-- The mapped form of a character of a domain. -/
def mapChar (c : Char) : List Char :=
  let n := c.toNat
  if n < 0x80 then [c.toLower]
  else if isDropped n then []
  else if n = 0x3002 ∨ n = 0xFF0E ∨ n = 0xFF61 then ['.']
  else if 0xFF01 ≤ n ∧ n ≤ 0xFF5E then [(Char.ofNat (n - 0xFEE0)).toLower]
  else Text.toLower c

/-- The ASCII form of a mapped label; a label that claims to be one must be readable. -/
def labelToAscii? (label : List Char) : Option (List Char) :=
  match label with
  | 'x' :: 'n' :: '-' :: '-' :: rest =>
    match Punycode.decode? rest with
    | some decoded => if decoded.any (0x80 ≤ ·.toNat) && label.all (·.toNat < 0x80) then some label
      else none
    | none => none
  | _ =>
    if label.all (·.toNat < 0x80) then some label
    else if label.any (isDisallowed ·.toNat) then none
    else some ("xn--".toList ++ Punycode.encode label)

/-- The ASCII form of a domain; characters that `denied` names may not occur in it. -/
def domainToAscii? (denied : Char → Bool) (domain : List Char) : Option (List Char) := do
  let labels ← (Text.splitChars '.' (domain.flatMap mapChar)).mapM labelToAscii?
  let ascii := (List.intersperse ['.'] labels).flatten
  if ascii.any denied then none else some ascii

/-- ASCII characters that no domain of a common scheme holds. -/
def isForbidden (c : Char) : Bool :=
  c.toNat ≤ 0x20 || c.toNat == 0x7F || "#/:<>?@[\\]^|%".toList.contains c

/-- Undoes percent escapes; what is no escape stays. -/
def percentDecode : Bytes → Bytes
  | 0x25 :: h :: l :: rest =>
    match Text.hexValue? (Char.ofNat h.toNat), Text.hexValue? (Char.ofNat l.toNat) with
    | some a, some b => UInt8.ofNat (a * 16 + b) :: percentDecode rest
    | _, _ => 0x25 :: percentDecode (h :: l :: rest)
  | b :: rest => b :: percentDecode rest
  | [] => []

/-! ## Addresses written as numbers -/

/-- The value of a part: decimal, octal after `0`, hexadecimal after `0x`. -/
def numberPart? (cs : List Char) : Option Nat :=
  let value (base : Nat) (ds : List Char) : Option Nat :=
    ds.foldlM (fun n c => do
      let d ← Text.hexValue? c
      if d < base then some (n * base + d) else none) 0
  match cs with
  | [] => none
  | '0' :: x :: rest => if x = 'x' ∨ x = 'X' then value 16 rest else value 8 (x :: rest)
  | _ => value 10 cs

/-- Whether a domain has to be read as an address. -/
def endsInNumber (domain : List Char) : Bool :=
  match (Text.splitChars '.' domain).reverse with
  | [] => false
  | [] :: [] => false
  | [] :: last :: _ => isNumber last
  | last :: _ => isNumber last
where
  isNumber (cs : List Char) : Bool := (!cs.isEmpty && cs.all Char.isDigit) || (numberPart? cs).isSome

/-- Whether dotted numbers are an address: the last fills what the others leave. -/
def isNumericV4 (domain : List Char) : Bool :=
  let parts := Text.splitChars '.' domain
  let parts := if parts.getLast? = some [] then parts.dropLast else parts
  match parts.mapM numberPart? with
  | none => false
  | some ns =>
    match ns.reverse with
    | [] => false
    | last :: others => ns.length ≤ 4 && others.all (· ≤ 255) && last < Nat.pow 256 (4 - others.length)

/-- Whether a text in brackets is an address. -/
def isBracketed (host : List Char) : Bool :=
  host.getLast? == some ']' && isV6 ((host.drop 1).dropLast)

/-- Whether a text is a host of a common scheme. -/
def isHost (host : List Char) : Bool :=
  if host.head? = some '[' then isBracketed host
  else
    match Text.decode? (percentDecode (Text.encode (String.ofList host))) with
    | none => false
    | some decoded =>
      match domainToAscii? isForbidden decoded.toList with
      | none => false
      | some [] => false
      | some ascii => if endsInNumber ascii then isNumericV4 ascii else true

/-- Whether a text is a host of another scheme. -/
def isOpaqueHost (host : List Char) : Bool :=
  if host.head? = some '[' then isBracketed host
  else !host.any fun c => "\x00\t\n\r #/:<>?@[\\]^|".toList.contains c

end HttpService.Address
