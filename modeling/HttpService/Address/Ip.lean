import HttpService.Text.Split
import HttpService.Text.Utf8
import HttpService.Decimal.Read

/-!
# Internet addresses in text

Four decimal octets without leading zeros; and eight groups of up to four hexadecimal digits, of
which one run of zeros may be left out and the last two may be written as octets.
-/

set_option autoImplicit false

namespace HttpService.Address

/-- Whether a text is a decimal octet. -/
def isOctet (cs : List Char) : Bool :=
  !cs.isEmpty && cs.length ≤ 3 && cs.all Char.isDigit && Decimal.ofDigits cs ≤ 255 &&
    (cs.length == 1 || cs.head? != some '0')

/-- Whether a text is an address of four octets. -/
def isV4 (cs : List Char) : Bool :=
  let parts := Text.splitChars '.' cs
  parts.length == 4 && parts.all isOctet

/-- Whether a text is a group of hexadecimal digits. -/
def isGroup (cs : List Char) : Bool :=
  !cs.isEmpty && cs.length ≤ 4 && cs.all fun c => (Text.hexValue? c).isSome

/-- The number of groups written between colons, the last two perhaps as octets. -/
def groups? (octetsAllowed : Bool) (cs : List Char) : Option Nat :=
  if cs.isEmpty then some 0
  else
    let parts := Text.splitChars ':' cs
    if parts.all isGroup then some parts.length
    else
      match parts.reverse with
      | last :: rest =>
        if octetsAllowed && isV4 last && rest.all isGroup then some (rest.length + 2) else none
      | [] => none

/-- Cuts at the first pair of colons. -/
def cutGap? : List Char → Option (List Char × List Char)
  | [] => none
  | ':' :: ':' :: rest => some ([], rest)
  | c :: rest => (cutGap? rest).map fun (before, after) => (c :: before, after)

/-- Whether a text is an address of eight groups. -/
def isV6 (cs : List Char) : Bool :=
  match cutGap? cs with
  | none => groups? true cs == some 8
  | some (before, after) =>
    match groups? false before, groups? true after with
    | some m, some n => m + n ≤ 7
    | _, _ => false

/-- Whether a text is an address of either kind. -/
def isIp (cs : List Char) : Bool :=
  isV4 cs || isV6 cs

end HttpService.Address
