import HttpService.Address.Host

/-!
# Mail addresses

A local part of at most 64 plain characters, `@`, and a domain of dotted labels, perhaps after
conversion to ASCII, or an address in brackets.
-/

set_option autoImplicit false

namespace HttpService.Address

/-- ASCII letters and digits, and the letters beyond ASCII that a letter of ASCII is a case of: the long
s and the Kelvin sign. -/
def isWordChar (c : Char) : Bool :=
  c.isAlphanum || c.toNat == 0x17F || c.toNat == 0x212A

def isLocalChar (c : Char) : Bool :=
  isWordChar c || ".!#$%&'*+/=?^_`\x7b|\x7d~-".toList.contains c

/-- Letters, digits and inner hyphens, at most 63. -/
def isLabel (cs : List Char) : Bool :=
  !cs.isEmpty && cs.length ≤ 63 && cs.all (fun c => isWordChar c || c == '-') &&
    cs.head? != some '-' && cs.getLast? != some '-'

/-- Whether a text ends in an address in brackets. -/
def endsInBracketed (domain : List Char) : Bool :=
  match domain.reverse with
  | ']' :: rest =>
    let inside := rest.takeWhile (· ≠ '[')
    inside.length < rest.length && !inside.isEmpty &&
      inside.all (fun c => (Text.hexValue? c).isSome || c == ':' || c == '.') && isIp inside.reverse
  | _ => false

def isMailDomain (domain : List Char) : Bool :=
  (Text.splitChars '.' domain).all isLabel || endsInBracketed domain

/-- Whether a text is a mail address. -/
def isEmail (text : String) : Bool :=
  let cs := text.toList
  if !cs.contains '@' then false
  else
    let domain := (cs.reverse.takeWhile (· ≠ '@')).reverse
    let user := cs.take (cs.length - domain.length - 1)
    user.length ≤ 64 && domain.length ≤ 255 && !user.isEmpty && user.all isLocalChar &&
      (isMailDomain domain ||
        match domainToAscii? (fun _ => false) domain with
        | some ascii => isMailDomain ascii
        | none => false)

end HttpService.Address
