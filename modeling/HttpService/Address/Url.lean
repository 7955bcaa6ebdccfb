import HttpService.Address.Host
import HttpService.Text.Blank

/-!
# Addresses of resources

Whether a text is an absolute URL: a scheme, for common schemes or after two slashes an authority
with a host, and anything after it.
-/

set_option autoImplicit false

namespace HttpService.Address

/-- Schemes that always have a host. -/
def hostSchemes : List String := ["http", "https", "ws", "wss", "ftp"]

/-- The scheme, and what follows its colon. -/
def scheme? (cs : List Char) : Option (String × List Char) :=
  match cs with
  | [] => none
  | c :: _ =>
    let isPart (c : Char) : Bool := c.isAlphanum || c == '+' || c == '-' || c == '.'
    match cs.dropWhile isPart with
    | ':' :: rest =>
      if c.isAlpha then some (String.ofList ((cs.takeWhile isPart).map Char.toLower), rest) else none
    | _ => none

/-- Whether a character ends an authority. -/
def endsAuthority (special : Bool) (c : Char) : Bool :=
  c == '/' || c == '?' || c == '#' || (special && c == '\\')

/-- Cuts a host from what follows it; a colon inside brackets belongs to the host. -/
def cutHost (inside : Bool) : List Char → List Char × List Char
  | [] => ([], [])
  | c :: cs =>
    if c = ':' ∧ ¬inside then ([], c :: cs)
    else
      let (host, rest) := cutHost (if c = '[' then true else if c = ']' then false else inside) cs
      (c :: host, rest)

/-- Whether a text is empty or a port after its colon; a backslash ends a port. -/
def isPort : List Char → Bool
  | [] => true
  | c :: cs =>
    let after := cs.dropWhile Char.isDigit
    c == ':' && (after.isEmpty || after.head? == some '\\') &&
      Decimal.ofDigits (cs.takeWhile Char.isDigit) ≤ 65535

/-- The part before the last `@`, if there is one, and the part after it. -/
def cutUser (authority : List Char) : Option (List Char) × List Char :=
  let host := (authority.reverse.takeWhile (· ≠ '@')).reverse
  if authority.contains '@' then (some (authority.take (authority.length - host.length - 1)), host)
  else (none, host)

/-- Whether a host may be left out after a user part, with `rest` behind the authority. -/
def allowsNoHost (user : Option (List Char)) (rest : List Char) : Bool :=
  match user with
  | none => true
  | some [] => rest.isEmpty
  | some user => user == [':']

/-- Whether a text starts with a valid authority. -/
def hasAuthority (special : Bool) (cs : List Char) : Bool :=
  let authority := cs.takeWhile (!endsAuthority special ·)
  let rest := cs.dropWhile (!endsAuthority special ·)
  let (user, hostPort) := cutUser authority
  let (host, port) := cutHost false hostPort
  if host.isEmpty then !special && port.isEmpty && allowsNoHost user rest
  else (if special then isHost host else isOpaqueHost host) && isPort port

/-- Whether what follows `file:` is valid: a host may stand after two slashes. -/
def isFileRest : List Char → Bool
  | a :: b :: cs =>
    let isSlash (c : Char) : Bool := c == '/' || c == '\\'
    if isSlash a && isSlash b then
      match cs.takeWhile (!endsAuthority true ·) with
      | [] => true
      | [l, c] => (l.isAlpha && (c == ':' || c == '|')) || isHost [l, c]
      | host => isHost host
    else true
  | _ => true

/-- Whether a text is an absolute URL. Control characters and blanks around it do not count, nor do
tabs and line ends inside. -/
def isUrl (text : String) : Bool :=
  let trimmed := Text.trimBy (·.toNat ≤ 0x20) text.toList
  let cs := trimmed.filter fun c => c != '\t' && c != '\n' && c != '\r'
  match scheme? cs with
  | none => false
  | some (scheme, rest) =>
    if scheme = "file" then isFileRest rest
    else if hostSchemes.contains scheme then
      hasAuthority true (rest.dropWhile fun c => c == '/' || c == '\\')
    else
      match rest with
      | '/' :: '/' :: rest => hasAuthority false rest
      | _ => true

end HttpService.Address
