import HttpService.Http.Form
import HttpService.Http.MediaType
import HttpService.Text.Quoted

/-!
# Multipart forms

Parts between lines of a boundary, each with headers of its own and any bytes. What stands before the
first boundary and after the closing one does not count.
-/

set_option autoImplicit false

namespace HttpService.Multipart

/-- Why a multipart body cannot be read. -/
inductive Fault
  | contentType
  | notMultipart
  | noBoundary
  | incomplete
  | headers
  | incompleteField (name : Option String)
  deriving DecidableEq, Repr

/-- The wording of a fault. -/
def Fault.message : Fault → String
  | .contentType => "failed to decode Content-Type"
  | .notMultipart => "Content-Type is not multipart/form-data"
  | .noBoundary => "multipart boundary not found in Content-Type"
  | .incomplete => "incomplete multipart stream"
  | .headers => "failed to read headers"
  | .incompleteField name =>
    "field " ++ Text.quoted (name.getD "<unknown>") ++ " received with incomplete data"

/-- The boundary that a content type names. -/
def boundary (contentType : String) : Except Fault String :=
  match MediaType.parse? contentType with
  | none => .error .contentType
  | some (type, params) =>
    if type ≠ "multipart/form-data" then .error .notMultipart
    else
      match params.lookup "boundary" with
      | none => .error .noBoundary
      | some b => .ok b

/-- The bytes before the first occurrence of a pattern, and those from it on. -/
def cutAt? (pattern : Bytes) : Bytes → Option (Bytes × Bytes)
  | [] => if pattern.isEmpty then some ([], []) else none
  | b :: bs =>
    if pattern.isPrefixOf (b :: bs) then some ([], b :: bs)
    else (cutAt? pattern bs).map fun (before, rest) => (b :: before, rest)

def crlf : Bytes := [13, 10]

def dashes : Bytes := [45, 45]

/-! ## Headers of a part -/

/-- Spaces and tabs. -/
def isBlank (b : UInt8) : Bool := b == 0x20 || b == 9

/-- Spaces, tabs and line ends. -/
def isSpace (b : UInt8) : Bool := isBlank b || b == 10 || b == 12 || b == 13

/-- Bytes without those of a class at both ends. -/
def trimBy (p : UInt8 → Bool) (bytes : Bytes) : Bytes :=
  ((bytes.dropWhile p).reverse.dropWhile p).reverse

/-- Reads one header line: a name in lower case and a value without control characters. -/
def headerLine? (line : Bytes) : Option (String × Bytes) :=
  let name := (line.takeWhile (· ≠ 0x3A)).map fun b => Char.ofNat b.toNat
  match line.drop name.length with
  | [] => none
  | _ :: rest =>
    let value := trimBy isBlank rest
    if name.isEmpty || !name.all MediaType.isTokenChar then none
    else if value.any fun b => b < 0x20 && b != 9 || b == 0x7F then none
    else some (String.ofList (name.map Char.toLower), value)

/-- A line without the carriage return at its end. -/
def dropReturn (line : Bytes) : Bytes :=
  if line.getLast? = some 13 then line.dropLast else line

/-- The lines up to the first empty one; a line may end in a line feed alone. -/
def headerLines (bytes : Bytes) : List Bytes :=
  ((Form.splitBytes 10 bytes).map dropReturn).takeWhile (· ≠ [])

/-- The most headers a part may have. -/
def maxHeaders : Nat := 32

def headers? (bytes : Bytes) : Option (List (String × Bytes)) :=
  let lines := headerLines bytes
  if maxHeaders < lines.length then none else lines.mapM headerLine?

/-- A quoted text up to the first quote that no backslash precedes, with such quotes unescaped. -/
def quoted? (previous : UInt8) : Bytes → Option Bytes
  | [] => none
  | 0x22 :: bs => if previous = 0x5C then (quoted? 0x22 bs).map (0x22 :: ·) else some []
  | 0x5C :: 0x22 :: bs => quoted? 0x5C (0x22 :: bs)
  | b :: bs => (quoted? b bs).map (b :: ·)

/-- What follows a mark that only spaces precede. -/
def after? (mark : UInt8) (bytes : Bytes) : Option Bytes :=
  match bytes.dropWhile isSpace with
  | b :: rest => if b = mark then some rest else none
  | [] => none

/-- The value of an attribute, from its equals sign on: quoted, or up to a semicolon or a space. -/
def attributeValue? (bytes : Bytes) : Option Bytes :=
  (after? 0x3D bytes).bind fun rest =>
    match after? 0x22 rest with
    | some rest => quoted? 0x20 rest
    | none => some ((rest.dropWhile isSpace).takeWhile fun b => b != 0x3B && b != 0x20)

/-- The value of the attribute `name`; `free` tells whether an attribute may start here. -/
def nameFrom? (free : Bool) : Bytes → Option Bytes
  | 0x6E :: 0x61 :: 0x6D :: 0x65 :: rest =>
    if free then attributeValue? rest else nameFrom? true rest
  | b :: rest => nameFrom? (isSpace b || b == 0x3B) rest
  | [] => none

/-- The field name of a part. -/
def fieldName? (headers : List (String × Bytes)) : Option String :=
  ((headers.lookup "content-disposition").bind (nameFrom? true)).bind Text.decode?

/-! ## Parts -/

/-- A fault, told apart by whether it arose inside a named part. -/
inductive Failed
  | stream (f : Fault)
  | field (name : String) (f : Fault)
  deriving DecidableEq, Repr

/-- Reads the parts that start after a boundary line; `fuel` bounds their count. -/
def partsFrom (boundary : Bytes) : Nat → Bytes → Except Failed (List (String × Bytes))
  | 0, _ => .error (.stream .incomplete)
  | fuel + 1, bytes =>
    let rest := bytes.drop (2 + boundary.length)
    if bytes.length < 2 + boundary.length ∨ rest.length < 2 then .error (.stream .incomplete)
    else if dashes.isPrefixOf rest then .ok []
    else
      let rest := rest.dropWhile fun b => b == 0x20 || b == 0x09
      if ¬crlf.isPrefixOf rest then .error (.stream .incomplete)
      else
        match cutAt? (crlf ++ crlf) (rest.drop 2) with
        | none => .error (.stream .incomplete)
        | some (head, rest) =>
          match headers? head with
          | none => .error (.stream .headers)
          | some headers =>
            let name := fieldName? headers
            match cutAt? (crlf ++ dashes ++ boundary) (rest.drop 4), name with
            | none, none => .error (.stream (.incompleteField none))
            | none, some n => .error (.field n (.incompleteField name))
            | some (_, rest), none => partsFrom boundary fuel (rest.drop 2)
            | some (data, rest), some n =>
              (partsFrom boundary fuel (rest.drop 2)).map ((n, data) :: ·)

/-- The named parts of a body. -/
def parts (contentType : String) (body : Bytes) : Except Failed (List (String × Bytes)) :=
  match boundary contentType with
  | .error f => .error (.stream f)
  | .ok b =>
    let b := Text.encode b
    match cutAt? (dashes ++ b) body with
    | none => .error (.stream .incomplete)
    | some (_, rest) => partsFrom b (body.length + 1) rest

end HttpService.Multipart
