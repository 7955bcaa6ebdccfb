import HttpService.Text.Base64
import HttpService.Text.Quoted

/-!
# Sections of a key file

A key file holds sections between a `BEGIN` and an `END` line; what stands between them is base64 text.
Sections with a label that is not known are passed over. Reading stops at the first fault.
-/

set_option autoImplicit false

namespace HttpService.Pem

/-- A section: its label, and the bytes that its text stands for. -/
structure Section where
  label : String
  content : Bytes
  deriving DecidableEq, Repr

/-- Why a section cannot be read. -/
inductive Fault
  | missingEnd (marker : String)
  | illegalStart (line : String)
  | content (f : Base64.Fault)
  deriving DecidableEq, Repr

def Fault.message : Fault → String
  | .missingEnd marker => "section end " ++ Text.quoted marker ++ " missing"
  | .illegalStart line => "illegal section start: " ++ Text.quoted line
  | .content (.character c) =>
    "InvalidCharacter(" ++ toString ((Text.encode c.toString).headD 0).toNat ++ ")"
  | .content .padding => "InvalidTrailingPadding"

/-- The label of certificates. -/
def certificate : String := "CERTIFICATE"

/-- The labels of private keys. -/
def privateKeys : List String := ["RSA PRIVATE KEY", "PRIVATE KEY", "EC PRIVATE KEY"]

def knownLabels : List String :=
  certificate :: privateKeys ++ ["PUBLIC KEY", "X509 CRL", "CERTIFICATE REQUEST", "ECHCONFIG"]

/-- Lines with the character that ends each; `line` holds what has been read of the first one. -/
def linesFrom (line : List Char) : List Char → List (List Char)
  | [] => if line.isEmpty then [] else [line]
  | c :: cs =>
    if c = '\n' ∨ c = '\r' then (line ++ [c]) :: linesFrom [] cs else linesFrom (line ++ [c]) cs

/-- The label of a line that opens a section: five dashes end it. -/
def startLabel (line : List Char) : Except Fault String :=
  let trimmed := line.reverse.dropWhile fun c => c = '\n' || c = '\r' || c = ' '
  let dashes := (trimmed.takeWhile (· = '-')).length
  if dashes = 5 then .ok (String.ofList ((trimmed.drop 5).reverse.drop "-----BEGIN ".length))
  else .error (.illegalStart (String.ofList line))

def endMarker (label : String) : String :=
  "-----END " ++ label ++ "-----"

/-- The known sections, up to the first fault; `label` is that of the open section and `text` what
stands in it. -/
def sectionsFrom (label : Option String) (text : List Char) :
    List (List Char) → List (Except Fault Section)
  | [] => (label.map fun l => .error (.missingEnd (endMarker l))).toList
  | line :: lines =>
    if "-----BEGIN ".toList.isPrefixOf line then
      match startLabel line with
      | .ok l => sectionsFrom l text lines
      | .error e => [.error e]
    else
      match label with
      | none => sectionsFrom none text lines
      | some l =>
        if !(endMarker l).toList.isPrefixOf line then sectionsFrom label (text ++ line) lines
        else if !knownLabels.contains l then sectionsFrom none [] lines
        else
          match Base64.decode text with
          | .ok content => .ok ⟨l, content⟩ :: sectionsFrom none [] lines
          | .error e => [.error (.content e)]

/-- The known sections of a file, up to the first fault. -/
def sections (file : String) : List (Except Fault Section) :=
  sectionsFrom none [] (linesFrom [] file.toList)

/-- The certificates of a file; any fault in it counts. -/
def certificates (file : String) : Except Fault (List Bytes) := do
  let all ← (sections file).mapM id
  return (all.filter (·.label = certificate)).map (·.content)

/-- The first private key, if it comes before any fault. -/
def firstKey? : List (Except Fault Section) → Except Fault (Option Section)
  | [] => .ok none
  | .error e :: _ => .error e
  | .ok s :: rest => if privateKeys.contains s.label then .ok (some s) else firstKey? rest

/-- The first private key of a file. -/
def privateKey? (file : String) : Except Fault (Option Section) :=
  firstKey? (sections file)

end HttpService.Pem
