import HttpService.Derive.Token
import HttpService.Text.Split

/-!
# Attributes of a declaration

An attribute is a path with arguments. Three kinds say something about a member: `tag` carries its
metadata, `doc` its documentation and `serde` its name on the wire. `Tags.text` joins the metadata of
all `tag` attributes into the one text that `Tag.parse` reads.
-/

set_option autoImplicit false

namespace HttpService.Derive

/-- Why nothing is derived from a declaration. -/
inductive Fault
  /-- An attribute that needs arguments has none. -/
  | noArguments (name : String)
  /-- An attribute has a value in place of arguments in parentheses. -/
  | notParenthesised (name : String)
  /-- Something follows the single text of a tag. -/
  | singleTag
  /-- Another token was expected, or any token at all where the input ended. -/
  | expected (what : String) (atEnd : Bool)
  | unexpected
  | unreadable
  /-- A struct with several positions instead of named fields. -/
  | tuple
  /-- A variant that holds values. -/
  | payload
  | union
  /-- Arguments given to a controller. -/
  | arguments
  /-- A controller that implements a trait. -/
  | traitBlock
  | genericBlock
  deriving DecidableEq, Repr

namespace Fault

def message : Fault → String
  | noArguments name => "expected attribute arguments in parentheses: #[" ++ name ++ "(...)]"
  | notParenthesised name => "expected parentheses: #[" ++ name ++ "(...)]"
  | singleTag => "expected a single tag string"
  | expected what false => "expected " ++ what
  | expected what true => "unexpected end of input, expected " ++ what
  | unexpected => "unexpected token"
  | unreadable => "cannot parse string into token stream"
  | tuple => "Reflect supports newtype structs only, not tuples"
  | payload => "Reflect supports enums with unit variants only"
  | union => "Reflect cannot be derived for unions"
  | arguments => "#[controller] takes no arguments"
  | traitBlock => "#[controller] goes on an inherent impl block"
  | genericBlock => "#[controller] does not support generic impl blocks"

end Fault

/-- What follows the path of an attribute. -/
inductive Arguments
  | none
  | value (tokens : List Token)
  | list (tokens : List Token)
  deriving DecidableEq, Repr

/-- An attribute; a path that starts with `::` has an empty first part. -/
structure Attribute where
  path : List String
  arguments : Arguments
  deriving DecidableEq, Repr

/-- The tokens of several comma-separated arguments. -/
def listed (args : List (List Token)) : List Token :=
  List.flatten (args.intersperse [.mark ","])

/-- The tokens of `name = "text"`. -/
def assigned (name text : String) : List Token :=
  (Token.read? name).getD [] ++ [.mark "=", .ofText text]

/-- A path of words at the front and the tokens after it. -/
def readPath? : List Token → Option (List String × List Token)
  | .word n :: .mark "::" :: rest => (readPath? rest).map fun (ns, after) => (n :: ns, after)
  | .word n :: rest => some ([n], rest)
  | _ => none

/-- A path that may start with `::`. -/
def readName? : List Token → Option (List String × List Token)
  | .mark "::" :: rest => (readPath? rest).map fun (ns, after) => ("" :: ns, after)
  | ts => readPath? ts

namespace Attribute

/-- Reads what stands between the brackets of an attribute. -/
def read (source : String) : Except Fault Attribute :=
  match Token.read? source with
  | none => .error .unreadable
  | some ts =>
    match readName? ts with
    | none => .error (.expected "identifier" ts.isEmpty)
    | some (path, []) => .ok ⟨path, .none⟩
    | some (_, [.mark "="]) => .error (.expected "an expression" true)
    | some (path, .mark "=" :: value) => .ok ⟨path, .value value⟩
    | some (path, t :: rest) =>
      if t.opens then
        match Token.takeGroup 0 rest with
        | some (inner, []) => .ok ⟨path, .list inner⟩
        | some _ => .error .unexpected
        | none => .error .unreadable
      else .error .unexpected

/-- What stands between the commas of a list, and after the last one. -/
def rawPieces (ts : List Token) : List (List Token) :=
  Token.splitAt "," Token.opens Token.closes 0 [] ts

/-- The comma-separated arguments of a list. -/
def pieces (ts : List Token) : List (List Token) :=
  Token.dropTrailing (rawPieces ts)

end Attribute

/-! ## Metadata -/

/-- The metadata of one `tag` attribute: a raw text, or pairs of a key and a text. -/
inductive Tags
  | raw (text : String)
  | pairs (items : List (String × String))
  deriving DecidableEq, Repr

namespace Tags

/-- A key without the mark of a raw word. -/
def plainKey (key : String) : String :=
  (Text.dropFront? "r#" key).getD key

/-- Backslashes and quotes each get a backslash. -/
def escape (value : String) : String :=
  Text.replace (Text.replace value "\\" "\\\\") "\"" "\\\""

/-- A pair as an item `key:"value"`. -/
def item : String × String → String
  | (key, value) => plainKey key ++ ":\"" ++ escape value ++ "\""

def items : Tags → List String
  | raw text => [text]
  | pairs ps => ps.map item

/-- The metadata of a member, joined over its attributes. -/
def text (tags : List Tags) : String :=
  Text.join " " (tags.flatMap items)

/-- One pair; `last` says whether the input ends after it. -/
def readPair (last : Bool) : List Token → Except Fault (String × String)
  | .word key :: .mark "=" :: .literal _ (some value) :: rest =>
    if rest.isEmpty then .ok (key, value) else .error (.expected "\x60,\x60" false)
  | .word _ :: .mark "=" :: rest => .error (.expected "string literal" (last && rest.isEmpty))
  | .word _ :: _ => .error (.expected "\x60=\x60" false)
  | _ => .error (.expected "ident" false)

/-- All pairs; only the last piece can end the input, and nothing after the last comma is no pair. -/
def readPairs : List (List Token) → Except Fault (List (String × String))
  | [] => .ok []
  | [[]] => .ok []
  | piece :: rest => do
    let pair ← readPair rest.isEmpty piece
    let pairs ← readPairs rest
    return pair :: pairs

/-- The metadata in the arguments of a `tag` attribute. -/
def read : Arguments → Except Fault Tags
  | .none => .error (.noArguments "tag")
  | .value _ => .error (.notParenthesised "tag")
  | .list [.literal _ (some s)] => .ok (raw s)
  | .list (.literal _ (some _) :: _) => .error .singleTag
  | .list ts => (readPairs (Attribute.rawPieces ts)).map pairs

/-- The metadata text of a member. -/
def ofAttributes (attrs : List Attribute) : Except Fault String := do
  let tags ← (attrs.filter (·.path = ["tag"])).mapM fun a => read a.arguments
  return text tags

end Tags

/-! ## Documentation -/

/-- One line of documentation; only a plain text is one. -/
def docLine? (a : Attribute) : Option String :=
  match a.path, a.arguments with
  | ["doc"], .value [.literal _ (some s)] => some (Text.trim s)
  | _, _ => none

/-- The lines of documentation that are not empty, joined by spaces. -/
def docText (attrs : List Attribute) : String :=
  Text.join " " ((attrs.filterMap docLine?).filter (· ≠ ""))

/-! ## Names on the wire -/

/-- What the `serde` attributes say of a member or of the whole type. -/
structure WireName where
  rename : Option String := none
  renameAll : Option String := none
  skip : Bool := false
  deriving DecidableEq, Repr

namespace WireName

/-- The text given to `serialize`, as far as the arguments can be read, and whether all could. -/
def readSerialize (found : Option String) : List (List Token) → Option String × Bool
  | [] => (found, true)
  | piece :: rest =>
    match readName? piece with
    | some (path, [.mark "=", .literal _ (some s)]) =>
      readSerialize (if path = ["serialize"] then some s else found) rest
    | some (path, .mark "=" :: .literal _ (some s) :: _) =>
      (if path = ["serialize"] then some s else found, false)
    | _ => (found, false)

/-- A name given as `= "text"` or `(serialize = "text", ..)`, and whether all could be read. -/
def readNew (old : Option String) : List Token → Option String × Bool
  | .mark "=" :: .literal _ (some s) :: rest => (some s, rest.isEmpty)
  | .mark "(" :: rest =>
    match Token.takeGroup 0 rest with
    | some (inner, after) =>
      let (new, complete) := readSerialize old (Attribute.pieces inner)
      (new, complete && !inner.isEmpty && after.isEmpty)
    | none => (old, false)
  | _ => (old, false)

/-- Whether what follows the name of an argument that does not matter here is well formed. -/
def isValue : List Token → Bool
  | [] => true
  | .mark "=" :: rest => !rest.isEmpty
  | .mark "(" :: rest =>
    match Token.takeGroup 0 rest with
    | some (_, after) => after.isEmpty
    | none => false
  | _ => false

/-- What the arguments of one attribute add; the first malformed one ends the reading, and what was
read before stays. -/
def readPieces (w : WireName) : List (List Token) → WireName
  | [] => w
  | piece :: rest =>
    match readName? piece with
    | none => w
    | some (path, value) =>
      let (w, complete) :=
        if path = ["rename"] then
          let (new, complete) := readNew w.rename value
          ({ w with rename := new }, complete)
        else if path = ["rename_all"] then
          let (new, complete) := readNew w.renameAll value
          ({ w with renameAll := new }, complete)
        else if path = ["skip"] ∨ path = ["skip_serializing"] then
          ({ w with skip := true }, value.isEmpty)
        else (w, isValue value)
      if complete then readPieces w rest else w

/-- What all `serde` attributes say together; a later one overrides. -/
def ofAttributes (attrs : List Attribute) : WireName :=
  attrs.foldl
    (fun w a =>
      match a.path, a.arguments with
      | ["serde"], .list ts => readPieces w (Attribute.pieces ts)
      | _, _ => w)
    {}

end WireName

end HttpService.Derive
