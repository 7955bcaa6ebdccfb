import HttpService.Shape

/-!
# Data types

The exact types that requests are decoded into. A shape documents a data type and forgets what the
wire cannot show: the width of a small integer, or that a set holds no item twice.
-/

set_option autoImplicit false

namespace HttpService

/-- The position of a record in its catalogue. -/
abbrev RecordId := Nat

/-- A data type. Records are named through a catalogue, so that they may refer to each other. -/
inductive Datatype
  | text
  | char
  | boolean
  | integer (bits : Nat) (signed : Bool)
  | number (width : Width)
  | bytes
  | any
  /-- The routing marker, read from anything. -/
  | marker
  | optional (inner : Datatype)
  | list (elem : Datatype)
  /-- A set, written in ascending order. -/
  | set (elem : Datatype)
  | map (value : Datatype)
  | enum (name : String) (variants : List String)
  | record (id : RecordId)
  deriving DecidableEq, Repr, Inhabited

/-- A field of a record. A skipped field is neither read nor written. -/
structure RecordField where
  name : String
  key : String
  tag : String
  doc : String
  skip : Bool
  type : Datatype
  deriving DecidableEq, Repr, Inhabited

/-- A record: its name and its fields in order. -/
structure Record where
  name : String
  fields : List RecordField
  deriving DecidableEq, Repr, Inhabited

/-- Records that may refer to each other by position. -/
structure Catalogue where
  records : List Record
  deriving Repr, Inhabited

/-- The record at a position; positions outside the catalogue hold an empty record. -/
def Catalogue.get (C : Catalogue) (id : RecordId) : Record :=
  C.records.getD id default

/-- The documented width of an integer of some bits. -/
def Width.ofBits (bits : Nat) : Width :=
  if bits ≤ 32 then .w32 else .w64

/-- The shape that documents a data type. -/
def Datatype.shape : Datatype → Shape
  | .text => .string
  | .char => .string
  | .boolean => .boolean
  | .integer bits signed => .integer (.ofBits bits) signed
  | .number width => .number width
  | .bytes => .bytes
  | .any => .any
  | .marker => .marker
  | .optional inner => .optional inner.shape
  | .list elem => .array elem.shape
  | .set elem => .array elem.shape
  | .map value => .map value.shape
  | .enum _ variants => .enum variants
  | .record id => .struct id

/-- The field that documents a record field. -/
def RecordField.field (f : RecordField) : Field :=
  ⟨f.name, f.key, f.tag, f.doc, f.skip, f.type.shape⟩

/-- The struct that documents a record. -/
def Record.struct (r : Record) : Struct :=
  ⟨r.name, r.fields.map RecordField.field⟩

/-- The structs that document a catalogue, at the same positions. -/
def Catalogue.family (C : Catalogue) : Family :=
  ⟨C.records.map Record.struct⟩

end HttpService
