import HttpService.Tag

/-!
# Scanning the bytes of a tag

`scan` reads a tag by the positions of its bytes and cuts keys and values out of it. A cut is refused that
leaves the tag or that goes through a character, and the scan fails with it. A byte behind a backslash is
skipped whatever it is: it can be the first of several bytes of a character, and there can be none.
-/

set_option autoImplicit false

namespace HttpService.Tag.Scanner

/-- Whether a byte goes on with a character that an earlier byte starts. -/
def goesOn (b : UInt8) : Bool :=
  0x80 ≤ b && b < 0xC0

/-- Whether a position is one between characters, or at an end. -/
def isBorder (bytes : Bytes) (pos : Nat) : Bool :=
  if h : pos < bytes.length then !goesOn bytes[pos] else pos == bytes.length

/-- The text between two positions; none if they are no borders of it. -/
def cut? (bytes : Bytes) (start stop : Nat) : Option String :=
  if start ≤ stop ∧ isBorder bytes start ∧ isBorder bytes stop then
    Text.decode? ((bytes.drop start).take (stop - start))
  else none

/-- The first position from `pos` on at which a test fails. -/
def skip (test : UInt8 → Bool) (bytes : Bytes) (pos : Nat) : Nat :=
  if h : pos < bytes.length then
    if test bytes[pos] then skip test bytes (pos + 1) else pos
  else pos
termination_by bytes.length - pos

def isSpace (b : UInt8) : Bool := b == 0x20

/-- The bytes of keys; those beyond ASCII are among them. -/
def isKeyByte (b : UInt8) : Bool :=
  0x20 < b && b != 0x3A && b != 0x22 && b != 0x7F

/-- Whether a colon and a quote stand at a position. -/
def opensValue (bytes : Bytes) (pos : Nat) : Bool :=
  if h : pos + 1 < bytes.length then bytes[pos] == 0x3A && bytes[pos + 1] == 0x22 else false

/-- The position of the quote that closes a value, or one behind the end. -/
def closing (bytes : Bytes) (pos : Nat) : Nat :=
  if h : pos < bytes.length then
    if bytes[pos] = 0x22 then pos
    else if bytes[pos] = 0x5C then closing bytes (pos + 2)
    else closing bytes (pos + 1)
  else pos
termination_by bytes.length - pos

/-- What stands where an item is expected. -/
inductive Step
  /-- Nothing that fits. -/
  | stop
  /-- An item, and the position behind it. -/
  | item (i : Item) (next : Nat)

/-- Reads the value between a position behind its first quote and the one of its last; none if a cut is
refused. -/
def valueStep? (bytes : Bytes) (key : String) (start quote : Nat) : Option Step :=
  if bytes.length ≤ quote then some .stop
  else (cut? bytes start quote).map fun raw =>
    match unquote? raw.toList with
    | none => .stop
    | some value => .item (key, String.ofList value) (quote + 1)

/-- Reads the item at a position whose key ends at another; none if a cut is refused. -/
def keyStep? (bytes : Bytes) (start colon : Nat) : Option Step :=
  if colon = start || !opensValue bytes colon then some .stop
  else (cut? bytes start colon).bind fun key =>
    valueStep? bytes key (colon + 2) (closing bytes (colon + 2))

/-- Reads the item at a position; none if a cut is refused. -/
def step? (bytes : Bytes) (start : Nat) : Option Step :=
  keyStep? bytes start (skip isKeyByte bytes start)

theorem le_skip (test : UInt8 → Bool) (bytes : Bytes) (pos : Nat) : pos ≤ skip test bytes pos := by
  fun_induction skip test bytes pos with
  | case1 pos _ _ ih => omega
  | case2 => exact Nat.le_refl _
  | case3 => exact Nat.le_refl _

theorem le_closing (bytes : Bytes) (pos : Nat) : pos ≤ closing bytes pos := by
  fun_induction closing bytes pos with
  | case1 => exact Nat.le_refl _
  | case2 pos _ _ _ ih => omega
  | case3 pos _ _ _ ih => omega
  | case4 => exact Nat.le_refl _

theorem next_of_valueStep? {bytes : Bytes} {key : String} {start quote next : Nat} {i : Item}
    (h : valueStep? bytes key start quote = some (.item i next)) : next = quote + 1 := by
  unfold valueStep? at h
  split at h
  · cases h
  · obtain ⟨raw, -, hraw⟩ := Option.map_eq_some_iff.1 h
    split at hraw
    · cases hraw
    · cases hraw
      rfl

/-- Behind an item the scan goes on further right. -/
theorem lt_of_step? {bytes : Bytes} {start next : Nat} {i : Item}
    (h : step? bytes start = some (.item i next)) : start < next := by
  unfold step? keyStep? at h
  split at h
  · cases h
  · obtain ⟨key, -, hvalue⟩ := Option.bind_eq_some_iff.1 h
    have hnext := next_of_valueStep? hvalue
    have hcolon := le_skip isKeyByte bytes start
    have hquote := le_closing bytes (skip isKeyByte bytes start + 2)
    omega

/-- The items from a position on; none if a cut is refused. -/
def scanFrom (bytes : Bytes) (pos : Nat) : Option (List Item) :=
  let start := skip isSpace bytes pos
  if bytes.length ≤ start then some []
  else
    match _h : step? bytes start with
    | none => none
    | some .stop => some []
    | some (.item i next) => (scanFrom bytes next).map (i :: ·)
termination_by bytes.length - pos
decreasing_by
  have := lt_of_step? _h
  have := le_skip isSpace bytes pos
  omega

/-- The items of a tag; none if a cut is refused. -/
def scan (tag : String) : Option (List Item) :=
  scanFrom (Text.encode tag) 0

end HttpService.Tag.Scanner
