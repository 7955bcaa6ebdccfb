import HttpService.Assoc
import HttpService.Text.Utf8

/-!
# Field tags

A tag is a sequence of items `key:"value"` with spaces between them. Reading is tolerant: it keeps
the items before the first one that does not fit.
-/

set_option autoImplicit false

namespace HttpService.Tag

/-- The characters of a key: no control character, space, colon, quote or DEL. -/
def isKeyChar (c : Char) : Bool :=
  ' ' < c && c != ':' && c != '"' && c.toNat != 0x7F

/-- The character named by hexadecimal digits, which a `+` may precede. -/
def codePoint? (digits : List Char) : Option Char := do
  let digits := match digits with
    | '+' :: rest => rest
    | _ => digits
  if digits.isEmpty then none
  let n ← digits.foldlM (fun n c => (Text.hexValue? c).map (n * 16 + ·)) 0
  if n < 0xD800 ∨ (0xDFFF < n ∧ n < 0x110000) then some (Char.ofNat n) else none

/-- The value behind its written form. A `u` takes the next four characters, or those that are
left. -/
def unquote? : List Char → Option (List Char)
  | [] => some []
  | '\\' :: 'u' :: a :: b :: c :: d :: rest => do
    let x ← codePoint? [a, b, c, d]
    return x :: (← unquote? rest)
  | '\\' :: 'u' :: rest => (codePoint? rest).map ([·])
  | ['\\'] => none
  | '\\' :: c :: rest => do
    let x ← letter? c
    return x :: (← unquote? rest)
  | c :: rest => (unquote? rest).map (c :: ·)
where
  letter? (c : Char) : Option Char :=
    if c = 'n' then some '\n'
    else if c = 't' then some '\t'
    else if c = 'r' then some '\r'
    else if c = '\\' ∨ c = '"' ∨ c = '\'' then some c
    else none

/-- Cuts at the first quote that no backslash precedes. -/
def closeQuote? : List Char → Option (List Char × List Char)
  | [] => none
  | '"' :: rest => some ([], rest)
  | ['\\'] => none
  | '\\' :: c :: rest => (closeQuote? rest).map fun (raw, after) => ('\\' :: c :: raw, after)
  | c :: rest => (closeQuote? rest).map fun (raw, after) => (c :: raw, after)

theorem closeQuote?_length {cs raw after : List Char} (h : closeQuote? cs = some (raw, after)) :
    after.length < cs.length := by
  fun_induction closeQuote? cs generalizing raw with
  | case1 => simp at h
  | case2 => simp_all
  | case3 => simp at h
  | case4 c rest ih =>
    obtain ⟨⟨r, a⟩, hr, he⟩ := Option.map_eq_some_iff.1 h
    obtain ⟨_, rfl⟩ := Prod.mk.injEq .. ▸ he
    have := ih hr
    simp
    omega
  | case5 c rest _ _ _ ih =>
    obtain ⟨⟨r, a⟩, hr, he⟩ := Option.map_eq_some_iff.1 h
    obtain ⟨_, rfl⟩ := Prod.mk.injEq .. ▸ he
    have := ih hr
    simp
    omega

/-- A key and a value. -/
abbrev Item := String × String

/-- Reads one item at the front. -/
def item? (cs : List Char) : Option (Item × List Char) :=
  match cs.takeWhile isKeyChar, cs.dropWhile isKeyChar with
  | [], _ => none
  | key, ':' :: '"' :: rest =>
    match closeQuote? rest with
    | none => none
    | some (raw, after) =>
      (unquote? raw).map fun value => ((String.ofList key, String.ofList value), after)
  | _, _ => none

theorem length_dropWhile_le {α : Type} (p : α → Bool) (l : List α) :
    (l.dropWhile p).length ≤ l.length := by
  induction l with
  | nil => simp
  | cons a l ih =>
    rw [List.dropWhile_cons]
    split
    · simp
      omega
    · simp

theorem item?_length {cs after : List Char} {i : Item} (h : item? cs = some (i, after)) :
    after.length < cs.length := by
  unfold item? at h
  split at h
  · simp at h
  · rename_i rest hd _
    split at h
    · simp at h
    · rename_i raw rest' hq
      obtain ⟨value, _, he⟩ := Option.map_eq_some_iff.1 h
      obtain ⟨_, rfl⟩ := Prod.mk.injEq .. ▸ he
      have h1 := closeQuote?_length hq
      have h2 := length_dropWhile_le isKeyChar cs
      rw [hd] at h2
      simp at h2
      omega
  · simp at h

/-- The items of a tag, up to the first that does not fit. -/
def items (cs : List Char) : List Item :=
  match _h : item? (cs.dropWhile (· = ' ')) with
  | none => []
  | some (i, after) => i :: items after
termination_by cs.length
decreasing_by
  have := item?_length _h
  have := length_dropWhile_le (fun c : Char => decide (c = ' ')) cs
  omega

/-- The items of a tag in order. -/
def parse (tag : String) : List Item :=
  items tag.toList

/-- The value of the first item with a key. -/
def lookup (tag key : String) : Option String :=
  Assoc.find? key (parse tag)

/-- The items as a map; the first item of a key counts. -/
def toMap (tag : String) : Assoc String :=
  (parse tag).foldl (fun m (k, v) => Assoc.insertNew k v m) []

end HttpService.Tag
