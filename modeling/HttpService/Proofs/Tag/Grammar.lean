import HttpService.Proofs.Derive.Tags
import Mathlib.Data.Bool.AllAny
import Mathlib.Data.List.Forall2

/-!
# The grammar of tags

A tag is written as a sequence of items `key:"value"` with blanks around them. `Form.Items` states the
grammar, for two forms that differ in what counts as a blank and in how a character is given by its code:
the conventional form, and the form that is read.

* `unquote?_written`, `closeQuote?_eq_some_iff`: a written value is found and means what the grammar says;
* `item?_written`, `exists_written`: `item?` reads just the items of the form that is read;
* `items_append`: a front part in this form is read as its items, whatever follows it;
* `items_longest`: so the longest such part is read, and nothing behind it.
-/

set_option autoImplicit false

namespace HttpService.Tag

/-! ## Written forms -/

/-- The characters of a key: all but control characters, the blank, the colon, the quote and DEL. -/
def KeyChar (c : Char) : Prop :=
  0x20 ≤ c.toNat ∧ c ≠ ' ' ∧ c ≠ ':' ∧ c ≠ '"' ∧ c.toNat ≠ 0x7F

instance (c : Char) : Decidable (KeyChar c) :=
  inferInstanceAs (Decidable (_ ∧ _))

/-- The characters that a backslash and a letter stand for. -/
def letters : List (Char × Char) :=
  [('n', '\n'), ('t', '\t'), ('r', '\r'), ('\\', '\\'), ('"', '"'), ('\'', '\'')]

/-- Hexadecimal digits that write a number. -/
def WritesHex (digits : List Char) (n : ℕ) : Prop :=
  ∃ values, List.Forall₂ (fun c v => Text.hexValue? c = some v) digits values ∧
    n = values.foldl (fun n v => n * 16 + v) 0

/-- What two forms of tags may differ in. -/
structure Form where
  /-- The characters that may stand around items. -/
  IsBlank : Char → Prop
  /-- How a character is given by its code behind `\u`, with what follows it in the value. -/
  IsCode : List Char → List Char → Char → Prop

/-- The digits of a code, which a `+` may precede. -/
def unsigned : List Char → List Char
  | '+' :: digits => digits
  | digits => digits

namespace Form

/-- Items are set apart by spaces, tabs and newlines, and a code has four digits. -/
def conventional : Form where
  IsBlank c := c = ' ' ∨ c = '\t' ∨ c = '\n'
  IsCode digits _ x := digits.length = 4 ∧ WritesHex digits x.toNat

/-- What is read: items are set apart by spaces, and a code takes the next four characters of the value, or
those that are left, the first of which may be a `+`. -/
def tolerated : Form where
  IsBlank c := c = ' '
  IsCode code after x :=
    (code.length = 4 ∨ code.length < 4 ∧ after = []) ∧
      unsigned code ≠ [] ∧ WritesHex (unsigned code) x.toNat

/-- A value as it is written between its quotes, and what it means. -/
inductive Value (f : Form) : List Char → List Char → Prop
  | nil : Value f [] []
  | plain {c : Char} {raw value : List Char} :
      c ≠ '"' → c ≠ '\\' → Value f raw value → Value f (c :: raw) (c :: value)
  | letter {c x : Char} {raw value : List Char} :
      (c, x) ∈ letters → Value f raw value → Value f ('\\' :: c :: raw) (x :: value)
  | code {digits : List Char} {x : Char} {raw value : List Char} :
      f.IsCode digits raw x → Value f raw value →
        Value f ('\\' :: 'u' :: (digits ++ raw)) (x :: value)

/-- A sequence of items as it is written, and the items. -/
inductive Items (f : Form) : List Char → List Item → Prop
  | nil : Items f [] []
  | blank {c : Char} {cs : List Char} {items : List Item} :
      f.IsBlank c → Items f cs items → Items f (c :: cs) items
  | item {key raw value cs : List Char} {items : List Item} :
      key ≠ [] → (∀ c ∈ key, KeyChar c) → Value f raw value → Items f cs items →
        Items f (key ++ ':' :: '"' :: (raw ++ '"' :: cs))
          ((String.ofList key, String.ofList value) :: items)

/-- The items of the longest front part of a text that is written in a form. -/
def Longest (f : Form) (cs : List Char) (items : List Item) : Prop :=
  ∃ front, front <+: cs ∧ f.Items front items ∧
    ∀ other others, other <+: cs → f.Items other others → other <+: front

end Form

/-! ## Characters -/

theorem isKeyChar_iff (c : Char) : isKeyChar c = true ↔ KeyChar c := by
  have hspace : ' ' < c ↔ 0x20 ≤ c.toNat ∧ c ≠ ' ' := by
    have hne : c ≠ ' ' ↔ c.toNat ≠ 0x20 := not_congr ⟨congrArg _, fun h => Char.toNat_inj.1 h⟩
    have hlt : ' ' < c ↔ 0x20 < c.toNat := Iff.rfl
    rw [hlt, hne]
    omega
  simp [isKeyChar, KeyChar, hspace, and_assoc]

theorem letter?_eq_some_iff (c x : Char) : unquote?.letter? c = some x ↔ (c, x) ∈ letters := by
  unfold unquote?.letter?
  split_ifs with h₁ h₂ h₃ h₄
  · simp [letters, h₁, eq_comm]
  · simp [letters, h₂, eq_comm]
  · simp [letters, h₃, eq_comm]
  · rcases h₄ with rfl | rfl | rfl <;> simp [letters, eq_comm]
  · simp_all [letters]

/-- Digits are read to the number that they write, behind digits read before. -/
theorem foldlM_hexValue? (cs : List Char) (m n : ℕ) :
    cs.foldlM (fun n c => (Text.hexValue? c).map (n * 16 + ·)) m = some n ↔
      ∃ values, List.Forall₂ (fun c v => Text.hexValue? c = some v) cs values ∧
        n = values.foldl (fun n v => n * 16 + v) m := by
  induction cs generalizing m with
  | nil => simp [eq_comm]
  | cons c cs ih =>
    rw [List.foldlM_cons]
    cases hc : Text.hexValue? c with
    | none => simp [hc, List.forall₂_cons_left_iff]
    | some v =>
      have hnext := ih (m * 16 + v)
      simp only [Option.map_some, Option.bind_eq_bind, Option.bind_some, hnext]
      constructor
      · rintro ⟨values, hvalues, hn⟩
        exact ⟨v :: values, .cons hc hvalues, hn⟩
      · rintro ⟨_, hvalues, hn⟩
        obtain ⟨w, values, hw, hrest, rfl⟩ := List.forall₂_cons_left_iff.1 hvalues
        cases hc.symm.trans hw
        exact ⟨values, hrest, hn⟩

theorem not_writesHex_plus (digits : List Char) (n : ℕ) : ¬ WritesHex ('+' :: digits) n := by
  rintro ⟨values, hvalues, -⟩
  obtain ⟨v, values, hv, -⟩ := List.forall₂_cons_left_iff.1 hvalues
  have hplus : Text.hexValue? '+' = none := rfl
  cases hplus.symm.trans hv

/-- A number is that of a character just if it lies in the two ranges of code points. -/
theorem ofNat_eq_iff {n : ℕ} {x : Char} :
    (n < 0xD800 ∨ 0xDFFF < n ∧ n < 0x110000) ∧ Char.ofNat n = x ↔ x.toNat = n := by
  constructor
  · rintro ⟨hvalid, rfl⟩
    have hchar : n.isValidChar := hvalid
    unfold Char.ofNat
    rw [dif_pos hchar]
    rfl
  · rintro rfl
    exact ⟨x.valid, Char.ofNat_toNat x⟩

theorem codePoint?_eq (code : List Char) :
    codePoint? code =
      if unsigned code = [] then none
      else ((unsigned code).foldlM (fun n c => (Text.hexValue? c).map (n * 16 + ·)) 0).bind fun n =>
        if n < 0xD800 ∨ 0xDFFF < n ∧ n < 0x110000 then some (Char.ofNat n) else none := by
  unfold codePoint? unsigned
  split <;> simp only [List.isEmpty_iff] <;> rfl

/-- A code point is read from the digits of its number. -/
theorem codePoint?_eq_some_iff (code : List Char) (x : Char) :
    codePoint? code = some x ↔ unsigned code ≠ [] ∧ WritesHex (unsigned code) x.toNat := by
  rw [codePoint?_eq]
  split_ifs with hempty
  · simp [hempty]
  · simp only [ne_eq, hempty, not_false_eq_true, true_and, Option.bind_eq_some_iff]
    constructor
    · rintro ⟨n, hn, hx⟩
      have hchar : x.toNat = n := ofNat_eq_iff.1 (by simpa using hx)
      rw [hchar]
      exact (foldlM_hexValue? _ 0 n).1 hn
    · intro hwrites
      obtain ⟨hvalid, hx⟩ := ofNat_eq_iff.2 (rfl : x.toNat = x.toNat)
      refine ⟨x.toNat, (foldlM_hexValue? _ 0 _).2 hwrites, ?_⟩
      rw [if_pos hvalid, hx]

/-! ## Values -/

/-- Text in which a backslash precedes every quote. -/
inductive Unquoted : List Char → Prop
  | nil : Unquoted []
  | plain {c : Char} {raw : List Char} : c ≠ '"' → c ≠ '\\' → Unquoted raw → Unquoted (c :: raw)
  | escape {c : Char} {raw : List Char} : Unquoted raw → Unquoted ('\\' :: c :: raw)

theorem closeQuote?_plain {c : Char} (hquote : c ≠ '"') (hslash : c ≠ '\\') (cs : List Char) :
    closeQuote? (c :: cs) = (closeQuote? cs).map fun (raw, after) => (c :: raw, after) := by
  rw [closeQuote?]
  · exact hquote
  · exact fun h _ => hslash h
  · exact fun _ _ h _ => hslash h

/-- A character to which neither case of a backslash applies is none. -/
theorem ne_backslash {c : Char} {rest : List Char} (hend : c = '\\' → rest = [] → False)
    (hmore : ∀ d ds, c = '\\' → rest = d :: ds → False) : c ≠ '\\' := by
  intro hc
  cases rest with
  | nil => exact hend hc rfl
  | cons d ds => exact hmore d ds hc rfl

/-- The closing quote is the first one that no backslash precedes. -/
theorem closeQuote?_eq_some_iff {cs raw after : List Char} :
    closeQuote? cs = some (raw, after) ↔ cs = raw ++ '"' :: after ∧ Unquoted raw := by
  constructor
  · intro h
    fun_induction closeQuote? cs generalizing raw with
    | case1 => cases h
    | case2 rest =>
      cases h
      exact ⟨rfl, .nil⟩
    | case3 => cases h
    | case4 c rest ih =>
      obtain ⟨⟨r, a⟩, hr, he⟩ := Option.map_eq_some_iff.1 h
      cases he
      obtain ⟨rfl, hclosed⟩ := ih hr
      exact ⟨rfl, .escape hclosed⟩
    | case5 c rest hquote hend hslash ih =>
      obtain ⟨⟨r, a⟩, hr, he⟩ := Option.map_eq_some_iff.1 h
      cases he
      obtain ⟨rfl, hclosed⟩ := ih hr
      exact ⟨rfl, .plain hquote (ne_backslash hend hslash) hclosed⟩
  · rintro ⟨rfl, hclosed⟩
    induction hclosed with
    | nil => rfl
    | plain hquote hslash _ ih => rw [List.cons_append, closeQuote?_plain hquote hslash, ih]; rfl
    | escape _ ih => rw [List.cons_append, List.cons_append, closeQuote?, ih]; rfl

/-- Characters of a code can end no value. -/
def IsInner (c : Char) : Prop :=
  c ≠ '"' ∧ c ≠ '\\'

instance (c : Char) : Decidable (IsInner c) :=
  inferInstanceAs (Decidable (_ ∧ _))

theorem isInner_of_hexValue? {c : Char} {v : ℕ} (h : Text.hexValue? c = some v) : IsInner c := by
  constructor <;> (rintro rfl; cases h)

theorem WritesHex.isInner {digits : List Char} {n : ℕ} (h : WritesHex digits n) :
    ∀ c ∈ digits, IsInner c := by
  obtain ⟨values, hvalues, -⟩ := h
  induction hvalues with
  | nil => exact nofun
  | cons hv _ ih => exact List.forall_mem_cons.2 ⟨isInner_of_hexValue? hv, ih⟩

theorem Unquoted.append {front raw : List Char} (hfront : ∀ c ∈ front, IsInner c) (h : Unquoted raw) :
    Unquoted (front ++ raw) := by
  induction front with
  | nil => exact h
  | cons c front ih =>
    obtain ⟨hc, hrest⟩ := List.forall_mem_cons.1 hfront
    exact .plain hc.1 hc.2 (ih hrest)

theorem Unquoted.tail {c : Char} {raw : List Char} (h : Unquoted (c :: raw)) (hc : c ≠ '\\') :
    Unquoted raw := by
  cases h with
  | plain _ _ hraw => exact hraw
  | escape => exact absurd rfl hc

theorem Unquoted.head {c : Char} {raw : List Char} (h : Unquoted (c :: raw)) (hc : c ≠ '\\') :
    c ≠ '"' := by
  cases h with
  | plain hquote _ _ => exact hquote
  | escape => exact absurd rfl hc

theorem Unquoted.behind {c : Char} {raw : List Char} (h : Unquoted ('\\' :: c :: raw)) :
    Unquoted raw := by
  cases h with
  | plain _ hslash _ => exact absurd rfl hslash
  | escape hraw => exact hraw

theorem Unquoted.of_append {front raw : List Char} (hfront : ∀ c ∈ front, IsInner c)
    (h : Unquoted (front ++ raw)) : Unquoted raw := by
  induction front with
  | nil => exact h
  | cons c front ih =>
    obtain ⟨hc, hrest⟩ := List.forall_mem_cons.1 hfront
    exact ih hrest (h.tail hc.2)

theorem isInner_of_codePoint? {code : List Char} {x : Char} (h : codePoint? code = some x) :
    ∀ c ∈ code, IsInner c := by
  obtain ⟨-, hwrites⟩ := (codePoint?_eq_some_iff code x).1 h
  unfold unsigned at hwrites
  split at hwrites
  · exact List.forall_mem_cons.2 ⟨by constructor <;> decide, hwrites.isInner⟩
  · exact hwrites.isInner

/-- Less than four characters behind `\u` are all that is left of the value. -/
theorem unquote?_short {code : List Char} (h : code.length < 4) :
    unquote? ('\\' :: 'u' :: code) = (codePoint? code).map ([·]) := by
  rcases code with _ | ⟨a, _ | ⟨b, _ | ⟨c, _ | ⟨d, rest⟩⟩⟩⟩
  iterate 4 rfl
  simp at h
  omega

namespace Form

theorem tolerated_isCode {code after : List Char} {x : Char} :
    tolerated.IsCode code after x ↔
      (code.length = 4 ∨ code.length < 4 ∧ after = []) ∧ codePoint? code = some x := by
  rw [codePoint?_eq_some_iff]
  rfl

/-- A code of four digits is one that is read. -/
theorem tolerated_of_conventional {digits after : List Char} {x : Char}
    (h : conventional.IsCode digits after x) : tolerated.IsCode digits after x := by
  obtain ⟨hfour, hwrites⟩ := h
  have hplain : unsigned digits = digits := by
    unfold unsigned
    split
    · exact absurd hwrites (not_writesHex_plus _ _)
    · rfl
  refine ⟨.inl hfour, ?_, ?_⟩
  · rw [hplain]
    rintro rfl
    cases hfour
  · rwa [hplain]

namespace Value

variable {raw value : List Char}

theorem of_isInner (f : Form) (h : ∀ c ∈ raw, IsInner c) : f.Value raw raw := by
  induction raw with
  | nil => exact .nil
  | cons c raw ih =>
    obtain ⟨hc, hrest⟩ := List.forall_mem_cons.1 h
    exact .plain hc.1 hc.2 (ih hrest)

theorem tolerated (h : conventional.Value raw value) : tolerated.Value raw value := by
  induction h with
  | nil => exact .nil
  | plain hquote hslash _ ih => exact .plain hquote hslash ih
  | letter hletter _ ih => exact .letter hletter ih
  | code hcode _ ih => exact .code (tolerated_of_conventional hcode) ih

theorem unquoted (h : Form.tolerated.Value raw value) : Unquoted raw := by
  induction h with
  | nil => exact .nil
  | plain hquote hslash _ ih => exact .plain hquote hslash ih
  | letter _ _ ih => exact .escape ih
  | code hcode _ ih =>
    exact .escape (ih.append (isInner_of_codePoint? (tolerated_isCode.1 hcode).2))

theorem unquote?_eq (h : Form.tolerated.Value raw value) : unquote? raw = some value := by
  induction h with
  | nil => rfl
  | plain hquote hslash _ ih => rw [unquote?, ih] <;> simp [hslash]
  | @letter c x raw value hletter _ ih =>
    have hu : c ≠ 'u' := by
      rintro rfl
      simp [letters] at hletter
    have hx := (letter?_eq_some_iff c x).2 hletter
    rw [unquote?] <;> simp [hu, hx, ih]
  | @code digits x raw value hcode _ ih =>
    obtain ⟨hlength, hx⟩ := tolerated_isCode.1 hcode
    rcases hlength with hfour | ⟨hfew, rfl⟩
    · obtain ⟨a, b, c, d, rfl⟩ := List.length_eq_four.1 hfour
      simp [unquote?, hx, ih]
    · cases ih
      rw [List.append_nil, unquote?_short hfew, hx, Option.map_some]

/-- What is read as a value is written as one. -/
theorem of_unquote? (hclosed : Unquoted raw) (h : unquote? raw = some value) :
    Form.tolerated.Value raw value := by
  fun_induction unquote? raw generalizing value with
  | case1 =>
    cases h
    exact .nil
  | case2 a b c d rest ih =>
    obtain ⟨x, hx, hrest⟩ := Option.bind_eq_some_iff.1 h
    obtain ⟨v, hv, he⟩ := Option.bind_eq_some_iff.1 hrest
    cases he
    have hinner : Unquoted ([a, b, c, d] ++ rest) := hclosed.behind
    exact @Form.Value.code _ [a, b, c, d] _ _ _ (tolerated_isCode.2 ⟨.inl rfl, hx⟩)
      (ih (hinner.of_append (isInner_of_codePoint? hx)) hv)
  | case3 rest hshort =>
    obtain ⟨x, hx, rfl⟩ := Option.map_eq_some_iff.1 h
    have hfew : rest.length < 4 := by
      rcases rest with _ | ⟨a, _ | ⟨b, _ | ⟨c, _ | ⟨d, rest⟩⟩⟩⟩
      iterate 4 simp
      exact absurd rfl (hshort a b c d rest)
    have hcode : Form.tolerated.Value ('\\' :: 'u' :: (rest ++ [])) [x] :=
      .code (tolerated_isCode.2 ⟨.inr ⟨hfew, rfl⟩, hx⟩) .nil
    rwa [List.append_nil] at hcode
  | case4 => cases h
  | case5 c rest _ _ ih =>
    obtain ⟨x, hx, hrest⟩ := Option.bind_eq_some_iff.1 h
    obtain ⟨v, hv, he⟩ := Option.bind_eq_some_iff.1 hrest
    cases he
    exact .letter ((letter?_eq_some_iff c x).1 hx) (ih hclosed.behind hv)
  | case6 c rest _ _ hend hslash ih =>
    obtain ⟨v, hv, rfl⟩ := Option.map_eq_some_iff.1 h
    have hplain : c ≠ '\\' := ne_backslash hend hslash
    exact .plain (hclosed.head hplain) hplain (ih (hclosed.tail hplain) hv)

end Value

end Form

/-! ## Items -/

theorem KeyChar.ne_blank {c : Char} (h : KeyChar c) : c ≠ ' ' := h.2.1

/-- A value without quotes and backslashes is written as it is, in every form. -/
theorem Form.Items.plain {f : Form} (key value : List Char) {cs : List Char} {items : List Item}
    (hne : key ≠ []) (hkey : key.all (KeyChar ·) = true) (hvalue : value.all (IsInner ·) = true)
    (h : f.Items cs items) :
    f.Items (key ++ ':' :: '"' :: (value ++ '"' :: cs))
      ((String.ofList key, String.ofList value) :: items) :=
  .item hne (List.all_iff_forall_prop.1 hkey) (.of_isInner f (List.all_iff_forall_prop.1 hvalue)) h

/-- A written item is read, whatever follows it. -/
theorem item?_written {key raw value : List Char} (hne : key ≠ []) (hkey : ∀ c ∈ key, KeyChar c)
    (hvalue : Form.tolerated.Value raw value) (rest : List Char) :
    item? (key ++ ':' :: '"' :: (raw ++ '"' :: rest)) =
      some ((String.ofList key, String.ofList value), rest) := by
  have hchars : ∀ c ∈ key, isKeyChar c = true := fun c hc => (isKeyChar_iff c).2 (hkey c hc)
  obtain ⟨c, cs, rfl⟩ := List.exists_cons_of_ne_nil hne
  have hclose := closeQuote?_eq_some_iff.2 ⟨(rfl : raw ++ '"' :: rest = raw ++ '"' :: rest), hvalue.unquoted⟩
  rw [item?, List.takeWhile_append_of_pos hchars, List.dropWhile_append_of_pos hchars,
    List.takeWhile_cons_of_neg (by decide), List.dropWhile_cons_of_neg (by decide), List.append_nil]
  simp only [hclose, hvalue.unquote?_eq, Option.map_some]

/-- What is read as an item is written as one. -/
theorem exists_written {cs after : List Char} {i : Item} (h : item? cs = some (i, after)) :
    ∃ key raw value, key ≠ [] ∧ (∀ c ∈ key, KeyChar c) ∧ Form.tolerated.Value raw value ∧
      cs = key ++ ':' :: '"' :: (raw ++ '"' :: after) ∧
      i = (String.ofList key, String.ofList value) := by
  have hsplit := List.takeWhile_append_dropWhile (p := isKeyChar) (l := cs)
  have hkey : ∀ c ∈ cs.takeWhile isKeyChar, KeyChar c := fun c hc =>
    (isKeyChar_iff c).1 (List.all_eq_true.1 List.all_takeWhile c hc)
  unfold item? at h
  split at h
  · cases h
  · rename_i rest hdrop hne
    split at h
    · cases h
    · rename_i raw after' hclose
      obtain ⟨value, hvalue, he⟩ := Option.map_eq_some_iff.1 h
      cases he
      obtain ⟨rfl, hclosed⟩ := closeQuote?_eq_some_iff.1 hclose
      refine ⟨cs.takeWhile isKeyChar, raw, value, ?_, hkey, .of_unquote? hclosed hvalue, ?_, rfl⟩
      · exact hne
      · rw [← hdrop]
        exact hsplit.symm
  · cases h

/-- No space stands in front of an item. -/
theorem dropWhile_of_item? {cs after : List Char} {i : Item} (h : item? cs = some (i, after)) :
    cs.dropWhile (· = ' ') = cs := by
  obtain ⟨key, raw, value, hne, hkey, -, rfl, -⟩ := exists_written h
  obtain ⟨c, key, rfl⟩ := List.exists_cons_of_ne_nil hne
  exact List.dropWhile_cons_of_neg (by simpa using (hkey c (.head _)).ne_blank)

theorem items_of_item? {cs after : List Char} {i : Item} (h : item? cs = some (i, after)) :
    items cs = i :: items after := by
  rw [items, dropWhile_of_item? h, h]

/-- What is left of a text behind the items that are read and the spaces after them. -/
def left (cs : List Char) : List Char :=
  match _h : item? (cs.dropWhile (· = ' ')) with
  | none => cs.dropWhile (· = ' ')
  | some (_, after) => left after
termination_by cs.length
decreasing_by
  have := item?_length _h
  have := length_dropWhile_le (fun c : Char => decide (c = ' ')) cs
  omega

theorem left_of_item? {cs after : List Char} {i : Item} (h : item? cs = some (i, after)) :
    left cs = left after := by
  rw [left, dropWhile_of_item? h, h]

theorem left_space (cs : List Char) : left (' ' :: cs) = left cs := by
  rw [left, left, List.dropWhile_cons_of_pos (by decide)]

/-- A front part is read as its items, whatever follows it. -/
theorem items_append {front : List Char} {read : List Item} (h : Form.tolerated.Items front read)
    (rest : List Char) :
    items (front ++ rest) = read ++ items rest ∧ left (front ++ rest) = left rest := by
  induction h with
  | nil => exact ⟨rfl, rfl⟩
  | blank hc _ ih =>
    cases hc
    rw [List.cons_append, Derive.items_space, left_space]
    exact ih
  | @item key raw value cs read hne hkey hvalue _ ih =>
    have hitem := item?_written hne hkey hvalue (cs ++ rest)
    have hsplit : key ++ ':' :: '"' :: (raw ++ '"' :: cs) ++ rest =
        key ++ ':' :: '"' :: (raw ++ '"' :: (cs ++ rest)) := by simp
    rw [hsplit, items_of_item? hitem, left_of_item? hitem, ih.1, ih.2]
    exact ⟨rfl, rfl⟩

theorem Form.Items.blanks {f : Form} {blanks cs : List Char} {read : List Item}
    (hblanks : ∀ c ∈ blanks, f.IsBlank c) (h : f.Items cs read) : f.Items (blanks ++ cs) read := by
  induction blanks with
  | nil => exact h
  | cons c blanks ih =>
    obtain ⟨hc, hrest⟩ := List.forall_mem_cons.1 hblanks
    exact .blank hc (ih hrest)

/-- Spaces in front of a written text. -/
theorem tolerated_of_dropWhile {cs front : List Char} {read : List Item} {rest : List Char}
    (hcs : cs.dropWhile (· = ' ') = front ++ rest) (h : Form.tolerated.Items front read) :
    ∃ longer, cs = longer ++ rest ∧ Form.tolerated.Items longer read := by
  refine ⟨cs.takeWhile (· = ' ') ++ front, ?_, .blanks (fun c hc => ?_) h⟩
  · rw [List.append_assoc, ← hcs, List.takeWhile_append_dropWhile]
  · exact of_decide_eq_true (p := c = ' ') (List.all_eq_true.1 List.all_takeWhile c hc)

/-- What is read of a text is a front part of it, and the rest is left. -/
theorem exists_front (cs : List Char) :
    ∃ front, cs = front ++ left cs ∧ Form.tolerated.Items front (items cs) := by
  fun_induction left cs with
  | case1 cs hnone =>
    have hread : items cs = [] := by rw [items, hnone]
    rw [hread]
    exact tolerated_of_dropWhile rfl .nil
  | case2 cs i after hsome ih =>
    obtain ⟨front, hafter, hitems⟩ := ih
    obtain ⟨key, raw, value, hne, hkey, hvalue, hcs, rfl⟩ := exists_written hsome
    have hread : items cs = (String.ofList key, String.ofList value) :: items after := by
      rw [items, hsome]
    rw [hread]
    have hsplit : cs.dropWhile (· = ' ') =
        key ++ ':' :: '"' :: (raw ++ '"' :: front) ++ left after := by
      rw [hcs]
      conv_lhs => rw [hafter]
      simp
    exact tolerated_of_dropWhile hsplit (.item hne hkey hvalue hitems)

/-- No front part that could be read reaches into what is left. -/
theorem prefix_of_items {cs front other : List Char} {others : List Item} (hcs : cs = front ++ left cs)
    (hother : other <+: cs) (h : Form.tolerated.Items other others) : other <+: front := by
  obtain ⟨rest, rfl⟩ := hother
  obtain ⟨between, hrest, -⟩ := exists_front rest
  have hleft := (items_append h rest).2
  have hfront : front ++ left rest = other ++ between ++ left rest :=
    calc front ++ left rest = other ++ rest := by rw [← hleft, ← hcs]
      _ = other ++ (between ++ left rest) := congrArg _ hrest
      _ = other ++ between ++ left rest := (List.append_assoc ..).symm
  rw [List.append_cancel_right hfront]
  exact List.prefix_append ..

/-- The longest front part that is written in the form that is read is read, and nothing behind it. -/
theorem items_longest (cs : List Char) : Form.tolerated.Longest cs (items cs) := by
  obtain ⟨front, hcs, hitems⟩ := exists_front cs
  exact ⟨front, ⟨left cs, hcs.symm⟩, hitems, fun _ _ hother h => prefix_of_items hcs hother h⟩

/-! ## The conventional form -/

theorem Form.Items.append {f : Form} {front more : List Char} {read others : List Item}
    (h : f.Items front read) (hmore : f.Items more others) :
    f.Items (front ++ more) (read ++ others) := by
  induction h with
  | nil => exact hmore
  | blank hc _ ih => exact .blank hc ih
  | item hne hkey hvalue _ ih => simpa using Form.Items.item hne hkey hvalue ih

/-- Neither a tab nor a newline stands behind items that are read. -/
def Apart (cs : List Char) : Prop :=
  ∀ front rest read, cs = front ++ rest → Form.tolerated.Items front read →
    rest.head? ≠ some '\t' ∧ rest.head? ≠ some '\n'

theorem Apart.behind {front cs : List Char} {read : List Item} (h : Apart (front ++ cs))
    (hfront : Form.tolerated.Items front read) : Apart cs := by
  intro more rest others hcs hmore
  refine h (front ++ more) rest (read ++ others) ?_ (hfront.append hmore)
  rw [hcs, List.append_assoc]

/-- Without tabs and newlines between them, conventional items are read. -/
theorem Apart.tolerated {front rest : List Char} {read : List Item} (hapart : Apart (front ++ rest))
    (h : Form.conventional.Items front read) : Form.tolerated.Items front read := by
  induction h with
  | nil => exact .nil
  | blank hc _ ih =>
    rcases hc with rfl | rfl | rfl
    · exact .blank rfl (ih (@Apart.behind [' '] _ _ hapart (.blank rfl .nil)))
    · exact absurd rfl (hapart [] _ [] rfl .nil).1
    · exact absurd rfl (hapart [] _ [] rfl .nil).2
  | @item key raw value cs read hne hkey hvalue _ ih =>
    have hfirst := Form.Items.item hne hkey hvalue.tolerated .nil
    refine .item hne hkey hvalue.tolerated (ih (Apart.behind ?_ hfirst))
    simpa using hapart

theorem left_of_not_keyChar {c : Char} (hspace : c ≠ ' ') (hkey : isKeyChar c = false) (cs : List Char) :
    left (c :: cs) = c :: cs := by
  have hdrop : (c :: cs).dropWhile (· = ' ') = c :: cs :=
    List.dropWhile_cons_of_neg (by simpa using hspace)
  have hnone : item? (c :: cs) = none := by
    rw [item?, List.takeWhile_cons_of_neg (by simp [hkey])]
  rw [left, hdrop, hnone]

/-- What is read of a text is written in the conventional form, and no tab or newline stands behind it. -/
structure Conventional (cs : List Char) : Prop where
  codes : ∃ front, cs = front ++ left cs ∧ Form.conventional.Items front (items cs)
  tab : (left cs).head? ≠ some '\t'
  newline : (left cs).head? ≠ some '\n'

theorem Conventional.apart {cs : List Char} (h : Conventional cs) : Apart cs := by
  intro front rest read hcs hfront
  have hleft : left cs = left rest := by
    rw [hcs]
    exact (items_append hfront rest).2
  have hstays {c : Char} (hspace : c ≠ ' ') (hkey : isKeyChar c = false) (hc : rest.head? = some c) :
      (left cs).head? = some c := by
    obtain ⟨more, rfl⟩ := List.head?_eq_some_iff.1 hc
    rw [hleft, left_of_not_keyChar hspace hkey, List.head?_cons]
  exact ⟨fun hc => h.tab (hstays (by decide) (by decide) hc),
    fun hc => h.newline (hstays (by decide) (by decide) hc)⟩

/-- **Tags are read by their grammar.** The items of a tag are those of its longest front part that is a
sequence of items with spaces around them, and so the reading stops at the first item that does not fit. If
the codes in it have four digits and no tab or newline stands behind it, it is the longest such part in the
conventional form too, in which tabs and newlines count as spaces. -/
theorem parse_longest (tag : String) :
    Form.tolerated.Longest tag.toList (parse tag) ∧
      (Conventional tag.toList → Form.conventional.Longest tag.toList (parse tag)) := by
  refine ⟨items_longest tag.toList, fun hconv => ?_⟩
  obtain ⟨front, htag, hitems⟩ := hconv.codes
  refine ⟨front, ⟨_, htag.symm⟩, hitems, ?_⟩
  rintro other others ⟨more, hother⟩ hothers
  have hapart : Apart (other ++ more) := hother.symm ▸ hconv.apart
  exact prefix_of_items htag ⟨more, hother⟩ (hapart.tolerated hothers)

/-- A code, escaped quotes, a tab inside a value, and then a word that is no item. -/
theorem items_before_word :
    let tag := "dc:\"caf\\u00e9 \\\"\" path:\"/a\tb\" lost"
    Conventional tag.toList ∧ parse tag = [("dc", "café \""), ("path", "/a\tb")] ∧
      Form.conventional.Longest tag.toList (parse tag) := by
  intro tag
  have hfirst : item? tag.toList = some (("dc", "café \""), " path:\"/a\tb\" lost".toList) := by
    unfold tag
    rfl
  have hsecond : item? "path:\"/a\tb\" lost".toList = some (("path", "/a\tb"), " lost".toList) := by rfl
  have hparse : parse tag = [("dc", "café \""), ("path", "/a\tb")] := by
    have hlost : items "lost".toList = [] := by
      rw [items]
      rfl
    rw [parse, items_of_item? hfirst]
    exact congrArg _ ((Derive.items_space _).trans
      ((items_of_item? hsecond).trans (congrArg _ ((Derive.items_space _).trans hlost))))
  have hleft : left tag.toList = "lost".toList := by
    have hlost : left "lost".toList = "lost".toList := by
      rw [left]
      rfl
    exact (left_of_item? hfirst).trans ((left_space _).trans
      ((left_of_item? hsecond).trans ((left_space _).trans hlost)))
  have hvalue : Form.conventional.Value "caf\\u00e9 \\\"".toList "café \"".toList := by
    have hcode : Form.conventional.IsCode "00e9".toList " \\\"".toList 'é' :=
      ⟨rfl, [0, 0, 14, 9], .cons rfl (.cons rfl (.cons rfl (.cons rfl .nil))), rfl⟩
    exact .plain (by decide) (by decide) (.plain (by decide) (by decide) (.plain (by decide) (by decide)
      (.code hcode (.plain (by decide) (by decide) (.letter (by decide) .nil)))))
  have hconv : Conventional tag.toList := by
    refine ⟨⟨"dc:\"caf\\u00e9 \\\"\" path:\"/a\tb\" ".toList, ?_, ?_⟩, ?_, ?_⟩
    · rw [hleft]
      unfold tag
      rfl
    · have hpath : Form.conventional.Items "path:\"/a\tb\" ".toList [("path", "/a\tb")] :=
        .plain "path".toList "/a\tb".toList (by decide) (by decide) (by decide) (.blank (.inl rfl) .nil)
      rw [← parse, hparse]
      exact @Form.Items.item _ "dc".toList _ _ _ _ (by decide) (List.all_iff_forall_prop.1 (by decide))
        hvalue (.blank (.inl rfl) hpath)
    · rw [hleft]
      decide
    · rw [hleft]
      decide
  exact ⟨hconv, hparse, (parse_longest tag).2 hconv⟩

theorem not_isBlank_of_keyChar {c : Char} (h : KeyChar c) : ¬ Form.conventional.IsBlank c := by
  rintro (rfl | rfl | rfl)
  · exact h.ne_blank rfl
  · exact absurd h.1 (by decide)
  · exact absurd h.1 (by decide)

theorem not_isBlank_of_key {key cs rest : List Char} {c : Char} (hne : key ≠ [])
    (hkey : ∀ c ∈ key, KeyChar c) (h : c :: cs = key ++ rest) : ¬ Form.conventional.IsBlank c := by
  obtain ⟨k, key, rfl⟩ := List.exists_cons_of_ne_nil hne
  cases h
  exact not_isBlank_of_keyChar (hkey _ (.head _))

/-- A conventional text has one list of items. -/
theorem Form.Items.unique {cs : List Char} {read others : List Item}
    (h : Form.conventional.Items cs read) (hothers : Form.conventional.Items cs others) :
    read = others := by
  induction h generalizing others with
  | nil =>
    generalize htext : ([] : List Char) = text at hothers
    cases hothers with
    | nil => rfl
    | blank => cases htext
    | item => simp at htext
  | @blank c cs read hc _ ih =>
    generalize htext : c :: cs = text at hothers
    cases hothers with
    | nil => cases htext
    | blank _ h =>
      cases htext
      exact ih h
    | item hne hkey => exact absurd hc (not_isBlank_of_key hne hkey htext)
  | @item key raw value cs read hne hkey hvalue _ ih =>
    generalize htext : key ++ ':' :: '"' :: (raw ++ '"' :: cs) = text at hothers
    cases hothers with
    | nil => simp at htext
    | blank hc => exact absurd hc (not_isBlank_of_key hne hkey htext.symm)
    | item hne' hkey' hvalue' h =>
      have hitem := item?_written hne hkey hvalue.tolerated cs
      rw [htext, item?_written hne' hkey' hvalue'.tolerated] at hitem
      simp only [Option.some.injEq, Prod.mk.injEq] at hitem
      obtain ⟨⟨hk, hv⟩, rfl⟩ := hitem
      rw [hk, hv, ih h]

/-- A conventional text that starts with an item, as far as key and quotes go, has a conventional value. -/
theorem Form.Items.value {front rest key raw after : List Char} {i : Item} {read : List Item}
    (h : Form.conventional.Items front (i :: read)) (hne : key ≠ []) (hkey : ∀ c ∈ key, KeyChar c)
    (hclosed : Unquoted raw) (htext : front ++ rest = key ++ ':' :: '"' :: (raw ++ '"' :: after)) :
    ∃ value, Form.conventional.Value raw value := by
  generalize hread : i :: read = all at h
  cases h with
  | nil => cases hread
  | blank hc => exact absurd hc (not_isBlank_of_key hne hkey htext)
  | @item key' raw' value cs _ _ hkey' hvalue =>
    have hcut {k t : List Char} (hk : ∀ c ∈ k, KeyChar c) :
        (k ++ ':' :: '"' :: t).dropWhile isKeyChar = ':' :: '"' :: t := by
      rw [List.dropWhile_append_of_pos fun c hc => (isKeyChar_iff c).2 (hk c hc)]
      exact List.dropWhile_cons_of_neg (by decide)
    have htail : raw' ++ '"' :: (cs ++ rest) = raw ++ '"' :: after := by
      have hdrop := congrArg (List.dropWhile isKeyChar) htext
      simpa [hcut hkey, hcut hkey'] using hdrop
    have hclose := closeQuote?_eq_some_iff.2 ⟨htail.symm, hvalue.tolerated.unquoted⟩
    rw [closeQuote?_eq_some_iff.2 ⟨rfl, hclosed⟩] at hclose
    cases hclose
    exact ⟨value, hvalue⟩

/-- A code of fewer than four digits has no value in the conventional form. -/
theorem not_value_short {code value : List Char} (hshort : code.length < 4) :
    ¬ Form.conventional.Value ('\\' :: 'u' :: code) value := by
  intro h
  generalize htext : '\\' :: 'u' :: code = text at h
  cases h with
  | nil => cases htext
  | plain _ hslash =>
    cases htext
    exact hslash rfl
  | letter hletter =>
    cases htext
    simp [letters] at hletter
  | code hcode =>
    cases htext
    have hfour := hcode.1
    simp at hshort
    omega

/-- Behind a tab the reading ends, although a conventional item follows; and a code of two digits is read,
although no conventional item is written so. -/
theorem not_read_conventionally :
    ¬ Form.conventional.Longest "path:\"/a\"\tmethod:\"get\"".toList
        (parse "path:\"/a\"\tmethod:\"get\"") ∧
      ¬ Form.conventional.Longest "dc:\"\\u41\"".toList (parse "dc:\"\\u41\"") := by
  constructor
  · rintro ⟨front, hfront, hitems, hlongest⟩
    have hread : parse "path:\"/a\"\tmethod:\"get\"" = [("path", "/a")] := by
      have hfirst : item? "path:\"/a\"\tmethod:\"get\"".toList =
        some (("path", "/a"), "\tmethod:\"get\"".toList) := by rfl
      rw [parse, items_of_item? hfirst, items]
      rfl
    have hall : Form.conventional.Items "path:\"/a\"\tmethod:\"get\"".toList
        [("path", "/a"), ("method", "get")] :=
      .plain "path".toList "/a".toList (by decide) (by decide) (by decide)
        (.blank (.inr (.inl rfl))
          (.plain "method".toList "get".toList (by decide) (by decide) (by decide) .nil))
    obtain rfl := hfront.eq_of_length_le (hlongest _ _ (List.prefix_refl _) hall).length_le
    cases hread ▸ hitems.unique hall
  · rintro ⟨front, ⟨rest, hrest⟩, hitems, -⟩
    have hread : parse "dc:\"\\u41\"" = [("dc", "A")] := by
      have hfirst : item? "dc:\"\\u41\"".toList = some (("dc", "A"), []) := by rfl
      rw [parse, items_of_item? hfirst, Derive.items_nil]
    rw [hread] at hitems
    have hclosed : Unquoted "\\u41".toList :=
      .escape (.plain (by decide) (by decide) (.plain (by decide) (by decide) .nil))
    obtain ⟨value, hvalue⟩ :=
      @Form.Items.value _ _ "dc".toList _ [] _ _ hitems (by decide) (List.all_iff_forall_prop.1 (by decide))
        hclosed hrest
    exact not_value_short (by decide) hvalue

end HttpService.Tag
