import HttpService.Http.Form
import HttpService.Proofs.Text.Utf8

/-!
# Reading forms back

A form that `encode` wrote is read as the pairs that it was written from (`decode_encode`). The bytes of
a written name or value are `escaped`, and none of them is a separator (`separators_not_mem`).
-/

set_option autoImplicit false

namespace HttpService.Form

open Text (utf8EncodeChar_ascii)

/-- The bytes of an escaped byte. -/
def escaped (b : UInt8) : Bytes :=
  (escapeByte b).flatMap String.utf8EncodeChar

def digitByte (n : Nat) : UInt8 :=
  UInt8.ofNat (upperHexDigit n).toNat

theorem hexValue?_digitByte {n : Nat} (h : n < 16) :
    Text.hexValue? (Char.ofNat (digitByte n).toNat) = some n := by
  interval_cases n <;> decide

theorem isPlain_digitByte {n : Nat} (h : n < 16) : isPlain (digitByte n) = true := by
  interval_cases n <;> decide

theorem utf8EncodeChar_upperHexDigit {n : Nat} (h : n < 16) :
    String.utf8EncodeChar (upperHexDigit n) = [digitByte n] := by
  refine utf8EncodeChar_ascii ?_
  interval_cases n <;> decide

theorem isPlain_lt {b : UInt8} (h : isPlain b = true) : b.toNat < 128 := by
  simp only [isPlain, Bool.or_eq_true, Bool.and_eq_true, decide_eq_true_eq, beq_iff_eq,
    UInt8.le_iff_toNat_le, ← UInt8.toNat_inj, UInt8.reduceToNat] at h
  omega

/-- How a byte is written: a space, itself, or an escape. -/
inductive Written (b : UInt8) : Bytes → Prop
  | space (h : b = 0x20) : Written b [0x2B]
  | plain (h : isPlain b = true) : Written b [b]
  | escape : Written b [0x25, digitByte (b.toNat / 16), digitByte (b.toNat % 16)]

theorem written_escaped (b : UInt8) : Written b (escaped b) := by
  have hb : b.toNat < 256 := b.toNat_lt
  unfold escaped escapeByte
  split
  · rename_i h
    exact .space h
  · split
    · rename_i h
      have hlt := isPlain_lt h
      have hcode : (Char.ofNat b.toNat).toNat = b.toNat := by
        rw [Char.ofNat, dif_pos (.inl (by omega))]
        rfl
      have hascii : (Char.ofNat b.toNat).toNat < 128 := by rwa [hcode]
      rw [List.flatMap_singleton, utf8EncodeChar_ascii hascii, hcode, UInt8.ofNat_toNat]
      exact .plain h
    · rw [List.flatMap_cons, List.flatMap_cons, List.flatMap_singleton,
        utf8EncodeChar_upperHexDigit (by omega), utf8EncodeChar_upperHexDigit (by omega)]
      exact .escape

/-! ## Names and values -/

theorem unescape_plus (rest : Bytes) : unescape (0x2B :: rest) = 0x20 :: unescape rest := by
  rw [unescape]

theorem unescape_of_ne {b : UInt8} (hplus : b ≠ 0x2B) (hpercent : b ≠ 0x25) (rest : Bytes) :
    unescape (b :: rest) = b :: unescape rest := by
  rw [unescape]
  · exact hplus
  · exact fun _ _ _ h => absurd h hpercent

theorem unescape_escape (b : UInt8) (rest : Bytes) :
    unescape (0x25 :: digitByte (b.toNat / 16) :: digitByte (b.toNat % 16) :: rest) =
      b :: unescape rest := by
  have hb : b.toNat < 256 := b.toNat_lt
  rw [unescape, hexValue?_digitByte (by omega), hexValue?_digitByte (by omega)]
  dsimp only
  rw [Nat.div_add_mod', UInt8.ofNat_toNat]

theorem isPlain_ne {b x : UInt8} (h : isPlain b = true) (hx : isPlain x = false) : b ≠ x :=
  fun he => by rw [he, hx] at h; cases h

theorem unescape_escaped (b : UInt8) (rest : Bytes) :
    unescape (escaped b ++ rest) = b :: unescape rest := by
  have hwritten := written_escaped b
  generalize escaped b = bytes at hwritten ⊢
  cases hwritten with
  | space h => exact h ▸ unescape_plus rest
  | plain h =>
    exact unescape_of_ne (isPlain_ne h (by decide)) (isPlain_ne h (by decide)) rest
  | escape => exact unescape_escape b rest

theorem unescape_flatMap (bs : Bytes) : unescape (bs.flatMap escaped) = bs := by
  induction bs with
  | nil => rfl
  | cons b bs ih => rw [List.flatMap_cons, unescape_escaped, ih]

theorem encode_encodeText (s : String) :
    Text.encode (encodeText s) = (Text.encode s).flatMap escaped := by
  rw [encodeText, Text.encode_ofList, List.flatMap_assoc]
  rfl

theorem decodeText_encodeText (s : String) : decodeText (Text.encode (encodeText s)) = s := by
  rw [encode_encodeText, decodeText, unescape_flatMap, Text.decodeLossy_encode]

/-- A byte that is written is plain, or starts an escape, or stands for a space. -/
theorem plain_of_mem_encodeText {s : String} {x : UInt8} (h : x ∈ Text.encode (encodeText s)) :
    isPlain x = true ∨ x = 0x25 ∨ x = 0x2B := by
  rw [encode_encodeText, List.mem_flatMap] at h
  obtain ⟨b, _, hx⟩ := h
  have hb : b.toNat < 256 := b.toNat_lt
  have hwritten := written_escaped b
  generalize escaped b = bytes at hx hwritten
  cases hwritten with
  | space => exact .inr (.inr (List.mem_singleton.1 hx))
  | plain h => exact .inl (List.mem_singleton.1 hx ▸ h)
  | escape =>
    rcases List.mem_cons.1 hx with rfl | hx
    · exact .inr (.inl rfl)
    · rcases List.mem_cons.1 hx with rfl | hx
      · exact .inl (isPlain_digitByte (by omega))
      · exact .inl (List.mem_singleton.1 hx ▸ isPlain_digitByte (by omega))

theorem not_mem_encodeText {sep : UInt8} (hplain : isPlain sep = false) (hpercent : sep ≠ 0x25)
    (hplus : sep ≠ 0x2B) (s : String) : sep ∉ Text.encode (encodeText s) := by
  intro h
  rcases plain_of_mem_encodeText h with h | h | h
  · rw [hplain] at h
    cases h
  · exact hpercent h
  · exact hplus h

/-! ## Pairs -/

theorem splitBytes_of_not_mem {sep : UInt8} {piece : Bytes} (h : sep ∉ piece) :
    splitBytes sep piece = [piece] := by
  induction piece with
  | nil => rfl
  | cons b piece ih =>
    rw [List.mem_cons, not_or] at h
    rw [splitBytes, if_neg (Ne.symm h.1), ih h.2]

theorem splitBytes_append {sep : UInt8} {piece : Bytes} (h : sep ∉ piece) (rest : Bytes) :
    splitBytes sep (piece ++ sep :: rest) = piece :: splitBytes sep rest := by
  induction piece with
  | nil => rw [List.nil_append, splitBytes, if_pos rfl]
  | cons b piece ih =>
    rw [List.mem_cons, not_or] at h
    rw [List.cons_append, splitBytes, if_neg (Ne.symm h.1), ih h.2]

theorem encode_equals (name value : String) :
    Text.encode (name ++ "=" ++ value) = Text.encode name ++ 0x3D :: Text.encode value := by
  rw [Text.encode_append, Text.encode_append, List.append_assoc]
  rfl

/-- The bytes of a pair. -/
def pairBytes (p : String × String) : Bytes :=
  Text.encode (encodeText p.1 ++ "=" ++ encodeText p.2)

theorem pairBytes_eq (p : String × String) :
    pairBytes p = Text.encode (encodeText p.1) ++ 0x3D :: Text.encode (encodeText p.2) :=
  encode_equals _ _

theorem not_mem_pairBytes {sep : UInt8} (hplain : isPlain sep = false) (hpercent : sep ≠ 0x25)
    (hplus : sep ≠ 0x2B) (hequals : sep ≠ 0x3D) (p : String × String) : sep ∉ pairBytes p := by
  rw [pairBytes_eq, List.mem_append, List.mem_cons, not_or, not_or]
  exact ⟨not_mem_encodeText hplain hpercent hplus _, hequals, not_mem_encodeText hplain hpercent hplus _⟩

theorem and_not_mem_pairBytes (p : String × String) : 0x26 ∉ pairBytes p :=
  not_mem_pairBytes (by decide) (by decide) (by decide) (by decide) p

/-- The pair of a piece between separators. -/
def readPair (piece : Bytes) : String × String :=
  let name := piece.takeWhile (· ≠ 0x3D)
  (decodeText name, decodeText (piece.drop (name.length + 1)))

/-- The name ends where the first `=` stands. -/
theorem readPair_append {name : Bytes} (h : 0x3D ∉ name) (value : Bytes) :
    readPair (name ++ 0x3D :: value) = (decodeText name, decodeText value) := by
  have hname : (name ++ 0x3D :: value).takeWhile (· ≠ 0x3D) = name := by
    rw [List.takeWhile_append_of_pos, List.takeWhile_cons_of_neg (by decide), List.append_nil]
    exact fun x hx => decide_eq_true fun he => h (he ▸ hx)
  have hvalue : (name ++ 0x3D :: value).drop (name.length + 1) = value := by
    rw [List.drop_append, List.drop_eq_nil_of_le (by omega)]
    simp
  rw [readPair, hname, hvalue]

theorem readPair_pairBytes (p : String × String) : readPair (pairBytes p) = p := by
  have hequals : 0x3D ∉ Text.encode (encodeText p.1) :=
    not_mem_encodeText (by decide) (by decide) (by decide) p.1
  rw [pairBytes_eq, readPair_append hequals, decodeText_encodeText, decodeText_encodeText]

theorem pairBytes_ne_nil (p : String × String) : pairBytes p ≠ [] := by
  rw [pairBytes_eq]
  simp

theorem encode_singleton (p : String × String) : Text.encode (encode [p]) = pairBytes p := by
  rw [encode, List.map_singleton, String.intercalate_singleton]
  rfl

/-- A form is read as the pairs that it was written from. -/
theorem decode_encode (pairs : List (String × String)) :
    decode (Text.encode (encode pairs)) = pairs := by
  have hdecode (bytes : Bytes) :
      decode bytes = ((splitBytes 0x26 bytes).filter (· ≠ [])).map readPair := rfl
  induction pairs with
  | nil => rfl
  | cons p rest ih =>
    cases rest with
    | nil =>
      rw [encode_singleton, hdecode, splitBytes_of_not_mem (and_not_mem_pairBytes p),
        List.filter_cons_of_pos (by simp [pairBytes_ne_nil]), List.filter_nil, List.map_singleton,
        readPair_pairBytes]
    | cons q rest =>
      have hbytes : Text.encode (encode (p :: q :: rest)) =
          pairBytes p ++ 0x26 :: Text.encode (encode (q :: rest)) := by
        rw [encode, List.map_cons, List.map_cons, String.intercalate_cons_cons, Text.encode_append,
          Text.encode_append, List.append_assoc]
        rfl
      rw [hdecode] at ih
      rw [hbytes, hdecode, splitBytes_append (and_not_mem_pairBytes p),
        List.filter_cons_of_pos (by simp [pairBytes_ne_nil]), List.map_cons, readPair_pairBytes, ih]

/-- A written pair does not end the query that it stands in. -/
theorem hash_not_mem_encode (p : String × String) : '#' ∉ (encode [p]).toList := by
  have hbytes : 0x23 ∉ Text.encode (encode [p]) :=
    encode_singleton p ▸ not_mem_pairBytes (by decide) (by decide) (by decide) (by decide) p
  rw [Text.encode_eq] at hbytes
  exact fun h => hbytes (List.mem_flatMap.2 ⟨'#', h, .head _⟩)

end HttpService.Form
