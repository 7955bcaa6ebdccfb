import HttpService.Json.Parser
import HttpService.Json.Printer
import HttpService.Proofs.Text.Utf8

/-!
# Reading strings back

The reader takes the characters of a printed string one by one (`readString_escaped`) and so reads the
text that was printed (`readString_quoted`). An object with one member is read with whatever name it was
printed with (`parse_print_member`).
-/

set_option autoImplicit false

namespace HttpService.Json

open Text (utf8EncodeChar_ascii)

/-- The bytes of a character inside a string. -/
def escaped (c : Char) : Bytes :=
  (escape c).flatMap String.utf8EncodeChar

def digitByte (n : Nat) : UInt8 :=
  UInt8.ofNat (Text.hexDigit n).toNat

theorem hexValue?_digitByte {n : Nat} (h : n < 16) :
    Text.hexValue? (Char.ofNat (digitByte n).toNat) = some n := by
  interval_cases n <;> decide

theorem utf8EncodeChar_hexDigit {n : Nat} (h : n < 16) :
    String.utf8EncodeChar (Text.hexDigit n) = [digitByte n] := by
  refine utf8EncodeChar_ascii ?_
  interval_cases n <;> decide

/-- A byte that stands for itself in a string. -/
structure Plain (b : UInt8) : Prop where
  quote : b ≠ 0x22
  backslash : b ≠ 0x5C
  control : ¬b < 0x20

/-- How a character is written: by a letter, by its code, or as itself. -/
inductive Written (c : Char) : Bytes → Prop
  | letter {e b : UInt8} (he : e ≠ 0x75) (hletter : readString.letter? e = some b)
      (hc : String.utf8EncodeChar c = [b]) : Written c [0x5C, e]
  | code (h : c.toNat < 32) :
      Written c [0x5C, 0x75, 0x30, 0x30, digitByte (c.toNat / 16), digitByte (c.toNat % 16)]
  | plain (h : ∀ b ∈ String.utf8EncodeChar c, Plain b) : Written c (String.utf8EncodeChar c)

theorem plain_ofNat {n : Nat} (h : n < 256) (hcontrol : 32 ≤ n) (hquote : n ≠ 0x22)
    (hbackslash : n ≠ 0x5C) : Plain (UInt8.ofNat n) := by
  have hn : (UInt8.ofNat n).toNat = n := UInt8.toNat_ofNat_of_lt' h
  refine ⟨fun he => hquote ?_, fun he => hbackslash ?_, fun hlt => ?_⟩
  · rw [← hn, he]
    rfl
  · rw [← hn, he]
    rfl
  · rw [UInt8.lt_iff_toNat_lt, hn] at hlt
    exact absurd hlt (Nat.not_lt.2 hcontrol)

theorem plain_utf8EncodeChar {c : Char} (hcontrol : 32 ≤ c.toNat) (hquote : c ≠ '"')
    (hbackslash : c ≠ '\\') : ∀ b ∈ String.utf8EncodeChar c, Plain b := by
  -- The bytes of longer forms are high.
  have hhigh (n : Nat) (hlow : 0x80 ≤ n) (hlt : n < 256) : Plain (UInt8.ofNat n) :=
    plain_ofNat hlt (by omega) (by omega) (by omega)
  have hcode (d : Char) (hd : c ≠ d) : c.val.toNat ≠ d.val.toNat := fun he =>
    hd (Char.ext (UInt32.toNat_inj.1 he))
  have hvalid : c.val.toNat < 0x110000 := by
    have := c.valid
    omega
  intro b hb
  unfold String.utf8EncodeChar at hb
  dsimp only at hb
  split at hb
  · rw [List.mem_singleton.1 hb]
    exact plain_ofNat (by omega) hcontrol (hcode _ hquote) (hcode _ hbackslash)
  · split at hb
    · simp only [List.mem_cons, List.not_mem_nil, or_false] at hb
      rcases hb with rfl | rfl
      all_goals exact hhigh _ (by omega) (by omega)
    · split at hb
      · simp only [List.mem_cons, List.not_mem_nil, or_false] at hb
        rcases hb with rfl | rfl | rfl
        all_goals exact hhigh _ (by omega) (by omega)
      · simp only [List.mem_cons, List.not_mem_nil, or_false] at hb
        rcases hb with rfl | rfl | rfl | rfl
        all_goals exact hhigh _ (by omega) (by omega)

theorem written_escaped (c : Char) : Written c (escaped c) := by
  have hletter (e : Char) {b : UInt8} (he : e.toNat < 128) (hne : UInt8.ofNat e.toNat ≠ 0x75)
      (hb : readString.letter? (UInt8.ofNat e.toNat) = some b) (hc : String.utf8EncodeChar c = [b]) :
      Written c (['\\', e].flatMap String.utf8EncodeChar) := by
    rw [List.flatMap_cons, List.flatMap_singleton, utf8EncodeChar_ascii he]
    exact .letter hne hb hc
  unfold escaped escape
  split
  · rename_i h
    subst h
    exact hletter '"' (by decide) (by decide) rfl rfl
  split
  · rename_i h
    subst h
    exact hletter '\\' (by decide) (by decide) rfl rfl
  split
  · rename_i h
    subst h
    exact hletter 'n' (by decide) (by decide) rfl rfl
  split
  · rename_i h
    subst h
    exact hletter 'r' (by decide) (by decide) rfl rfl
  split
  · rename_i h
    subst h
    exact hletter 't' (by decide) (by decide) rfl rfl
  split
  · rename_i h
    exact hletter 'b' (by decide) (by decide) rfl (by rw [utf8EncodeChar_ascii (by omega), h]; rfl)
  split
  · rename_i h
    exact hletter 'f' (by decide) (by decide) rfl (by rw [utf8EncodeChar_ascii (by omega), h]; rfl)
  split
  · rename_i h
    have hhigh := utf8EncodeChar_hexDigit (n := c.toNat / 16) (by omega)
    have hlow := utf8EncodeChar_hexDigit (n := c.toNat % 16) (by omega)
    simp only [List.flatMap_cons, List.flatMap_nil, hhigh, hlow, List.append_nil]
    exact .code h
  · rename_i hquote hbackslash _ _ _ _ _ hcontrol
    rw [List.flatMap_singleton]
    exact .plain (plain_utf8EncodeChar (Nat.not_lt.1 hcontrol) hquote hbackslash)

/-! ## Strings -/

/-- The reader takes bytes that stand for themselves one by one. -/
theorem readString_plain {bytes : Bytes} (h : ∀ b ∈ bytes, Plain b) (fuel : Nat) (seen bs : Bytes) :
    readString (fuel + bytes.length) seen (bytes ++ bs) =
      readString fuel (bytes.reverse ++ seen) bs := by
  induction bytes generalizing seen with
  | nil => rfl
  | cons b bytes ih =>
    obtain ⟨hquote, hbackslash, hcontrol⟩ := h b (.head _)
    rw [List.cons_append, List.length_cons, ← Nat.add_assoc, readString, if_neg hcontrol,
      ih fun b hb => h b (.tail _ hb), List.reverse_cons, List.append_assoc, List.singleton_append]
    · exact hquote
    · exact hbackslash

theorem readCode_of_lt {n : Nat} (h : n < 32) (bs : Bytes) :
    readCode (0x30 :: 0x30 :: digitByte (n / 16) :: digitByte (n % 16) :: bs) =
      .ok (Char.ofNat n, bs) := by
  have hzero : Text.hexValue? (Char.ofNat (0x30 : UInt8).toNat) = some 0 := by decide
  have hhex : readHex (0x30 :: 0x30 :: digitByte (n / 16) :: digitByte (n % 16) :: bs) =
      .ok (n, bs) := by
    unfold readHex
    simp only [hzero, hexValue?_digitByte (show n / 16 < 16 by omega),
      hexValue?_digitByte (show n % 16 < 16 by omega)]
    rw [show ((0 * 16 + 0) * 16 + n / 16) * 16 + n % 16 = n by omega]
  unfold readCode
  rw [hhex]
  show (if 0xDC00 ≤ n ∧ n ≤ 0xDFFF then _ else if n < 0xD800 ∨ 0xDBFF < n then _ else _) = _
  rw [if_neg (by omega), if_pos (.inl (by omega))]
  rfl

/-- The reader takes a character as it was written. -/
theorem readString_escaped (c : Char) (seen bs : Bytes) :
    ∃ steps ≤ (escaped c).length, ∀ fuel, readString (fuel + steps) seen (escaped c ++ bs) =
      readString fuel ((String.utf8EncodeChar c).reverse ++ seen) bs := by
  have hwritten := written_escaped c
  generalize escaped c = bytes at hwritten ⊢
  cases hwritten with
  | plain h => exact ⟨_, Nat.le_refl _, fun fuel => readString_plain h fuel seen bs⟩
  | @letter e b he hletter hc =>
    refine ⟨1, Nat.le_add_left 1 1, fun fuel => ?_⟩
    show readString (fuel + 1) seen (0x5C :: e :: bs) = _
    rw [hc, readString]
    · rw [hletter]
      rfl
    · exact he
  | code h =>
    refine ⟨1, Nat.le_add_left 1 5, fun fuel => ?_⟩
    show readString (fuel + 1) seen (0x5C :: 0x75 :: 0x30 :: 0x30 :: digitByte (c.toNat / 16) ::
      digitByte (c.toNat % 16) :: bs) = _
    have hbytes : Text.encode (String.singleton c) = String.utf8EncodeChar c := by
      rw [Text.encode_eq, String.toList_singleton, List.flatMap_singleton]
    rw [readString, readCode_of_lt h, Char.ofNat_toNat, ← hbytes]
    rfl

/-- The rest of a printed string is read as the text whose bytes were seen and printed. -/
theorem readString_quoted {cs : List Char} {fuel : Nat} (hfuel : (cs.flatMap escaped).length < fuel)
    {seen : Bytes} {s : String}
    (hs : Text.decode? (seen.reverse ++ cs.flatMap String.utf8EncodeChar) = some s) (rest : Bytes) :
    readString fuel seen (cs.flatMap escaped ++ 0x22 :: rest) = .ok (s, rest) := by
  induction cs generalizing fuel seen with
  | nil =>
    obtain ⟨fuel, rfl⟩ := Nat.exists_eq_succ_of_ne_zero (Nat.ne_of_gt hfuel)
    rw [List.flatMap_nil, List.append_nil] at hs
    rw [List.flatMap_nil, List.nil_append, readString, hs]
  | cons c cs ih =>
    obtain ⟨steps, hsteps, hread⟩ := readString_escaped c seen (cs.flatMap escaped ++ 0x22 :: rest)
    rw [List.flatMap_cons, List.length_append] at hfuel
    obtain ⟨left, rfl⟩ := Nat.exists_eq_add_of_le (show steps ≤ fuel by omega)
    rw [List.flatMap_cons, List.append_assoc, Nat.add_comm, hread]
    refine ih (by omega) ?_
    rwa [List.reverse_append, List.reverse_reverse, List.append_assoc, ← List.flatMap_cons]

theorem encode_quote (s : String) :
    Text.encode (quote s) = 0x22 :: (s.toList.flatMap escaped ++ [0x22]) := by
  rw [quote, Text.encode_ofList, List.cons_append, List.flatMap_cons, List.flatMap_append,
    List.flatMap_assoc]
  rfl

/-! ## An object with one member -/

section
variable (fuel depth : Nat) (rest : Bytes)

theorem readValue_null :
    readValue (fuel + 1) depth (0x6E :: 0x75 :: 0x6C :: 0x6C :: rest) = .ok (.null, rest) := by
  rw [readValue]
  rfl

theorem readValue_object :
    readValue (fuel + 1) (depth + 2) (0x7B :: rest) = readMembers fuel (depth + 1) none rest := by
  rw [readValue]
  rfl

theorem readMembers_first :
    readMembers (fuel + 1) depth none (0x22 :: rest) = readMember fuel depth [] rest := by
  rw [readMembers]
  rfl

theorem readMembers_end (members : List (String × Json)) :
    readMembers (fuel + 1) depth (some members) (0x7D :: rest) = .ok (.obj members, rest) := by
  rw [readMembers]
  rfl

theorem readMember_eq {members : List (String × Json)} {bs : Bytes} {key : String}
    (hkey : readString (bs.length + 1) [] bs = .ok (key, 0x3A :: rest)) {v : Json} {after : Bytes}
    (hv : readValue fuel depth rest = .ok (v, after)) :
    readMember (fuel + 1) depth members bs =
      readMembers fuel depth (some (Assoc.insert key v members)) after := by
  rw [readMember, hkey]
  show (readValue fuel depth rest).bind _ = _
  rw [hv]
  rfl

end

/-- An object over null is read with whatever name it was printed with. -/
theorem parse_print_member (name : String) :
    parse (Text.encode (print (.obj [(name, .null)]))) = .ok (.obj [(name, .null)]) := by
  let tail : Bytes := [0x3A, 0x6E, 0x75, 0x6C, 0x6C, 0x7D]
  have hbytes : Text.encode (print (.obj [(name, .null)])) =
      0x7B :: 0x22 :: (name.toList.flatMap escaped ++ 0x22 :: tail) := by
    have hopen : Text.encode "\x7b" = [0x7B] := rfl
    have hmiddle : Text.encode ":" ++ (Text.encode "null" ++ Text.encode "\x7d") = tail := rfl
    rw [print, printMembers, print, Text.encode_append, Text.encode_append, Text.encode_append,
      Text.encode_append, encode_quote, hopen, List.append_assoc, List.append_assoc, List.append_assoc,
      hmiddle]
    simp
  generalize hbody : name.toList.flatMap escaped ++ 0x22 :: tail = body at hbytes
  have hkey : readString (body.length + 1) [] body = .ok (name, tail) := by
    rw [← hbody]
    refine readString_quoted ?_ ?_ tail
    · rw [List.length_append, List.length_cons]
      omega
    · rw [List.reverse_nil, List.nil_append, ← Text.encode_eq, Text.decode?_encode]
  have hread (fuel : Nat) : readValue (fuel + 5) nesting (0x7B :: 0x22 :: body) =
      .ok (.obj [(name, .null)], []) := by
    rw [nesting, readValue_object, readMembers_first,
      readMember_eq (fuel + 2) _ _ hkey (readValue_null (fuel + 1) _ [0x7D]), readMembers_end]
    rfl
  rw [hbytes, parse]
  obtain ⟨fuel, hfuel⟩ := Nat.exists_eq_add_of_le (show 5 ≤ 3 * (0x7B :: 0x22 :: body).length + 3 by
    rw [List.length_cons]
    omega)
  rw [hfuel, Nat.add_comm, hread]
  rfl

end HttpService.Json
