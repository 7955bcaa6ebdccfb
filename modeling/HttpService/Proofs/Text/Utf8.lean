import Mathlib.Tactic.IntervalCases
import HttpService.Text.Utf8

/-!
# Reading UTF-8 back

The bytes of a text are read as its characters, strictly (`decode?_encode`) and lossily
(`decodeLossy_encode`). `scan_utf8EncodeChar` does it for one character, by the length of its form.
-/

set_option autoImplicit false

namespace HttpService.Text

/-- The bytes of a text are those of its characters. -/
theorem encode_eq (s : String) : encode s = s.toList.flatMap String.utf8EncodeChar := by
  conv_lhs => rw [← String.ofList_toList (s := s)]
  exact List.toList_data_toByteArray

theorem encode_ofList (cs : List Char) :
    encode (String.ofList cs) = cs.flatMap String.utf8EncodeChar := by
  rw [encode_eq, String.toList_ofList]

theorem encode_append (s t : String) : encode (s ++ t) = encode s ++ encode t := by
  rw [encode_eq, encode_eq, encode_eq, String.toList_append, List.flatMap_append]

/-! ## One character -/

theorem utf8EncodeChar_ascii {c : Char} (h : c.toNat < 128) :
    String.utf8EncodeChar c = [UInt8.ofNat c.toNat] := by
  unfold String.utf8EncodeChar
  exact if_pos (Nat.le_of_lt_succ h)

theorem lead_one {n : Nat} (h : n < 128) : lead (UInt8.ofNat n) = .char (Char.ofNat n) := by
  have hn : (UInt8.ofNat n).toNat = n := UInt8.toNat_ofNat_of_lt' (show n < 256 by omega)
  have hlt : UInt8.ofNat n < 0x80 := by
    rw [UInt8.lt_iff_toNat_lt, hn]
    exact h
  rw [lead, if_pos hlt, hn]

theorem lead_two {n : Nat} (hlow : 2 ≤ n) (hhigh : n < 32) :
    lead (UInt8.ofNat (n + 0xC0)) = .started ⟨n, 1, 0x80, 0xBF⟩ := by
  interval_cases n <;> rfl

/-- Forms of three bytes leave out the codes of two bytes and the surrogates. -/
theorem lead_three {n : Nat} (h : n < 16) :
    lead (UInt8.ofNat (n + 0xE0)) =
      .started ⟨n, 2, if n = 0 then 0xA0 else 0x80, if n = 13 then 0x9F else 0xBF⟩ := by
  interval_cases n <;> rfl

/-- Forms of four bytes leave out the codes of three bytes and those past the last plane. -/
theorem lead_four {n : Nat} (h : n < 5) :
    lead (UInt8.ofNat (n + 0xF0)) =
      .started ⟨n, 3, if n = 0 then 0x90 else 0x80, if n = 4 then 0x8F else 0xBF⟩ := by
  interval_cases n <;> rfl

theorem scan_lead {b : UInt8} {s : Started} (h : lead b = .started s) (bs : Bytes) :
    scan none (b :: bs) = scan (some s) bs := by
  rw [scan, h]

/-- A byte that the sequence goes on with. -/
structure Continues (low high : UInt8) (n : Nat) : Prop where
  bits : n < 64
  low_le : low.toNat ≤ n + 0x80
  le_high : n + 0x80 ≤ high.toNat

theorem scan_next {value missing n : Nat} {low high : UInt8} (h : Continues low high n) (bs : Bytes) :
    scan (some ⟨value, missing, low, high⟩) (UInt8.ofNat (n + 0x80) :: bs) =
      if missing ≤ 1 then some (Char.ofNat (value * 64 + n)) :: scan none bs
      else scan (some ⟨value * 64 + n, missing - 1, 0x80, 0xBF⟩) bs := by
  obtain ⟨hbits, hlow, hhigh⟩ := h
  have hb : (UInt8.ofNat (n + 0x80)).toNat = n + 0x80 :=
    UInt8.toNat_ofNat_of_lt' (show n + 0x80 < 256 by omega)
  have hrange : low ≤ UInt8.ofNat (n + 0x80) ∧ UInt8.ofNat (n + 0x80) ≤ high := by
    rw [UInt8.le_iff_toNat_le, UInt8.le_iff_toNat_le, hb]
    exact ⟨hlow, hhigh⟩
  rw [scan, if_pos hrange]
  simp only [hb, Nat.add_sub_cancel_right]

theorem continues_any {n : Nat} (h : n < 64) : Continues 0x80 0xBF n where
  bits := h
  low_le := show 128 ≤ n + 128 by omega
  le_high := show n + 128 ≤ 191 by omega

theorem continues_three {v : Nat} (hlow : 0x7FF < v) (hvalid : v < 0xD800 ∨ 0xDFFF < v) :
    Continues (if v / 4096 = 0 then 0xA0 else 0x80) (if v / 4096 = 13 then 0x9F else 0xBF)
      (v / 64 % 64) where
  bits := by omega
  low_le := by
    split
    · show 160 ≤ v / 64 % 64 + 128
      omega
    · show 128 ≤ v / 64 % 64 + 128
      omega
  le_high := by
    split
    · show v / 64 % 64 + 128 ≤ 159
      omega
    · show v / 64 % 64 + 128 ≤ 191
      omega

theorem continues_four {v : Nat} (hlow : 0xFFFF < v) (hhigh : v < 0x110000) :
    Continues (if v / 262144 = 0 then 0x90 else 0x80) (if v / 262144 = 4 then 0x8F else 0xBF)
      (v / 4096 % 64) where
  bits := by omega
  low_le := by
    split
    · show 144 ≤ v / 4096 % 64 + 128
      omega
    · show 128 ≤ v / 4096 % 64 + 128
      omega
  le_high := by
    split
    · show v / 4096 % 64 + 128 ≤ 143
      omega
    · show v / 4096 % 64 + 128 ≤ 191
      omega

theorem scan_utf8EncodeChar (c : Char) (bs : Bytes) :
    scan none (String.utf8EncodeChar c ++ bs) = some c :: scan none bs := by
  have hvalid : c.val.toNat < 0xD800 ∨ 0xDFFF < c.val.toNat ∧ c.val.toNat < 0x110000 := c.valid
  have hchar : Char.ofNat c.val.toNat = c := Char.ofNat_toNat c
  unfold String.utf8EncodeChar
  generalize c.val.toNat = v at hvalid hchar ⊢
  have hlast : Continues 0x80 0xBF (v % 64) := continues_any (Nat.mod_lt v (by decide))
  dsimp only
  split
  · rw [List.singleton_append, scan, lead_one (by omega), hchar]
  · split
    · have hfirst : v / 64 % 0x20 = v / 64 := Nat.mod_eq_of_lt (by omega)
      have hvalue : v / 64 * 64 + v % 64 = v := by omega
      rw [List.cons_append, List.singleton_append, hfirst, scan_lead (lead_two (by omega) (by omega)),
        scan_next hlast, if_pos (by decide), hvalue, hchar]
    · split
      · have hfirst : v / 4096 % 0x10 = v / 4096 := Nat.mod_eq_of_lt (by omega)
        have hvalue : (v / 4096 * 64 + v / 64 % 64) * 64 + v % 64 = v := by omega
        rw [List.cons_append, List.cons_append, List.singleton_append, hfirst,
          scan_lead (lead_three (by omega)), scan_next (continues_three (by omega) (by omega)),
          if_neg (by decide), scan_next hlast, if_pos (by decide), hvalue, hchar]
      · have hfirst : v / 262144 % 0x08 = v / 262144 := Nat.mod_eq_of_lt (by omega)
        have hsecond : Continues 0x80 0xBF (v / 64 % 64) := continues_any (Nat.mod_lt _ (by decide))
        have hvalue : ((v / 262144 * 64 + v / 4096 % 64) * 64 + v / 64 % 64) * 64 + v % 64 = v := by
          omega
        rw [List.cons_append, List.cons_append, List.cons_append, List.singleton_append, hfirst,
          scan_lead (lead_four (by omega)), scan_next (continues_four (by omega) (by omega)),
          if_neg (by decide), scan_next hsecond, if_neg (by decide), scan_next hlast,
          if_pos (by decide), hvalue, hchar]

/-! ## Texts -/

theorem scan_encode (s : String) : scan none (encode s) = s.toList.map some := by
  rw [encode_eq]
  induction s.toList with
  | nil => rfl
  | cons c cs ih => rw [List.flatMap_cons, scan_utf8EncodeChar, ih, List.map_cons]

theorem allChars?_map_some (cs : List Char) : allChars? (cs.map some) = some cs := by
  induction cs with
  | nil => rfl
  | cons c cs ih => rw [List.map_cons, allChars?, ih, Option.map_some]

theorem decode?_encode (s : String) : decode? (encode s) = some s := by
  rw [decode?, scan_encode, allChars?_map_some, Option.map_some, String.ofList_toList]

theorem decodeLossy_encode (s : String) : decodeLossy (encode s) = s := by
  rw [decodeLossy, scan_encode, List.map_map]
  exact (congrArg String.ofList (List.map_id _)).trans String.ofList_toList

end HttpService.Text
