import HttpService.Binding.Coerce
import HttpService.Proofs.Text.Blank
import HttpService.Proofs.Text.Utf8
import Mathlib.Tactic.Common

/-!
# Reading values from their texts

A scalar is written as a text: a string as it is, a number in decimal digits, a boolean as its word.
`coerce_scalarText`: the shape that the scalar has reads it back from there. Digits are no blanks, so
that trimming leaves a written number as it is.
-/

set_option autoImplicit false

namespace HttpService

/-! ## Decimal digits -/

namespace Decimal

theorem ofDigits_toDigits (n : Nat) : ofDigits (Nat.toDigits 10 n) = n := by
  have hfold : ofDigits (Nat.toDigits 10 n) = Nat.ofDigitChars 10 (Nat.toDigits 10 n) 0 := by
    unfold ofDigits Nat.ofDigitChars
    congr 1
    funext m c
    rw [Nat.mul_comm]
  rw [hfold, Nat.ofDigitChars_ten_toDigits]

theorem isDigit_of_mem_toDigits {n : Nat} {c : Char} (h : c ∈ Nat.toDigits 10 n) : c.isDigit = true :=
  Nat.isDigit_of_mem_toDigits (by decide) (by decide) h

theorem all_isDigit_toDigits (n : Nat) : (Nat.toDigits 10 n).all Char.isDigit = true :=
  List.all_eq_true.2 fun _ => isDigit_of_mem_toDigits

theorem toList_toString (n : Nat) : (toString n).toList = Nat.toDigits 10 n := by
  rw [show toString n = String.ofList (Nat.toDigits 10 n) from rfl, String.toList_ofList]

theorem toList_toString_negSucc (n : Nat) :
    (toString (Int.negSucc n)).toList = '-' :: Nat.toDigits 10 (n + 1) := by
  rw [Int.toString_eq_repr]
  exact String.toList_append.trans (congrArg ('-' :: ·) (toList_toString (n + 1)))

theorem sign_toDigits (n : Nat) : sign (Nat.toDigits 10 n) = (false, Nat.toDigits 10 n) := by
  have hdigit {c : Char} {cs : List Char} (h : Nat.toDigits 10 n = c :: cs) : c.isDigit = true :=
    isDigit_of_mem_toDigits (by rw [h]; exact List.mem_cons_self)
  unfold sign
  split
  · rename_i h
    exact absurd (hdigit h) (by decide)
  · rename_i h
    exact absurd (hdigit h) (by decide)
  · rfl

theorem natural?_toString (n : Nat) : natural? (toString n) = some n := by
  have hdigits := all_isDigit_toDigits n
  unfold natural?
  rw [toList_toString, sign_toDigits]
  simp [Nat.toDigits_ne_nil, hdigits, ofDigits_toDigits]

theorem integer?_toString (i : Int) : integer? (toString i) = some i := by
  unfold integer?
  cases i with
  | ofNat n =>
    have hdigits := all_isDigit_toDigits n
    rw [show toString (Int.ofNat n) = toString n from rfl, toList_toString, sign_toDigits]
    simp [Nat.toDigits_ne_nil, hdigits, ofDigits_toDigits]
  | negSucc n =>
    have hdigits := all_isDigit_toDigits (n + 1)
    rw [toList_toString_negSucc]
    simp [sign, Nat.toDigits_ne_nil, hdigits, ofDigits_toDigits, Int.negSucc_eq]

end Decimal

/-! ## Blanks -/

namespace Text

theorem trim_toString (i : Int) : trim (toString i) = toString i := by
  refine trim_eq_self fun c hc => ?_
  cases i with
  | ofNat n =>
    rw [show toString (Int.ofNat n) = toString n from rfl, Decimal.toList_toString] at hc
    exact isBlank_of_isDigit (Decimal.isDigit_of_mem_toDigits hc)
  | negSucc n =>
    rw [Decimal.toList_toString_negSucc] at hc
    rcases List.mem_cons.1 hc with rfl | hc
    · decide
    · exact isBlank_of_isDigit (Decimal.isDigit_of_mem_toDigits hc)

end Text

/-! ## Scalars -/

namespace Binding

/-- Scalars of a shape; integers have 64 bits, whatever the documented width. -/
inductive IsScalar : Shape → Json → Prop
  | string (s : String) : IsScalar .string (.str s)
  | signed {i : Int} (w : Width) (low : -2 ^ 63 ≤ i) (high : i < 2 ^ 63) :
    IsScalar (.integer w true) (.int i)
  | unsigned {n : Nat} (w : Width) (high : n < 2 ^ 64) : IsScalar (.integer w false) (.nat n)
  | boolean (b : Bool) : IsScalar .boolean (.bool b)

/-- How a scalar is written. -/
def scalarText : Json → String
  | .str s => s
  | .num n => n.print
  | .bool b => toString b
  | _ => ""

theorem toString_ne_empty (i : Int) : toString i ≠ "" := by
  intro h
  have hread := Decimal.integer?_toString i
  rw [h] at hread
  exact absurd hread (by simp [Decimal.integer?, Decimal.sign])

theorem value?_scalarText {s : Shape} {v : Json} (h : IsScalar s v) :
    value? (Text.encode (scalarText v)) s = some v := by
  cases h with
  | string s => rw [value?, scalarText, Text.decodeLossy_encode] <;> nofun
  | @signed i w low high =>
    have hfits : Decimal.fits 64 true i = true := by
      simp only [Decimal.fits, if_true, Bool.and_eq_true, decide_eq_true_eq]
      exact ⟨low, high⟩
    show integer? true (Text.trim (Text.decodeLossy (Text.encode (toString i)))) = _
    rw [Text.decodeLossy_encode, Text.trim_toString, integer?, if_neg (toString_ne_empty i),
      Decimal.signed?, Decimal.integer?_toString, Option.filter_some, if_pos hfits]
    rfl
  | @unsigned n w high =>
    show integer? false (Text.trim (Text.decodeLossy (Text.encode (toString (n : Int))))) = _
    rw [Text.decodeLossy_encode, Text.trim_toString, integer?, if_neg (toString_ne_empty n),
      if_neg Bool.false_ne_true, Decimal.unsigned?, show toString (n : Int) = toString n from rfl,
      Decimal.natural?_toString, Option.filter_some,
      if_pos (decide_eq_true (show n < Nat.pow 2 64 from high))]
    rfl
  | boolean b =>
    have hread : boolean? (Text.trim (toString b)) = some b := by cases b <;> decide
    show (boolean? (Text.trim (Text.decodeLossy (Text.encode (toString b))))).map Json.bool = _
    rw [Text.decodeLossy_encode, hread]
    rfl

/-- A scalar is read back from its text. -/
theorem coerce_scalarText {s : Shape} {v : Json} (h : IsScalar s v) (name : String) :
    coerce name s (Text.encode (scalarText v)) = .ok v := by
  rw [coerce, value?_scalarText h]

end Binding

end HttpService
