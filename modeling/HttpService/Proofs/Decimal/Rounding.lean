import Mathlib

/-!
# Rounding to doubles

A number is rounded to `m · 2 ^ t`, where its size gives `t` and `m` is nearest to what is left, a tie going
to the even one (`Rounds`). A computation has a mantissa and what is known of the bits behind it
(`Describes`): if the mantissa is long enough, it is rounded to the double that the number is rounded to
(`exists_rounds`). `Rounds.le_iff`: the numbers that are rounded to a double or beyond are those that come
at least halfway up to it from the double below, the middle only if the double is even (`Reaches`).
`unpack_pack`: a double is unpacked as it was packed.
-/

set_option autoImplicit false

namespace HttpService.Decimal

open Float.Model Float.Model.UnpackedFloat

theorem two_zpow_pos (e : ℤ) : (0 : ℚ) < 2 ^ e :=
  zpow_pos (by norm_num) e

theorem two_pow_mul_zpow (k : ℕ) (e : ℤ) : (2 : ℚ) ^ k * 2 ^ e = 2 ^ (e + k) := by
  rw [← zpow_natCast, ← zpow_add₀ two_ne_zero, add_comm]

/-! ## The nearest integer -/

/-- An integer is nearest to a number; a tie goes to the even one. -/
structure IsNearest (y : ℚ) (m : ℕ) : Prop where
  lower : 2 * (m : ℚ) - 1 ≤ 2 * y
  upper : 2 * y ≤ 2 * m + 1
  even : 2 * y = 2 * m - 1 ∨ 2 * y = 2 * m + 1 → Even m

theorem IsNearest.le_iff {y : ℚ} {m : ℕ} (h : IsNearest y m) (n : ℕ) :
    n ≤ m ↔ 2 * (n : ℚ) - 1 < 2 * y ∨ Even n ∧ 2 * (n : ℚ) - 1 = 2 * y := by
  obtain ⟨hlower, hupper, heven⟩ := h
  rcases lt_trichotomy n m with hlt | rfl | hlt
  · have hcast : (n : ℚ) + 1 ≤ m := by exact_mod_cast hlt
    exact ⟨fun _ => .inl (by linarith), fun _ => hlt.le⟩
  · refine ⟨fun _ => ?_, fun _ => le_rfl⟩
    rcases hlower.lt_or_eq with hlt | heq
    · exact .inl hlt
    · exact .inr ⟨heven (.inl heq.symm), heq⟩
  · have hcast : (m : ℚ) + 1 ≤ n := by exact_mod_cast hlt
    refine ⟨fun hle => absurd hle hlt.not_ge, ?_⟩
    rintro (hreach | ⟨hn, hreach⟩)
    · linarith
    · -- The tie below `n` is the one above `m`, and only one of the two is even.
      have hnm : (n : ℚ) = m + 1 := by linarith
      obtain rfl : n = m + 1 := by exact_mod_cast hnm
      have hm : Even m := heven (.inr (by push_cast at hreach; linarith))
      exact absurd hn (Nat.not_even_iff_odd.2 hm.add_one)

theorem isNearest_of_lt {y : ℚ} {m : ℕ} (hlower : 2 * (m : ℚ) - 1 < 2 * y)
    (hupper : 2 * y < 2 * m + 1) : IsNearest y m :=
  ⟨hlower.le, hupper.le, fun h => by rcases h with h | h <;> linarith⟩

theorem isNearest_of_tie {y : ℚ} {m : ℕ} (h : y = m + 1 / 2) : IsNearest y (m + m % 2) := by
  subst h
  rcases Nat.mod_two_eq_zero_or_one m with hm | hm
  · have heven : Even (m + m % 2) := by
      rw [hm]
      exact Nat.even_iff.2 hm
    rw [hm] at heven ⊢
    exact ⟨by push_cast; linarith, by push_cast; linarith, fun _ => heven⟩
  · have heven : Even (m + 1) := Nat.even_iff.2 (by omega)
    rw [hm]
    exact ⟨by push_cast; linarith, by push_cast; linarith, fun _ => heven⟩

/-! ## Mantissas with the bits behind them -/

/-- What the bits behind a mantissa say of a number. -/
def Describes (m : ℕ) : Accuracy → ℚ → Prop
  | .exact, y => y = m
  | .inexact .lt, y => m < y ∧ y < m + 1 / 2
  | .inexact .eq, y => y = m + 1 / 2
  | .inexact .gt, y => m + 1 / 2 < y ∧ y < m + 1

theorem Describes.bounds {m : ℕ} {accuracy : Accuracy} {y : ℚ} (h : Describes m accuracy y) :
    (m : ℚ) ≤ y ∧ y < m + 1 := by
  match accuracy, h with
  | .exact, h =>
    have h : y = m := h
    exact ⟨h.ge, by linarith⟩
  | .inexact .lt, ⟨hlower, hupper⟩ => exact ⟨hlower.le, by linarith⟩
  | .inexact .eq, h =>
    have h : y = m + 1 / 2 := h
    exact ⟨by linarith, by linarith⟩
  | .inexact .gt, ⟨hlower, hupper⟩ => exact ⟨by linarith, hupper⟩

theorem Describes.isNearest {m : ℕ} {accuracy : Accuracy} {y : ℚ} (h : Describes m accuracy y) :
    IsNearest y (accuracy.roundToNearestEven m) := by
  match accuracy, h with
  | .exact, h =>
    have h : y = m := h
    show IsNearest y m
    exact isNearest_of_lt (by linarith) (by linarith)
  | .inexact .lt, ⟨hlower, hupper⟩ =>
    show IsNearest y m
    exact isNearest_of_lt (by linarith) (by linarith)
  | .inexact .eq, h => exact isNearest_of_tie h
  | .inexact .gt, ⟨hlower, hupper⟩ =>
    show IsNearest y (m + 1 : ℕ)
    exact isNearest_of_lt (by push_cast; linarith) (by push_cast; linarith)

/-- A mantissa with a round bit and a sticky bit stands for a number. -/
def StandsFor (em : ExtendedMantissa) (y : ℚ) : Prop :=
  Describes em.mantissa em.accuracy y

theorem standsFor_ofMantissa {m : ℕ} {accuracy : Accuracy} {y : ℚ} (h : Describes m accuracy y) :
    StandsFor (ExtendedMantissa.ofMantissaAndAccuracy m accuracy) y := by
  match accuracy, h with
  | .exact, h => exact h
  | .inexact .lt, h => exact h
  | .inexact .eq, h => exact h
  | .inexact .gt, h => exact h

theorem StandsFor.shiftRightOne {em : ExtendedMantissa} {y : ℚ} (h : StandsFor em y) :
    StandsFor em.shiftRightOne (y / 2) := by
  obtain ⟨m, roundBit, stickyBit⟩ := em
  have hsplit : (m : ℚ) = 2 * (m / 2 : ℕ) + (m % 2 : ℕ) := by exact_mod_cast (Nat.div_add_mod m 2).symm
  rcases Nat.mod_two_eq_zero_or_one m with hm | hm <;> rw [hm] at hsplit <;>
    cases roundBit <;> cases stickyBit <;>
    simp only [StandsFor, Describes, ExtendedMantissa.accuracy, ExtendedMantissa.shiftRightOne, hm,
      bne_self_eq_false, Nat.reduceBNe, Bool.or_self, Bool.or_true, Bool.or_false] at h ⊢
  all_goals first | linarith | constructor <;> linarith

theorem StandsFor.shiftRight {em : ExtendedMantissa} {y : ℚ} (h : StandsFor em y) (k : ℕ) :
    StandsFor (em >>> k) (y / 2 ^ k) := by
  show StandsFor (k.repeat ExtendedMantissa.shiftRightOne em) (y / 2 ^ k)
  induction k with
  | zero => simpa [Nat.repeat] using h
  | succ k ih =>
    rw [pow_succ, ← div_div]
    exact ih.shiftRightOne

/-! ## Doubles -/

/-- `m · 2 ^ e` is a double, or too large for one. -/
structure Canonical (m : ℕ) (e : ℤ) : Prop where
  bits : m < 2 ^ 53
  least : -1074 ≤ e
  normal : 2 ^ 52 ≤ m ∨ e = -1074

/-- An unpacked double that is not negative has a value. -/
inductive HasValue : UnpackedFloat → ℚ → Prop
  | zero : HasValue (.zero .positive) 0
  | finite {m : ℕ} {e : ℤ} (pos : 0 < m) (canonical : Canonical m e) :
    HasValue (.finite .positive m e pos) (m * 2 ^ e)

/-- A number is rounded to `m · 2 ^ t`. -/
structure Rounds (x : ℚ) (m : ℕ) (t : ℤ) : Prop where
  least : -1074 ≤ t
  below : x < 2 ^ (t + 53)
  normal : t = -1074 ∨ 2 ^ (t + 52) ≤ x
  nearest : IsNearest (x / 2 ^ t) m

theorem targetExponent_eq (m : ℕ) (e : ℤ) :
    Format.binary64.targetExponent (totalExponent m e) = max (m.log2 + e - 52) (-1074) := by
  simp only [Format.targetExponent, totalExponent, Format.mantissaBits, Format.minExponent]
  omega

theorem shiftToTargetExponent_eq {m : ℕ} {e t : ℤ} (accuracy : Accuracy)
    (ht : Format.binary64.targetExponent (totalExponent m e) = t) (het : e ≤ t) :
    shiftToTargetExponent Format.binary64 m e accuracy =
      (ExtendedMantissa.ofMantissaAndAccuracy m accuracy >>> (t - e).toNat, t) := by
  unfold shiftToTargetExponent shiftToExponent
  rw [ht]
  have : e + ((t - e).toNat : ℤ) = t := by omega
  simp only [this]

/-- A mantissa that fits stays as it is. -/
theorem shiftToTargetExponent_of_lt {m : ℕ} {e : ℤ} (hm : m < 2 ^ 53) (he : -1074 ≤ e) :
    shiftToTargetExponent Format.binary64 m e .exact = (⟨m, false, false⟩, e) := by
  have hlog : m.log2 ≤ 52 := by
    rcases Nat.eq_zero_or_pos m with rfl | hpos
    · simp
    · exact Nat.lt_succ_iff.1 ((Nat.log2_lt hpos.ne').2 hm)
  have hshift : (Format.binary64.targetExponent (totalExponent m e) - e).toNat = 0 := by
    rw [targetExponent_eq]
    omega
  unfold shiftToTargetExponent shiftToExponent
  dsimp only
  rw [hshift]
  show ((⟨m, false, false⟩ : ExtendedMantissa), e + (0 : ℕ)) = _
  rw [Nat.cast_zero, add_zero]

/-- A mantissa that has become too long by the rounding is a power of two. -/
theorem shiftToTargetExponent_of_eq {e : ℤ} (he : -1074 ≤ e) :
    shiftToTargetExponent Format.binary64 (2 ^ 53) e .exact = (⟨2 ^ 52, false, false⟩, e + 1) := by
  have htarget : Format.binary64.targetExponent (totalExponent (2 ^ 53) e) = e + 1 := by
    rw [targetExponent_eq, Nat.log2_two_pow]
    omega
  have hshift : (e + 1 - e).toNat = 1 := by omega
  rw [shiftToTargetExponent_eq .exact htarget (by omega), hshift]
  rfl

section
variable {x : ℚ} {m : ℕ} {t : ℤ}

theorem Rounds.le (h : Rounds x m t) : m ≤ 2 ^ 53 := by
  have hlower := h.nearest.lower
  have hupper : x / 2 ^ t < 2 ^ 53 := by
    rw [div_lt_iff₀ (two_zpow_pos t), two_pow_mul_zpow]
    exact h.below
  have hm : (2 * m : ℚ) < 2 * 2 ^ 53 + 1 := by linarith
  have hm : 2 * m < 2 * 2 ^ 53 + 1 := by exact_mod_cast hm
  omega

theorem Rounds.le_of_normal (h : Rounds x m t) (ht : t ≠ -1074) : 2 ^ 52 ≤ m := by
  have hupper := h.nearest.upper
  have hlower : 2 ^ 52 ≤ x / 2 ^ t := by
    rw [le_div_iff₀ (two_zpow_pos t), two_pow_mul_zpow]
    exact h.normal.resolve_left ht
  have hm : (2 * 2 ^ 52 : ℚ) ≤ 2 * m + 1 := by linarith
  have hm : 2 * 2 ^ 52 ≤ 2 * m + 1 := by exact_mod_cast hm
  omega

/-- The result of a rounding is a double, its mantissa halved if it has become too long. -/
theorem Rounds.hasValue (h : Rounds x m t) {em : ExtendedMantissa} (hem : em.roundedMantissa = m)
    {mantissa : ℕ} {e : ℤ} {accuracy : Accuracy}
    (hshift : shiftToTargetExponent Format.binary64 mantissa e accuracy = (em, t)) :
    HasValue (roundWithAccuracy Format.binary64 .positive mantissa e accuracy) (m * 2 ^ t) := by
  unfold roundWithAccuracy
  rw [hshift]
  dsimp only
  rw [hem]
  rcases h.le.lt_or_eq with hlt | rfl
  · rw [shiftToTargetExponent_of_lt hlt h.least]
    dsimp only
    split
    · rename_i hzero
      subst hzero
      rw [Nat.cast_zero, zero_mul]
      exact .zero
    · exact .finite _ ⟨hlt, h.least, or_iff_not_imp_right.2 h.le_of_normal⟩
  · rw [shiftToTargetExponent_of_eq h.least]
    dsimp only
    rw [dif_neg (by norm_num)]
    have hvalue : ((2 ^ 53 : ℕ) : ℚ) * 2 ^ t = ((2 ^ 52 : ℕ) : ℚ) * 2 ^ (t + 1) := by
      rw [zpow_add_one₀ two_ne_zero]
      push_cast
      ring
    have hleast := h.least
    rw [hvalue]
    exact .finite _ ⟨by norm_num, by omega, .inl le_rfl⟩

end

/-- Enough bits, and what the bits behind them say, are rounded to the nearest double. -/
theorem exists_rounds {x : ℚ} {m : ℕ} {e : ℤ} {accuracy : Accuracy}
    (h : Describes m accuracy (x / 2 ^ e)) (henough : 52 ≤ m.log2 ∨ e ≤ -1074) :
    ∃ r t, Rounds x r t ∧
      HasValue (roundWithAccuracy Format.binary64 .positive m e accuracy) (r * 2 ^ t) := by
  obtain ⟨t, ht⟩ : ∃ t : ℤ, t = max (m.log2 + e - 52) (-1074) := ⟨_, rfl⟩
  have het : e ≤ t := by omega
  obtain ⟨hlower, hupper⟩ := h.bounds
  rw [le_div_iff₀ (two_zpow_pos e)] at hlower
  rw [div_lt_iff₀ (two_zpow_pos e)] at hupper
  have hbelow : x < 2 ^ (t + 53) := by
    have hm : (m : ℚ) + 1 ≤ 2 ^ (m.log2 + 1) := by exact_mod_cast Nat.lt_log2_self
    calc x < (m + 1) * 2 ^ e := hupper
      _ ≤ 2 ^ (m.log2 + 1) * 2 ^ e := by gcongr
      _ = 2 ^ (e + (m.log2 + 1 : ℕ)) := two_pow_mul_zpow _ e
      _ ≤ 2 ^ (t + 53) := zpow_le_zpow_right₀ one_le_two (by push_cast; omega)
  have hnormal : t = -1074 ∨ 2 ^ (t + 52) ≤ x := by
    refine or_iff_not_imp_left.2 fun hmin => ?_
    have hm : m ≠ 0 := by
      rintro rfl
      simp only [Nat.log2_zero] at *
      omega
    have hlog : (2 : ℚ) ^ m.log2 ≤ m := by exact_mod_cast Nat.log2_self_le hm
    have hexponent : t + 52 = e + m.log2 := by omega
    calc (2 : ℚ) ^ (t + 52) = 2 ^ m.log2 * 2 ^ e := by rw [hexponent, two_pow_mul_zpow]
      _ ≤ m * 2 ^ e := by gcongr
      _ ≤ x := hlower
  have hstands := (standsFor_ofMantissa h).shiftRight (t - e).toNat
  have hscale : x / 2 ^ e / 2 ^ (t - e).toNat = x / 2 ^ t := by
    have hexponent : e + ((t - e).toNat : ℤ) = t := by omega
    rw [div_div, ← zpow_natCast, ← zpow_add₀ two_ne_zero, hexponent]
  rw [hscale] at hstands
  have hrounds : Rounds x _ t := ⟨by omega, hbelow, hnormal, Describes.isNearest hstands⟩
  exact ⟨_, t, hrounds, hrounds.hasValue rfl
    (shiftToTargetExponent_eq accuracy ((targetExponent_eq m e).trans ht.symm) het)⟩

/-! ## What is rounded to a double or more -/

/-- A number comes at least halfway up to `n · 2 ^ s` from the double below it, and is rounded so far up. -/
def Reaches (n : ℕ) (s : ℤ) (x : ℚ) : Prop :=
  (2 * n - 1) * 2 ^ s < 2 * x ∨ Even n ∧ (2 * n - 1) * 2 ^ s = 2 * x

theorem reaches_iff_of_even {n : ℕ} (hn : Even n) (s : ℤ) (x : ℚ) :
    Reaches n s x ↔ (2 * n - 1) * 2 ^ s ≤ 2 * x := by
  rw [Reaches, and_iff_right hn, ← le_iff_lt_or_eq]

theorem reaches_iff_of_odd {n : ℕ} (hn : ¬ Even n) (s : ℤ) (x : ℚ) :
    Reaches n s x ↔ (2 * n - 1) * 2 ^ s < 2 * x := by
  rw [Reaches, or_iff_left fun h => hn h.1]

/-- **Rounding keeps the order.** The result is at least a double just if the number reaches it. -/
theorem Rounds.le_iff {x : ℚ} {m n : ℕ} {t s : ℤ} (h : Rounds x m t) (hn : 2 ^ 52 < n)
    (hn' : n ≤ 2 ^ 53) (hs : -1074 ≤ s) : (n : ℚ) * 2 ^ s ≤ m * 2 ^ t ↔ Reaches n s x := by
  have hspos := two_zpow_pos s
  have htpos := two_zpow_pos t
  have hlower : (2 ^ 52 : ℚ) + 1 ≤ n := by exact_mod_cast hn
  have hupper : (n : ℚ) ≤ 2 ^ 53 := by exact_mod_cast hn'
  rcases lt_trichotomy t s with hts | rfl | hts
  · -- All that has the exponent `t` is below.
    have hexponents : (2 : ℚ) ^ (t + 53) ≤ 2 ^ 52 * 2 ^ s := by
      rw [two_pow_mul_zpow]
      exact zpow_le_zpow_right₀ one_le_two (by push_cast; omega)
    have hm : (m : ℚ) * 2 ^ t ≤ 2 ^ (t + 53) := by
      have hm : (m : ℚ) ≤ 2 ^ 53 := by exact_mod_cast h.le
      calc (m : ℚ) * 2 ^ t ≤ 2 ^ 53 * 2 ^ t := by gcongr
        _ = 2 ^ (t + 53) := two_pow_mul_zpow 53 t
    have hx := h.below
    refine iff_of_false ?_ ?_
    · nlinarith
    · rintro (hreach | ⟨_, hreach⟩) <;> nlinarith
  · rw [mul_le_mul_iff_left₀ htpos, Nat.cast_le, h.nearest.le_iff, Reaches]
    have hx : x = x / 2 ^ t * 2 ^ t := (div_mul_cancel₀ x htpos.ne').symm
    have hx : 2 * x = 2 * (x / 2 ^ t) * 2 ^ t := by linarith
    rw [hx, mul_lt_mul_iff_left₀ htpos, mul_left_inj' htpos.ne']
  · have hexponents : (2 : ℚ) ^ 53 * 2 ^ s ≤ 2 ^ (t + 52) := by
      rw [two_pow_mul_zpow]
      exact zpow_le_zpow_right₀ one_le_two (by push_cast; omega)
    have hleast : t ≠ -1074 := by omega
    have hm : (2 : ℚ) ^ (t + 52) ≤ m * 2 ^ t := by
      have hm : (2 : ℚ) ^ 52 ≤ m := by exact_mod_cast h.le_of_normal hleast
      calc (2 : ℚ) ^ (t + 52) = 2 ^ 52 * 2 ^ t := (two_pow_mul_zpow 52 t).symm
        _ ≤ m * 2 ^ t := by gcongr
    have hx := h.normal.resolve_left hleast
    refine iff_of_true ?_ (.inl ?_)
    · nlinarith
    · nlinarith

/-! ## Packed doubles -/

theorem toNat_append_one (m : BitVec 52) : (1#1 ++ m).toNat = 2 ^ 52 + m.toNat := by
  rw [BitVec.toNat_append, ← Nat.shiftLeft_add_eq_or_of_lt m.isLt]
  rfl

theorem ofNat_ne_of_toNat {w n : ℕ} {b : BitVec w} (hn : n < 2 ^ w) (h : n ≠ b.toNat) :
    BitVec.ofNat w n ≠ b := by
  rintro rfl
  rw [BitVec.toNat_ofNat, Nat.mod_eq_of_lt hn] at h
  exact h rfl

/-- What is packed is unpacked again, with the first bit of the mantissa left out or not. -/
theorem unpack_pack {m : ℕ} {e : ℤ} (pos : 0 < m) (h : Canonical m e) (he : e ≤ 971) :
    (Float.Model.pack (.finite .positive m e pos)).unpack = .finite .positive m e pos := by
  obtain ⟨hbits, hleast, hnormal⟩ := h
  have hexponent : ¬ 2 ^ 11 ≤ (e + 1023 + 52).toNat + 1 := by omega
  have hlog : m.log2 + 1 = 53 ↔ 2 ^ 52 ≤ m := by
    rw [← Nat.le_log2 pos.ne']
    have hlt := (Nat.log2_lt pos.ne').2 hbits
    omega
  have hpack : UnpackedFloat.pack Format.binary64 (.finite .positive m e pos) =
      if 2 ^ 52 ≤ m then
        packComponents Format.binary64 .positive (BitVec.ofNat 11 (e + 1023 + 52).toNat) (BitVec.ofNat 52 m)
      else packComponents Format.binary64 .positive 0#11 (BitVec.ofNat 52 m) :=
    (if_neg hexponent).trans (if_congr hlog rfl rfl)
  show UnpackedFloat.unpack Format.binary64
    (UInt64.ofBitVec (UnpackedFloat.pack Format.binary64 _)).toBitVec = _
  rw [hpack]
  by_cases hm : 2 ^ 52 ≤ m
  · rw [if_pos hm]
    show UnpackedFloat.unpack Format.binary64 (packComponents _ _ _ _) = _
    have hbiased : (e + 1023 + 52).toNat < 2 ^ 11 := by omega
    have hones : BitVec.ofNat 11 (e + 1023 + 52).toNat ≠ -1#11 :=
      ofNat_ne_of_toNat hbiased (show _ ≠ 2047 by omega)
    have hzero : BitVec.ofNat 11 (e + 1023 + 52).toNat ≠ 0#11 :=
      ofNat_ne_of_toNat hbiased (show _ ≠ 0 by omega)
    have hmantissa : (1#1 ++ BitVec.ofNat 52 m).toNat = m := by
      rw [toNat_append_one, BitVec.toNat_ofNat]
      omega
    have hexponent : ((BitVec.ofNat 11 (e + 1023 + 52).toNat).toNat : ℤ) - (1023 + 52) = e := by
      rw [BitVec.toNat_ofNat, Nat.mod_eq_of_lt hbiased]
      omega
    unfold UnpackedFloat.unpack
    simp only [unpackMantissa_packComponents, unpackExponent_packComponents, unpackSign_packComponents,
      Sign.ofBitVec_toBitVec, if_neg hones, if_neg hzero]
    rw [UnpackedFloat.finite.injEq]
    exact ⟨rfl, hmantissa, hexponent⟩
  · rw [if_neg hm]
    show UnpackedFloat.unpack Format.binary64 (packComponents _ _ _ _) = _
    have hfits : m < 2 ^ 52 := by omega
    have hmantissa : (BitVec.ofNat 52 m).toNat = m := by rw [BitVec.toNat_ofNat, Nat.mod_eq_of_lt hfits]
    have hones : 0#11 ≠ -1#11 := by decide
    have hzero : BitVec.ofNat 52 m ≠ 0#52 := ofNat_ne_of_toNat hfits pos.ne'
    unfold UnpackedFloat.unpack
    simp only [unpackMantissa_packComponents, unpackExponent_packComponents, unpackSign_packComponents,
      Sign.ofBitVec_toBitVec, if_neg hones, if_true, dif_neg hzero]
    rw [UnpackedFloat.finite.injEq]
    exact ⟨rfl, hmantissa, (hnormal.resolve_left hm).symm⟩

theorem unpack_pack_of_large {m : ℕ} {e : ℤ} (pos : 0 < m) (he : 971 < e) :
    (Float.Model.pack (.finite .positive m e pos)).unpack = .infinity .positive := by
  have hexponent : 2 ^ 11 ≤ (e + 1023 + 52).toNat + 1 := by omega
  have hpack : UnpackedFloat.pack Format.binary64 (.finite .positive m e pos) =
      packedInfinity Format.binary64 .positive := if_pos hexponent
  show UnpackedFloat.unpack Format.binary64
    (UInt64.ofBitVec (UnpackedFloat.pack Format.binary64 _)).toBitVec = _
  rw [hpack]
  rfl

end HttpService.Decimal
