import HttpService.Proofs.Decimal.Rounding

/-!
# Doubles and their values

A double holds a value (`Holds`) or is infinite. `Rounded` says that a double is what a number is rounded
to: the one that holds the nearest value, or the infinite one from `2 ^ 1024 - 2 ^ 970` on
(`tooLarge_iff`). Doubles are in the order of their values (`Holds.le_iff`), no value lies in the gap below
a double (`Rounds.le_iff_of_gap`), and a product or a quotient is the rounded one (`Holds.mul`,
`Holds.div`).
-/

set_option autoImplicit false

namespace HttpService.Decimal

open Float.Model Float.Model.UnpackedFloat

/-- A double that is not negative holds a value. -/
def Holds (f : Float) (v : ℚ) : Prop :=
  HasValue f.toModel.unpack v

/-- A number is rounded up to `2 ^ 1024` or more, which no double holds. -/
def TooLarge (x : ℚ) : Prop :=
  Reaches (2 ^ 53) 971 x

theorem tooLarge_iff (x : ℚ) : TooLarge x ↔ 2 ^ 1024 - 2 ^ 970 ≤ x := by
  have hdouble : (2 : ℚ) ^ (971 : ℤ) = 2 * 2 ^ 970 := by
    rw [show (971 : ℤ) = (970 : ℕ) + 1 by rfl, zpow_add_one₀ two_ne_zero, zpow_natCast, mul_comm]
  have hsum : (2 : ℚ) ^ 1024 = 2 ^ 54 * 2 ^ 970 := by rw [← pow_add]
  rw [TooLarge, reaches_iff_of_even (by decide), hdouble, hsum]
  generalize (2 : ℚ) ^ 970 = c
  push_cast
  constructor <;> intro h <;> linarith

theorem TooLarge.two_pow_le {x : ℚ} (h : TooLarge x) : 2 ^ 128 ≤ x := by
  have hsum : (2 : ℚ) ^ 1024 = 2 ^ 54 * 2 ^ 970 := by rw [← pow_add]
  have hless : (2 : ℚ) ^ 128 ≤ 2 ^ 970 := pow_le_pow_right₀ one_le_two (by norm_num)
  refine le_trans ?_ ((tooLarge_iff x).1 h)
  rw [hsum]
  generalize (2 : ℚ) ^ 970 = c at hless ⊢
  linarith

theorem Rounds.tooLarge_iff {x : ℚ} {m : ℕ} {t : ℤ} (h : Rounds x m t) :
    TooLarge x ↔ 2 ^ (1024 : ℤ) ≤ (m : ℚ) * 2 ^ t := by
  rw [TooLarge, ← h.le_iff (by norm_num) le_rfl (by norm_num), Nat.cast_pow, Nat.cast_ofNat,
    two_pow_mul_zpow]
  rfl

/-- A number is rounded to a double, or is too large for one. -/
inductive Rounded (x : ℚ) (f : Float) : Prop
  | finite {m : ℕ} {t : ℤ} (rounds : Rounds x m t) (holds : Holds f (m * 2 ^ t))
    (fits : ¬ TooLarge x) : Rounded x f
  | infinite (large : TooLarge x) (unpacked : f.toModel.unpack = .infinity .positive) :
    Rounded x f

theorem HasValue.nonneg {u : UnpackedFloat} {v : ℚ} (h : HasValue u v) : 0 ≤ v := by
  cases h with
  | zero => exact le_rfl
  | finite pos canonical => exact mul_nonneg (Nat.cast_nonneg _) (two_zpow_pos _).le

theorem rounded_pack {x : ℚ} {m : ℕ} {t : ℤ} {u : UnpackedFloat} (h : Rounds x m t)
    (hu : HasValue u (m * 2 ^ t)) : Rounded x ⟨Float.Model.pack u⟩ := by
  have hlarge := h.tooLarge_iff
  obtain ⟨v, hv⟩ : ∃ v : ℚ, v = m * 2 ^ t := ⟨_, rfl⟩
  rw [← hv] at hlarge hu
  cases hu with
  | zero =>
    refine .finite h ?_ (hlarge.not.2 (two_zpow_pos 1024).not_ge)
    rw [← hv]
    exact .zero
  | @finite k e pos canonical =>
    by_cases he : e ≤ 971
    · refine .finite h ?_ (hlarge.not.2 (not_le.2 ?_))
      · rw [← hv]
        show HasValue (Float.Model.pack _).unpack _
        rw [unpack_pack pos canonical he]
        exact .finite pos canonical
      · have hk : (k : ℚ) < 2 ^ 53 := by exact_mod_cast canonical.bits
        calc (k : ℚ) * 2 ^ e < 2 ^ 53 * 2 ^ e := mul_lt_mul_of_pos_right hk (two_zpow_pos e)
          _ = 2 ^ (e + 53) := two_pow_mul_zpow 53 e
          _ ≤ 2 ^ (1024 : ℤ) := zpow_le_zpow_right₀ one_le_two (by omega)
    · refine .infinite (hlarge.2 ?_) (unpack_pack_of_large pos (by omega))
      have hk : (2 : ℚ) ^ 52 ≤ k := by
        exact_mod_cast canonical.normal.resolve_right (by omega)
      calc (2 : ℚ) ^ (1024 : ℤ) ≤ 2 ^ (e + 52) := zpow_le_zpow_right₀ one_le_two (by omega)
        _ = 2 ^ 52 * 2 ^ e := (two_pow_mul_zpow 52 e).symm
        _ ≤ k * 2 ^ e := mul_le_mul_of_nonneg_right hk (two_zpow_pos e).le

/-! ## Order -/

theorem HasValue.lt_of_exponent_lt {m₁ m₂ : ℕ} {e₁ e₂ : ℤ} (h₁ : Canonical m₁ e₁)
    (h₂ : Canonical m₂ e₂) (he : e₁ < e₂) : (m₁ * 2 ^ e₁ : ℚ) < m₂ * 2 ^ e₂ := by
  have hm₁ : (m₁ : ℚ) < 2 ^ 53 := by exact_mod_cast h₁.bits
  have hleast := h₁.least
  have hm₂ : (2 : ℚ) ^ 52 ≤ m₂ := by exact_mod_cast h₂.normal.resolve_right (by omega)
  calc (m₁ : ℚ) * 2 ^ e₁ < 2 ^ 53 * 2 ^ e₁ := mul_lt_mul_of_pos_right hm₁ (two_zpow_pos e₁)
    _ = 2 ^ (e₁ + 53) := two_pow_mul_zpow 53 e₁
    _ ≤ 2 ^ (e₂ + 52) := zpow_le_zpow_right₀ one_le_two (by omega)
    _ = 2 ^ 52 * 2 ^ e₂ := (two_pow_mul_zpow 52 e₂).symm
    _ ≤ m₂ * 2 ^ e₂ := mul_le_mul_of_nonneg_right hm₂ (two_zpow_pos e₂).le

/-- Doubles are in the order of their values. -/
theorem HasValue.le_iff {u w : UnpackedFloat} {a b : ℚ} (hu : HasValue u a) (hw : HasValue w b) :
    UnpackedFloat.le u w = true ↔ a ≤ b := by
  cases hu with
  | zero =>
    cases hw with
    | zero => exact iff_of_true rfl le_rfl
    | finite pos canonical => exact iff_of_true rfl (HasValue.finite pos canonical).nonneg
  | @finite m₁ e₁ pos₁ canonical₁ =>
    have hpos₁ : (0 : ℚ) < m₁ * 2 ^ e₁ := mul_pos (by exact_mod_cast pos₁) (two_zpow_pos e₁)
    cases hw with
    | zero => exact iff_of_false Bool.false_ne_true hpos₁.not_ge
    | @finite m₂ e₂ pos₂ canonical₂ =>
      show ((compare e₁ e₂).then (compare m₁ m₂)).isLE = true ↔ _
      rcases lt_trichotomy e₁ e₂ with he | rfl | he
      · rw [Int.compare_eq_lt.2 he]
        exact iff_of_true rfl (HasValue.lt_of_exponent_lt canonical₁ canonical₂ he).le
      · rw [Int.compare_eq_eq.2 rfl, mul_le_mul_iff_left₀ (two_zpow_pos e₁), Nat.cast_le]
        exact Nat.isLE_compare
      · rw [Int.compare_eq_gt.2 he]
        exact iff_of_false Bool.false_ne_true (HasValue.lt_of_exponent_lt canonical₂ canonical₁ he).not_ge

/-- The gap below `n · 2 ^ s` holds no double. -/
theorem Rounds.le_iff_of_gap {x c : ℚ} {m n : ℕ} {t s : ℤ} (h : Rounds x m t) (hn : 2 ^ 52 < n)
    (hlower : (n - 1) * 2 ^ s < c) (hupper : c ≤ n * 2 ^ s) :
    c ≤ m * 2 ^ t ↔ (n : ℚ) * 2 ^ s ≤ m * 2 ^ t := by
  refine ⟨fun hc => ?_, hupper.trans⟩
  have hle : (m : ℚ) ≤ 2 ^ 53 := by exact_mod_cast h.le
  by_cases hts : t < s
  · have hn : (2 : ℚ) ^ 52 ≤ n - 1 := by
      have hn : ((2 ^ 52 + 1 : ℕ) : ℚ) ≤ n := by exact_mod_cast hn
      push_cast at hn
      linarith
    have hbelow : (m : ℚ) * 2 ^ t ≤ (n - 1) * 2 ^ s := by
      calc (m : ℚ) * 2 ^ t ≤ 2 ^ 53 * 2 ^ t := mul_le_mul_of_nonneg_right hle (two_zpow_pos t).le
        _ = 2 ^ (t + 53) := two_pow_mul_zpow 53 t
        _ ≤ 2 ^ (s + 52) := zpow_le_zpow_right₀ one_le_two (by omega)
        _ = 2 ^ 52 * 2 ^ s := (two_pow_mul_zpow 52 s).symm
        _ ≤ (n - 1) * 2 ^ s := mul_le_mul_of_nonneg_right hn (two_zpow_pos s).le
    exact absurd (hlower.trans_le hc) hbelow.not_gt
  · -- Here the doubles are multiples of `2 ^ s`.
    obtain ⟨k, hk⟩ : ∃ k : ℕ, t = s + k := ⟨(t - s).toNat, by omega⟩
    have hvalue : (m : ℚ) * 2 ^ t = (m * 2 ^ k : ℕ) * 2 ^ s := by
      rw [hk, ← two_pow_mul_zpow]
      push_cast
      ring
    rw [hvalue] at hc ⊢
    have hlt : (n - 1 : ℚ) < (m * 2 ^ k : ℕ) :=
      lt_of_mul_lt_mul_right (hlower.trans_le hc) (two_zpow_pos s).le
    have hlt : (n : ℚ) < (m * 2 ^ k + 1 : ℕ) := by
      push_cast at hlt ⊢
      linarith
    have hle : n ≤ m * 2 ^ k := Nat.lt_succ_iff.1 (by exact_mod_cast hlt)
    exact mul_le_mul_of_nonneg_right (by exact_mod_cast hle) (two_zpow_pos s).le

section
variable {u : UnpackedFloat} {x y : Float} {v w : ℚ}

theorem HasValue.not_isNaN (h : HasValue u v) : u.isNaN = false := by
  cases h <;> rfl

theorem HasValue.not_isInf (h : HasValue u v) : u.isInf = false := by
  cases h <;> rfl

theorem HasValue.not_lt_zero (h : HasValue u v) : UnpackedFloat.lt u (.zero .positive) = false := by
  cases h <;> rfl

theorem HasValue.le_infinity (h : HasValue u v) : UnpackedFloat.le u (.infinity .positive) = true := by
  cases h <;> rfl

theorem Holds.le_iff (hx : Holds x v) (hy : Holds y w) : x ≤ y ↔ v ≤ w := by
  rw [← HasValue.le_iff hx hy]
  exact decide_eq_true_iff

theorem Holds.not_isNaN (h : Holds x v) : x.isNaN = false :=
  HasValue.not_isNaN h

theorem Holds.not_isInf (h : Holds x v) : x.isInf = false :=
  HasValue.not_isInf h

theorem Holds.not_negative (h : Holds x v) : ¬ x < 0.0 := by
  have hzero : (0.0 : Float).toModel.unpack = .zero .positive := by rfl
  show ¬ decide (UnpackedFloat.lt x.toModel.unpack (0.0 : Float).toModel.unpack = true) = true
  rw [hzero, HasValue.not_lt_zero h]
  decide

theorem Holds.le_infinite (h : Holds x v) (hy : y.toModel.unpack = .infinity .positive) : x ≤ y := by
  show decide (UnpackedFloat.le x.toModel.unpack y.toModel.unpack = true) = true
  rw [hy, HasValue.le_infinity h]
  decide

theorem isInf_of_infinite (h : x.toModel.unpack = .infinity .positive) : x.isInf = true := by
  show x.toModel.unpack.isInf = true
  rw [h]
  rfl

end

/-! ## Products and quotients -/

theorem isNearest_zero {y : ℚ} (hy : 0 ≤ y) (hhalf : 2 * y ≤ 1) : IsNearest y 0 :=
  ⟨by push_cast; linarith, by push_cast; linarith, fun _ => Even.zero⟩

theorem rounds_zero_of_small {x : ℚ} (hx : 0 ≤ x) (hsmall : 2 * x ≤ 2 ^ (-1074 : ℤ)) :
    Rounds x 0 (-1074) := by
  have hpos := two_zpow_pos (-1074)
  have hbelow : x < 2 ^ (-1074 + 53 : ℤ) := by
    calc x ≤ 2 * x := le_mul_of_one_le_left hx one_le_two
      _ ≤ 2 ^ (-1074 : ℤ) := hsmall
      _ < 2 ^ (-1074 + 53 : ℤ) := zpow_lt_zpow_right₀ one_lt_two (by norm_num)
  have hhalf : 2 * (x / 2 ^ (-1074 : ℤ)) ≤ 1 := by
    rwa [← mul_div_assoc, div_le_one hpos]
  have hnonneg : 0 ≤ x / 2 ^ (-1074 : ℤ) := div_nonneg hx hpos.le
  exact ⟨le_rfl, hbelow, .inl rfl, isNearest_zero hnonneg hhalf⟩

theorem hasValue_zero (t : ℤ) : HasValue (.zero .positive) ((0 : ℕ) * 2 ^ t) := by
  rw [Nat.cast_zero, zero_mul]
  exact .zero

theorem rounded_zero : Rounded 0 ⟨Float.Model.pack (.zero .positive)⟩ :=
  rounded_pack (rounds_zero_of_small le_rfl (by simp)) (hasValue_zero _)

section
variable {m₁ m₂ : ℕ} {e₁ e₂ : ℤ}

theorem rounded_product (h : 2 ^ 52 ≤ m₁ * m₂) :
    Rounded ((m₁ * 2 ^ e₁) * (m₂ * 2 ^ e₂)) ⟨Float.Model.pack
      (roundWithAccuracy Format.binary64 .positive (m₁ * m₂) (e₁ + e₂) .exact)⟩ := by
  have hvalue : ((m₁ * 2 ^ e₁) * (m₂ * 2 ^ e₂) : ℚ) = (m₁ * m₂ : ℕ) * 2 ^ (e₁ + e₂) := by
    rw [zpow_add₀ two_ne_zero]
    push_cast
    ring
  have hdescribes : Describes (m₁ * m₂) .exact
      ((m₁ * 2 ^ e₁) * (m₂ * 2 ^ e₂) / 2 ^ (e₁ + e₂)) := by
    rw [hvalue]
    exact mul_div_cancel_right₀ _ (two_zpow_pos _).ne'
  have hbits : 52 ≤ (m₁ * m₂).log2 := (Nat.le_log2 (by omega)).2 h
  obtain ⟨r, t, hrounds, hresult⟩ := exists_rounds hdescribes (.inl hbits)
  exact rounded_pack hrounds hresult

theorem describes_fraction (num : ℕ) {den : ℕ} (hden : 0 < den) :
    Describes (num / den) (accuracyOfFraction (num % den) den) (num / den) := by
  have hden' : (0 : ℚ) < den := by exact_mod_cast hden
  have hsplit : (num : ℚ) = den * (num / den : ℕ) + (num % den : ℕ) := by
    exact_mod_cast (Nat.div_add_mod num den).symm
  have hquotient : (num : ℚ) / den = (num / den : ℕ) + (num % den : ℕ) / den := by
    rw [div_eq_iff hden'.ne', add_mul, div_mul_cancel₀ _ hden'.ne', mul_comm]
    exact hsplit
  have hlt : num % den < den := Nat.mod_lt _ hden
  rw [hquotient]
  generalize num % den = r at hlt
  have hrest : (r : ℚ) / den < 1 := by
    rw [div_lt_one hden']
    exact_mod_cast hlt
  unfold accuracyOfFraction
  split
  · rename_i hzero
    show _ = _
    rw [hzero, Nat.cast_zero, zero_div, add_zero]
  · rename_i hpos
    have hpos : (0 : ℚ) < r / den := div_pos (by exact_mod_cast Nat.pos_of_ne_zero hpos) hden'
    cases hcompare : compare (2 * r) den with
    | lt =>
      have hlt : 2 * (r : ℚ) < den := by exact_mod_cast Nat.compare_eq_lt.1 hcompare
      have hhalf : (r : ℚ) / den < 1 / 2 := by
        rw [div_lt_iff₀ hden']
        linarith
      exact ⟨by linarith, by linarith⟩
    | eq =>
      have heq : 2 * (r : ℚ) = den := by exact_mod_cast Nat.compare_eq_eq.1 hcompare
      have hhalf : (r : ℚ) / den = 1 / 2 := by
        rw [div_eq_iff hden'.ne']
        linarith
      exact congrArg _ hhalf
    | gt =>
      have hgt : (den : ℚ) < 2 * r := by exact_mod_cast Nat.compare_eq_gt.1 hcompare
      have hhalf : 1 / 2 < (r : ℚ) / den := by
        rw [lt_div_iff₀ hden']
        linarith
      exact ⟨by linarith, by linarith⟩

/-- A dividend that is 53 bits longer than the divisor gives a quotient of 53 bits. -/
theorem le_log2_quotient {k : ℕ} (h₁ : 0 < m₁) (h₂ : 0 < m₂) (hlonger : m₂.log2 + 53 ≤ m₁.log2 + k) :
    52 ≤ ((m₁ <<< k) / m₂).log2 := by
  have hdividend : 2 ^ (m₂.log2 + 53) ≤ m₁ <<< k := by
    rw [Nat.shiftLeft_eq]
    calc 2 ^ (m₂.log2 + 53) ≤ 2 ^ (m₁.log2 + k) := Nat.pow_le_pow_right (by norm_num) hlonger
      _ = 2 ^ m₁.log2 * 2 ^ k := pow_add 2 _ _
      _ ≤ m₁ * 2 ^ k := Nat.mul_le_mul_right _ (Nat.log2_self_le h₁.ne')
  have hquotient : 2 ^ 52 ≤ (m₁ <<< k) / m₂ := by
    rw [Nat.le_div_iff_mul_le h₂]
    calc 2 ^ 52 * m₂ ≤ 2 ^ 52 * 2 ^ (m₂.log2 + 1) := Nat.mul_le_mul_left _ Nat.lt_log2_self.le
      _ = 2 ^ (m₂.log2 + 53) := by
        rw [← pow_add]
        congr 1
        omega
      _ ≤ m₁ <<< k := hdividend
  exact (Nat.le_log2 (by omega)).2 hquotient

theorem rounded_quotient (h₁ : 0 < m₁) (h₂ : 0 < m₂) :
    Rounded ((m₁ * 2 ^ e₁) / (m₂ * 2 ^ e₂)) ⟨Float.Model.pack (UnpackedFloat.div Format.binary64
      (.finite .positive m₁ e₁ h₁) (.finite .positive m₂ e₂ h₂))⟩ := by
  obtain ⟨t, ht⟩ : ∃ t : ℤ, t = min (e₁ - e₂)
      (Format.binary64.targetExponent (totalExponent m₁ e₁ - totalExponent m₂ e₂)) := ⟨_, rfl⟩
  obtain ⟨k, hk⟩ : ∃ k : ℕ, k = (e₁ - e₂ - t).toNat := ⟨_, rfl⟩
  have htarget : Format.binary64.targetExponent (totalExponent m₁ e₁ - totalExponent m₂ e₂) =
      max (m₁.log2 + e₁ - (m₂.log2 + e₂) - 53) (-1074) := by
    simp only [Format.targetExponent, totalExponent, Format.mantissaBits, Format.minExponent]
    omega
  have hdiv : UnpackedFloat.div Format.binary64
      (.finite .positive m₁ e₁ h₁) (.finite .positive m₂ e₂ h₂) =
      roundWithAccuracy Format.binary64 .positive ((m₁ <<< k) / m₂) t
        (accuracyOfFraction ((m₁ <<< k) % m₂) m₂) := by
    rw [hk, ht]
    rfl
  have hvalue : ((m₁ * 2 ^ e₁) / (m₂ * 2 ^ e₂) / 2 ^ t : ℚ) = (m₁ <<< k : ℕ) / m₂ := by
    have hexponents : e₁ = e₂ + t + k := by omega
    have hm₂ : (m₂ : ℚ) ≠ 0 := by exact_mod_cast h₂.ne'
    rw [Nat.shiftLeft_eq, hexponents, zpow_add₀ two_ne_zero, zpow_add₀ two_ne_zero, zpow_natCast]
    push_cast
    field_simp
  have henough : 52 ≤ ((m₁ <<< k) / m₂).log2 ∨ t ≤ -1074 :=
    or_iff_not_imp_right.2 fun hlarge => le_log2_quotient h₁ h₂ (by omega)
  have hdescribes := describes_fraction (m₁ <<< k) h₂
  rw [← hvalue] at hdescribes
  obtain ⟨r, s, hrounds, hresult⟩ := exists_rounds hdescribes henough
  rw [hdiv]
  exact rounded_pack hrounds hresult

end

/-! ## Operations on doubles -/

theorem HasValue.normal {m : ℕ} {e : ℤ} (h : Canonical m e) (hlarge : (1 : ℚ) ≤ m * 2 ^ e) :
    2 ^ 52 ≤ m := by
  refine h.normal.resolve_right fun he => ?_
  subst he
  have hm : (m : ℚ) < 2 ^ 53 := by exact_mod_cast h.bits
  have hsmall : (m : ℚ) * 2 ^ (-1074 : ℤ) < 1 := by
    calc (m : ℚ) * 2 ^ (-1074 : ℤ) < 2 ^ 53 * 2 ^ (-1074 : ℤ) :=
          mul_lt_mul_of_pos_right hm (two_zpow_pos _)
      _ = 2 ^ (-1074 + 53 : ℤ) := two_pow_mul_zpow 53 _
      _ ≤ 2 ^ (0 : ℤ) := zpow_le_zpow_right₀ one_le_two (by norm_num)
      _ = 1 := zpow_zero 2
  exact hsmall.not_ge hlarge

section
variable {u w : UnpackedFloat} {f g : Float} {a b : ℚ}

theorem HasValue.mul (hu : HasValue u a) (hw : HasValue w b) (hb : 1 ≤ b) :
    Rounded (a * b) ⟨Float.Model.pack (UnpackedFloat.mul Format.binary64 u w)⟩ := by
  cases hw with
  | zero => exact absurd hb (by norm_num)
  | @finite m₂ e₂ pos₂ canonical₂ =>
    cases hu with
    | zero =>
      rw [zero_mul]
      exact rounded_zero
    | @finite m₁ e₁ pos₁ canonical₁ =>
      exact rounded_product ((HasValue.normal canonical₂ hb).trans (Nat.le_mul_of_pos_left _ pos₁))

theorem HasValue.div (hu : HasValue u a) (hw : HasValue w b) (hb : 1 ≤ b) :
    Rounded (a / b) ⟨Float.Model.pack (UnpackedFloat.div Format.binary64 u w)⟩ := by
  cases hw with
  | zero => exact absurd hb (by norm_num)
  | @finite m₂ e₂ pos₂ canonical₂ =>
    cases hu with
    | zero =>
      rw [zero_div]
      exact rounded_zero
    | @finite m₁ e₁ pos₁ canonical₁ => exact rounded_quotient pos₁ pos₂

theorem Holds.mul (hf : Holds f a) (hg : Holds g b) (hb : 1 ≤ b) : Rounded (a * b) (f * g) :=
  HasValue.mul hf hg hb

theorem Holds.div (hf : Holds f a) (hg : Holds g b) (hb : 1 ≤ b) : Rounded (a / b) (f / g) :=
  HasValue.div hf hg hb

end

/-- The double is a natural number, checked on its parts. -/
def isNatural (n : ℕ) : UnpackedFloat → Bool
  | .finite .positive m e _ =>
    m < 2 ^ 53 && -1074 ≤ e && (2 ^ 52 ≤ m || e == -1074) && m * 2 ^ e.toNat == n * 2 ^ (-e).toNat
  | _ => false

theorem hasValue_of_isNatural {n : ℕ} {u : UnpackedFloat} (h : isNatural n u = true) : HasValue u n := by
  unfold isNatural at h
  split at h
  · rename_i m e pos
    simp only [Bool.and_eq_true, Bool.or_eq_true, decide_eq_true_eq, beq_iff_eq] at h
    obtain ⟨⟨⟨hbits, hleast⟩, hnormal⟩, hvalue⟩ := h
    have hvalue : (m : ℚ) * 2 ^ e.toNat = n * 2 ^ (-e).toNat := by exact_mod_cast hvalue
    have hn : (m : ℚ) * 2 ^ e = n := by
      have hexponent : (2 : ℚ) ^ e * 2 ^ (-e).toNat = 2 ^ e.toNat := by
        rw [← zpow_natCast, ← zpow_natCast, ← zpow_add₀ two_ne_zero]
        congr 1
        omega
      refine mul_right_cancel₀ (pow_ne_zero (-e).toNat two_ne_zero) ?_
      rw [mul_assoc, hexponent, hvalue]
    rw [← hn]
    exact .finite pos ⟨hbits, hleast, hnormal⟩
  · cases h

theorem holds_of_isNatural {n : ℕ} {f : Float} (h : isNatural n f.toModel.unpack = true) : Holds f n :=
  hasValue_of_isNatural h

/-- A mantissa that fits is not rounded. -/
theorem roundWithAccuracy_of_lt {m : ℕ} {e : ℤ} (pos : 0 < m) (hm : m < 2 ^ 53) (he : -1074 ≤ e) :
    roundWithAccuracy Format.binary64 .positive m e .exact = .finite .positive m e pos := by
  unfold roundWithAccuracy
  rw [shiftToTargetExponent_of_lt hm he]
  dsimp only
  rw [show (ExtendedMantissa.mk m false false).roundedMantissa = m from rfl,
    shiftToTargetExponent_of_lt hm he]
  exact dif_neg pos.ne'

/-- A number of at most 53 bits is shifted to 53. -/
theorem shiftLeft_bits {m : ℕ} (pos : 0 < m) (hm : m < 2 ^ 53) :
    2 ^ 52 ≤ m <<< (52 - m.log2) ∧ m <<< (52 - m.log2) < 2 ^ 53 := by
  have hlog : m.log2 ≤ 52 := Nat.lt_succ_iff.1 ((Nat.log2_lt pos.ne').2 hm)
  have hpower (k : ℕ) : 2 ^ (m.log2 + k) * 2 ^ (52 - m.log2) = 2 ^ (52 + k) := by
    rw [← pow_add]
    congr 1
    omega
  rw [Nat.shiftLeft_eq]
  constructor
  · calc 2 ^ 52 = 2 ^ m.log2 * 2 ^ (52 - m.log2) := (hpower 0).symm
      _ ≤ m * 2 ^ (52 - m.log2) := Nat.mul_le_mul_right _ (Nat.log2_self_le pos.ne')
  · calc m * 2 ^ (52 - m.log2) < 2 ^ (m.log2 + 1) * 2 ^ (52 - m.log2) :=
          Nat.mul_lt_mul_of_pos_right Nat.lt_log2_self (by positivity)
      _ = 2 ^ 53 := hpower 1

theorem normalize_of_lt {m : ℕ} (pos : 0 < m) (hm : m < 2 ^ 53) :
    UnpackedFloat.normalize Format.binary64 (m : ℤ) 0 .positive =
      .finite .positive (m <<< (52 - m.log2)) (m.log2 - 52)
        (lt_of_lt_of_le (by norm_num) (shiftLeft_bits pos hm).1) := by
  have hlog : m.log2 ≤ 52 := Nat.lt_succ_iff.1 ((Nat.log2_lt pos.ne').2 hm)
  have htarget : Format.binary64.targetExponent (totalExponent m 0) = m.log2 - 52 := by
    rw [targetExponent_eq]
    omega
  have hshift : (0 - ((m.log2 : ℤ) - 52)).toNat = 52 - m.log2 := by omega
  have hexponent : (0 : ℤ) - (52 - m.log2 : ℕ) = m.log2 - 52 := by omega
  unfold UnpackedFloat.normalize
  rw [Int.compare_eq_gt.2 (by omega)]
  dsimp only
  rw [Int.toNat_natCast, UnpackedFloat.round, htarget, decreaseExponent, hshift]
  dsimp only
  rw [hexponent]
  exact roundWithAccuracy_of_lt _ (shiftLeft_bits pos hm).2 (by omega)

/-- Numbers of 53 bits are doubles. -/
theorem holds_toFloat {m : ℕ} (hm : m < 2 ^ 53) : Holds m.toUInt64.toFloat m := by
  have hnat : m.toUInt64.toNat = m :=
    UInt64.toNat_ofNat_of_lt (hm.trans (by norm_num [UInt64.size]))
  show HasValue (Float.Model.pack (UnpackedFloat.normalize Format.binary64 (m.toUInt64.toNat : ℤ) 0
    .positive)).unpack m
  rw [hnat]
  rcases Nat.eq_zero_or_pos m with rfl | pos
  · rw [Nat.cast_zero]
    exact .zero
  · obtain ⟨hnormal, hbits⟩ := shiftLeft_bits pos hm
    have hlog : m.log2 ≤ 52 := Nat.lt_succ_iff.1 ((Nat.log2_lt pos.ne').2 hm)
    have hcanonical : Canonical (m <<< (52 - m.log2)) (m.log2 - 52) := ⟨hbits, by omega, .inl hnormal⟩
    have hvalue : (m : ℚ) = (m <<< (52 - m.log2) : ℕ) * 2 ^ ((m.log2 : ℤ) - 52) := by
      have hzero : (m.log2 : ℤ) - 52 + (52 - m.log2 : ℕ) = 0 := by omega
      rw [Nat.shiftLeft_eq, Nat.cast_mul, Nat.cast_pow, Nat.cast_ofNat, mul_assoc, two_pow_mul_zpow,
        hzero, zpow_zero, mul_one]
    rw [normalize_of_lt pos hm, unpack_pack _ hcanonical (by omega), hvalue]
    exact .finite _ hcanonical

end HttpService.Decimal
