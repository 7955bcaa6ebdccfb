import HttpService.Decimal.Read
import HttpService.Proofs.Decimal.Doubles

/-!
# Decimals are read to the nearest double

`rounded_nearest`: `nearest` gives the double that a decimal is rounded to, be it made of two doubles, of
natural numbers, or at once because it is far out of range. `Numeral` gives the value of digits with an
optional point. A numeral is read to the double that its value is rounded to (`Numeral.read`), and no
other text of digits and points is read (`exists_numeral`).
-/

set_option autoImplicit false

namespace HttpService.Decimal

open Float.Model Float.Model.UnpackedFloat

/-! ## Decimals -/

theorem isNatural_power : ∀ e : Fin Float.exactlyRepresentablePowersOfTen.size,
    isNatural (10 ^ e.val) Float.exactlyRepresentablePowersOfTen[e].toModel.unpack = true := by
  decide +kernel

theorem holds_power {e : ℕ} (he : e < Float.exactlyRepresentablePowersOfTen.size) :
    Holds Float.exactlyRepresentablePowersOfTen[e] ((10 : ℚ) ^ e) := by
  have h := holds_of_isNatural (isNatural_power ⟨e, he⟩)
  rwa [Nat.cast_pow, Nat.cast_ofNat] at h

theorem tooLarge_of_le {x : ℚ} (h : 2 ^ (1024 : ℤ) ≤ x) : TooLarge x :=
  (tooLarge_iff x).2 ((sub_le_self _ (by positivity)).trans h)

theorem two_zpow_le_ten_zpow {e : ℤ} (he : 0 ≤ e) : (2 : ℚ) ^ (3 * e) ≤ 10 ^ e := by
  rw [zpow_mul]
  exact zpow_le_zpow_left₀ he (by positivity) (by norm_num)

theorem tooLarge_of_ten_zpow_le {x : ℚ} {e : ℤ} (he : 342 ≤ e) (h : 10 ^ e ≤ x) : TooLarge x := by
  refine tooLarge_of_le ?_
  calc (2 : ℚ) ^ (1024 : ℤ) ≤ 2 ^ (3 * e) := zpow_le_zpow_right₀ one_le_two (by omega)
    _ ≤ 10 ^ e := two_zpow_le_ten_zpow (by omega)
    _ ≤ x := h

theorem ten_zpow_le_two_zpow {e : ℤ} (he : e ≤ 0) : (10 : ℚ) ^ e ≤ 2 ^ (3 * e) := by
  obtain ⟨k, rfl⟩ : ∃ k : ℤ, e = -k := ⟨-e, (neg_neg e).symm⟩
  rw [mul_neg, zpow_neg, zpow_neg]
  exact inv_anti₀ (two_zpow_pos _) (two_zpow_le_ten_zpow (by omega))

theorem rounded_small {x : ℚ} (hx : 0 ≤ x) (hsmall : x < 2 ^ (-1075 : ℤ)) :
    Rounded x ⟨Float.Model.pack (.zero .positive)⟩ := by
  refine rounded_pack (rounds_zero_of_small hx ?_) (hasValue_zero _)
  calc 2 * x ≤ 2 ^ 1 * 2 ^ (-1075 : ℤ) := by
        rw [pow_one]
        exact mul_le_mul_of_nonneg_left hsmall.le zero_le_two
    _ = 2 ^ (-1074 : ℤ) := two_pow_mul_zpow 1 _

theorem rounded_power (m : ℕ) (e : ℤ) : Rounded (m * 10 ^ e) ⟨Float.Model.ofScientific m e⟩ := by
  unfold Float.Model.ofScientific UnpackedFloat.ofScientific
  have hten : (0 : ℚ) < 10 ^ e := zpow_pos (by norm_num) e
  split
  · rename_i hm
    rw [hm, Nat.cast_zero, zero_mul]
    exact rounded_zero
  rename_i hm
  have pos : 0 < m := Nat.pos_of_ne_zero hm
  have hone : (1 : ℚ) ≤ m := by exact_mod_cast pos
  split
  · rename_i hlarge
    have hlarge : 2048 < e := hlarge
    exact .infinite (tooLarge_of_ten_zpow_le (by omega) (le_mul_of_one_le_left hten.le hone)) rfl
  split
  · rename_i hsmall
    have hsmall : e < -(2048 + m.log2) := hsmall
    have hm : (m : ℚ) < 2 ^ (m.log2 + 1) := by exact_mod_cast Nat.lt_log2_self
    refine rounded_small (by positivity) ?_
    calc (m : ℚ) * 10 ^ e ≤ m * 2 ^ (3 * e) :=
          mul_le_mul_of_nonneg_left (ten_zpow_le_two_zpow (by omega)) (Nat.cast_nonneg m)
      _ < 2 ^ (m.log2 + 1) * 2 ^ (3 * e) := mul_lt_mul_of_pos_right hm (two_zpow_pos _)
      _ = 2 ^ (3 * e + (m.log2 + 1 : ℕ)) := two_pow_mul_zpow _ _
      _ ≤ 2 ^ (-1075 : ℤ) := zpow_le_zpow_right₀ one_le_two (by push_cast; omega)
  split
  · rename_i hnonneg
    have hvalue : (m * (10 : ℚ) ^ e : ℚ) =
        ((m <<< 53 : ℕ) * 2 ^ (-53 : ℤ)) * ((10 ^ e.toNat : ℕ) * 2 ^ (0 : ℤ)) := by
      have hexponent : (10 : ℚ) ^ e = 10 ^ e.toNat := by
        rw [← zpow_natCast, Int.toNat_of_nonneg hnonneg]
      have hshifted : ((m <<< 53 : ℕ) : ℚ) * 2 ^ (-53 : ℤ) = m := by
        rw [Nat.shiftLeft_eq, Nat.cast_mul, Nat.cast_pow, Nat.cast_ofNat, mul_assoc, two_pow_mul_zpow]
        exact mul_one _
      rw [hexponent, hshifted, zpow_zero, mul_one, Nat.cast_pow, Nat.cast_ofNat]
    rw [hvalue]
    refine rounded_product ?_
    rw [Nat.shiftLeft_eq]
    calc 2 ^ 52 ≤ m * 2 ^ 53 := by omega
      _ ≤ m * 2 ^ 53 * 10 ^ e.toNat := Nat.le_mul_of_pos_right _ (by positivity)
  · rename_i hneg
    have hvalue : (m : ℚ) * 10 ^ e = (m * 2 ^ (0 : ℤ)) / ((10 ^ (-e).toNat : ℕ) * 2 ^ (0 : ℤ)) := by
      have hexponent : (10 : ℚ) ^ e = (10 ^ (-e).toNat)⁻¹ := by
        rw [← zpow_natCast, Int.toNat_of_nonneg (by omega), zpow_neg, inv_inv]
      rw [hexponent, zpow_zero, mul_one, mul_one, Nat.cast_pow, Nat.cast_ofNat, div_eq_mul_inv]
    rw [hvalue]
    exact rounded_quotient pos (by positivity)

theorem rounded_ofScientific (m : ℕ) (e : ℕ) :
    Rounded (m * 10 ^ e) (Float.ofScientific m false e) ∧
      Rounded (m / 10 ^ e) (Float.ofScientific m true e) := by
  have hpower : (1 : ℚ) ≤ 10 ^ e := one_le_pow₀ (by norm_num)
  unfold Float.ofScientific
  split
  · rename_i h
    have he : e < Float.exactlyRepresentablePowersOfTen.size := Nat.lt_succ_of_le h.2
    exact ⟨(holds_toFloat h.1).mul (holds_power he) hpower,
      (holds_toFloat h.1).div (holds_power he) hpower⟩
  · have hproduct := rounded_power m e
    have hquotient := rounded_power m (Int.negOfNat e)
    rw [zpow_natCast] at hproduct
    have hexponent : Int.negOfNat e = -(e : ℤ) := Int.negOfNat_eq
    rw [hexponent, zpow_neg, zpow_natCast, ← div_eq_mul_inv, ← hexponent] at hquotient
    exact ⟨hproduct, hquotient⟩

theorem lt_ten_pow_length (n : ℕ) : n < 10 ^ (Nat.toDigits 10 n).length :=
  (Nat.length_toDigits_le_iff (by norm_num) Nat.length_toDigits_pos).1 le_rfl

theorem ten_pow_le_of_pos {n : ℕ} (hn : 0 < n) : 10 ^ ((Nat.toDigits 10 n).length - 1) ≤ n := by
  have hlength : 0 < (Nat.toDigits 10 n).length := Nat.length_toDigits_pos
  rcases Nat.eq_zero_or_pos ((Nat.toDigits 10 n).length - 1) with hzero | hpos
  · rw [hzero]
    exact hn
  · by_contra hlt
    have hshort := (Nat.length_toDigits_le_iff (by norm_num) hpos).2 (Nat.lt_of_not_le hlt)
    omega

section
variable {digits : ℕ} {exponent : ℤ}

theorem ten_pow_mul_zpow (k : ℕ) (e : ℤ) : (10 : ℚ) ^ k * 10 ^ e = 10 ^ (k + e) := by
  rw [zpow_add₀ (by norm_num), zpow_natCast]

theorem small_of_length (h : (Nat.toDigits 10 digits).length + exponent < -400) :
    (digits : ℚ) * 10 ^ exponent < 2 ^ (-1075 : ℤ) := by
  have hpower : (0 : ℚ) < 10 ^ exponent := zpow_pos (by norm_num) exponent
  have hdigits : (digits : ℚ) < 10 ^ (Nat.toDigits 10 digits).length := by
    exact_mod_cast lt_ten_pow_length digits
  calc (digits : ℚ) * 10 ^ exponent
      < 10 ^ (Nat.toDigits 10 digits).length * 10 ^ exponent := mul_lt_mul_of_pos_right hdigits hpower
    _ = 10 ^ ((Nat.toDigits 10 digits).length + exponent) := ten_pow_mul_zpow _ _
    _ ≤ 2 ^ (3 * ((Nat.toDigits 10 digits).length + exponent)) := ten_zpow_le_two_zpow (by omega)
    _ ≤ 2 ^ (-1075 : ℤ) := zpow_le_zpow_right₀ one_le_two (by omega)

theorem tooLarge_of_length (pos : 0 < digits) (h : 400 < (Nat.toDigits 10 digits).length + exponent) :
    TooLarge (digits * 10 ^ exponent) := by
  have hpower : (0 : ℚ) < 10 ^ exponent := zpow_pos (by norm_num) exponent
  have hdigits : (10 : ℚ) ^ ((Nat.toDigits 10 digits).length - 1) ≤ digits := by
    exact_mod_cast ten_pow_le_of_pos pos
  have hsize : 342 ≤ ((Nat.toDigits 10 digits).length - 1 : ℕ) + exponent := by omega
  refine tooLarge_of_ten_zpow_le hsize ?_
  rw [← ten_pow_mul_zpow]
  exact mul_le_mul_of_nonneg_right hdigits hpower.le

end

/-- **Nearest doubles.** A decimal is read to the double that its value is rounded to. -/
theorem rounded_nearest (digits : ℕ) (exponent : ℤ) :
    Rounded (digits * 10 ^ exponent) (nearest digits exponent) := by
  have hzero : (0.0 : Float) = ⟨Float.Model.pack (.zero .positive)⟩ := by decide +kernel
  unfold nearest
  dsimp only
  split
  · rename_i h
    rw [hzero]
    refine rounded_small (by positivity) ?_
    rcases h with rfl | hsmall
    · rw [Nat.cast_zero, zero_mul]
      exact two_zpow_pos _
    · exact small_of_length hsmall
  rename_i hkept
  split
  · rename_i hlarge
    exact .infinite (tooLarge_of_length (Nat.pos_of_ne_zero (not_or.1 hkept).1) hlarge) (by rfl)
  split
  · rename_i hneg
    have hvalue : (digits : ℚ) * 10 ^ exponent = digits / 10 ^ exponent.natAbs := by
      rw [div_eq_mul_inv, ← zpow_natCast, ← zpow_neg]
      congr 2
      omega
    rw [hvalue]
    exact (rounded_ofScientific _ _).2
  · rename_i hnonneg
    have hvalue : (digits : ℚ) * 10 ^ exponent = digits * 10 ^ exponent.natAbs := by
      rw [← zpow_natCast]
      congr 2
      omega
    rw [hvalue]
    exact (rounded_ofScientific _ _).1

/-! ## Numerals -/

/-- The value of digits with an optional point beside or among them. -/
inductive Numeral : List Char → ℚ → Prop
  | whole {ds : List Char} (digits : ∀ c ∈ ds, c.isDigit = true) (some : ds ≠ []) :
    Numeral ds (ofDigits ds)
  | point {ds fs : List Char} (digits : ∀ c ∈ ds ++ fs, c.isDigit = true) (some : ds ++ fs ≠ []) :
    Numeral (ds ++ '.' :: fs) (ofDigits (ds ++ fs) / 10 ^ fs.length)

theorem magnitude?_whole {ds : List Char} (hdigits : ∀ c ∈ ds, c.isDigit = true) (hsome : ds ≠ []) :
    magnitude? ds = some (nearest (ofDigits ds) 0) := by
  have htake : ds.takeWhile Char.isDigit = ds := List.takeWhile_eq_self_iff.2 hdigits
  have hdrop : ds.dropWhile Char.isDigit = [] := List.dropWhile_eq_nil_iff.2 hdigits
  have hempty : ds.isEmpty = false := List.isEmpty_eq_false_iff.2 hsome
  simp [magnitude?, htake, hdrop, hempty, exponent?]

theorem magnitude?_point {ds fs : List Char} (hdigits : ∀ c ∈ ds ++ fs, c.isDigit = true)
    (hsome : ds ++ fs ≠ []) :
    magnitude? (ds ++ '.' :: fs) = some (nearest (ofDigits (ds ++ fs)) (-fs.length)) := by
  have hds : ∀ c ∈ ds, c.isDigit = true := fun c hc => hdigits c (List.mem_append_left _ hc)
  have hfs : ∀ c ∈ fs, c.isDigit = true := fun c hc => hdigits c (List.mem_append_right _ hc)
  have htake : (ds ++ '.' :: fs).takeWhile Char.isDigit = ds := by
    rw [List.takeWhile_append_of_pos hds, List.takeWhile_cons_of_neg (by decide), List.append_nil]
  have hdrop : (ds ++ '.' :: fs).dropWhile Char.isDigit = '.' :: fs := by
    rw [List.dropWhile_append_of_pos hds, List.dropWhile_cons_of_neg (by decide)]
  have htake' : fs.takeWhile Char.isDigit = fs := List.takeWhile_eq_self_iff.2 hfs
  have hdrop' : fs.dropWhile Char.isDigit = [] := List.dropWhile_eq_nil_iff.2 hfs
  have hempty : (ds.isEmpty && fs.isEmpty) = false := by
    rw [Bool.and_eq_false_iff, List.isEmpty_eq_false_iff, List.isEmpty_eq_false_iff]
    exact not_and_or.1 fun h => hsome (List.append_eq_nil_iff.2 h)
  simp [magnitude?, htake, hdrop, htake', hdrop', hempty, exponent?]

/-- A numeral is read to the double that its value is rounded to. -/
theorem Numeral.read {cs : List Char} {q : ℚ} (h : Numeral cs q) :
    ∃ x, magnitude? cs = some x ∧ Rounded q x := by
  cases h with
  | whole digits hsome =>
    refine ⟨_, magnitude?_whole digits hsome, ?_⟩
    simpa using rounded_nearest (ofDigits cs) 0
  | @point ds fs digits hsome =>
    refine ⟨_, magnitude?_point digits hsome, ?_⟩
    have h := rounded_nearest (ofDigits (ds ++ fs)) (-fs.length)
    rwa [zpow_neg, zpow_natCast, ← div_eq_mul_inv] at h

/-- Of digits and points, only numerals are read. -/
theorem exists_numeral {cs : List Char} {x : Float} (hcs : ∀ c ∈ cs, c.isDigit = true ∨ c = '.')
    (h : magnitude? cs = some x) : ∃ q, Numeral cs q := by
  obtain ⟨ds, hds⟩ : ∃ ds, cs.takeWhile Char.isDigit = ds := ⟨_, rfl⟩
  obtain ⟨rest, hrest⟩ : ∃ rest, cs.dropWhile Char.isDigit = rest := ⟨_, rfl⟩
  have hsplit : ds ++ rest = cs := by rw [← hds, ← hrest, List.takeWhile_append_dropWhile]
  have hdigits : ∀ c ∈ ds, c.isDigit = true := fun c hc => List.mem_takeWhile_imp (hds ▸ hc)
  have hpoint {cs : List Char} (hcs : ∀ c ∈ cs, c.isDigit = true ∨ c = '.') {c : Char}
      {rest : List Char} (h : cs.dropWhile Char.isDigit = c :: rest) : c = '.' := by
    have hmem : c ∈ cs := (List.dropWhile_suffix Char.isDigit).subset (h ▸ .head _)
    have hhead : c.isDigit = false := by
      have := List.head?_dropWhile_not Char.isDigit cs
      rwa [h] at this
    exact (hcs c hmem).resolve_left (by simp [hhead])
  cases rest with
  | nil =>
    rw [List.append_nil] at hsplit
    subst hsplit
    refine ⟨_, .whole hdigits ?_⟩
    rintro rfl
    cases h
  | cons c rest =>
    obtain rfl := hpoint hcs hrest
    obtain ⟨fs, hfs⟩ : ∃ fs, rest.takeWhile Char.isDigit = fs := ⟨_, rfl⟩
    obtain ⟨more, hmore⟩ : ∃ more, rest.dropWhile Char.isDigit = more := ⟨_, rfl⟩
    have hrestsplit : fs ++ more = rest := by rw [← hfs, ← hmore, List.takeWhile_append_dropWhile]
    have hfraction : ∀ c ∈ fs, c.isDigit = true := fun c hc => List.mem_takeWhile_imp (hfs ▸ hc)
    have hcs' : ∀ c ∈ rest, c.isDigit = true ∨ c = '.' := fun c hc =>
      hcs c (hsplit ▸ List.mem_append_right _ (.tail _ hc))
    cases more with
    | nil =>
      rw [List.append_nil] at hrestsplit
      subst hrestsplit
      subst hsplit
      refine ⟨_, .point (fun c hc => (List.mem_append.1 hc).elim (hdigits c) (hfraction c)) ?_⟩
      intro hempty
      obtain ⟨rfl, rfl⟩ := List.append_eq_nil_iff.1 hempty
      cases h
    | cons c more =>
      -- A second point is no exponent.
      obtain rfl := hpoint hcs' hmore
      simp [magnitude?, hds, hrest, hfs, hmore, exponent?] at h

end HttpService.Decimal
