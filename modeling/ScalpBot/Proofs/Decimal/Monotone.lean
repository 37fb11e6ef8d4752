import ScalpBot.Proofs.Decimal.HalfUp

/-!
# Arithmetic keeps the order

Rounding to so many places never turns the order of two numbers around, since a middle between two
multiples always goes to the same one of them (`Rounded.le`).

A sum, a product or a quotient has as many places as there is room for (`Decimal.Fitted`), so the larger
of two results may be rounded more coarsely than the smaller one. Where it is, the largest coefficient at
the finer place stands between them (`Decimal.Fitted.le`). That rests on its last digit, which is a five:
what is half a unit beyond it or more has a place less and is rounded up there.

So a sum, a product and a quotient of numbers that are not negative keep the order, and so does the range:
where the larger result is no decimal too large, the smaller one is none either.
-/

namespace ScalpBot

/-! ## So many places -/

variable {tie : Tie} {places : ℕ} {x y r t : ℚ}

/-- A middle goes to one of its two neighbours only. -/
theorem Tie.not_chooses_succ {k : ℤ} (h : tie.Chooses (k + 1 / 2) k) :
    ¬ tie.Chooses (k + 1 / 2) (k + 1) := by
  intro h'
  cases tie with
  | toEven =>
    unfold Tie.Chooses at h h'
    omega
  | towardZero =>
    unfold Tie.Chooses at h h'
    push_cast at h'
    rcases lt_or_ge k 0 with hneg | hnonneg
    · have hk : (k : ℚ) + 1 ≤ 0 := by exact_mod_cast hneg
      rw [abs_of_neg (by linarith), abs_of_neg (by linarith)] at h
      linarith
    · have hk : (0 : ℚ) ≤ k := by exact_mod_cast hnonneg
      rw [abs_of_pos (by linarith), abs_of_pos (by linarith)] at h'
      linarith
  | awayFromZero =>
    unfold Tie.Chooses at h h'
    push_cast at h'
    rcases lt_or_ge k 0 with hneg | hnonneg
    · have hk : (k : ℚ) + 1 ≤ 0 := by exact_mod_cast hneg
      rw [abs_of_neg (by linarith), abs_of_nonpos hk] at h'
      linarith
    · have hk : (0 : ℚ) ≤ k := by exact_mod_cast hnonneg
      rw [abs_of_nonneg hk, abs_of_pos (by linarith)] at h
      linarith

/-- **Rounding keeps the order.** -/
theorem Rounded.le (h : Rounded tie places x r) (h' : Rounded tie places y t) (hxy : x ≤ y) :
    r ≤ t := by
  obtain ⟨k, rfl, hnear, htie⟩ := h.exists_units
  obtain ⟨j, rfl, hnear', htie'⟩ := h'.exists_units
  have hunit := Decimal.unit_pos places
  have hquotients : x / Decimal.unit places ≤ y / Decimal.unit places :=
    div_le_div_of_nonneg_right hxy hunit.le
  refine mul_le_mul_of_nonneg_right ?_ hunit.le
  by_contra hless
  have hstep : j + 1 ≤ k := by exact_mod_cast not_le.mp hless
  have hstep' : (j : ℚ) + 1 ≤ k := by exact_mod_cast hstep
  have hlow := (abs_le.mp hnear).2
  have hhigh := (abs_le.mp hnear').1
  -- both numbers are the middle between `j` and `k`, which would have gone to either
  have hx : x / Decimal.unit places = j + 1 / 2 := by linarith
  have hy : y / Decimal.unit places = j + 1 / 2 := by linarith
  have hk : (k : ℚ) = j + 1 := by linarith
  obtain rfl : k = j + 1 := by exact_mod_cast hk
  rw [hx, hk] at htie
  rw [hy] at htie'
  refine Tie.not_chooses_succ (htie' ?_) (htie ?_)
  · rw [sub_add_cancel_left, abs_neg, abs_of_pos one_half_pos]
  · rw [add_sub_add_left_eq_sub, abs_of_pos (by norm_num)]
    norm_num

namespace Decimal

variable {a a' b b' c c' : Decimal} {n : ℤ} {d p q : ℕ}

/-! ## As many places as there is room for -/

theorem TooLarge.mono (h : TooLarge x) (hle : |x| ≤ |y|) : TooLarge y := h.trans hle

/-- A rounded quotient has no coefficient where it is too large, and only there. -/
theorem maxCoefficient_lt_roundRatio_iff (n : ℤ) (hd : 0 < d) :
    maxCoefficient < (roundRatio .toEven n d).natAbs ↔ TooLarge (n / d) := by
  rw [tooLarge_div_iff n hd, ← ofParts?_roundRatio_eq_none_iff n hd (Nat.zero_le maxScale), ofParts?,
    dite_eq_right_iff]
  simp

/-- **Rounded to the most places that there is room for.**  `r` is `x`, rounded half to even to places at
which `x` is not too large. With one place more it would be, or there are no more places. -/
structure Fitted (x : ℚ) (places : ℕ) (r : ℚ) : Prop where
  rounded : Rounded .toEven places x r
  scale_le : places ≤ maxScale
  fits : ¬ TooLarge (x * 10 ^ places)
  full : places < maxScale → TooLarge (x * 10 ^ (places + 1))

theorem div_unit (x : ℚ) (places : ℕ) : x / unit places = x * 10 ^ places := by
  rw [unit, div_div_eq_mul_div, div_one]

theorem abs_mul_pow_le (hxy : |x| ≤ |y|) (hpq : p ≤ q) : |x * 10 ^ p| ≤ |y * 10 ^ q| := by
  have hpow : (10 : ℚ) ^ p ≤ 10 ^ q := pow_le_pow_right₀ (by norm_num) hpq
  rw [abs_mul, abs_mul, abs_of_pos (by positivity : (0 : ℚ) < 10 ^ p),
    abs_of_pos (by positivity : (0 : ℚ) < 10 ^ q)]
  gcongr

/-- What fits has at most the largest coefficient. -/
theorem Fitted.le_max (h : Fitted x p r) : r ≤ maxCoefficient * unit p := by
  obtain ⟨k, rfl, hnear, -⟩ := h.rounded.exists_units
  have hfits := not_le.mp h.fits
  have hmax : (maxCoefficient : ℚ) = (maxCoefficient : ℤ) := (Int.cast_natCast _).symm
  rw [← div_unit, hmax] at hfits
  rw [hmax]
  generalize (maxCoefficient : ℤ) = m at hfits
  have hlow := (abs_le.mp hnear).2
  have hhigh := le_abs_self (x / unit p)
  have hk : (k : ℚ) < m + 1 := by linarith
  have hk' : k < m + 1 := by exact_mod_cast hk
  have hle : (k : ℚ) ≤ m := by exact_mod_cast Int.lt_add_one_iff.mp hk'
  exact mul_le_mul_of_nonneg_right hle (unit_pos p).le

/-- What is full is above the largest coefficient of the next place. -/
theorem Fitted.max_le (h : Fitted x p r) (hx : 0 ≤ x) (hp : p < maxScale) :
    maxCoefficient * unit (p + 1) ≤ r := by
  obtain ⟨k, rfl, hnear, -⟩ := h.rounded.exists_units
  have hfull := h.full hp
  have hmax : (maxCoefficient : ℚ) = (maxCoefficient : ℤ) := (Int.cast_natCast _).symm
  rw [TooLarge, abs_of_nonneg (by positivity), pow_succ, ← mul_assoc, ← div_unit, hmax] at hfull
  rw [hmax]
  generalize hm : (maxCoefficient : ℤ) = m at hfull
  have hlow := (abs_le.mp hnear).1
  have hk : 2 * (m : ℚ) ≤ 20 * k + 9 := by linarith
  have hk' : 2 * m ≤ 20 * k + 9 := by exact_mod_cast hk
  -- the tens of the largest coefficient are rounded up, for its last digit is a five
  have hten : m ≤ 10 * k := by
    unfold maxCoefficient at hm
    omega
  have hten' : (m : ℚ) ≤ 10 * k := by exact_mod_cast hten
  calc m * unit (p + 1) ≤ 10 * k * unit (p + 1) :=
        mul_le_mul_of_nonneg_right hten' (unit_pos _).le
    _ = k * unit p := by
        rw [unit_succ]
        ring

/-- **What is rounded to the most places that there is room for keeps the order.** -/
theorem Fitted.le (h : Fitted x p r) (h' : Fitted y q t) (hx : 0 ≤ x) (hxy : x ≤ y) : r ≤ t := by
  have habs : |x| ≤ |y| := abs_le_abs_of_nonneg hx hxy
  rcases lt_trichotomy p q with hless | rfl | hmore
  · -- the larger number cannot have more places
    have hlarge := (h.full (hless.trans_le h'.scale_le)).mono (abs_mul_pow_le habs hless)
    exact absurd hlarge h'.fits
  · exact h.rounded.le h'.rounded hxy
  · calc r ≤ maxCoefficient * unit p := h.le_max
      _ ≤ maxCoefficient * unit (q + 1) :=
          mul_le_mul_of_nonneg_left (unit_le_unit hmore) (Nat.cast_nonneg _)
      _ ≤ t := h'.max_le (hx.trans hxy) (hmore.trans_le h.scale_le)

/-! ## What is fitted -/

/-- What was rounded to the most places that fit is fitted, unless it has all places that were asked for
and there are more. -/
theorem Nearest.fitted (h : Nearest n d places c) (hd : 0 < d) (hplaces : places ≤ maxScale)
    (hcut : c.scale < maxScale → c.scale < places) : Fitted (n / d) c.scale c.value where
  rounded := by
    have hround := rounded_roundRatio .toEven (n * 10 ^ c.scale) hd c.scale
    rw [← h.coefficient_eq, unit, mul_one_div, mul_one_div] at hround
    push_cast at hround
    rwa [div_right_comm, mul_div_cancel_right₀ _ (by positivity)] at hround
  scale_le := h.scale_le.trans hplaces
  fits := by
    have hfits := mt (maxCoefficient_lt_roundRatio_iff (n * 10 ^ c.scale) hd).mpr
      (Nat.not_lt.mpr (h.coefficient_eq ▸ c.coefficient_le))
    push_cast at hfits
    rwa [mul_div_right_comm] at hfits
  full hless := by
    have hfull := (maxCoefficient_lt_roundRatio_iff _ hd).mp (h.full (hcut hless))
    push_cast at hfull
    rwa [mul_div_right_comm] at hfull

/-- A decimal needs no rounding at the most places that there is room for. -/
theorem exists_fitted_self (a : Decimal) : ∃ p, Fitted a.value p a.value := by
  have hd : 0 < 10 ^ a.scale := by positivity
  have hvalue : a.value = a.coefficient / (10 ^ a.scale : ℕ) := by
    rw [value, Nat.cast_pow, Nat.cast_ofNat]
  obtain ⟨c, hc⟩ := Option.isSome_iff_exists.mp (isSome_nearest? hd a.coefficient_le maxScale)
  have hnearest := nearest_of_nearest? (Nat.le_refl _) hc
  have hfitted := hnearest.fitted hd (Nat.le_refl _) id
  refine ⟨c.scale, ?_⟩
  -- there is room for all places of `a`
  have hroom : a.scale ≤ c.scale := by
    by_contra hless
    have hlarge := hfitted.full ((Nat.lt_of_not_le hless).trans_le a.scale_le)
    refine not_tooLarge_of_le ?_ hlarge
    rw [← hvalue]
    calc |a.value * 10 ^ (c.scale + 1)| ≤ |a.value * 10 ^ a.scale| :=
          abs_mul_pow_le le_rfl (Nat.lt_of_not_le hless)
      _ = a.coefficient.natAbs := by
          rw [value, div_mul_cancel₀ _ (by positivity), ← Int.cast_abs, Int.abs_eq_natAbs,
            Int.cast_natCast]
      _ ≤ maxCoefficient := by exact_mod_cast a.coefficient_le
  have heven : (a.coefficient : ℚ) / (10 ^ a.scale : ℕ) * 10 ^ c.scale =
      (a.coefficient * 10 ^ (c.scale - a.scale) : ℤ) := by
    rw [← Nat.sub_add_cancel hroom, pow_add, Nat.add_sub_cancel]
    push_cast
    field_simp
  rwa [hnearest.value_eq_of_even hd heven, ← hvalue] at hfitted

/-- What was rounded to at most the places that it has is fitted. -/
theorem Nearest.exists_fitted (h : Nearest n (10 ^ places) places c) (hplaces : places ≤ maxScale) :
    ∃ p, Fitted (n / 10 ^ places) p c.value := by
  rcases Nat.lt_or_eq_of_le h.scale_le with hcut | hall
  · have hfitted := h.fitted (by positivity) hplaces fun _ => hcut
    rw [Nat.cast_pow, Nat.cast_ofNat] at hfitted
    exact ⟨c.scale, hfitted⟩
  · rw [← h.value_eq_of_scale_eq hall]
    exact exists_fitted_self c

/-- **A sum is fitted.** -/
theorem exists_fitted_add (h : a.add b = .ok c) : ∃ p, Fitted (a.value + b.value) p c.value := by
  rw [add] at h
  cases hsum : sum? a b with
  | none =>
    rw [hsum] at h
    cases h
  | some c' =>
    rw [hsum] at h
    cases h
    rw [sum?] at hsum
    split at hsum
    · rename_i hzero
      obtain rfl := Option.some.inj hsum
      rw [value_eq_zero_iff.mpr hzero, zero_add]
      exact exists_fitted_self _
    · split at hsum
      · rename_i hzero
        obtain rfl := Option.some.inj hsum
        rw [value_eq_zero_iff.mpr hzero, add_zero]
        exact exists_fitted_self _
      · have hscale : max a.scale b.scale ≤ maxScale := Nat.max_le.mpr ⟨a.scale_le, b.scale_le⟩
        have hfitted := (nearest_of_nearest? hscale hsum).exists_fitted hscale
        rwa [sumNumerator_eq, mul_div_cancel_right₀ _ (by positivity)] at hfitted

/-- **A product is fitted.** -/
theorem exists_fitted_mul (h : a.mul b = .ok c) : ∃ p, Fitted (a.value * b.value) p c.value := by
  by_cases hzero : a.isZero = true ∨ b.isZero = true
  · have hvalue : a.value * b.value = zero.value := by
      rwa [value_zero, mul_eq_zero, value_eq_zero_iff, value_eq_zero_iff]
    rw [mul, if_pos (by simpa using hzero)] at h
    cases h
    rw [hvalue]
    exact exists_fitted_self zero
  · rw [not_or, Bool.not_eq_true, Bool.not_eq_true] at hzero
    have hnearest := nearest_of_mul h hzero.1 hzero.2
    rw [value_mul_value]
    rcases Nat.le_total maxScale (a.scale + b.scale) with hplaces | hplaces
    · rw [Nat.min_eq_right hplaces] at hnearest
      exact ⟨c.scale, hnearest.fitted (by positivity) (Nat.le_refl _) id⟩
    · rw [Nat.min_eq_left hplaces] at hnearest
      rw [Nat.cast_pow, Nat.cast_ofNat]
      exact hnearest.exists_fitted hplaces

/-- **A quotient is fitted.** -/
theorem exists_fitted_div (h : a.div? b = some c) (ha : 0 ≤ a.value) (hb : 0 < b.value) :
    ∃ p, Fitted (a.value / b.value) p c.value := by
  rcases ha.eq_or_lt with hzero | hpos
  · rw [div?, isZero_eq_false hb, if_neg Bool.false_ne_true,
      if_pos (value_eq_zero_iff.mp hzero.symm)] at h
    obtain rfl := Option.some.inj h
    rw [← hzero, zero_div, ← value_zero]
    exact exists_fitted_self zero
  · rcases div?_cases h hpos hb with hexact | ⟨n, d, quotient, hd, hratio, hnearest, rfl⟩
    · rw [← hexact]
      exact exists_fitted_self c
    · rw [hratio, value_trim]
      exact ⟨quotient.scale, hnearest.fitted hd (Nat.le_refl _) id⟩

/-- **A quotient is exact where a decimal has its value.** -/
theorem value_div_eq (h : a.div? b = some c) (ha : 0 ≤ a.value) (hb : 0 < b.value)
    (hc : c'.value = a.value / b.value) : c.value = c'.value := by
  obtain ⟨p, hfitted⟩ := exists_fitted_div h ha hb
  obtain ⟨q, hfitted'⟩ := exists_fitted_self c'
  have hnonneg : 0 ≤ c'.value := hc ▸ div_nonneg ha hb.le
  rw [← hc] at hfitted
  exact le_antisymm (hfitted.le hfitted' hnonneg le_rfl) (hfitted'.le hfitted hnonneg le_rfl)

/-- A hundredth is exact where a decimal has its value. -/
theorem value_percent (ha : 0 ≤ a.value) (hc : c.value = a.value / 100) :
    a.percent.value = c.value := by
  have hhundred : hundred.value = 100 := by norm_num [hundred, value]
  refine value_div_eq (Option.some_get (isSome_div?_hundred a)).symm ha ?_ ?_
  · rw [hhundred]
    norm_num
  · rw [hc, hhundred]

/-! ## The order of results -/

/-- **Sums keep the order.** -/
theorem add_mono (h : a'.add b' = .ok c') (ha : 0 ≤ a.value) (hb : 0 ≤ b.value)
    (haa : a.value ≤ a'.value) (hbb : b.value ≤ b'.value) :
    ∃ c, a.add b = .ok c ∧ c.value ≤ c'.value := by
  have hnonneg := add_nonneg ha hb
  have hle := add_le_add haa hbb
  cases hsum : a.add b with
  | error cause =>
    have hlarge := (add_eq_error_iff.mp hsum).2.mono (abs_le_abs_of_nonneg hnonneg hle)
    cases h.symm.trans (add_eq_error_iff.mpr ⟨rfl, hlarge⟩)
  | ok c =>
    obtain ⟨p, hfitted⟩ := exists_fitted_add hsum
    obtain ⟨q, hfitted'⟩ := exists_fitted_add h
    exact ⟨c, rfl, hfitted.le hfitted' hnonneg hle⟩

/-- Sums of many terms keep the order. -/
theorem addAll_mono {start start' : Decimal} {terms terms' : List Decimal}
    (h : addAll start' terms' = .ok c') (hstart : 0 ≤ start.value) (hle : start.value ≤ start'.value)
    (hterms : List.Forall₂ (fun t t' => 0 ≤ t.value ∧ t.value ≤ t'.value) terms terms') :
    ∃ c, addAll start terms = .ok c ∧ c.value ≤ c'.value := by
  induction hterms generalizing start start' with
  | nil =>
    cases h
    exact ⟨start, rfl, hle⟩
  | cons hnext hrest ih =>
    rw [addAll_cons] at h ⊢
    obtain ⟨sum', hsum', h⟩ := bind_eq_ok_iff.mp h
    obtain ⟨sum, hsum, hsumLe⟩ := add_mono hsum' hstart hnext.1 hle hnext.2
    obtain ⟨c, hc, hcLe⟩ := ih h (value_add_nonneg hsum hstart hnext.1) hsumLe
    exact ⟨c, bind_eq_ok_iff.mpr ⟨sum, hsum, hc⟩, hcLe⟩

/-- **Products keep the order.** -/
theorem mul_mono (h : a'.mul b' = .ok c') (ha : 0 ≤ a.value) (hb : 0 ≤ b.value)
    (haa : a.value ≤ a'.value) (hbb : b.value ≤ b'.value) :
    ∃ c, a.mul b = .ok c ∧ c.value ≤ c'.value := by
  have hnonneg := mul_nonneg ha hb
  have hle := mul_le_mul haa hbb hb (ha.trans haa)
  cases hproduct : a.mul b with
  | error cause =>
    have hlarge := (mul_eq_error_iff.mp hproduct).2.mono (abs_le_abs_of_nonneg hnonneg hle)
    cases h.symm.trans (mul_eq_error_iff.mpr ⟨rfl, hlarge⟩)
  | ok c =>
    obtain ⟨p, hfitted⟩ := exists_fitted_mul hproduct
    obtain ⟨q, hfitted'⟩ := exists_fitted_mul h
    exact ⟨c, rfl, hfitted.le hfitted' hnonneg hle⟩

/-- **Quotients keep the order.** -/
theorem div?_mono (h : a'.div? b' = some c') (ha : 0 ≤ a.value) (hb : 0 < b'.value)
    (haa : a.value ≤ a'.value) (hbb : b'.value ≤ b.value) :
    ∃ c, a.div? b = some c ∧ c.value ≤ c'.value := by
  have hpos := hb.trans_le hbb
  have hnonneg := div_nonneg ha hpos.le
  have hle := div_le_div₀ (ha.trans haa) haa hb hbb
  cases hquotient : a.div? b with
  | none =>
    have hlarge := ((div?_eq_none_iff (isZero_eq_false hpos)).mp hquotient).mono
      (abs_le_abs_of_nonneg hnonneg hle)
    cases h.symm.trans ((div?_eq_none_iff (isZero_eq_false hb)).mpr hlarge)
  | some c =>
    obtain ⟨p, hfitted⟩ := exists_fitted_div hquotient ha hpos
    obtain ⟨q, hfitted'⟩ := exists_fitted_div h (ha.trans haa) hb
    exact ⟨c, rfl, hfitted.le hfitted' hnonneg hle⟩

/-- Decimals at so many places keep the order. -/
theorem toPlaces_mono (tie : Tie) (hplaces : places ≤ maxScale) (hle : a.value ≤ b.value) :
    (a.toPlaces tie places hplaces).value ≤ (b.toPlaces tie places hplaces).value :=
  (rounded_toPlaces tie hplaces a).le (rounded_toPlaces tie hplaces b) hle

end Decimal

end ScalpBot
