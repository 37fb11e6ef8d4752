import ScalpBot.Proofs.Decimal.Range

/-!
# What rounding leaves positive

A positive number at so many places is zero where it is less than half a unit of the last one; exactly
a half stays positive if halves go away from zero (`Decimal.value_toPlaces_pos_iff`).

The number may have been rounded before, half to even at the last place that a decimal can have
(`Decimal.Finest`). Products and quotients are, and a threshold for the rounded number is one for the
exact number, moved by half a unit of that place (`Decimal.Finest.lt_iff`, `Decimal.Finest.le_iff`).
-/

namespace ScalpBot

theorem roundRatio_natCast (tie : Tie) (n : ℕ) {d : ℕ} (hd : 0 < d) :
    roundRatio tie n d = roundDiv tie n d := by
  cases n with
  | zero =>
    have hzero := Nat.le_zero.mp (roundDiv_le tie 0 hd)
    rw [Int.natCast_zero, roundRatio, Int.sign_zero, zero_mul, hzero, Int.natCast_zero]
  | succ n =>
    rw [roundRatio, Int.sign_natCast_of_ne_zero n.succ_ne_zero, one_mul, Int.natAbs_natCast]

namespace Decimal

variable {a b c : Decimal} {places : ℕ} {x : ℚ}

/-! ## One rounding -/

theorem coefficient_nonneg (ha : 0 ≤ a.value) : 0 ≤ a.coefficient := by
  have hpow : (0 : ℚ) < 10 ^ a.scale := by positivity
  rw [value, le_div_iff₀ hpow, zero_mul] at ha
  exact_mod_cast ha

/-- A positive number with so few places is at least a whole unit. -/
theorem unit_le_value (ha : 0 < a.value) (h : a.scale ≤ places) : unit places ≤ a.value := by
  have hcoefficient : (1 : ℚ) ≤ a.coefficient := by
    have hpos := value_pos_iff.mp ha
    rw [isPositive, decide_eq_true_eq] at hpos
    exact_mod_cast hpos
  calc unit places ≤ unit a.scale := unit_le_unit h
    _ ≤ a.value := div_le_div_of_nonneg_right hcoefficient (by positivity)

/-- **What is left of a number at so many places.**  At least half a unit of the last place is needed,
and more than that where halves go toward zero. -/
theorem value_toPlaces_pos_iff (tie : Tie) (hplaces : places ≤ maxScale) (ha : 0 ≤ a.value) :
    0 < (a.toPlaces tie places hplaces).value ↔
      unit places / 2 < a.value ∨ unit places / 2 = a.value ∧ tie.goesUp 0 = true := by
  have hunit := unit_pos places
  rw [toPlaces, value_padZeros]
  by_cases hle : a.scale ≤ places
  · rw [value_roundTo_of_scale_le tie hplaces hle]
    constructor
    · intro hpos
      exact .inl (by linarith [unit_le_value hpos hle])
    · rintro (h | ⟨h, -⟩) <;> linarith
  · -- `n` is the coefficient, and `d` the part of it that is half a unit twice
    have hlt := Nat.lt_of_not_le hle
    have hd : 0 < 10 ^ (a.scale - places) := by positivity
    obtain ⟨n, hn⟩ := Int.eq_ofNat_of_zero_le (coefficient_nonneg ha)
    have hvalue : a.value = n * (unit a.scale) := by
      rw [value, unit, hn, Int.cast_natCast, mul_one_div]
    have hhalf : unit places / 2 = (10 ^ (a.scale - places) : ℕ) / 2 * unit a.scale := by
      rw [unit, unit, ← Nat.sub_add_cancel hlt.le, pow_add, Nat.add_sub_cancel]
      push_cast
      field_simp
    have hround := lt_roundDiv_iff tie n 0 hd
    rw [value_pos_iff, isPositive, decide_eq_true_eq, coefficient_roundTo_of_lt tie hplaces hlt, hn,
      roundRatio_natCast tie n hd, Int.natCast_pos, hround, hvalue, hhalf,
      mul_lt_mul_iff_of_pos_right (unit_pos _), mul_left_inj' (unit_pos _).ne', div_lt_iff₀ two_pos,
      div_eq_iff two_ne_zero]
    norm_cast
    rw [mul_comm n 2, Nat.mul_zero, Nat.zero_add, Nat.one_mul]

/-! ## Results that are not negative -/

/-- What is rounded keeps its side of zero. -/
theorem Nearest.value_nonneg {n : ℤ} {d : ℕ} (h : Nearest n d places c) (hn : 0 ≤ n) :
    0 ≤ c.value := by
  have hsign : 0 ≤ (n * 10 ^ c.scale).sign := Int.sign_nonneg_iff.mpr (by positivity)
  have hcoefficient : 0 ≤ c.coefficient := by
    rw [h.coefficient_eq, roundRatio]
    exact mul_nonneg hsign (Int.natCast_nonneg _)
  exact div_nonneg (by exact_mod_cast hcoefficient) (by positivity)

theorem value_add_nonneg (h : a.add b = .ok c) (ha : 0 ≤ a.value) (hb : 0 ≤ b.value) :
    0 ≤ c.value := by
  rw [add] at h
  cases hsum : sum? a b with
  | none =>
    rw [hsum] at h
    cases h
  | some c' =>
    rw [hsum] at h
    cases h
    rw [sum?] at hsum
    split at hsum
    · cases hsum
      exact hb
    · split at hsum
      · cases hsum
        exact ha
      · have hmax : max a.scale b.scale ≤ maxScale := Nat.max_le.mpr ⟨a.scale_le, b.scale_le⟩
        have ha' := coefficient_nonneg ha
        have hb' := coefficient_nonneg hb
        exact (nearest_of_nearest? hmax hsum).value_nonneg (by rw [sumNumerator]; positivity)

theorem value_addAll_nonneg {start : Decimal} {terms : List Decimal} (h : addAll start terms = .ok c)
    (hstart : 0 ≤ start.value) (hterms : ∀ a ∈ terms, 0 ≤ a.value) : 0 ≤ c.value :=
  addAll_preserves (p := fun a => 0 ≤ a.value) value_add_nonneg h hstart hterms

theorem value_mul_nonneg (h : a.mul b = .ok c) (ha : 0 ≤ a.value) (hb : 0 ≤ b.value) :
    0 ≤ c.value := by
  by_cases hzero : a.isZero = true ∨ b.isZero = true
  · rw [mul, if_pos (by simpa using hzero)] at h
    cases h
    exact value_zero.ge
  · rw [not_or, Bool.not_eq_true, Bool.not_eq_true] at hzero
    have ha' := coefficient_nonneg ha
    have hb' := coefficient_nonneg hb
    exact (nearest_of_mul h hzero.1 hzero.2).value_nonneg (mul_nonneg ha' hb')

/-! ## A rounding before -/

/-- **Rounded as finely as a decimal can be.**  `c` is `x`, rounded half to even at the last place that
a decimal can have, or both are so large that `c` may have fewer places. -/
inductive Finest (x : ℚ) (c : Decimal) : Prop
  | large (exact : 7 ≤ x) (rounded : 7 ≤ c.value)
  | rounded {n d : ℕ} (hd : 0 < d) (exact : x = n / d * unit maxScale)
      (rounded : c.value = roundDiv .toEven n d * unit maxScale)

theorem Finest.value_nonneg (h : Finest x c) : 0 ≤ c.value := by
  cases h with
  | large _ hc => linarith
  | rounded _ _ hc =>
    have hunit := unit_pos maxScale
    rw [hc]
    positivity

/-- A number of the last place, at most six. -/
theorem natCast_mul_unit_le {k : ℕ} (hk : k ≤ 6 * 10 ^ maxScale) : k * unit maxScale ≤ 6 := by
  have hpow : (0 : ℚ) < 10 ^ maxScale := by positivity
  rw [unit, mul_one_div, div_le_iff₀ hpow]
  exact_mod_cast hk

/-- **What is rounded passes an even number of the last place** where the exact number passes the
middle to the next one. -/
theorem Finest.lt_iff (h : Finest x c) {k : ℕ} (heven : k % 2 = 0) (hk : k ≤ 6 * 10 ^ maxScale) :
    k * unit maxScale < c.value ↔ k * unit maxScale + unit maxScale / 2 < x := by
  have hunit := unit_pos maxScale
  cases h with
  | large hx hc =>
    have hsix := natCast_mul_unit_le hk
    have hone := unit_le_one maxScale
    exact iff_of_true (by linarith) (by linarith)
  | @rounded n d hd hx hc =>
    have hdown : Tie.toEven.goesUp k = false := by simp [Tie.goesUp, heven]
    have hmiddle : k * unit maxScale + unit maxScale / 2 = (2 * k + 1) / 2 * unit maxScale := by ring
    have hd' : (0 : ℚ) < d := by exact_mod_cast hd
    have hround := lt_roundDiv_iff .toEven n k hd
    simp only [hdown, Bool.false_eq_true, and_false, or_false] at hround
    rw [hx, hc, hmiddle, mul_lt_mul_iff_of_pos_right hunit, mul_lt_mul_iff_of_pos_right hunit,
      div_lt_div_iff₀ two_pos hd', mul_comm (n : ℚ)]
    exact_mod_cast hround

/-- **What is rounded reaches an even number of the last place** where the exact number reaches the
middle from the one before. -/
theorem Finest.le_iff (h : Finest x c) {k : ℕ} (hpos : 0 < k) (heven : k % 2 = 0)
    (hk : k ≤ 6 * 10 ^ maxScale) :
    k * unit maxScale ≤ c.value ↔ k * unit maxScale - unit maxScale / 2 ≤ x := by
  have hunit := unit_pos maxScale
  cases h with
  | large hx hc =>
    have hsix := natCast_mul_unit_le hk
    exact iff_of_true (by linarith) (by linarith)
  | @rounded n d hd hx hc =>
    -- the number before is odd, so the middle goes up
    obtain ⟨j, rfl⟩ : ∃ j, k = j + 1 := ⟨k - 1, by omega⟩
    have hup : Tie.toEven.goesUp j = true := by
      have hodd : j % 2 = 1 := by omega
      simp [Tie.goesUp, hodd]
    have hround := lt_roundDiv_iff .toEven n j hd
    rw [hup, and_iff_left rfl, ← le_iff_lt_or_eq] at hround
    have hmiddle : ((j + 1 : ℕ) : ℚ) * unit maxScale - unit maxScale / 2 =
        (2 * j + 1) / 2 * unit maxScale := by
      push_cast
      ring
    have hd' : (0 : ℚ) < d := by exact_mod_cast hd
    rw [hx, hc, hmiddle, mul_le_mul_iff_of_pos_right hunit, mul_le_mul_iff_of_pos_right hunit,
      div_le_div_iff₀ two_pos hd', mul_comm (n : ℚ)]
    exact_mod_cast hround

/-! ## Products and quotients -/

theorem mul_unit_of_scale_le (h : a.scale ≤ places) :
    a.value = (a.coefficient * 10 ^ (places - a.scale) : ℤ) * unit places := by
  rw [value, unit, ← Nat.sub_add_cancel h, pow_add, Nat.add_sub_cancel]
  push_cast
  field_simp

/-- A decimal needs no rounding. -/
theorem finest_self (ha : 0 ≤ a.value) : Finest a.value a := by
  have hcoefficient := coefficient_nonneg ha
  obtain ⟨n, hn⟩ := Int.eq_ofNat_of_zero_le
    (mul_nonneg hcoefficient (by positivity : (0 : ℤ) ≤ 10 ^ (maxScale - a.scale)))
  have hvalue : a.value = n * unit maxScale := by
    rw [mul_unit_of_scale_le a.scale_le, hn, Int.cast_natCast]
  have hone : roundDiv .toEven n 1 = n := by simp [roundDiv, Nat.mod_one]
  exact @Finest.rounded _ _ n 1 one_pos (by rw [Nat.cast_one, div_one, hvalue]) (by rw [hone, hvalue])

/-- What had to be cut is large. -/
theorem Nearest.finest_of_cut {n d : ℕ} (h : Nearest n d places c) (hd : 0 < d)
    (hplaces : places ≤ maxScale) (hcut : c.scale < places) : Finest (n / d) c := by
  have hd' : (0 : ℚ) < d := by exact_mod_cast hd
  have hexact : (15 / 2 : ℚ) ≤ n / d := by
    -- one place more would be too much, and there are at most all places
    have hfull := h.full hcut
    rw [natAbs_roundRatio _ _ hd, lt_roundDiv_iff _ _ _ hd, Int.natAbs_mul, Int.natAbs_natCast,
      Int.natAbs_pow] at hfull
    have hpow : n * 10 ^ (c.scale + 1) ≤ n * 10 ^ maxScale :=
      Nat.mul_le_mul_left _ (Nat.pow_le_pow_right (by decide) (hcut.trans_le hplaces))
    have hfits : (2 * maxCoefficient + 1) * d ≤ 2 * (n * 10 ^ maxScale) := by
      rcases hfull with hlt | ⟨heq, -⟩
      · exact hlt.le.trans (Nat.mul_le_mul_left 2 hpow)
      · exact heq.le.trans (Nat.mul_le_mul_left 2 hpow)
    have hnat : 15 * d ≤ 2 * n := by
      refine Nat.le_of_mul_le_mul_right ?_ (Nat.pow_pos (by decide) : 0 < 10 ^ maxScale)
      calc 15 * d * 10 ^ maxScale = 15 * 10 ^ maxScale * d := by ring
        _ ≤ (2 * maxCoefficient + 1) * d := Nat.mul_le_mul_right d (by decide)
        _ ≤ 2 * (n * 10 ^ maxScale) := hfits
        _ = 2 * n * 10 ^ maxScale := by ring
    rw [div_le_div_iff₀ two_pos hd', mul_comm (n : ℚ)]
    exact_mod_cast hnat
  have hunit := unit_le_one c.scale
  have hclose := (abs_le.mp (h.abs_value_sub_le hd)).1
  rw [Int.cast_natCast] at hclose
  exact .large (by linarith) (by linarith)

/-- What was rounded with all places asked for is rounded as finely as can be. -/
theorem Nearest.finest {n d : ℕ} (h : Nearest n d maxScale c) (hd : 0 < d) :
    Finest (n / d) c := by
  rcases Nat.lt_or_eq_of_le h.scale_le with hcut | hall
  · exact h.finest_of_cut hd (Nat.le_refl _) hcut
  · have hcoefficient := h.coefficient_eq
    rw [hall] at hcoefficient
    have hnat : ((n : ℤ) * 10 ^ maxScale) = (n * 10 ^ maxScale : ℕ) := by push_cast; rfl
    rw [hnat, roundRatio_natCast _ _ hd] at hcoefficient
    have hpow : (0 : ℚ) < 10 ^ maxScale := by positivity
    refine @Finest.rounded _ _ (n * 10 ^ maxScale) d hd ?_ ?_
    · rw [unit]
      push_cast
      field_simp
    · rw [value, hcoefficient, hall, unit, Int.cast_natCast, mul_one_div]

/-- **Products are as fine as can be.** -/
theorem finest_mul (h : a.mul b = .ok c) (ha : 0 < a.value) (hb : 0 < b.value) :
    Finest (a.value * b.value) c := by
  have hnearest := nearest_of_mul h (isZero_eq_false ha) (isZero_eq_false hb)
  obtain ⟨n, hn⟩ := Int.eq_ofNat_of_zero_le
    (mul_nonneg (coefficient_nonneg ha.le) (coefficient_nonneg hb.le))
  have hd : 0 < 10 ^ (a.scale + b.scale) := by positivity
  have hvalue : a.value * b.value = n / (10 ^ (a.scale + b.scale) : ℕ) := by
    rw [value_mul_value, hn, Int.cast_natCast]
  rw [hn] at hnearest
  rw [hvalue]
  by_cases hplaces : maxScale ≤ a.scale + b.scale
  · rw [Nat.min_eq_right hplaces] at hnearest
    exact hnearest.finest hd
  · rw [Nat.min_eq_left (by omega)] at hnearest
    rcases Nat.lt_or_eq_of_le hnearest.scale_le with hcut | hall
    · exact hnearest.finest_of_cut hd (by omega) hcut
    · have hexact := hnearest.value_eq_of_scale_eq hall
      have hcast : (n : ℚ) / (10 ^ (a.scale + b.scale) : ℕ) = c.value := by
        rw [hexact]
        push_cast
        rfl
      rw [hcast]
      exact finest_self (by rw [← hcast]; positivity)

theorem value_trimZeros (coefficient : ℤ) (scale : ℕ) :
    ((trimZeros coefficient scale).1 : ℚ) / 10 ^ (trimZeros coefficient scale).2 =
      coefficient / 10 ^ scale := by
  induction scale generalizing coefficient with
  | zero => rfl
  | succ scale ih =>
    rw [trimZeros]
    split
    · rename_i hzero
      have hten : (coefficient : ℚ) = (coefficient / 10 : ℤ) * 10 := by
        have hdvd := Int.ediv_mul_cancel (Int.dvd_of_emod_eq_zero hzero)
        exact_mod_cast hdvd.symm
      rw [ih, hten, pow_succ, mul_div_mul_right _ _ (by norm_num : (10 : ℚ) ≠ 0)]
    · rfl

theorem value_trim (a : Decimal) : a.trim.value = a.value := value_trimZeros ..

/-- **A quotient is exact, or it was rounded half to even** and has then given up its trailing zeros. -/
theorem div?_cases (h : a.div? b = some c) (ha : 0 < a.value) (hb : 0 < b.value) :
    c.value = a.value / b.value ∨
    ∃ (n d : ℕ) (quotient : Decimal), 0 < d ∧ a.value / b.value = n / d ∧
      Nearest n d maxScale quotient ∧ c = quotient.trim := by
  rw [div?, isZero_eq_false ha, isZero_eq_false hb, if_neg Bool.false_ne_true,
    if_neg Bool.false_ne_true] at h
  obtain ⟨m, hm⟩ := Int.eq_ofNat_of_zero_le (coefficient_nonneg ha.le)
  obtain ⟨k, hk⟩ := Int.eq_ofNat_of_zero_le (coefficient_nonneg hb.le)
  have hkpos : 0 < k := by
    have hpos := value_pos_iff.mp hb
    rw [isPositive, decide_eq_true_eq, hk] at hpos
    exact_mod_cast hpos
  split at h
  · -- the division comes out even
    rename_i heven
    exact .inl (value_of_even (isZero_eq_false hb) heven (ofParts?_eq_some_iff.mp h))
  · obtain ⟨quotient, hquotient, rfl⟩ := Option.map_eq_some_iff.mp h
    have hsign : b.coefficient.sign = 1 := by
      rw [hk, Int.sign_eq_one_iff_pos]
      exact_mod_cast hkpos
    have hnat : a.coefficient * b.coefficient.sign * 10 ^ b.scale = (m * 10 ^ b.scale : ℕ) := by
      rw [hm, hsign, mul_one]
      push_cast
      rfl
    rw [hnat, hk, Int.natAbs_natCast] at hquotient
    refine .inr ⟨m * 10 ^ b.scale, k * 10 ^ a.scale, quotient, by positivity, ?_,
      nearest_of_nearest? (Nat.le_refl _) hquotient, rfl⟩
    rw [value, value, hm, hk]
    push_cast
    field_simp

/-- **Quotients are as fine as can be.** -/
theorem finest_div (h : a.div? b = some c) (ha : 0 < a.value) (hb : 0 < b.value) :
    Finest (a.value / b.value) c := by
  rcases div?_cases h ha hb with hexact | ⟨n, d, quotient, hd, hratio, hnearest, rfl⟩
  · rw [← hexact]
    exact finest_self (by rw [hexact]; positivity)
  · have hfinest := hnearest.finest hd
    rw [← hratio] at hfinest
    cases hfinest with
    | large hx hc => exact .large hx (by rwa [value_trim])
    | rounded hd hx hc => exact .rounded hd hx (by rwa [value_trim])

end Decimal

end ScalpBot
