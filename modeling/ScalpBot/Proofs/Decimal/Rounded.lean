import ScalpBot.Proofs.Decimal.Quotient

/-!
# Rounding twice as if once

`Rounded tie places x r` says what it is to round the number `x` to so many places: `r` is the multiple
of the last place that is nearest to `x`, and of two that are equally near the one that `tie` asks for.
A decimal at so many places is rounded in this sense (`Decimal.rounded_toPlaces`).

A number that has been rounded before is rounded as the exact one would be, unless the first rounding
moved it to or across the middle between two multiples (`Rounded.of_close`). Where a quotient of integers
is not such a middle itself it keeps a distance from it, as large as its divisor is small. So the first
rounding does no harm if it is finer than that (`Decimal.Nearest.close_of_fine`).
-/

namespace ScalpBot

/-! ## What rounding is -/

/-- Whether a tie lets a half `y` go to the integer `k`. -/
def Tie.Chooses (tie : Tie) (y : ℚ) (k : ℤ) : Prop :=
  match tie with
  | .toEven => k % 2 = 0
  | .towardZero => |(k : ℚ)| < |y|
  | .awayFromZero => |y| < |(k : ℚ)|

/-- **The number `r` is `x`, rounded to so many places.** -/
structure Rounded (tie : Tie) (places : ℕ) (x r : ℚ) : Prop where
  /-- It is at most half a unit away. -/
  near : |r - x| ≤ Decimal.unit places / 2
  /-- It is a multiple of the unit, and the one that the tie chooses where another is as near. -/
  multiple : ∃ k : ℤ, r = k * Decimal.unit places ∧
    (|r - x| = Decimal.unit places / 2 → tie.Chooses (x / Decimal.unit places) k)

/-- A rounded quotient that is half a unit off goes where the tie says. -/
theorem roundDiv_of_half {tie : Tie} {n d : ℕ} (hd : 0 < d)
    (h : 2 * ((d : ℤ) * roundDiv tie n d - n).natAbs = d) :
    2 * (n % d) = d ∧ roundDiv tie n d = n / d + (tie.goesUp (n / d)).toNat := by
  have hdiv : (d : ℤ) * (n / d : ℕ) + (n % d : ℕ) = n := by exact_mod_cast Nat.div_add_mod n d
  have hlt := Nat.mod_lt n hd
  have hhalf : 2 * (n % d) = d := by
    rcases roundDiv_eq_or tie n d with heq | ⟨heq, -⟩
    · rw [heq] at h
      omega
    · rw [heq, Nat.cast_succ, mul_add, mul_one] at h
      omega
  refine ⟨hhalf, ?_⟩
  rw [roundDiv, if_neg (by omega), if_neg (by omega)]
  cases tie.goesUp (n / d) <;> rfl

/-- **Of two integers that are equally near, rounding takes the one that the tie chooses.** -/
theorem chooses_roundRatio {tie : Tie} {n : ℤ} {d : ℕ} (hd : 0 < d)
    (h : 2 * |(d : ℤ) * roundRatio tie n d - n| = d) : tie.Chooses (n / d) (roundRatio tie n d) := by
  have hd' : (0 : ℚ) < d := by exact_mod_cast hd
  have hmagnitude : |(roundRatio tie n d : ℚ)| = roundDiv tie n.natAbs d := by
    rw [← Int.cast_abs, Int.abs_eq_natAbs, natAbs_roundRatio tie n hd, Int.cast_natCast]
  have hexact : |(n : ℚ) / d| = n.natAbs / d := by
    rw [abs_div, abs_of_pos hd', ← Int.cast_abs, Int.abs_eq_natAbs, Int.cast_natCast]
  -- by magnitude the quotient is half a unit off, too
  have hoff : 2 * ((d : ℤ) * roundDiv tie n.natAbs d - n.natAbs).natAbs = d := by
    have hsign : (d : ℤ) * roundRatio tie n d - n =
        n.sign * (d * roundDiv tie n.natAbs d - n.natAbs) := by
      rw [roundRatio, mul_sub, Int.sign_mul_natAbs]
      ring
    have hne : n ≠ 0 := by
      rintro rfl
      have hzero : roundRatio tie 0 d = 0 := by rw [roundRatio, Int.sign_zero, zero_mul]
      rw [hzero, mul_zero, sub_zero, abs_zero] at h
      omega
    rwa [hsign, Int.abs_eq_natAbs, Int.natAbs_mul, Int.natAbs_sign_of_ne_zero hne, one_mul,
      ← Nat.cast_ofNat, ← Nat.cast_mul, Nat.cast_inj] at h
  obtain ⟨hhalf, hround⟩ := roundDiv_of_half hd hoff
  have hdiv := Nat.div_add_mod n.natAbs d
  cases tie with
  | toEven =>
    have heven : (roundRatio .toEven n d).natAbs % 2 = 0 := by
      rw [natAbs_roundRatio _ n hd, hround]
      rcases Nat.mod_two_eq_zero_or_one (n.natAbs / d) with hq | hq <;>
        simp [Tie.goesUp, hq, Nat.add_mod]
    unfold Tie.Chooses
    omega
  | towardZero =>
    have hless : d * roundDiv .towardZero n.natAbs d < n.natAbs := by
      rw [hround, Tie.goesUp, Bool.toNat_false, add_zero]
      omega
    rw [Tie.Chooses, hmagnitude, hexact, lt_div_iff₀ hd', mul_comm]
    exact_mod_cast hless
  | awayFromZero =>
    have hmore : n.natAbs < d * roundDiv .awayFromZero n.natAbs d := by
      rw [hround, Tie.goesUp, Bool.toNat_true, mul_add]
      omega
    rw [Tie.Chooses, hmagnitude, hexact, div_lt_iff₀ hd', mul_comm]
    exact_mod_cast hmore

namespace Decimal

variable {a c : Decimal} {places : ℕ}

/-- A rounded quotient is rounded, whatever the place. -/
theorem rounded_roundRatio (tie : Tie) (n : ℤ) {d : ℕ} (hd : 0 < d) (places : ℕ) :
    Rounded tie places (n / d * unit places) (roundRatio tie n d * unit places) := by
  have hunit := unit_pos places
  have hd' : (0 : ℚ) < d := by exact_mod_cast hd
  refine ⟨?_, _, rfl, fun hhalf => ?_⟩
  · have hnear := abs_roundRatio_div_sub_le tie n hd places
    rwa [← mul_one_div, ← mul_one (n : ℚ), ← div_mul_div_comm, ← unit] at hnear
  · rw [mul_div_assoc, div_self hunit.ne', mul_one]
    apply chooses_roundRatio hd
    rw [← sub_mul, abs_mul, abs_of_pos hunit] at hhalf
    have hdist := mul_right_cancel₀ hunit.ne'
      (hhalf.trans (by ring : unit places / 2 = 1 / 2 * unit places))
    rw [sub_div' hd'.ne', abs_div, abs_of_pos hd', div_eq_div_iff hd'.ne' two_ne_zero, one_mul,
      mul_comm, mul_comm (roundRatio _ _ _ : ℚ)] at hdist
    exact_mod_cast hdist

/-- **A decimal at so many places is rounded.** -/
theorem rounded_toPlaces (tie : Tie) (hplaces : places ≤ maxScale) (a : Decimal) :
    Rounded tie places a.value (a.toPlaces tie places hplaces).value := by
  by_cases hle : a.scale ≤ places
  · have hunit := unit_pos places
    rw [value_toPlaces_of_scale_le tie hplaces hle]
    refine ⟨by rw [sub_self, abs_zero]; positivity, _, mul_unit_of_scale_le hle, fun hhalf => ?_⟩
    rw [sub_self, abs_zero] at hhalf
    linarith
  · -- `a` is a quotient over the digits that are dropped
    have hlt := Nat.lt_of_not_le hle
    have hexact : a.value = a.coefficient / (10 ^ (a.scale - places) : ℕ) * unit places := by
      rw [value, unit, ← Nat.sub_add_cancel hlt.le, pow_add, Nat.add_sub_cancel]
      push_cast
      field_simp
    have hvalue : (a.toPlaces tie places hplaces).value =
        roundRatio tie a.coefficient (10 ^ (a.scale - places)) * unit places := by
      rw [toPlaces, value_padZeros, value, scale_roundTo_of_lt tie hplaces hlt,
        coefficient_roundTo_of_lt tie hplaces hlt, unit, mul_one_div]
    rw [hexact, hvalue]
    exact rounded_roundRatio tie a.coefficient (by positivity) places

end Decimal

/-! ## A rounding before -/

variable {tie : Tie} {places : ℕ} {x y r : ℚ}

/-- **Where a first rounding does no harm.**  If `y` is nearer to `x` than `x` is to any middle between
two multiples, or is the same, then what `y` is rounded to is what `x` is rounded to. -/
theorem Rounded.of_close (h : Rounded tie places y r)
    (hclose : y = x ∨ ∀ j : ℤ, |y - x| < |j * (Decimal.unit places / 2) - x|) :
    Rounded tie places x r := by
  rcases hclose with rfl | hclose
  · exact h
  obtain ⟨hnear, k, rfl, -⟩ := h
  -- `y` lies between the middles around the multiple, so `x` does, and is itself none of them
  have hinside : |k * Decimal.unit places - x| < Decimal.unit places / 2 := by
    have hlow := hclose (2 * k - 1)
    have hhigh := hclose (2 * k + 1)
    push_cast at hlow hhigh
    rw [abs_le] at hnear
    rw [abs_lt]
    constructor
    · by_contra hout
      rw [abs_of_nonpos (by linarith : (2 * (k : ℚ) + 1) * (Decimal.unit places / 2) - x ≤ 0)] at hhigh
      linarith [(abs_lt.mp hhigh).1]
    · by_contra hout
      rw [abs_of_nonneg (by linarith : 0 ≤ (2 * (k : ℚ) - 1) * (Decimal.unit places / 2) - x)] at hlow
      linarith [(abs_lt.mp hlow).2]
  exact ⟨hinside.le, k, rfl, fun hhalf => absurd hhalf hinside.ne⟩

/-- A quotient of integers that is no middle is as far from each as its divisor is small. -/
theorem le_abs_middle_sub {n d : ℕ} (hd : 0 < d) (j : ℤ)
    (hne : (j : ℚ) * (Decimal.unit places / 2) ≠ n / d * Decimal.unit places) :
    Decimal.unit places / (2 * d) ≤
      |j * (Decimal.unit places / 2) - n / d * Decimal.unit places| := by
  have hunit := Decimal.unit_pos places
  have hd' : (0 : ℚ) < d := by exact_mod_cast hd
  have heq : (j : ℚ) * (Decimal.unit places / 2) - n / d * Decimal.unit places =
      ((j * d - 2 * n : ℤ) : ℚ) * (Decimal.unit places / (2 * d)) := by
    push_cast
    field_simp
  have hint : (j * d - 2 * n : ℤ) ≠ 0 := by
    intro hzero
    rw [hzero, Int.cast_zero, zero_mul, sub_eq_zero] at heq
    exact hne heq
  have hone : (1 : ℚ) ≤ |((j * d - 2 * n : ℤ) : ℚ)| := by
    exact_mod_cast Int.one_le_abs hint
  have hpos : 0 < Decimal.unit places / (2 * d) := by positivity
  rw [heq, abs_mul, abs_of_pos hpos]
  exact le_mul_of_one_le_left hpos.le hone

namespace Decimal

variable {c : Decimal} {n : ℤ} {d : ℕ}

/-- What comes out even at its last place is not rounded. -/
theorem Nearest.value_eq_of_even (h : Nearest n d places c) (hd : 0 < d) {z : ℤ}
    (hz : (n : ℚ) / d * 10 ^ c.scale = z) : c.value = n / d := by
  have hd' : (d : ℚ) ≠ 0 := by exact_mod_cast hd.ne'
  have hpow : (10 : ℚ) ^ c.scale ≠ 0 := by positivity
  have hmul : n * 10 ^ c.scale = z * d := by
    rw [div_mul_eq_mul_div, div_eq_iff hd'] at hz
    exact_mod_cast hz
  have hcoefficient := h.coefficient_eq
  rw [hmul, roundRatio_mul_self .toEven z hd] at hcoefficient
  rw [value, hcoefficient, ← hz, mul_div_cancel_right₀ _ hpow]

/-- What had to be cut is so large that one place more would be too much. -/
theorem Nearest.lt_of_cut (h : Nearest n d places c) (hd : 0 < d) (hcut : c.scale < places) :
    (maxCoefficient : ℚ) < |(n : ℚ) / d| * 10 ^ (c.scale + 1) := by
  have hd' : (0 : ℚ) < d := by exact_mod_cast hd
  have hfull := h.full hcut
  rw [natAbs_roundRatio _ _ hd, lt_roundDiv_iff _ _ _ hd, Int.natAbs_mul, Int.natAbs_pow] at hfull
  have hnat : (2 * maxCoefficient + 1) * d ≤ 2 * (n.natAbs * 10 ^ (c.scale + 1)) := by
    rcases hfull with hlt | ⟨heq, -⟩
    · exact hlt.le
    · exact heq.le
  have hcast : (2 * maxCoefficient + 1 : ℚ) * d ≤ 2 * (n.natAbs * 10 ^ (c.scale + 1)) := by
    exact_mod_cast hnat
  rw [abs_div, abs_of_pos hd', div_mul_eq_mul_div, lt_div_iff₀ hd', ← Int.cast_abs,
    Int.abs_eq_natAbs, Int.cast_natCast]
  linarith

/-- **Where a quotient was rounded finely enough.**  Its last place is so fine that the divisor, as a
number of the places asked for, does not reach it. -/
theorem Nearest.close_of_fine {numerator divisor : ℕ} (h : Nearest n d maxScale c) (hd : 0 < d)
    (hdivisor : 0 < divisor) (hratio : (n : ℚ) / d = numerator / divisor * unit places)
    (hfine : divisor * 10 ^ places < 10 ^ c.scale) :
    c.value = n / d ∨ ∀ j : ℤ, |c.value - n / d| < |j * (unit places / 2) - n / d| := by
  have hdivisor' : (0 : ℚ) < divisor := by exact_mod_cast hdivisor
  have hpow : (0 : ℚ) < 10 ^ c.scale := by positivity
  by_cases hmiddle : ∃ j : ℤ, (j : ℚ) * (unit places / 2) = n / d
  · -- a middle has one place more than asked for, so it comes out even
    obtain ⟨j, hj⟩ := hmiddle
    have hless : 10 ^ places < 10 ^ c.scale :=
      (Nat.le_mul_of_pos_left _ hdivisor).trans_lt hfine
    obtain ⟨k, hk⟩ := Nat.exists_eq_add_of_lt ((Nat.pow_lt_pow_iff_right (by norm_num)).mp hless)
    refine .inl (h.value_eq_of_even hd (z := j * 5 * 10 ^ k) ?_)
    rw [← hj, hk, unit, pow_add, pow_add]
    push_cast
    field_simp
    ring
  · right
    intro j
    have hfar := le_abs_middle_sub (n := numerator) hdivisor j
      (hratio ▸ fun heq => hmiddle ⟨j, heq⟩)
    rw [← hratio] at hfar
    refine (h.abs_value_sub_le hd).trans_lt (lt_of_lt_of_le ?_ hfar)
    have hfine' : (divisor * 10 ^ places : ℚ) < 10 ^ c.scale := by exact_mod_cast hfine
    rw [unit, unit, div_div, div_div, div_lt_div_iff₀ (by positivity) (by positivity)]
    linarith

end Decimal

end ScalpBot
