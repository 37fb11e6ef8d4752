import Mathlib.Algebra.Order.Field.Basic
import Mathlib.Data.Rat.Cast.Order
import Mathlib.Tactic.FieldSimp
import Mathlib.Tactic.Linarith
import Mathlib.Tactic.Positivity
import Mathlib.Tactic.Ring
import ScalpBot.Decimal.Arithmetic

/-!
# The values of decimals

`Decimal.value` is the rational number that a decimal stands for, and `Decimal.unit` what one at its
last place is worth. Arithmetic is told in these values: a sum is exact while its digits fit
(`Decimal.value_add_of_le`), a decimal at so many places is off by at most half a unit
(`Decimal.abs_value_toPlaces_sub_le`), and a product at so many places, which has been rounded before, by
hardly more (`Decimal.AtPlace.abs_value_toPlaces_sub_le`).

All of it rests on one fact about integers: a rounded quotient is at most a half away from the
quotient (`two_mul_abs_roundRatio_sub_le`).
-/

namespace ScalpBot

/-! ## Rounded quotients -/

theorem two_mul_abs_roundDiv_sub_le (tie : Tie) (n : ℕ) {d : ℕ} (hd : 0 < d) :
    2 * |(d : ℤ) * roundDiv tie n d - n| ≤ d := by
  have hdiv : (d : ℤ) * (n / d : ℕ) + (n % d : ℕ) = n := by exact_mod_cast Nat.div_add_mod n d
  have hlt : n % d < d := Nat.mod_lt n hd
  have hdown : 2 * (n % d) ≤ d → 2 * |(d : ℤ) * (n / d : ℕ) - n| ≤ d := by
    intro h
    rw [← hdiv, sub_add_cancel_left, abs_neg, Nat.abs_cast]
    exact_mod_cast h
  have hup : d ≤ 2 * (n % d) → 2 * |(d : ℤ) * (n / d + 1 : ℕ) - n| ≤ d := by
    intro h
    have he : (d : ℤ) * (n / d + 1 : ℕ) - n = d - (n % d : ℕ) := by
      rw [← hdiv, Nat.cast_succ, mul_add, mul_one]
      exact add_sub_add_left_eq_sub ..
    rw [he, abs_of_nonneg (by omega)]
    omega
  rw [roundDiv]
  split
  · exact hdown (by omega)
  · split
    · exact hup (by omega)
    · split
      · exact hup (by omega)
      · exact hdown (by omega)

/-- **A rounded quotient is at most a half away from the quotient.** -/
theorem two_mul_abs_roundRatio_sub_le (tie : Tie) (n : ℤ) {d : ℕ} (hd : 0 < d) :
    2 * |(d : ℤ) * roundRatio tie n d - n| ≤ d := by
  have hsign : (d : ℤ) * roundRatio tie n d - n =
      n.sign * (d * roundDiv tie n.natAbs d - n.natAbs) := by
    rw [roundRatio, mul_sub, Int.sign_mul_natAbs]
    ring
  have hone : |n.sign| ≤ 1 := by
    rw [Int.abs_eq_natAbs, Int.natAbs_sign]
    split <;> simp
  calc 2 * |(d : ℤ) * roundRatio tie n d - n|
      = 2 * (|n.sign| * |(d : ℤ) * roundDiv tie n.natAbs d - n.natAbs|) := by rw [hsign, abs_mul]
    _ ≤ 2 * (1 * |(d : ℤ) * roundDiv tie n.natAbs d - n.natAbs|) := by gcongr
    _ = 2 * |(d : ℤ) * roundDiv tie n.natAbs d - n.natAbs| := by rw [one_mul]
    _ ≤ d := two_mul_abs_roundDiv_sub_le tie n.natAbs hd

/-- A quotient that comes out even is not rounded. -/
theorem roundRatio_mul_self (tie : Tie) (n : ℤ) {d : ℕ} (hd : 0 < d) :
    roundRatio tie (n * d) d = n := by
  have h := two_mul_abs_roundRatio_sub_le tie (n * d) hd
  rw [mul_comm n, ← mul_sub, abs_mul, Nat.abs_cast] at h
  have hlt : (d : ℤ) * (2 * |roundRatio tie (d * n) d - n|) < d * 2 := by linarith [hd]
  have habs : 2 * |roundRatio tie (d * n) d - n| < 2 := lt_of_mul_lt_mul_left hlt (by omega)
  rw [mul_comm n]
  have hzero : |roundRatio tie (d * n) d - n| = 0 := by
    have := abs_nonneg (roundRatio tie (d * n) d - n)
    omega
  exact sub_eq_zero.mp (abs_eq_zero.mp hzero)

/-- Rounding does not pass an integer. -/
theorem natAbs_roundRatio_le_of_le (tie : Tie) {n : ℤ} {d k : ℕ} (hd : 0 < d)
    (h : n.natAbs ≤ k * d) : (roundRatio tie n d).natAbs ≤ k := by
  have hnear := two_mul_abs_roundRatio_sub_le tie n hd
  have hn : |n| ≤ k * d := by
    rw [Int.abs_eq_natAbs]
    exact_mod_cast h
  have hdr : (d : ℤ) * |roundRatio tie n d| ≤ |(d : ℤ) * roundRatio tie n d - n| + |n| := by
    have := abs_add_le ((d : ℤ) * roundRatio tie n d - n) n
    rwa [sub_add_cancel, abs_mul, Nat.abs_cast] at this
  have hlt : (d : ℤ) * |roundRatio tie n d| < d * (k + 1) := by linarith
  have hr := lt_of_mul_lt_mul_left hlt (by omega)
  rw [Int.abs_eq_natAbs] at hr
  omega

namespace Decimal

variable {a b c : Decimal} {n : ℤ} {d places : ℕ}

/-! ## Values -/

/-- The number that a decimal stands for. -/
def value (a : Decimal) : ℚ := a.coefficient / 10 ^ a.scale

/-- What one at the last of so many places is worth. -/
def unit (places : ℕ) : ℚ := 1 / 10 ^ places

theorem unit_pos (places : ℕ) : 0 < unit places := by
  unfold unit
  positivity

theorem unit_succ (places : ℕ) : unit (places + 1) = unit places / 10 := by
  rw [unit, unit, pow_succ, div_div]

theorem unit_le_unit {places places' : ℕ} (h : places ≤ places') : unit places' ≤ unit places := by
  unfold unit
  gcongr
  norm_num

theorem unit_le_one (places : ℕ) : unit places ≤ 1 := by
  calc unit places ≤ unit 0 := unit_le_unit (Nat.zero_le _)
    _ = 1 := by rw [unit, pow_zero, div_one]

@[simp] theorem value_zero : zero.value = 0 := by
  rw [value, zero, Int.cast_zero, zero_div]

@[simp] theorem value_one : one.value = 1 := by
  norm_num [value, one]

theorem value_eq_zero_iff : a.value = 0 ↔ a.isZero = true := by
  rw [value, div_eq_zero_iff, or_iff_left (by positivity), Int.cast_eq_zero, isZero, beq_iff_eq]

theorem value_pos_iff : 0 < a.value ↔ a.isPositive = true := by
  rw [value, div_pos_iff_of_pos_right (by positivity), Int.cast_pos, isPositive, decide_eq_true_eq]

theorem isZero_eq_false (h : 0 < a.value) : a.isZero = false :=
  Bool.eq_false_iff.mpr fun hzero => h.ne' (value_eq_zero_iff.mpr hzero)

/-! ## As many places as fit -/

/-- **What rounding to the most places that fit comes to.**  `c` is the quotient of `n` and `d`,
rounded half to even. It has all places that were asked for, or one place more would be too much. -/
structure Nearest (n : ℤ) (d places : ℕ) (c : Decimal) : Prop where
  scale_le : c.scale ≤ places
  coefficient_eq : c.coefficient = roundRatio .toEven (n * 10 ^ c.scale) d
  full : c.scale < places →
    maxCoefficient < (roundRatio .toEven (n * 10 ^ (c.scale + 1)) d).natAbs

theorem nearest_of_nearest? (hplaces : places ≤ maxScale) (h : nearest? n d places = some c) :
    Nearest n d places c := by
  induction places with
  | zero =>
    rw [nearest?, ofParts?_eq_some_iff] at h
    obtain ⟨hc, hs⟩ := h
    exact ⟨by omega, by rw [hc, hs, pow_zero, mul_one], by omega⟩
  | succ places ih =>
    rw [nearest?] at h
    cases hparts : ofParts? (roundRatio .toEven (n * 10 ^ (places + 1)) d) (places + 1) with
    | some c' =>
      rw [hparts] at h
      obtain rfl := Option.some.inj h
      obtain ⟨hc, hs⟩ := ofParts?_eq_some_iff.mp hparts
      exact ⟨by omega, by rw [hc, hs], by omega⟩
    | none =>
      rw [hparts] at h
      have hn := ih (by omega) h
      refine ⟨Nat.le_succ_of_le hn.scale_le, hn.coefficient_eq, fun _ => ?_⟩
      rcases Nat.lt_or_eq_of_le hn.scale_le with hlt | heq
      · exact hn.full hlt
      · -- this is the place that did not fit
        rw [heq]
        by_contra hfits
        have hsome := isSome_ofParts? (Nat.le_of_not_lt hfits) hplaces
        rw [hparts] at hsome
        cases hsome

theorem abs_roundRatio_div_sub_le (tie : Tie) (n : ℤ) (hd : 0 < d) (places : ℕ) :
    |(roundRatio tie n d : ℚ) / 10 ^ places - n / (d * 10 ^ places)| ≤ unit places / 2 := by
  have hnear := two_mul_abs_roundRatio_sub_le tie n hd
  generalize roundRatio tie n d = r at hnear ⊢
  have hnear' : 2 * |(d : ℚ) * r - n| ≤ d := by exact_mod_cast hnear
  have hpos : (0 : ℚ) < d * 10 ^ places := by positivity
  have he : (r : ℚ) / 10 ^ places - n / (d * 10 ^ places) = (d * r - n) / (d * 10 ^ places) := by
    field_simp
  rw [he, abs_div, abs_of_pos hpos, div_le_iff₀ hpos, unit]
  field_simp
  linarith

/-- What was rounded is off by at most half a unit. -/
theorem Nearest.abs_value_sub_le (h : Nearest n d places c) (hd : 0 < d) :
    |c.value - n / d| ≤ unit c.scale / 2 := by
  have hround := abs_roundRatio_div_sub_le .toEven (n * 10 ^ c.scale) hd c.scale
  rw [← h.coefficient_eq] at hround
  push_cast at hround
  rwa [mul_div_mul_right _ _ (by positivity)] at hround

/-- What has all places that it needs is not rounded. -/
theorem Nearest.value_eq_of_scale_eq (h : Nearest n (10 ^ places) places c)
    (hscale : c.scale = places) : c.value = n / 10 ^ places := by
  have hcoefficient := h.coefficient_eq
  rw [hscale] at hcoefficient
  have hexact := roundRatio_mul_self .toEven n (d := 10 ^ places) (by positivity)
  push_cast at hexact
  rw [value, hcoefficient, hexact, hscale]

/-- What fits is not rounded. -/
theorem Nearest.value_eq_of_le (h : Nearest n (10 ^ places) places c)
    (hn : n.natAbs ≤ maxCoefficient) : c.value = n / 10 ^ places := by
  rcases Nat.lt_or_eq_of_le h.scale_le with hlt | heq
  · have hle : (n * 10 ^ (c.scale + 1)).natAbs ≤ n.natAbs * 10 ^ places := by
      rw [Int.natAbs_mul, Int.natAbs_pow]
      exact Nat.mul_le_mul_left _ (Nat.pow_le_pow_right (by decide) hlt)
    have hfits := natAbs_roundRatio_le_of_le .toEven (by positivity) hle
    exact absurd (h.full hlt) (by omega)
  · exact h.value_eq_of_scale_eq heq

/-- What had to be cut has no room for another digit, not even a zero. -/
theorem Nearest.maxCoefficient_lt (h : Nearest n d places c) (hd : 0 < d)
    (hlt : c.scale < places) : maxCoefficient < (c.coefficient * 10).natAbs := by
  have hfull := h.full hlt
  have hkept := two_mul_abs_roundRatio_sub_le .toEven (n * 10 ^ c.scale) hd
  have hnext := two_mul_abs_roundRatio_sub_le .toEven (n * 10 ^ (c.scale + 1)) hd
  rw [← h.coefficient_eq] at hkept
  rw [pow_succ, ← mul_assoc] at hfull hnext
  generalize roundRatio .toEven (n * 10 ^ c.scale * 10) d = r at hfull hnext
  generalize n * 10 ^ c.scale = m at hkept hnext
  -- both lie within half a unit of the quotient, so they are less than six apart
  have hapart : (d : ℤ) * |r - c.coefficient * 10| < d * 6 := by
    have htriangle := abs_sub_le ((d : ℤ) * r) (m * 10) (d * (c.coefficient * 10))
    have hten : |m * 10 - (d : ℤ) * (c.coefficient * 10)| = |(d : ℤ) * c.coefficient - m| * 10 := by
      rw [abs_sub_comm, ← mul_assoc, ← sub_mul, abs_mul]
      rfl
    rw [← mul_sub, abs_mul, Nat.abs_cast, hten] at htriangle
    linarith [hd]
  have hsix := lt_of_mul_lt_mul_left hapart (by omega)
  rw [Int.abs_eq_natAbs] at hsix
  unfold maxCoefficient at hfull ⊢
  omega

/-! ## Sums and products -/

theorem sumNumerator_eq (a b : Decimal) :
    (sumNumerator a b : ℚ) = (a.value + b.value) * 10 ^ max a.scale b.scale := by
  have hpart : ∀ x : Decimal, ∀ m, x.scale ≤ m →
      (x.coefficient : ℚ) * 10 ^ (m - x.scale) = x.value * 10 ^ m := by
    intro x m hm
    obtain ⟨k, rfl⟩ := Nat.exists_eq_add_of_le hm
    rw [Nat.add_sub_cancel_left, value, pow_add]
    field_simp
  rw [sumNumerator]
  push_cast
  rw [hpart a _ (Nat.le_max_left ..), hpart b _ (Nat.le_max_right ..), add_mul]

/-- A sum whose digits fit is exact. -/
theorem value_add_of_le (h : a.add b = .ok c) (hn : (sumNumerator a b).natAbs ≤ maxCoefficient) :
    c.value = a.value + b.value := by
  rw [add] at h
  cases hsum : sum? a b with
  | none =>
    rw [hsum] at h
    cases h
  | some c' =>
    rw [hsum] at h
    cases h
    rw [sum?] at hsum
    split at hsum
    · rename_i hzero
      obtain rfl := Option.some.inj hsum
      rw [value_eq_zero_iff.mpr hzero, zero_add]
    · split at hsum
      · rename_i hzero
        obtain rfl := Option.some.inj hsum
        rw [value_eq_zero_iff.mpr hzero, add_zero]
      · have hscale : max a.scale b.scale ≤ maxScale := Nat.max_le.mpr ⟨a.scale_le, b.scale_le⟩
        rw [(nearest_of_nearest? hscale hsum).value_eq_of_le hn, sumNumerator_eq,
          mul_div_cancel_right₀ _ (by positivity)]

/-- A sum has no more places than its terms. -/
theorem scale_add_le (h : a.add b = .ok c) : c.scale ≤ max a.scale b.scale := by
  rw [add] at h
  cases hsum : sum? a b with
  | none =>
    rw [hsum] at h
    cases h
  | some c' =>
    rw [hsum] at h
    cases h
    rw [sum?] at hsum
    split at hsum
    · cases hsum
      exact Nat.le_max_right ..
    · split at hsum
      · cases hsum
        exact Nat.le_max_left ..
      · have hmax : max a.scale b.scale ≤ maxScale := Nat.max_le.mpr ⟨a.scale_le, b.scale_le⟩
        exact (nearest_of_nearest? hmax hsum).scale_le

/-- Numbers that are not negative and small together have an exact sum. -/
theorem value_add_of_le_seven (h : a.add b = .ok c) (ha : 0 ≤ a.value) (hb : 0 ≤ b.value)
    (hsmall : a.value + b.value ≤ 7) : c.value = a.value + b.value := by
  refine value_add_of_le h ?_
  have hscale : max a.scale b.scale ≤ maxScale := Nat.max_le.mpr ⟨a.scale_le, b.scale_le⟩
  have hpow : (10 : ℚ) ^ max a.scale b.scale ≤ 10 ^ maxScale :=
    pow_le_pow_right₀ (by norm_num) hscale
  have hnonneg : (0 : ℚ) ≤ sumNumerator a b := by
    rw [sumNumerator_eq]
    positivity
  have hle : (sumNumerator a b : ℚ) ≤ 7 * 10 ^ maxScale := by
    rw [sumNumerator_eq]
    gcongr
  have hle' : sumNumerator a b ≤ 7 * 10 ^ maxScale := by exact_mod_cast hle
  have hnonneg' : 0 ≤ sumNumerator a b := by exact_mod_cast hnonneg
  have hroom : (7 * 10 ^ maxScale : ℤ) ≤ maxCoefficient := by norm_num
  omega

/-- The product that a decimal was rounded from, unless a factor is zero. -/
theorem nearest_of_mul (h : a.mul b = .ok c) (ha : a.isZero = false) (hb : b.isZero = false) :
    Nearest (a.coefficient * b.coefficient) (10 ^ (a.scale + b.scale))
      (min (a.scale + b.scale) maxScale) c := by
  rw [mul, if_neg (by simp [ha, hb])] at h
  cases hnearest : nearest? (a.coefficient * b.coefficient) (10 ^ (a.scale + b.scale))
      (min (a.scale + b.scale) maxScale) with
  | none =>
    rw [hnearest] at h
    cases h
  | some c' =>
    rw [hnearest] at h
    cases h
    exact nearest_of_nearest? (Nat.min_le_right ..) hnearest

theorem value_mul_value (a b : Decimal) :
    a.value * b.value =
      (a.coefficient * b.coefficient : ℤ) / (10 ^ (a.scale + b.scale) : ℕ) := by
  rw [value, value, div_mul_div_comm, ← pow_add]
  push_cast
  rfl

/-- A product whose digits fit is exact. -/
theorem value_mul_of_le (h : a.mul b = .ok c) (hscale : a.scale + b.scale ≤ maxScale)
    (hdigits : |a.value * b.value| * 10 ^ (a.scale + b.scale) ≤ maxCoefficient) :
    c.value = a.value * b.value := by
  by_cases hzero : a.isZero = true ∨ b.isZero = true
  · have hvalue : a.value * b.value = 0 := by
      rwa [mul_eq_zero, value_eq_zero_iff, value_eq_zero_iff]
    rw [mul, if_pos (by simpa using hzero)] at h
    cases h
    rw [value_zero, hvalue]
  · rw [not_or, Bool.not_eq_true, Bool.not_eq_true] at hzero
    have hnearest := nearest_of_mul h hzero.1 hzero.2
    rw [Nat.min_eq_left hscale] at hnearest
    have hpow : (0 : ℚ) < (10 ^ (a.scale + b.scale) : ℕ) := by positivity
    have hfits : (a.coefficient * b.coefficient).natAbs ≤ maxCoefficient := by
      rw [value_mul_value, abs_div, abs_of_pos hpow, Nat.cast_pow, Nat.cast_ofNat,
        div_mul_cancel₀ _ (by positivity), ← Int.cast_abs, Int.abs_eq_natAbs] at hdigits
      exact_mod_cast hdigits
    rw [value_mul_value, hnearest.value_eq_of_le hfits, Nat.cast_pow, Nat.cast_ofNat]

/-! ## So many places -/

variable (tie : Tie) (hplaces : places ≤ maxScale)

theorem value_padZeros (a : Decimal) (count : ℕ) : (a.padZeros count).value = a.value := by
  induction count generalizing a with
  | zero => rfl
  | succ count ih =>
    rw [padZeros]
    cases hparts : ofParts? (a.coefficient * 10) (a.scale + 1) with
    | none => rfl
    | some b =>
      obtain ⟨hc, hs⟩ := ofParts?_eq_some_iff.mp hparts
      have hb : b.value = a.value := by
        rw [value, value, hc, hs, pow_succ]
        push_cast
        exact mul_div_mul_right _ _ (by norm_num)
      exact (ih b).trans hb

theorem value_roundTo_of_scale_le (h : a.scale ≤ places) :
    (a.roundTo tie places hplaces).value = a.value := by
  rw [roundTo, if_pos h]
  split
  · rename_i hzero
    rw [value_eq_zero_iff.mpr hzero, value, Int.cast_zero, zero_div]
  · rfl

theorem scale_roundTo_of_lt (h : places < a.scale) :
    (a.roundTo tie places hplaces).scale = places := by
  rw [roundTo, if_neg (Nat.not_le_of_lt h)]
  split <;> rfl

theorem coefficient_roundTo_of_lt (h : places < a.scale) :
    (a.roundTo tie places hplaces).coefficient =
      roundRatio tie a.coefficient (10 ^ (a.scale - places)) := by
  rw [roundTo, if_neg (Nat.not_le_of_lt h)]
  split
  · rename_i hzero
    rw [isZero, beq_iff_eq] at hzero
    rw [hzero, roundRatio, Int.sign_zero, zero_mul]
  · rfl

theorem abs_value_roundTo_sub_le (a : Decimal) :
    |(a.roundTo tie places hplaces).value - a.value| ≤ unit places / 2 := by
  by_cases hle : a.scale ≤ places
  · have hpos := unit_pos places
    rw [value_roundTo_of_scale_le tie hplaces hle, sub_self, abs_zero]
    positivity
  · -- `a` is a quotient over the digits that are dropped, at the places that are kept
    have hlt := Nat.lt_of_not_le hle
    have hround := abs_roundRatio_div_sub_le tie a.coefficient
      (d := 10 ^ (a.scale - places)) (by positivity) places
    push_cast at hround
    rw [← pow_add, Nat.sub_add_cancel hlt.le] at hround
    rw [value, coefficient_roundTo_of_lt tie hplaces hlt, scale_roundTo_of_lt tie hplaces hlt]
    exact hround

/-- **A decimal at so many places is off by at most half a unit.** -/
theorem abs_value_toPlaces_sub_le (a : Decimal) :
    |(a.toPlaces tie places hplaces).value - a.value| ≤ unit places / 2 := by
  rw [toPlaces, value_padZeros]
  exact abs_value_roundTo_sub_le tie hplaces a

/-- What has no more places than were asked for is not rounded. -/
theorem value_toPlaces_of_scale_le (h : a.scale ≤ places) :
    (a.toPlaces tie places hplaces).value = a.value := by
  rw [toPlaces, value_padZeros, value_roundTo_of_scale_le tie hplaces h]

theorem scale_toPlaces_of_lt (h : places < a.scale) :
    (a.toPlaces tie places hplaces).scale = places := by
  rw [toPlaces, scale_roundTo_of_lt tie hplaces h, Nat.sub_self]
  exact scale_roundTo_of_lt tie hplaces h

/-- Zeros are added up to the places asked for, or until no digit fits. -/
theorem scale_padZeros_or_full (count : ℕ) (h : a.scale + count ≤ maxScale) :
    (a.padZeros count).scale = a.scale + count ∨ (a.padZeros count).scale < a.scale + count ∧
      maxCoefficient < ((a.padZeros count).coefficient * 10).natAbs := by
  induction count generalizing a with
  | zero => exact .inl rfl
  | succ count ih =>
    rw [padZeros]
    cases hparts : ofParts? (a.coefficient * 10) (a.scale + 1) with
    | some b =>
      obtain ⟨-, hs⟩ := ofParts?_eq_some_iff.mp hparts
      have hmore := ih (a := b) (by omega)
      rwa [hs, Nat.add_assoc, Nat.add_comm 1] at hmore
    | none =>
      refine .inr ⟨by dsimp only; omega, Nat.lt_of_not_le fun hfits => ?_⟩
      have hsome := isSome_ofParts? hfits (by omega : a.scale + 1 ≤ maxScale)
      rw [hparts] at hsome
      cases hsome

theorem scale_roundTo_le (a : Decimal) : (a.roundTo tie places hplaces).scale ≤ places := by
  unfold roundTo
  split
  · exact Nat.le_refl _
  · split
    · assumption
    · exact Nat.le_refl _

/-- **A decimal has the places asked for,** or fewer and no room for another digit. -/
theorem scale_toPlaces_or_full (a : Decimal) :
    (a.toPlaces tie places hplaces).scale = places ∨ (a.toPlaces tie places hplaces).scale < places ∧
      maxCoefficient < ((a.toPlaces tie places hplaces).coefficient * 10).natAbs := by
  have hle := scale_roundTo_le tie hplaces a
  have hpad := scale_padZeros_or_full (a := a.roundTo tie places hplaces)
    (places - (a.roundTo tie places hplaces).scale) (by omega)
  rwa [Nat.add_sub_cancel' hle] at hpad

/-- Where no digit fits, a decimal is large. -/
theorem lt_abs_value_of_full (h : maxCoefficient < (a.coefficient * 10).natAbs) :
    (maxCoefficient : ℚ) < |a.value| * 10 ^ (a.scale + 1) := by
  have hdigits : |a.value| * 10 ^ (a.scale + 1) = (a.coefficient * 10).natAbs := by
    have hpow : (0 : ℚ) < 10 ^ a.scale := by positivity
    rw [value, abs_div, abs_of_pos hpow, pow_succ, Nat.cast_natAbs]
    push_cast
    rw [abs_mul, abs_of_pos (by norm_num : (0 : ℚ) < 10)]
    field_simp
  rw [hdigits]
  exact_mod_cast h

/-- A decimal that is small enough has the places asked for. -/
theorem scale_toPlaces_of_le (tie : Tie) (hplaces : places ≤ maxScale)
    (hsmall : |(a.toPlaces tie places hplaces).value| * 10 ^ places ≤ maxCoefficient) :
    (a.toPlaces tie places hplaces).scale = places := by
  refine (scale_toPlaces_or_full tie hplaces a).resolve_right ?_
  rintro ⟨hless, hfull⟩
  have hpow : (10 : ℚ) ^ ((a.toPlaces tie places hplaces).scale + 1) ≤ 10 ^ places :=
    pow_le_pow_right₀ (by norm_num) hless
  have hlarge := lt_abs_value_of_full hfull
  have hle := mul_le_mul_of_nonneg_left hpow (abs_nonneg (a.toPlaces tie places hplaces).value)
  linarith

/-! ## Two roundings -/

variable {x : ℚ} {place : ℕ}

/-- A decimal without room for another digit has the most places that its value can be written
with. -/
theorem scale_le_of_full (h : maxCoefficient < (a.coefficient * 10).natAbs) (hb : b.value = a.value) :
    b.scale ≤ a.scale := by
  by_contra hmore
  obtain ⟨k, hk⟩ := Nat.exists_eq_add_of_lt (Nat.lt_of_not_le hmore)
  -- the digits of `b` are those of `a`, one zero, and perhaps more
  have hdigits : b.coefficient = a.coefficient * 10 * 10 ^ k := by
    rw [value, value, hk, Nat.add_assoc, pow_add, pow_succ,
      div_eq_div_iff (by positivity) (by positivity)] at hb
    have hcast : (b.coefficient : ℚ) = a.coefficient * 10 * 10 ^ k := by
      have hpow : (10 : ℚ) ^ a.scale ≠ 0 := by positivity
      refine mul_right_cancel₀ hpow ?_
      rw [hb]
      ring
    exact_mod_cast hcast
  have hgrows : (a.coefficient * 10).natAbs ≤ b.coefficient.natAbs := by
    rw [hdigits, Int.natAbs_mul _ (10 ^ k)]
    exact Nat.le_mul_of_pos_right _ (by positivity)
  exact absurd (hgrows.trans b.coefficient_le) (Nat.not_le_of_lt h)

/-- **Rounded at a place.**  `c` is `x`, off by at most half a unit of the place, and its value cannot
be written with more places. -/
structure AtPlace (x : ℚ) (place : ℕ) (c : Decimal) : Prop where
  scale_le : ∀ b : Decimal, b.value = c.value → b.scale ≤ place
  close : |c.value - x| ≤ unit place / 2

theorem atPlace_self (a : Decimal) : AtPlace a.value maxScale a where
  scale_le b _ := b.scale_le
  close := by
    have hpos := unit_pos maxScale
    rw [sub_self, abs_zero]
    positivity

/-- What had to be cut is rounded at its last place. -/
theorem Nearest.atPlace_of_cut (h : Nearest n d places c) (hd : 0 < d) (hcut : c.scale < places) :
    AtPlace (n / d) c.scale c where
  scale_le _ := scale_le_of_full (h.maxCoefficient_lt hd hcut)
  close := h.abs_value_sub_le hd

/-- What was rounded with all places asked for is rounded at its last place. -/
theorem Nearest.atPlace (h : Nearest n d maxScale c) (hd : 0 < d) : AtPlace (n / d) c.scale c := by
  rcases Nat.lt_or_eq_of_le h.scale_le with hcut | hall
  · exact h.atPlace_of_cut hd hcut
  · exact ⟨fun b _ => hall ▸ b.scale_le, h.abs_value_sub_le hd⟩

/-- **A product is rounded at one place.** -/
theorem exists_atPlace_of_mul (h : a.mul b = .ok c) (ha : a.isZero = false) (hb : b.isZero = false) :
    ∃ place, AtPlace (a.value * b.value) place c := by
  have hnearest := nearest_of_mul h ha hb
  have hpos : 0 < 10 ^ (a.scale + b.scale) := by positivity
  rw [value_mul_value]
  by_cases hplaces : maxScale ≤ a.scale + b.scale
  · rw [Nat.min_eq_right hplaces] at hnearest
    exact ⟨c.scale, hnearest.atPlace hpos⟩
  · rw [Nat.min_eq_left (by omega)] at hnearest
    rcases Nat.lt_or_eq_of_le hnearest.scale_le with hcut | hall
    · exact ⟨c.scale, hnearest.atPlace_of_cut hpos hcut⟩
    · have hexact := hnearest.value_eq_of_scale_eq hall
      rw [Nat.cast_pow, Nat.cast_ofNat, ← hexact]
      exact ⟨maxScale, atPlace_self c⟩

/-- **What was rounded at one place, at so many places,** is off by hardly more than half a unit of its
last place: before that it was rounded at least one place further down, or for good. -/
theorem AtPlace.abs_value_toPlaces_sub_le (h : AtPlace x place c) :
    |(c.toPlaces tie places hplaces).value - x| ≤
      11 / 20 * unit (c.toPlaces tie places hplaces).scale := by
  have hclose := h.close
  by_cases hcut : places < c.scale
  · have hround := Decimal.abs_value_toPlaces_sub_le tie hplaces c
    have hfine := unit_le_unit (hcut.trans_le (h.scale_le c rfl))
    rw [unit_succ] at hfine
    have htriangle := abs_sub_le (c.toPlaces tie places hplaces).value c.value x
    rw [scale_toPlaces_of_lt tie hplaces hcut]
    linarith
  · have hsame := value_toPlaces_of_scale_le tie hplaces (Nat.le_of_not_lt hcut)
    have hfine := unit_le_unit (h.scale_le _ hsame)
    have hpos := unit_pos (c.toPlaces tie places hplaces).scale
    rw [hsame]
    linarith

end Decimal

end ScalpBot
