import Mathlib.Data.Rat.Floor
import ScalpBot.Proofs.Decimal.Rounded

/-!
# Rounding half up

Of a number that is not negative, what counts for rounding is what it has beyond its last place
(`Decimal.rest`): from a half of the unit on it goes up to the next multiple, below that it goes down.
So rounding adds what is missing to the unit, or takes the rest away (`Decimal.gain`,
`Rounded.eq_add_gain`).

A number that was rounded before, at a finer place, has a rest that the rounding before could not have
made or undone: it is nothing, or at least a unit of the finer place, and so is what is missing
(`Decimal.unit_le_rest`, `Decimal.unit_le_missing`). Therefore rounding up makes up for the rounding
before, and rounding a rest away does not (`Decimal.AtPlace.le_toPlaces_iff`).
-/

namespace ScalpBot

namespace Decimal

variable {places : ℕ} {x : ℚ}

/-- What a number has beyond so many places, as a part of one at the last of them. -/
def rest (places : ℕ) (x : ℚ) : ℚ := Int.fract (x / unit places)

/-- What rounding half up adds to a number. -/
def gain (places : ℕ) (x : ℚ) : ℚ :=
  (if 1 / 2 ≤ rest places x then 1 - rest places x else -rest places x) * unit places

theorem rest_nonneg (places : ℕ) (x : ℚ) : 0 ≤ rest places x := Int.fract_nonneg _

theorem rest_lt_one (places : ℕ) (x : ℚ) : rest places x < 1 := Int.fract_lt_one _

/-- A number is so many units and its rest. -/
theorem eq_floor_add_rest (places : ℕ) (x : ℚ) :
    x = (⌊x / unit places⌋ + rest places x) * unit places := by
  rw [rest, Int.floor_add_fract, div_mul_cancel₀ _ (unit_pos places).ne']

theorem gain_nonneg_iff : 0 ≤ gain places x ↔ rest places x = 0 ∨ 1 / 2 ≤ rest places x := by
  have hunit := unit_pos places
  have hnonneg := rest_nonneg places x
  have hless := rest_lt_one places x
  rw [gain, mul_nonneg_iff_of_pos_right hunit]
  split
  · rename_i hhalf
    exact iff_of_true (by linarith) (.inr hhalf)
  · rename_i hhalf
    rw [or_iff_left hhalf, neg_nonneg]
    exact ⟨fun hle => le_antisymm hle hnonneg, le_of_eq⟩

/-- Rounding half up takes away less than half a unit. -/
theorem neg_gain_lt (places : ℕ) (x : ℚ) : -gain places x < unit places / 2 := by
  have hunit := unit_pos places
  have hless := rest_lt_one places x
  rw [gain]
  split
  · have hpos := mul_pos (by linarith : 0 < 1 - rest places x) hunit
    linarith
  · rename_i hhalf
    have hmul := mul_lt_mul_of_pos_right (not_le.mp hhalf) hunit
    linarith

end Decimal

/-- Rounding, told in units of the last place. -/
theorem Rounded.exists_units {tie : Tie} {places : ℕ} {x r : ℚ} (h : Rounded tie places x r) :
    ∃ k : ℤ, r = k * Decimal.unit places ∧ |k - x / Decimal.unit places| ≤ 1 / 2 ∧
      (|k - x / Decimal.unit places| = 1 / 2 → tie.Chooses (x / Decimal.unit places) k) := by
  obtain ⟨hnear, k, rfl, htie⟩ := h
  have hunit := Decimal.unit_pos places
  have hoff : |k * Decimal.unit places - x| =
      |k - x / Decimal.unit places| * Decimal.unit places := by
    rw [← abs_of_pos hunit, ← abs_mul, abs_of_pos hunit, sub_mul, div_mul_cancel₀ _ hunit.ne']
  rw [hoff] at hnear htie
  refine ⟨k, rfl, le_of_mul_le_mul_right (by linarith) hunit, fun hhalf => htie ?_⟩
  rw [hhalf]
  ring

/-- **What rounding half up comes to.** -/
theorem Rounded.eq_add_gain {places : ℕ} {x r : ℚ} (h : Rounded .awayFromZero places x r)
    (hx : 0 ≤ x) : r = x + Decimal.gain places x := by
  obtain ⟨k, rfl, hclose, htie⟩ := h.exists_units
  have hunit := Decimal.unit_pos places
  have hexact := Decimal.eq_floor_add_rest places x
  have hfloor : 0 ≤ ⌊x / Decimal.unit places⌋ := Int.floor_nonneg.mpr (div_nonneg hx hunit.le)
  have hquotient : x / Decimal.unit places = ⌊x / Decimal.unit places⌋ + Decimal.rest places x :=
    (Int.floor_add_fract _).symm
  generalize ⌊x / Decimal.unit places⌋ = n at hexact hfloor hquotient
  obtain ⟨hlow, hhigh⟩ := abs_le.mp hclose
  have hnonneg := Decimal.rest_nonneg places x
  have hless := Decimal.rest_lt_one places x
  -- the multiple is the one below or the one above
  have hlower : n - 1 < k := by
    have hlower' : (n : ℚ) - 1 < k := by linarith
    exact_mod_cast hlower'
  have hupper : k < n + 2 := by
    have hupper' : (k : ℚ) < n + 2 := by linarith
    exact_mod_cast hupper'
  have hcases : k = n ∨ k = n + 1 := by omega
  by_cases hhalf : 1 / 2 ≤ Decimal.rest places x
  · have habove : k = n + 1 := by
      refine hcases.resolve_left ?_
      rintro rfl
      -- the one below is a half away at the least, and the tie goes away from zero
      have hbelow : |(k : ℚ) - x / Decimal.unit places| = 1 / 2 := by
        rw [abs_of_nonpos (by linarith)]
        linarith
      have haway := htie hbelow
      have hk : (0 : ℚ) ≤ k := by exact_mod_cast hfloor
      rw [Tie.Chooses, hquotient, abs_of_nonneg (by linarith), abs_of_nonneg hk] at haway
      linarith
    rw [Decimal.gain, if_pos hhalf, habove]
    push_cast
    linarith
  · have hbelow : k = n := by
      refine hcases.resolve_right ?_
      rintro rfl
      push_cast at hhigh
      linarith
    rw [Decimal.gain, if_neg hhalf, hbelow]
    linarith

namespace Decimal

variable {a : Decimal} {places place : ℕ} {x : ℚ}

/-! ## A rounding before -/

/-- What has no more places has no rest. -/
theorem rest_of_scale_le (h : a.scale ≤ places) : rest places a.value = 0 := by
  rw [rest, mul_unit_of_scale_le h, mul_div_cancel_right₀ _ (unit_pos places).ne', Int.fract_intCast]

/-- A decimal with at least so many places differs from each multiple of the unit by so many of its own
last place. -/
theorem exists_sub_eq (h : places ≤ a.scale) (m : ℤ) :
    ∃ k : ℤ, a.value - m * unit places = k * unit a.scale := by
  refine ⟨a.coefficient - m * 10 ^ (a.scale - places), ?_⟩
  rw [value, unit, unit, ← Nat.sub_add_cancel h, pow_add, Nat.add_sub_cancel]
  push_cast
  field_simp

/-- So many of a unit, if it is more than nothing, are at least one. -/
theorem unit_le_of_pos {k : ℤ} (h : 0 < k * unit places) : unit places ≤ k * unit places := by
  have hunit := unit_pos places
  have hk : 0 < k := by exact_mod_cast (mul_pos_iff_of_pos_right hunit).mp h
  exact le_mul_of_one_le_left hunit.le (by exact_mod_cast hk)

/-- A rest that is not nothing is at least one at the last place of the decimal. -/
theorem unit_le_rest (h : places ≤ a.scale) (hrest : rest places a.value ≠ 0) :
    unit a.scale ≤ rest places a.value * unit places := by
  obtain ⟨k, hk⟩ := exists_sub_eq h ⌊a.value / unit places⌋
  have hexact := eq_floor_add_rest places a.value
  have heq : rest places a.value * unit places = k * unit a.scale := by linarith
  have hpos : 0 < rest places a.value * unit places :=
    mul_pos (lt_of_le_of_ne (rest_nonneg ..) hrest.symm) (unit_pos places)
  rw [heq] at hpos ⊢
  exact unit_le_of_pos hpos

/-- What is missing to the next multiple is at least one at the last place of the decimal. -/
theorem unit_le_missing (h : places ≤ a.scale) :
    unit a.scale ≤ (1 - rest places a.value) * unit places := by
  obtain ⟨k, hk⟩ := exists_sub_eq h (⌊a.value / unit places⌋ + 1)
  have hexact := eq_floor_add_rest places a.value
  push_cast at hk
  have heq : (1 - rest places a.value) * unit places = (-k : ℤ) * unit a.scale := by
    push_cast
    linarith
  have hpos : 0 < (1 - rest places a.value) * unit places :=
    mul_pos (sub_pos.mpr (rest_lt_one ..)) (unit_pos places)
  rw [heq] at hpos ⊢
  exact unit_le_of_pos hpos

theorem value_toPlaces_awayFromZero (hplaces : places ≤ maxScale) (ha : 0 ≤ a.value) :
    (a.toPlaces .awayFromZero places hplaces).value = a.value + gain places a.value :=
  (rounded_toPlaces .awayFromZero hplaces a).eq_add_gain ha

/-- **Whether rounding half up makes up for a rounding before.**  It does where it goes up, and where
nothing is rounded if nothing was lost before. -/
theorem AtPlace.le_toPlaces_iff (h : AtPlace x place a) (hplaces : places ≤ maxScale)
    (ha : 0 ≤ a.value) :
    x ≤ (a.toPlaces .awayFromZero places hplaces).value ↔
      1 / 2 ≤ rest places a.value ∨ rest places a.value = 0 ∧ x ≤ a.value := by
  -- the rounding before was finer than the last place that is left
  have hfine := unit_le_unit (h.scale_le a rfl)
  have hpos := unit_pos a.scale
  obtain ⟨hlow, hhigh⟩ := abs_le.mp h.close
  rw [value_toPlaces_awayFromZero hplaces ha, gain]
  by_cases hrest : rest places a.value = 0
  · rw [hrest, if_neg (by norm_num), neg_zero, zero_mul, add_zero]
    exact ⟨fun hle => .inr ⟨rfl, hle⟩, fun hor => (hor.resolve_left (by norm_num)).2⟩
  · have hmore : places ≤ a.scale := by
      by_contra hless
      exact hrest (rest_of_scale_le (Nat.le_of_not_le hless))
    rw [or_iff_left fun hnone => hrest hnone.1]
    split
    · rename_i hhalf
      have hmissing := unit_le_missing hmore
      exact iff_of_true (by linarith) hhalf
    · rename_i hhalf
      have hlost := unit_le_rest hmore hrest
      exact iff_of_false (by linarith) hhalf

end Decimal

end ScalpBot
