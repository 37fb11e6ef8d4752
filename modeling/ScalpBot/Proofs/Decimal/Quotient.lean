import ScalpBot.Proofs.Decimal.Threshold

/-!
# Quotients at so many places

A quotient is rounded twice: half to even at the last place that it can have, and then with a half
toward zero at the places that are asked for. The second rounding goes up only past the middle, so by at
least one of the last place less than half a unit (`roundDiv_towardZero_cases`), and that makes up for
the first one. So the result is never more than half a unit above the exact quotient
(`Decimal.AtPlace.value_toPlaces_sub_le`), although it can be a little more than that below it.
-/

namespace ScalpBot

/-- **A half that goes toward zero.**  Where the divisor is even, rounding goes up past the middle only,
so by less than half the divisor. -/
theorem roundDiv_towardZero_cases (n : ℕ) {d : ℕ} (heven : d % 2 = 0) :
    d * roundDiv .towardZero n d ≤ n ∨ 2 * (d * roundDiv .towardZero n d) + 2 ≤ 2 * n + d := by
  have hn := Nat.div_add_mod n d
  have hup : Tie.towardZero.goesUp (n / d) = false := rfl
  rw [roundDiv, hup, if_neg Bool.false_ne_true]
  split
  · exact .inl (by omega)
  · split
    · rw [Nat.mul_add, Nat.mul_one]
      exact .inr (by omega)
    · exact .inl (by omega)

namespace Decimal

variable {a b c : Decimal} {x : ℚ} {place places : ℕ}

/-- **A quotient is rounded at one place.** -/
theorem exists_atPlace_of_div (h : a.div? b = some c) (ha : 0 < a.value) (hb : 0 < b.value) :
    ∃ place, AtPlace (a.value / b.value) place c := by
  rcases div?_cases h ha hb with hexact | ⟨n, d, quotient, hd, hratio, hnearest, rfl⟩
  · exact ⟨maxScale, hexact ▸ atPlace_self c⟩
  · have hplace := hnearest.atPlace hd
    rw [Int.cast_natCast, ← hratio] at hplace
    refine ⟨quotient.scale, fun b hvalue => hplace.scale_le b ?_, ?_⟩
    · rw [hvalue, value_trim]
    · rw [value_trim]
      exact hplace.close

variable (hplaces : places ≤ maxScale)

/-- A half that goes toward zero leaves at least one of the last place to half a unit. -/
theorem value_toPlaces_towardZero_cases (ha : 0 ≤ a.value) (hcut : places < a.scale) :
    (a.toPlaces .towardZero places hplaces).value ≤ a.value ∨
      (a.toPlaces .towardZero places hplaces).value + unit a.scale ≤ a.value + unit places / 2 := by
  obtain ⟨n, hn⟩ := Int.eq_ofNat_of_zero_le (coefficient_nonneg ha)
  have hd : 0 < 10 ^ (a.scale - places) := by positivity
  have heven : 10 ^ (a.scale - places) % 2 = 0 := by
    rw [← Nat.sub_add_cancel (Nat.sub_pos_of_lt hcut), pow_succ]
    omega
  have hround := roundDiv_towardZero_cases n heven
  -- all of it in units of the last place
  have hvalue : a.value = n * unit a.scale := by
    rw [value, unit, hn, Int.cast_natCast, mul_one_div]
  have hunit : unit places = (10 ^ (a.scale - places) : ℕ) * unit a.scale := by
    rw [unit, unit, ← Nat.sub_add_cancel hcut.le, pow_add, Nat.add_sub_cancel]
    push_cast
    field_simp
  have hresult : (a.toPlaces .towardZero places hplaces).value =
      (10 ^ (a.scale - places) * roundDiv .towardZero n (10 ^ (a.scale - places)) : ℕ) *
        unit a.scale := by
    rw [toPlaces, value_padZeros, value, scale_roundTo_of_lt _ hplaces hcut,
      coefficient_roundTo_of_lt _ hplaces hcut, hn, roundRatio_natCast _ n hd, Int.cast_natCast,
      ← mul_one_div, ← unit, hunit]
    push_cast
    ring
  have hpos := unit_pos a.scale
  rw [hresult, hvalue, hunit]
  generalize 10 ^ (a.scale - places) * roundDiv .towardZero n (10 ^ (a.scale - places)) = r at hround
  generalize 10 ^ (a.scale - places) = d at hround
  rcases hround with hdown | hup
  · have hdown' : (r : ℚ) ≤ n := by exact_mod_cast hdown
    exact .inl (mul_le_mul_of_nonneg_right hdown' hpos.le)
  · have hup' : 2 * (r : ℚ) + 2 ≤ 2 * n + d := by exact_mod_cast hup
    exact .inr (by linarith [mul_le_mul_of_nonneg_right hup' hpos.le])

/-- A half that goes toward zero makes up for the rounding before: the result is at most half a unit
above the exact number. -/
theorem AtPlace.value_toPlaces_sub_le (h : AtPlace x place c) (hc : 0 ≤ c.value) :
    (c.toPlaces .towardZero places hplaces).value - x ≤
      unit (c.toPlaces .towardZero places hplaces).scale / 2 := by
  have hclose := (abs_le.mp h.close).2
  by_cases hcut : places < c.scale
  · have hfine := unit_le_unit (h.scale_le c rfl)
    have hcoarse := unit_le_unit hcut.le
    have hpos := unit_pos place
    rw [scale_toPlaces_of_lt .towardZero hplaces hcut]
    rcases value_toPlaces_towardZero_cases hplaces hc hcut with hdown | hup
    · linarith
    · linarith
  · have hsame := value_toPlaces_of_scale_le .towardZero hplaces (Nat.le_of_not_lt hcut)
    have hfine := unit_le_unit (h.scale_le _ hsame)
    rw [hsame]
    linarith

end Decimal

end ScalpBot
