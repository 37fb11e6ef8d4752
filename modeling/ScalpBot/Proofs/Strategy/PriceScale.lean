import Mathlib.Order.Bounds.Basic
import ScalpBot.Proofs.Decimal.Monotone
import ScalpBot.Proofs.Strategy.Pricing

/-!
# Eight places

Prices and quantities are brought to eight places: what stands beyond them is rounded away, and zeros are
added where places are missing. A large number has no room for the zeros, and keeps the most places that
its digits leave room for. `Decimal.AtScale` says both of a result, for any number of places: the value is
rounded, and the scale is the greatest with which the value can be written.

There is one such result (`Decimal.AtScale.unique`), so `Pricing.toPriceScale` is told by it in full
(`Pricing.toPriceScale_eq_iff`), and a second time it changes nothing.
-/

namespace ScalpBot

variable {tie : Tie} {places : ℕ} {x r t : ℚ}

/-- There is one way to round a number. -/
theorem Rounded.unique (h : Rounded tie places x r) (h' : Rounded tie places x t) : r = t :=
  le_antisymm (h.le h' le_rfl) (h'.le h le_rfl)

/-- A multiple of the unit is rounded already. -/
theorem rounded_multiple (tie : Tie) (places : ℕ) (k : ℤ) :
    Rounded tie places (k * Decimal.unit places) (k * Decimal.unit places) := by
  have hunit := Decimal.unit_pos places
  refine ⟨by rw [sub_self, abs_zero]; positivity, k, rfl, fun hhalf => ?_⟩
  rw [sub_self, abs_zero] at hhalf
  linarith

/-- What was rounded stays as it is. -/
theorem Rounded.again (h : Rounded tie places x r) : Rounded tie places r r := by
  obtain ⟨-, k, rfl, -⟩ := h
  exact rounded_multiple tie places k

namespace Decimal

variable {a b c : Decimal}

/-- A number can be written with so many places: its digits are an integer, and they fit. -/
def WrittenWith (x : ℚ) (places : ℕ) : Prop :=
  ∃ digits : ℤ, digits.natAbs ≤ maxCoefficient ∧ x * 10 ^ places = digits

theorem value_mul_pow (a : Decimal) : a.value * 10 ^ a.scale = a.coefficient := by
  rw [value, div_mul_cancel₀ _ (by positivity)]

theorem writtenWith_scale (a : Decimal) : WrittenWith a.value a.scale :=
  ⟨a.coefficient, a.coefficient_le, a.value_mul_pow⟩

theorem writtenWith_zero (places : ℕ) : WrittenWith 0 places :=
  ⟨0, Nat.zero_le _, by rw [zero_mul, Int.cast_zero]⟩

/-- What can be written so is a decimal with so many places. -/
theorem WrittenWith.exists_decimal (h : WrittenWith x places) (hplaces : places ≤ maxScale) :
    ∃ b : Decimal, b.value = x ∧ b.scale = places := by
  obtain ⟨digits, hfits, hdigits⟩ := h
  refine ⟨⟨digits, places, hfits, hplaces⟩, ?_, rfl⟩
  rw [value, ← hdigits, mul_div_cancel_right₀ _ (by positivity)]

/-- **A decimal is its value and its scale.** -/
theorem eq_of_value_eq (hvalue : a.value = b.value) (hscale : a.scale = b.scale) : a = b := by
  have hdigits : (a.coefficient : ℚ) = b.coefficient := by
    rw [← value_mul_pow, ← value_mul_pow, hvalue, hscale]
  obtain ⟨ca, sa, _, _⟩ := a
  obtain ⟨cb, sb, _, _⟩ := b
  obtain rfl : ca = cb := by exact_mod_cast hdigits
  obtain rfl : sa = sb := hscale
  rfl

/-- **A decimal brought to so many places**: its value is rounded to them, and of these places it has as
many as its value can be written with. -/
structure AtScale (tie : Tie) (places : ℕ) (a c : Decimal) : Prop where
  rounded : Rounded tie places a.value c.value
  scale : IsGreatest {s | s ≤ places ∧ WrittenWith c.value s} c.scale

/-- **What `toPlaces` comes to.** -/
theorem atScale_toPlaces (tie : Tie) (hplaces : places ≤ maxScale) (a : Decimal) :
    AtScale tie places a (a.toPlaces tie places hplaces) where
  rounded := rounded_toPlaces tie hplaces a
  scale := by
    rcases scale_toPlaces_or_full tie hplaces a with hall | ⟨hless, hfull⟩
    · exact ⟨⟨hall.le, writtenWith_scale _⟩, fun s hs => hs.1.trans hall.ge⟩
    · refine ⟨⟨hless.le, writtenWith_scale _⟩, fun s hs => ?_⟩
      -- with another digit the coefficient would be too large
      obtain ⟨b, hvalue, rfl⟩ := hs.2.exists_decimal (hs.1.trans hplaces)
      exact scale_le_of_full hfull hvalue

theorem AtScale.unique (h : AtScale tie places a b) (h' : AtScale tie places a c) : b = c := by
  have hvalue := h.rounded.unique h'.rounded
  exact eq_of_value_eq hvalue (h.scale.unique (hvalue ▸ h'.scale))

/-- Brought there once more, it is the same. -/
theorem AtScale.again (h : AtScale tie places a c) : AtScale tie places c c :=
  ⟨h.rounded.again, h.scale⟩

/-- What can be written with all the places has them. -/
theorem AtScale.scale_eq (h : AtScale tie places a c) (hroom : WrittenWith c.value places) :
    c.scale = places :=
  le_antisymm h.scale.1.1 (h.scale.2 ⟨le_rfl, hroom⟩)

/-- What has nothing beyond the places keeps its value. -/
theorem AtScale.value_eq (h : AtScale tie places a c) {k : ℤ} (hk : a.value * 10 ^ places = k) :
    c.value = a.value := by
  have hmultiple : a.value = k * unit places := by
    rw [← hk, unit, mul_one_div, mul_div_cancel_right₀ _ (by positivity)]
  have hrounded := h.rounded
  rw [hmultiple] at hrounded ⊢
  exact hrounded.unique (rounded_multiple tie places k)

end Decimal

namespace Pricing

open Decimal

theorem atScale_toPriceScale (tie : Tie) (v : Decimal) :
    AtScale tie priceScale v (toPriceScale tie v) := atScale_toPlaces tie priceScale_le v

/-- **A price or a quantity at eight places** is the one decimal that is brought to them. -/
theorem toPriceScale_eq_iff {tie : Tie} {v r : Decimal} :
    toPriceScale tie v = r ↔ AtScale tie priceScale v r :=
  ⟨fun h => h ▸ atScale_toPriceScale tie v, fun h => (atScale_toPriceScale tie v).unique h⟩

/-- **Bringing a decimal to eight places rounds it, and does nothing else.**  There is a result for every
decimal and every tie. Its value is that of `v` where `v` has nothing beyond eight places, and else the
nearest multiple of the eighth, a half going where the tie says; it is settled before zeros are added. Its
scale is the greatest up to eight with which the value can be written: eight where the digits fit then, as
those of zero do. Brought to eight places again, it stays the same. -/
theorem toPriceScale_rounds_only (tie : Tie) (v : Decimal) :
    ((∃ k : ℤ, v.value * 10 ^ priceScale = k) → (toPriceScale tie v).value = v.value) ∧
    Rounded tie priceScale v.value (toPriceScale tie v).value ∧
    (toPriceScale tie v).value = (v.roundTo tie priceScale priceScale_le).value ∧
    IsGreatest {s | s ≤ priceScale ∧ WrittenWith (toPriceScale tie v).value s}
      (toPriceScale tie v).scale ∧
    (WrittenWith (toPriceScale tie v).value priceScale → (toPriceScale tie v).scale = priceScale) ∧
    ((toPriceScale tie v).value = 0 → (toPriceScale tie v).scale = priceScale) ∧
    toPriceScale tie (toPriceScale tie v) = toPriceScale tie v := by
  have h := atScale_toPriceScale tie v
  refine ⟨fun ⟨k, hk⟩ => h.value_eq hk, h.rounded, value_padZeros _ _, h.scale, h.scale_eq, ?_, ?_⟩
  · intro hzero
    exact h.scale_eq (hzero ▸ writtenWith_zero priceScale)
  · exact toPriceScale_eq_iff.mpr h.again

end Pricing

end ScalpBot
