import ScalpBot.Proofs.Decimal.HalfUp
import ScalpBot.Proofs.Strategy.Overflow
import ScalpBot.Proofs.Strategy.Sizing

/-!
# Asking is exact, and half of the time too little

An ask is the buy price marked up by the margin and both fee rates, and rounded half up to eight places.
For a price and rates as they are quoted the sums and the product before have room for all their digits,
so the ask is the marked-up price rounded once (`Pricing.ask_exact`).

Half up is not up. What the marked-up price has beyond the eighth place is taken away where it is less
than a half of it, and the ask is below the marked-up price then. `Pricing.covers_iff` says where it is
not, for all prices and rates: where the product is rounded up, or has nothing to round and had not been
rounded down before.
-/

namespace ScalpBot

namespace Pricing

variable {buyPrice margin buyFee sellFee ask : Decimal}

/-! ## Quoted rates -/

/-- The most places of a quoted rate. -/
abbrev rateScale : Nat := 10

/-- **A rate as it is quoted**: from zero to one, and with at most ten places. -/
structure Rate (a : Decimal) : Prop where
  nonneg : 0 ≤ a.value
  le_one : a.value ≤ 1
  scale_le : a.scale ≤ rateScale

/-- **The product of a quoted price and quoted rates is exact.**  It has at most eighteen places, and
room for all its digits. -/
theorem exists_product (hprice : Quoted buyPrice) (hmargin : Rate margin) (hbuy : Rate buyFee)
    (hsell : Rate sellFee) :
    ∃ markup product, Decimal.addAll .one [margin, buyFee, sellFee] = .ok markup ∧
      buyPrice.mul markup = .ok product ∧
      product.value = markedUp buyPrice margin buyFee sellFee ∧
      0 ≤ product.value ∧ product.value ≤ 4 * 10 ^ 10 := by
  obtain ⟨markup, hmarkup, hpos, hvalue⟩ := exists_markup hmargin.nonneg hbuy.nonneg hsell.nonneg
    (by linarith [hmargin.le_one, hbuy.le_one, hsell.le_one])
  have hscale : markup.scale ≤ rateScale :=
    Decimal.scale_addAll_le hmarkup (Nat.zero_le _)
      (by simp [hmargin.scale_le, hbuy.scale_le, hsell.scale_le])
  have hplaces : buyPrice.scale + markup.scale ≤ 18 := Nat.add_le_add hprice.scale_le hscale
  have hfour : markup.value ≤ 4 := by
    linarith [hmargin.le_one, hbuy.le_one, hsell.le_one]
  have hnonneg : 0 ≤ buyPrice.value * markup.value := mul_nonneg hprice.pos.le hpos.le
  have hsmall : buyPrice.value * markup.value ≤ 4 * 10 ^ 10 := by
    calc buyPrice.value * markup.value ≤ 10 ^ 10 * 4 :=
          mul_le_mul hprice.lt.le hfour hpos.le (by norm_num)
      _ = 4 * 10 ^ 10 := mul_comm ..
  have hdigits : |buyPrice.value * markup.value| * 10 ^ (buyPrice.scale + markup.scale) ≤
      Decimal.maxCoefficient := by
    have hpow : (10 : ℚ) ^ (buyPrice.scale + markup.scale) ≤ 10 ^ 18 :=
      pow_le_pow_right₀ (by norm_num) hplaces
    rw [abs_of_nonneg hnonneg]
    exact (mul_le_mul hsmall hpow (by positivity) (by norm_num)).trans
      (by norm_num [Decimal.maxCoefficient])
  cases hproduct : buyPrice.mul markup with
  | error cause =>
    have hle : |buyPrice.value * markup.value| ≤ Decimal.maxCoefficient := by
      rw [abs_of_nonneg hnonneg]
      exact hsmall.trans (by norm_num [Decimal.maxCoefficient])
    exact absurd (Decimal.mul_eq_error_iff.mp hproduct).2 (Decimal.not_tooLarge_of_le hle)
  | ok product =>
    have hexact := Decimal.value_mul_of_le hproduct (hplaces.trans (by decide)) hdigits
    refine ⟨markup, product, hmarkup, hproduct, ?_, hexact ▸ hnonneg, hexact ▸ hsmall⟩
    rw [hexact, hvalue, markedUp]

/-- An ask is its product at eight places. -/
theorem askFromBuy_of_product {markup product : Decimal}
    (hmarkup : Decimal.addAll .one [margin, buyFee, sellFee] = .ok markup)
    (hproduct : buyPrice.mul markup = .ok product) :
    askFromBuy buyPrice margin buyFee sellFee = .ok (toPriceScale .awayFromZero product) :=
  askFromBuy_eq_ok_iff.mpr ⟨markup, product, hmarkup, hproduct, rfl⟩

/-- **Asking is exact.**  A price and rates as they are quoted have an ask. It has eight places, and it is
the marked-up price, rounded once with a half away from zero. -/
theorem ask_exact (hprice : Quoted buyPrice) (hmargin : Rate margin) (hbuy : Rate buyFee)
    (hsell : Rate sellFee) :
    ∃ ask, askFromBuy buyPrice margin buyFee sellFee = .ok ask ∧ ask.scale = priceScale ∧
      Rounded .awayFromZero priceScale (markedUp buyPrice margin buyFee sellFee) ask.value := by
  obtain ⟨markup, product, hmarkup, hproduct, hvalue, hnonneg, hsmall⟩ :=
    exists_product hprice hmargin hbuy hsell
  have hrounded := Decimal.rounded_toPlaces .awayFromZero priceScale_le product
  refine ⟨_, askFromBuy_of_product hmarkup hproduct, ?_, hvalue ▸ hrounded⟩
  obtain ⟨hlow, hhigh⟩ := abs_le.mp hrounded.near
  have hunit := Decimal.unit_le_one priceScale
  refine Decimal.scale_toPlaces_of_le .awayFromZero priceScale_le ?_
  have habs : |(product.toPlaces .awayFromZero priceScale priceScale_le).value| ≤ 5 * 10 ^ 10 :=
    abs_le.mpr ⟨by linarith, by linarith⟩
  exact (mul_le_mul_of_nonneg_right habs (by positivity)).trans
    (by norm_num [Decimal.maxCoefficient])

/-- A half. -/
def half : Decimal := { coefficient := 5, scale := 1 }

theorem quoted_units_one : Quoted (units 1) := by
  constructor <;> norm_num [units, Decimal.value]

theorem rate_half : Rate half := by
  constructor <;> norm_num [half, Decimal.value]

theorem rate_zero : Rate Decimal.zero := by
  constructor <;> norm_num [Decimal.zero, Decimal.value]

/-- One unit with a half of it is in the middle, which goes away from zero. -/
theorem ask_exact_sample :
    Quoted (units 1) ∧ Rate half ∧ Rate Decimal.zero ∧
      askFromBuy (units 1) half .zero .zero = .ok (units 2) ∧ (units 2).scale = priceScale ∧
      Rounded .awayFromZero priceScale (markedUp (units 1) half .zero .zero) (units 2).value := by
  have htwo : askFromBuy (units 1) half .zero .zero = .ok (units 2) := by rfl
  obtain ⟨ask, hask, hscale, hrounded⟩ := ask_exact quoted_units_one rate_half rate_zero rate_zero
  obtain rfl := Except.ok.inj (htwo.symm.trans hask)
  exact ⟨quoted_units_one, rate_half, rate_zero, htwo, hscale, hrounded⟩

/-! ## Whether an ask covers the marked-up price -/

/-- **Whether an ask covers the marked-up price.**  The sums and the product before may have been rounded,
too: the ask covers the marked-up price where rounding to eight places adds to the product at least what
it is short. With rates of at most six together it does so if and only if the product has half a unit or
more beyond the eighth place, or has nothing there and is not short itself. With a price and rates as they
are quoted nothing has been rounded before, and an ask that is short is so by less than half a unit. -/
theorem covers_iff (hprice : 0 < buyPrice.value) (hmargin : 0 ≤ margin.value)
    (hbuy : 0 ≤ buyFee.value) (hsell : 0 ≤ sellFee.value)
    (h : askFromBuy buyPrice margin buyFee sellFee = .ok ask) :
    ∃ markup product, Decimal.addAll .one [margin, buyFee, sellFee] = .ok markup ∧
      buyPrice.mul markup = .ok product ∧
      (markedUp buyPrice margin buyFee sellFee ≤ ask.value ↔
        markedUp buyPrice margin buyFee sellFee - product.value ≤
          Decimal.gain priceScale product.value) ∧
      (margin.value + buyFee.value + sellFee.value ≤ 6 →
        (markedUp buyPrice margin buyFee sellFee ≤ ask.value ↔
          1 / 2 ≤ Decimal.rest priceScale product.value ∨
            Decimal.rest priceScale product.value = 0 ∧
              markedUp buyPrice margin buyFee sellFee ≤ product.value)) ∧
      (Quoted buyPrice → Rate margin → Rate buyFee → Rate sellFee →
        (markedUp buyPrice margin buyFee sellFee ≤ ask.value ↔
          Decimal.rest priceScale (markedUp buyPrice margin buyFee sellFee) = 0 ∨
            1 / 2 ≤ Decimal.rest priceScale (markedUp buyPrice margin buyFee sellFee)) ∧
        markedUp buyPrice margin buyFee sellFee - ask.value < Decimal.unit priceScale / 2) := by
  rw [askFromBuy_eq] at h
  obtain ⟨markup, hmarkup, h⟩ := bind_eq_ok_iff.mp h
  obtain ⟨product, hproduct, h⟩ := bind_eq_ok_iff.mp h
  obtain rfl := Except.ok.inj h
  have hmarkupNonneg := Decimal.value_addAll_nonneg hmarkup (by simp) (by simp [hmargin, hbuy, hsell])
  have hnonneg := Decimal.value_mul_nonneg hproduct hprice.le hmarkupNonneg
  have hask := Decimal.value_toPlaces_awayFromZero priceScale_le hnonneg
  refine ⟨markup, product, hmarkup, hproduct, ?_, fun hsmall => ?_,
    fun hprice' hmargin' hbuy' hsell' => ?_⟩
  · rw [toPriceScale, hask]
    constructor <;> intro hle <;> linarith
  · obtain ⟨markup', hmarkup', hpos, hvalue⟩ := exists_markup hmargin hbuy hsell hsmall
    obtain rfl := Except.ok.inj (hmarkup.symm.trans hmarkup')
    obtain ⟨place, hplace⟩ := Decimal.exists_atPlace_of_mul hproduct
      (Decimal.isZero_eq_false hprice) (Decimal.isZero_eq_false hpos)
    rw [hvalue] at hplace
    exact hplace.le_toPlaces_iff priceScale_le hnonneg
  · obtain ⟨markup', product', hmarkup', hproduct', hvalue, -, -⟩ :=
      exists_product hprice' hmargin' hbuy' hsell'
    obtain rfl := Except.ok.inj (hmarkup.symm.trans hmarkup')
    obtain rfl := Except.ok.inj (hproduct.symm.trans hproduct')
    rw [toPriceScale, hask, hvalue]
    have hloss := Decimal.neg_gain_lt priceScale (markedUp buyPrice margin buyFee sellFee)
    rw [← Decimal.gain_nonneg_iff]
    exact ⟨by constructor <;> intro hle <;> linarith, by linarith⟩

/-- In the middle it does. -/
theorem covers_sample :
    0 < (units 1).value ∧ 0 ≤ half.value ∧ 0 ≤ Decimal.zero.value ∧
      ∃ ask, askFromBuy (units 1) half .zero .zero = .ok ask ∧
        Decimal.rest priceScale (markedUp (units 1) half .zero .zero) = 1 / 2 ∧
        markedUp (units 1) half .zero .zero ≤ ask.value := by
  have hask : askFromBuy (units 1) half .zero .zero = .ok (units 2) := by rfl
  have hrest : Decimal.rest priceScale (markedUp (units 1) half .zero .zero) = 1 / 2 := by
    norm_num [Decimal.rest, markedUp, Decimal.unit, Decimal.value, units, half, Decimal.zero,
      Int.fract_eq_iff]
  obtain ⟨_, _, -, -, -, -, hcovers⟩ := covers_iff quoted_units_one.pos rate_half.nonneg
    rate_zero.nonneg rate_zero.nonneg hask
  have hiff := (hcovers quoted_units_one rate_half rate_zero rate_zero).1
  exact ⟨quoted_units_one.pos, rate_half.nonneg, rate_zero.nonneg, units 2, hask, hrest,
    hiff.mpr (.inr hrest.ge)⟩

/-- A price of 0.00490001. -/
def oddPrice : Decimal := ⟨490001, 8, by decide, priceScale_le⟩

/-- With the margin and fees of a fifth of a percent it is marked up to 0.00496861014, and the ask is
0.00496861. -/
theorem ask_short_sample :
    0 < oddPrice.value ∧ 0 ≤ profitMargin.value ∧ 0 ≤ sampleFee.value ∧
      ∃ ask, askFromBuy oddPrice profitMargin sampleFee sampleFee = .ok ask ∧
        ask.coefficient = 496861 ∧ ask.scale = 8 ∧
        ¬ markedUp oddPrice profitMargin sampleFee sampleFee ≤ ask.value := by
  let ask : Decimal := { coefficient := 496861, scale := 8 }
  have hask : askFromBuy oddPrice profitMargin sampleFee sampleFee = .ok ask := by rfl
  refine ⟨?_, ?_, ?_, ask, hask, rfl, rfl, ?_⟩
  all_goals norm_num [Decimal.value, markedUp, oddPrice, profitMargin, sampleFee, ask]

end Pricing

end ScalpBot
