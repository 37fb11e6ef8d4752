import ScalpBot.Proofs.Decimal.Value
import ScalpBot.Proofs.Result
import ScalpBot.Strategy.Pricing

/-!
# What a round trip earns

Something is bought and sold again at the ask for its price. Both trades cost a fee, and each fee is a
part of the value that is traded: the fee of the sale is charged on the ask. The ask, however, adds
both rates to the price that was paid (`Pricing.markedUp`). So it covers the fee of the sale on that
price only, and not the fee on the markup itself.

`Pricing.keepsMargin_iff` says what this comes to: the margin is kept exactly where rounding the ask
adds as much as the sale costs on the markup, and that is hardly ever so.
-/

namespace ScalpBot.Pricing

variable {buyPrice margin buyFee sellFee ask : Decimal}

/-- What a sale at the ask brings in after its fee, less what the purchase cost with its fee. -/
def earned (buyPrice buyFee ask sellFee : Decimal) : ℚ :=
  ask.value * (1 - sellFee.value) - buyPrice.value * (1 + buyFee.value)

/-- The buy price with the margin and both fee rates as parts of it: the ask before it is rounded. -/
def markedUp (buyPrice margin buyFee sellFee : Decimal) : ℚ :=
  buyPrice.value * (1 + margin.value + buyFee.value + sellFee.value)

theorem value_profitMargin : profitMargin.value = 1 / 100 := by
  norm_num [Decimal.value, profitMargin]

/-- An ask is a product with the sum of one, the margin and both fees. -/
theorem askFromBuy_eq_ok (h : askFromBuy buyPrice margin buyFee sellFee = .ok ask) :
    ∃ first second markup product, Decimal.one.add margin = .ok first ∧
      first.add buyFee = .ok second ∧ second.add sellFee = .ok markup ∧
      buyPrice.mul markup = .ok product ∧ ask = toPriceScale .awayFromZero product := by
  obtain ⟨first, hfirst, h⟩ := bind_eq_ok_iff.mp h
  obtain ⟨second, hsecond, h⟩ := bind_eq_ok_iff.mp h
  obtain ⟨markup, hmarkup, h⟩ := bind_eq_ok_iff.mp h
  obtain ⟨product, hproduct, h⟩ := bind_eq_ok_iff.mp h
  exact ⟨first, second, markup, product, hfirst, hsecond, hmarkup, hproduct,
    (Except.ok.inj h).symm⟩

/-- **The ask is the marked-up price**, up to hardly more than half a unit of its last place. -/
theorem abs_ask_sub_markedUp_le (h : askFromBuy buyPrice margin buyFee sellFee = .ok ask)
    (hprice : 0 < buyPrice.value) (hmargin : 0 ≤ margin.value) (hbuy : 0 ≤ buyFee.value)
    (hsell : 0 ≤ sellFee.value)
    (hsmall : 1 + margin.value + buyFee.value + sellFee.value ≤ 7) :
    |ask.value - markedUp buyPrice margin buyFee sellFee| ≤ 11 / 20 * Decimal.unit ask.scale := by
  obtain ⟨first, second, markup, product, hfirst, hsecond, hmarkup, hproduct, rfl⟩ :=
    askFromBuy_eq_ok h
  -- the sums are exact
  have hone := Decimal.value_one
  have hvalueFirst := Decimal.value_add_of_le_seven hfirst (by linarith) hmargin (by linarith)
  have hvalueSecond := Decimal.value_add_of_le_seven hsecond (by linarith) hbuy (by linarith)
  have hvalueMarkup := Decimal.value_add_of_le_seven hmarkup (by linarith) hsell (by linarith)
  have hvalue : markup.value = 1 + margin.value + buyFee.value + sellFee.value := by
    rw [hvalueMarkup, hvalueSecond, hvalueFirst, hone]
  have hmarkupPos : 0 < markup.value := by linarith
  have hplaces : priceScale ≤ Decimal.maxScale := by decide
  obtain ⟨place, hplace⟩ := Decimal.exists_atPlace_of_mul hproduct
    (Decimal.isZero_eq_false hprice) (Decimal.isZero_eq_false hmarkupPos)
  rw [hvalue] at hplace
  exact hplace.abs_value_toPlaces_sub_le .awayFromZero hplaces

/-- What a round trip earns over the margin: what rounding adds to the ask, less its fee, and less what
the sale costs on the markup. -/
theorem earned_sub_margin (buyPrice margin buyFee sellFee ask : Decimal) :
    earned buyPrice buyFee ask sellFee - margin.value * buyPrice.value =
      (1 - sellFee.value) * (ask.value - markedUp buyPrice margin buyFee sellFee) -
        sellFee.value * (markedUp buyPrice margin buyFee sellFee - buyPrice.value) := by
  unfold earned markedUp
  ring

/-- **Whether a round trip keeps the margin.**  The ask for a positive price and fee rates below one is
the marked-up price, off by at most eleven twentieths of a unit of its last place. The margin is kept
if and only if what rounding has added, after its fee, is at least the fee of the sale on the markup.
So it is missed wherever that fee is more than rounding can add. -/
theorem keepsMargin_iff (hprice : buyPrice.isPositive = true)
    (hbuy : 0 ≤ buyFee.value ∧ buyFee.value < 1) (hsell : 0 ≤ sellFee.value ∧ sellFee.value < 1)
    (h : askFromBuy buyPrice profitMargin buyFee sellFee = .ok ask) :
    |ask.value - markedUp buyPrice profitMargin buyFee sellFee| ≤
      11 / 20 * Decimal.unit ask.scale ∧
    (profitMargin.value * buyPrice.value ≤ earned buyPrice buyFee ask sellFee ↔
      sellFee.value * (markedUp buyPrice profitMargin buyFee sellFee - buyPrice.value) ≤
        (1 - sellFee.value) * (ask.value - markedUp buyPrice profitMargin buyFee sellFee)) ∧
    ((1 - sellFee.value) * (11 / 20 * Decimal.unit ask.scale) <
        sellFee.value * (markedUp buyPrice profitMargin buyFee sellFee - buyPrice.value) →
      earned buyPrice buyFee ask sellFee < profitMargin.value * buyPrice.value) := by
  have hmargin := value_profitMargin
  have hclose := abs_ask_sub_markedUp_le h (Decimal.value_pos_iff.mpr hprice) (by linarith) hbuy.1
    hsell.1 (by linarith [hbuy.2, hsell.2])
  have hearned := earned_sub_margin buyPrice profitMargin buyFee sellFee ask
  refine ⟨hclose, ?_, fun hfee => ?_⟩
  · rw [← sub_nonneg, hearned, sub_nonneg]
  · have hgain : (1 - sellFee.value) * (ask.value - markedUp buyPrice profitMargin buyFee sellFee) ≤
        (1 - sellFee.value) * (11 / 20 * Decimal.unit ask.scale) :=
      mul_le_mul_of_nonneg_left ((le_abs_self _).trans hclose) (by linarith [hsell.2])
    linarith

/-! ## Two round trips -/

/-- A price of 0.0049. -/
def samplePrice : Decimal := { coefficient := 49, scale := 4 }

/-- A fee of a fifth of a percent. -/
def sampleFee : Decimal := { coefficient := 2, scale := 3 }

theorem sampleFee_mem : 0 ≤ sampleFee.value ∧ sampleFee.value < 1 := by
  norm_num [Decimal.value, sampleFee]

/-- Without a fee on the sale the margin is kept where the ask is not rounded down. -/
theorem keepsMargin_sample :
    samplePrice.isPositive = true ∧ (0 ≤ sampleFee.value ∧ sampleFee.value < 1) ∧
    (0 ≤ Decimal.zero.value ∧ Decimal.zero.value < 1) ∧
    ∃ ask, askFromBuy samplePrice profitMargin sampleFee .zero = .ok ask ∧
      ask.coefficient = 495880 ∧ ask.scale = 8 ∧
      profitMargin.value * samplePrice.value ≤ earned samplePrice sampleFee ask .zero := by
  have hzero : 0 ≤ Decimal.zero.value ∧ Decimal.zero.value < 1 := by simp
  let ask : Decimal := { coefficient := 495880, scale := 8 }
  have hask : askFromBuy samplePrice profitMargin sampleFee .zero = .ok ask := by rfl
  refine ⟨rfl, sampleFee_mem, hzero, ask, hask, rfl, rfl, ?_⟩
  refine (keepsMargin_iff rfl sampleFee_mem hzero hask).2.1.mpr ?_
  norm_num [Decimal.value, markedUp, profitMargin, samplePrice, sampleFee, ask, Decimal.zero]

/-- With the same fee on both sides it is missed. -/
theorem margin_missed_sample :
    samplePrice.isPositive = true ∧ (0 ≤ sampleFee.value ∧ sampleFee.value < 1) ∧
    ∃ ask, askFromBuy samplePrice profitMargin sampleFee sampleFee = .ok ask ∧
      ask.coefficient = 496860 ∧ ask.scale = 8 ∧
      ¬ profitMargin.value * samplePrice.value ≤ earned samplePrice sampleFee ask sampleFee := by
  let ask : Decimal := { coefficient := 496860, scale := 8 }
  have hask : askFromBuy samplePrice profitMargin sampleFee sampleFee = .ok ask := by rfl
  refine ⟨rfl, sampleFee_mem, ask, hask, rfl, rfl, ?_⟩
  norm_num [Decimal.value, earned, profitMargin, samplePrice, sampleFee, ask]

end ScalpBot.Pricing
