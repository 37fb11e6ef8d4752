import ScalpBot.Proofs.Decimal.Range
import ScalpBot.Strategy.Pricing

/-!
# What pricing comes to

A quantity and an ask come about in few steps, of which one or two can fail. What a quantity was made of,
and why there is none, is told by `Pricing.quantityAtPrice_eq_ok_iff` and
`Pricing.quantityAtPrice_eq_error_iff`; an ask is its markup, a sum of many terms, times the price
(`Pricing.askFromBuy_eq_ok_iff`).
-/

namespace ScalpBot.Pricing

variable {budget price quantity margin buyFee sellFee ask : Decimal}

theorem priceScale_le : priceScale ≤ Decimal.maxScale := by decide

/-! ## Quantities -/

theorem isPositive_eq_false_iff : price.isPositive = false ↔ price.value ≤ 0 := by
  rw [← not_lt, Decimal.value_pos_iff, Bool.not_eq_true]

/-- **A quantity** is a quotient at eight places, for a positive price. -/
theorem quantityAtPrice_eq_ok_iff : quantityAtPrice budget price = .ok quantity ↔
    0 < price.value ∧ ∃ quotient, budget.div? price = some quotient ∧
      toPriceScale .towardZero quotient = quantity := by
  rw [quantityAtPrice, Decimal.value_pos_iff]
  cases price.isPositive with
  | false => simp
  | true => cases budget.div? price <;> simp

/-- **There is no quantity** for a price that is not positive, and none for a quotient that is missing. -/
theorem quantityAtPrice_eq_error_iff {cause : SizingError} :
    quantityAtPrice budget price = .error cause ↔
      price.value ≤ 0 ∧ cause = .priceNotPositive price ∨
        0 < price.value ∧ budget.div? price = none ∧ cause = .overflows budget price := by
  rw [quantityAtPrice, Decimal.value_pos_iff, ← isPositive_eq_false_iff]
  cases price.isPositive with
  | false => simp [eq_comm]
  | true => cases budget.div? price <;> simp [eq_comm]

/-! ## Asks -/

/-- An ask adds up its markup term by term. -/
theorem askFromBuy_eq (price margin buyRate sellRate : Decimal) :
    askFromBuy price margin buyRate sellRate =
      Decimal.addAll .one [margin, buyRate, sellRate] >>= fun markup =>
        price.mul markup >>= fun product => .ok (toPriceScale .awayFromZero product) := by
  simp [askFromBuy, Decimal.addAll]
  rfl

/-- **An ask** is the price times its markup at eight places. -/
theorem askFromBuy_eq_ok_iff : askFromBuy price margin buyFee sellFee = .ok ask ↔
    ∃ markup product, Decimal.addAll .one [margin, buyFee, sellFee] = .ok markup ∧
      price.mul markup = .ok product ∧ toPriceScale .awayFromZero product = ask := by
  rw [askFromBuy_eq, bind_eq_ok_iff]
  simp only [bind_eq_ok_iff, Except.ok.injEq, exists_and_left]

end ScalpBot.Pricing
