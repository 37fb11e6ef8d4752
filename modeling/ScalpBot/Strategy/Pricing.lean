import ScalpBot.Decimal.Text

/-!
# Pricing

How much of the base currency a budget buys, and at which price it is sold again. The exchange quotes
to eight places, so every result is rounded to eight: a quantity's half goes toward zero, so that it
hardly exceeds the budget, a price's half away from zero.
-/

namespace ScalpBot.Pricing

/-- The places of quantities and prices. -/
abbrev priceScale : Nat := 8

/-- What a round trip is to earn, as a part of the price that was paid. -/
def profitMargin : Decimal := ⟨1, 2, Decimal.one.coefficient_le, by decide⟩

/-- `value` at eight places. -/
def toPriceScale (tie : Tie) (value : Decimal) : Decimal :=
  value.toPlaces tie priceScale (by decide)

/-- Why an order cannot be sized. -/
inductive SizingError where
  /-- The last trade price is zero or less. -/
  | priceNotPositive (price : Decimal)
  /-- The budget buys more than the largest decimal. -/
  | overflows (budget price : Decimal)
deriving DecidableEq

/-- The wording of the cause. -/
def SizingError.message : SizingError → String
  | priceNotPositive price => "Last trade price must be positive, got " ++ price.toText
  | overflows budget price =>
    "Cannot size order: " ++ budget.toText ++ " / " ++ price.toText ++ " overflows"

/-- The quantity that `budget` buys at `price`. -/
def quantityAtPrice (budget price : Decimal) : Except SizingError Decimal :=
  if !price.isPositive then .error (.priceNotPositive price)
  else
    match budget.div? price with
    | some quantity => .ok (toPriceScale .towardZero quantity)
    | none => .error (.overflows budget price)

/-- The price at which something bought at `buyPrice` is sold: the buy price with the margin and both fees on
top, each as a part of the buy price. -/
def askFromBuy (buyPrice margin buyFee sellFee : Decimal) : Except Overflow Decimal := do
  let markup ← (← (← Decimal.one.add margin).add buyFee).add sellFee
  return toPriceScale .awayFromZero (← buyPrice.mul markup)

end ScalpBot.Pricing

namespace ScalpBot

/-- The fees of an exchange, as parts of an order's value. -/
structure FeeSchedule where
  buyRate : Decimal
  sellRate : Decimal
deriving DecidableEq

/-- What a round trip adds to the price: the margin and both fees. -/
def FeeSchedule.totalMarkup (fees : FeeSchedule) (margin : Decimal) : Except Overflow Decimal := do
  (← margin.add fees.buyRate).add fees.sellRate

end ScalpBot
