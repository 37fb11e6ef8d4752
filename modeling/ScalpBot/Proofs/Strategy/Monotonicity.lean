import ScalpBot.Proofs.Decimal.Monotone
import ScalpBot.Proofs.Strategy.Asking

/-!
# Quantities and asks keep the order

More money or a lower price never buys less (`Pricing.quantity_mono`), and neither a higher price nor a
higher rate ever lowers an ask (`Pricing.ask_mono`). This is so for decimals of any size and with any
places, although every step on the way is rounded at a place that depends on the size of its result.

What cannot be computed is on the upper side: where a quantity or an ask comes about, every smaller one
does.
-/

namespace ScalpBot.Pricing

variable {budget budget' price price' buyPrice buyPrice' margin margin' buyFee buyFee' sellFee sellFee'
  ask' : Decimal}

/-- **More money or a lower price never buys less.**  If the larger quantity comes about then so does the
smaller one, and it is no larger. If the smaller one overflows then so does the larger one. -/
theorem quantity_mono (hbudget : 0 ≤ budget.value) (hmore : budget.value ≤ budget'.value)
    (hprice : 0 < price'.value) (hless : price'.value ≤ price.value) :
    (∀ quantity', quantityAtPrice budget' price' = .ok quantity' →
      ∃ quantity, quantityAtPrice budget price = .ok quantity ∧ quantity.value ≤ quantity'.value) ∧
    (quantityAtPrice budget price = .error (.overflows budget price) →
      quantityAtPrice budget' price' = .error (.overflows budget' price')) := by
  have hpos := hprice.trans_le hless
  constructor
  · intro quantity' h
    obtain ⟨-, quotient', hquotient', rfl⟩ := quantityAtPrice_eq_ok_iff.mp h
    obtain ⟨quotient, hquotient, hle⟩ := Decimal.div?_mono hquotient' hbudget hprice hmore hless
    exact ⟨_, quantityAtPrice_eq_ok_iff.mpr ⟨hpos, quotient, hquotient, rfl⟩,
      Decimal.toPlaces_mono .towardZero priceScale_le hle⟩
  · intro h
    have hnone : budget.div? price = none := by
      rcases quantityAtPrice_eq_error_iff.mp h with ⟨-, hcause⟩ | ⟨-, hnone, -⟩
      · cases hcause
      · exact hnone
    refine quantityAtPrice_eq_error_iff.mpr (.inr ⟨hprice, ?_, rfl⟩)
    cases hquotient' : budget'.div? price' with
    | none => rfl
    | some quotient' =>
      obtain ⟨quotient, hquotient, -⟩ := Decimal.div?_mono hquotient' hbudget hprice hmore hless
      cases hnone.symm.trans hquotient

/-- Three. -/
def three : Decimal := ⟨3, 0, Nat.le_of_ble_eq_true rfl, Nat.zero_le _⟩

/-- Two thirds as a quantity. -/
def twoThirds : Decimal := ⟨66666667, 8, by decide, priceScale_le⟩

/-- Half of the largest decimal, rounded to the even whole number. -/
def halfOfLargest : Decimal :=
  ⟨39614081257132168796771975168, 0, Nat.le_of_ble_eq_true rfl, Nat.zero_le _⟩

/-- Two thirds have eight places, and half of the largest decimal has none. Twice the largest decimal
overflows, and so does more of it. -/
theorem quantity_mono_sample :
    (0 ≤ Strategy.two.value ∧ Strategy.two.value ≤ Strategy.largest.value ∧
      0 < Strategy.two.value ∧ Strategy.two.value ≤ three.value ∧
      quantityAtPrice Strategy.two three = .ok twoThirds ∧
      quantityAtPrice Strategy.largest Strategy.two = .ok halfOfLargest ∧
      twoThirds.value ≤ halfOfLargest.value) ∧
    (0 ≤ Strategy.largest.value ∧ 0 < (units 1).value ∧ (units 1).value ≤ half.value ∧
      quantityAtPrice Strategy.largest half = .error (.overflows Strategy.largest half) ∧
      quantityAtPrice Strategy.largest (units 1) = .error (.overflows Strategy.largest (units 1))) := by
  have htwo : 0 < Strategy.two.value := by norm_num [Strategy.two, Decimal.value]
  have hthree : Strategy.two.value ≤ three.value := by
    norm_num [Strategy.two, three, Decimal.value]
  have hlargest : Strategy.two.value ≤ Strategy.largest.value := by
    norm_num [Strategy.two, Strategy.largest, Decimal.value]
  have hhalf : (units 1).value ≤ half.value := by norm_num [units, half, Decimal.value]
  have hsmall : quantityAtPrice Strategy.two three = .ok twoThirds := by rfl
  have hlarge : quantityAtPrice Strategy.largest Strategy.two = .ok halfOfLargest := by rfl
  have htwice : quantityAtPrice Strategy.largest half =
      .error (.overflows Strategy.largest half) := by rfl
  obtain ⟨quantity, hquantity, hle⟩ :=
    (quantity_mono htwo.le hlargest htwo hthree).1 halfOfLargest hlarge
  obtain rfl := Except.ok.inj (hsmall.symm.trans hquantity)
  have hmore := (quantity_mono (htwo.le.trans hlargest) le_rfl quoted_units_one.pos hhalf).2 htwice
  exact ⟨⟨htwo.le, hlargest, htwo, hthree, hsmall, hlarge, hle⟩,
    htwo.le.trans hlargest, quoted_units_one.pos, hhalf, htwice, hmore⟩

/-- **A higher price or a higher rate never lowers an ask.**  If the ask for the larger numbers comes about
then so does the one for the smaller numbers, and it is no larger. -/
theorem ask_mono (hprice : 0 ≤ buyPrice.value) (hmargin : 0 ≤ margin.value) (hbuy : 0 ≤ buyFee.value)
    (hsell : 0 ≤ sellFee.value) (hprice' : buyPrice.value ≤ buyPrice'.value)
    (hmargin' : margin.value ≤ margin'.value) (hbuy' : buyFee.value ≤ buyFee'.value)
    (hsell' : sellFee.value ≤ sellFee'.value)
    (h : askFromBuy buyPrice' margin' buyFee' sellFee' = .ok ask') :
    ∃ ask, askFromBuy buyPrice margin buyFee sellFee = .ok ask ∧ ask.value ≤ ask'.value := by
  obtain ⟨markup', product', hmarkup', hproduct', rfl⟩ := askFromBuy_eq_ok_iff.mp h
  obtain ⟨markup, hmarkup, hmarkupLe⟩ : ∃ markup,
      Decimal.addAll .one [margin, buyFee, sellFee] = .ok markup ∧ markup.value ≤ markup'.value :=
    Decimal.addAll_mono hmarkup' (by simp) le_rfl
      (.cons ⟨hmargin, hmargin'⟩ (.cons ⟨hbuy, hbuy'⟩ (.cons ⟨hsell, hsell'⟩ .nil)))
  have hnonneg := Decimal.value_addAll_nonneg hmarkup (by simp) (by simp [hmargin, hbuy, hsell])
  obtain ⟨product, hproduct, hle⟩ := Decimal.mul_mono hproduct' hprice hnonneg hprice' hmarkupLe
  exact ⟨_, askFromBuy_eq_ok_iff.mpr ⟨markup, product, hmarkup, hproduct, rfl⟩,
    Decimal.toPlaces_mono .awayFromZero priceScale_le hle⟩

/-- Half of the largest decimal and a half of that: about three quarters of the largest decimal. -/
def threeQuartersOfLargest : Decimal :=
  ⟨59421121885698253195157962752, 0, Nat.le_of_ble_eq_true rfl, Nat.zero_le _⟩

/-- The ask for one unit with a margin of a half is two units, at eight places. The one for half of the
largest decimal has room for whole numbers only. -/
theorem ask_mono_sample :
    0 ≤ (units 1).value ∧ (units 1).value ≤ halfOfLargest.value ∧ 0 ≤ half.value ∧
      0 ≤ Decimal.zero.value ∧
      askFromBuy (units 1) half .zero .zero = .ok (units 2) ∧
      askFromBuy halfOfLargest half .zero .zero = .ok threeQuartersOfLargest ∧
      (units 2).value ≤ threeQuartersOfLargest.value := by
  have hprice : (units 1).value ≤ halfOfLargest.value := by
    norm_num [units, halfOfLargest, Decimal.value]
  have hsmall : askFromBuy (units 1) half .zero .zero = .ok (units 2) := by rfl
  have hlarge : askFromBuy halfOfLargest half .zero .zero = .ok threeQuartersOfLargest := by rfl
  obtain ⟨ask, hask, hle⟩ := ask_mono quoted_units_one.pos.le rate_half.nonneg rate_zero.nonneg
    rate_zero.nonneg hprice le_rfl le_rfl le_rfl hlarge
  obtain rfl := Except.ok.inj (hsmall.symm.trans hask)
  exact ⟨quoted_units_one.pos.le, hprice, rate_half.nonneg, rate_zero.nonneg, hsmall, hlarge, hle⟩

end ScalpBot.Pricing
