import ScalpBot.Proofs.Decimal.Rounded
import ScalpBot.Proofs.Strategy.Budget

/-!
# Sizing is exact

A quantity is a quotient that is rounded twice: half to even at the last place that it can have, and then
with a half toward zero at eight places. For a budget and a price as they are quoted, with at most eight
places, this is the exact quotient rounded once (`Pricing.quantity_exact`).

In eighth places both are integers below `10 ^ 18`. So the quotient keeps a distance from every middle
between two quantities, unless it is one, and its last place is finer than that: a quotient with few
places is large, so its divisor is small (`Pricing.fine_of_nearest`).
-/

namespace ScalpBot

namespace Pricing

variable {a budget price quotient quantity : Decimal}

/-- **An amount as it is quoted**: positive, below `10 ^ 10`, and with at most eight places. -/
structure Quoted (a : Decimal) : Prop where
  pos : 0 < a.value
  lt : a.value < 10 ^ 10
  scale_le : a.scale ≤ priceScale

/-- What is quoted is a number of eighth places. -/
theorem Quoted.exists_units (h : Quoted a) :
    ∃ n : ℕ, 0 < n ∧ n < 10 ^ 18 ∧ a.value = n * Decimal.unit priceScale := by
  have hunit := Decimal.unit_pos priceScale
  have hcoefficient := Decimal.coefficient_nonneg h.pos.le
  obtain ⟨n, hn⟩ := Int.eq_ofNat_of_zero_le
    (mul_nonneg hcoefficient (by positivity : (0 : ℤ) ≤ 10 ^ (priceScale - a.scale)))
  have hvalue : a.value = n * Decimal.unit priceScale := by
    rw [Decimal.mul_unit_of_scale_le h.scale_le, hn, Int.cast_natCast]
  have hpos := h.pos
  have hlt := h.lt
  rw [hvalue] at hpos hlt
  refine ⟨n, by exact_mod_cast (mul_pos_iff_of_pos_right hunit).mp hpos, ?_, hvalue⟩
  rw [Decimal.unit, mul_one_div, div_lt_iff₀ (by positivity)] at hlt
  exact_mod_cast (by norm_num at hlt ⊢; exact hlt : (n : ℚ) < 10 ^ 18)

open Decimal in
/-- The last place of a quotient of two such numbers is finer than the divisor. -/
theorem fine_of_nearest {c : Decimal} {n : ℤ} {d numerator divisor : ℕ}
    (h : Nearest n d maxScale c) (hd : 0 < d) (hratio : (n : ℚ) / d = numerator / divisor)
    (hnumerator : numerator < 10 ^ 18) (hpos : 0 < divisor) (hdivisor : divisor < 10 ^ 18) :
    divisor * 10 ^ priceScale < 10 ^ c.scale := by
  rcases Nat.lt_or_eq_of_le h.scale_le with hcut | hall
  · -- the quotient is so large that one place more would be too much
    have hlarge := h.lt_of_cut hd hcut
    have hpos' : (0 : ℚ) < divisor := by exact_mod_cast hpos
    rw [hratio, abs_of_nonneg (by positivity), div_mul_eq_mul_div, lt_div_iff₀ hpos'] at hlarge
    have hnat : maxCoefficient * divisor < numerator * 10 ^ (c.scale + 1) := by
      exact_mod_cast hlarge
    have hless : numerator * 10 ^ (c.scale + 1) ≤ 10 ^ 18 * 10 ^ (c.scale + 1) :=
      Nat.mul_le_mul_right _ hnumerator.le
    rw [pow_succ] at hnat hless
    unfold maxCoefficient at hnat
    unfold priceScale
    omega
  · rw [hall]
    unfold priceScale maxScale
    omega

/-- **Rounding twice is rounding once.** -/
theorem rounded_quotient (h : budget.div? price = some quotient) (hbudget : Quoted budget)
    (hprice : Quoted price) :
    Rounded .towardZero priceScale (budget.value / price.value)
      (toPriceScale .towardZero quotient).value := by
  have hunit := (Decimal.unit_pos priceScale).ne'
  obtain ⟨numerator, hnumerator, hnumerator', hb⟩ := hbudget.exists_units
  obtain ⟨divisor, hdivisor, hdivisor', hp⟩ := hprice.exists_units
  have hexact : budget.value / price.value = numerator / divisor := by
    rw [hb, hp, mul_div_mul_right _ _ hunit]
  refine (Decimal.rounded_toPlaces .towardZero priceScale_le quotient).of_close ?_
  rcases Decimal.div?_cases h hbudget.pos hprice.pos with
    hsame | ⟨n, d, rounded, hd, hratio, hnearest, rfl⟩
  · exact .inl hsame
  · rw [Decimal.value_trim, hratio]
    have hratio' := hratio.symm.trans hexact
    have hexact' : (n : ℚ) / d =
        (numerator * 10 ^ priceScale : ℕ) / divisor * Decimal.unit priceScale := by
      rw [hratio', Decimal.unit]
      push_cast
      field_simp
    exact hnearest.close_of_fine hd hdivisor hexact'
      (fine_of_nearest hnearest hd hratio' hnumerator' hdivisor hdivisor')

/-- What is quoted has a quotient below `10 ^ 18`. -/
theorem Quoted.quotient_le (hbudget : Quoted budget) (hprice : Quoted price) :
    budget.value / price.value ≤ 10 ^ 18 := by
  have hunit := (Decimal.unit_pos priceScale).ne'
  obtain ⟨numerator, -, hnumerator, hb⟩ := hbudget.exists_units
  obtain ⟨divisor, hdivisor, -, hp⟩ := hprice.exists_units
  have hone : (1 : ℚ) ≤ divisor := by exact_mod_cast hdivisor
  have hless : (numerator : ℚ) ≤ 10 ^ 18 := by exact_mod_cast hnumerator.le
  rw [hb, hp, mul_div_mul_right _ _ hunit]
  exact (div_le_self (Nat.cast_nonneg numerator) hone).trans hless

/-- Such a quotient is found. -/
theorem Quoted.exists_quotient (hbudget : Quoted budget) (hprice : Quoted price) :
    ∃ quotient, budget.div? price = some quotient := by
  cases hquotient : budget.div? price with
  | some quotient => exact ⟨quotient, rfl⟩
  | none =>
    have hlarge := (Decimal.div?_eq_none_iff (Decimal.isZero_eq_false hprice.pos)).mp hquotient
    have hquot := hbudget.quotient_le hprice
    have hnonneg : 0 ≤ budget.value / price.value := div_nonneg hbudget.pos.le hprice.pos.le
    have hsmall : |budget.value / price.value| ≤ Decimal.maxCoefficient := by
      rw [abs_of_nonneg hnonneg]
      exact hquot.trans (by norm_num [Decimal.maxCoefficient])
    exact absurd hlarge (Decimal.not_tooLarge_of_le hsmall)

/-- At a price that is not positive there is no quantity. -/
theorem quantityAtPrice_of_nonpos (budget : Decimal) (hprice : price.value ≤ 0) :
    quantityAtPrice budget price = .error (.priceNotPositive price) :=
  quantityAtPrice_eq_error_iff.mpr (.inl ⟨hprice, rfl⟩)

/-- A purchase without a quantity ends as an invalid response. -/
theorem buy_run_of_error {σ : Type} {s : Strategy} {exchange : Exchange σ} {world : σ}
    {cause : SizingError} (bestBid : Decimal)
    (hanswer : (exchange.answer s.market.id .lastTradePrice world).1 = .ok price)
    (hquantity : quantityAtPrice s.budget price = .error cause) :
    ((s.buy bestBid).run exchange world).1 = .error (.failed (.invalidResponse cause.message)) := by
  obtain ⟨next, hask, hnext⟩ : ∃ next, s.buy bestBid = .ask s.market.id .lastTradePrice next ∧
      next price = .halt (.failed (.invalidResponse cause.message)) := by
    refine ⟨_, rfl, ?_⟩
    simp only [Dialogue.bind, hquantity]
  rw [hask, Dialogue.run_ask_ok hanswer, hnext]
  rfl

/-- **Sizing is exact.**  A budget and a price as they are quoted have a quantity. It has eight places,
and it is their exact quotient, rounded once with a half toward zero. At a price of zero or less there is
none for any budget, and a purchase that hears of such a price ends as an invalid response that names
it. -/
theorem quantity_exact (budget price : Decimal) :
    (Quoted budget → Quoted price →
      ∃ quantity, quantityAtPrice budget price = .ok quantity ∧ quantity.scale = priceScale ∧
        Rounded .towardZero priceScale (budget.value / price.value) quantity.value) ∧
    (price.value ≤ 0 →
      quantityAtPrice budget price = .error (.priceNotPositive price) ∧
      ∀ (s : Strategy) (bestBid : Decimal) {σ : Type} (exchange : Exchange σ) (world : σ),
        s.budget = budget → (exchange.answer s.market.id .lastTradePrice world).1 = .ok price →
        ((s.buy bestBid).run exchange world).1 = .error (.failed (.invalidResponse
          ("Last trade price must be positive, got " ++ price.toText)))) := by
  constructor
  · intro hbudget hprice
    have hpositive : price.isPositive = true := Decimal.value_pos_iff.mp hprice.pos
    obtain ⟨quotient, hquotient⟩ := hbudget.exists_quotient hprice
    have hquantity : quantityAtPrice budget price = .ok (toPriceScale .towardZero quotient) := by
      rw [quantityAtPrice, hpositive, hquotient]
      rfl
    have hrounded := rounded_quotient hquotient hbudget hprice
    refine ⟨_, hquantity, scale_quantity hquantity hbudget.pos ?_, hrounded⟩
    have hnear := (abs_le.mp hrounded.near).2
    have hquot := hbudget.quotient_le hprice
    have hunit := Decimal.unit_le_one priceScale
    linarith
  · intro hprice
    have hnone := quantityAtPrice_of_nonpos budget hprice
    refine ⟨hnone, fun s bestBid σ exchange world hbudget hanswer => ?_⟩
    exact buy_run_of_error bestBid hanswer (hbudget ▸ hnone)

/-- As many units of the eighth place. -/
def units (n : Fin 10) : Decimal where
  coefficient := n.val
  scale := priceScale
  coefficient_le := by unfold Decimal.maxCoefficient; omega
  scale_le := priceScale_le

/-- The quotient of three units and two is a half, which goes toward zero; at the price zero there is no
quantity. -/
theorem quantity_exact_sample :
    (Quoted (units 3) ∧ Quoted Strategy.two ∧
      quantityAtPrice (units 3) Strategy.two = .ok (units 1) ∧
      Rounded .towardZero priceScale ((units 3).value / Strategy.two.value) (units 1).value) ∧
    (Decimal.zero.value ≤ 0 ∧
      quantityAtPrice (units 3) .zero = .error (.priceNotPositive .zero)) := by
  have hthree : Quoted (units 3) := by
    constructor <;> norm_num [units, Decimal.value]
  have htwo : Quoted Strategy.two := by
    constructor <;> norm_num [Strategy.two, Decimal.value]
  have hzero : Decimal.zero.value ≤ 0 := by norm_num [Decimal.zero, Decimal.value]
  have hone : quantityAtPrice (units 3) Strategy.two = .ok (units 1) := by decide
  obtain ⟨quantity, hquantity, -, hrounded⟩ := (quantity_exact (units 3) Strategy.two).1 hthree htwo
  obtain rfl := Except.ok.inj (hone.symm.trans hquantity)
  exact ⟨⟨hthree, htwo, hone, hrounded⟩, hzero, ((quantity_exact (units 3) .zero).2 hzero).1⟩

end Pricing

end ScalpBot
