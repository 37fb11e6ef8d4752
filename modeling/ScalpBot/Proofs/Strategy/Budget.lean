import ScalpBot.Proofs.Decimal.Quotient
import ScalpBot.Proofs.Strategy.Pricing
import ScalpBot.Proofs.Strategy.Trading

/-!
# What a purchase commits

A purchase is sized at the last trade price, and made at the best bid. These are two replies of the
exchange, and nothing compares them. At the last price the quantity is worth the budget, up to half a unit
of its last place (`Pricing.excess_le`). But the order commits the quantity at the bid, and what the bid
is above the last price is spent on top of the budget, in proportion (`Pricing.lead`).

`Strategy.run_commits` says so of every purchase that a run places: the budget is kept where the bid is
not above the last price, and it is missed as soon as the lead is more than rounding can take back.
-/

namespace ScalpBot

/-- What an order commits of the counter currency. -/
def PlacedOrder.commitment (order : PlacedOrder) : ℚ := order.price.value * order.quantity.value

namespace Pricing

variable {budget lastPrice price quantity : Decimal}

/-- What a quantity is above what the budget buys at the last price. -/
def excess (budget lastPrice quantity : Decimal) : ℚ :=
  quantity.value - budget.value / lastPrice.value

/-- What the budget grows by with the price of the order over the last price. -/
def lead (budget lastPrice price : Decimal) : ℚ :=
  budget.value * (price.value - lastPrice.value) / lastPrice.value

/-- A quantity is a quotient that was rounded at one place, at eight places. -/
theorem exists_atPlace_of_quantity (h : quantityAtPrice budget lastPrice = .ok quantity)
    (hbudget : 0 < budget.value) :
    0 < lastPrice.value ∧ ∃ place quotient, 0 ≤ quotient.value ∧
      Decimal.AtPlace (budget.value / lastPrice.value) place quotient ∧
      quantity = toPriceScale .towardZero quotient := by
  obtain ⟨hpos, quotient, hquotient, rfl⟩ := quantityAtPrice_eq_ok_iff.mp h
  obtain ⟨place, hplace⟩ := Decimal.exists_atPlace_of_div hquotient hbudget hpos
  have hnonneg := (Decimal.finest_div hquotient hbudget hpos).value_nonneg
  exact ⟨hpos, place, quotient, hnonneg, hplace, rfl⟩

/-- **At the last price the budget is kept,** up to half a unit of the last place of the quantity. -/
theorem excess_le (h : quantityAtPrice budget lastPrice = .ok quantity) (hbudget : 0 < budget.value) :
    excess budget lastPrice quantity ≤ Decimal.unit quantity.scale / 2 := by
  obtain ⟨-, place, quotient, hnonneg, hplace, rfl⟩ := exists_atPlace_of_quantity h hbudget
  exact hplace.value_toPlaces_sub_le priceScale_le hnonneg

theorem abs_excess_le (h : quantityAtPrice budget lastPrice = .ok quantity)
    (hbudget : 0 < budget.value) :
    |excess budget lastPrice quantity| ≤ 11 / 20 * Decimal.unit quantity.scale := by
  obtain ⟨-, place, quotient, -, hplace, rfl⟩ := exists_atPlace_of_quantity h hbudget
  exact hplace.abs_value_toPlaces_sub_le .towardZero priceScale_le

/-- A quantity has eight places, unless it is so large that they do not fit. -/
theorem scale_quantity (h : quantityAtPrice budget lastPrice = .ok quantity)
    (hbudget : 0 < budget.value) (hsmall : quantity.value ≤ 7 * 10 ^ 20) :
    quantity.scale = priceScale := by
  have hclose := (abs_le.mp (abs_excess_le h hbudget)).1
  obtain ⟨hpos, place, quotient, -, -, rfl⟩ := exists_atPlace_of_quantity h hbudget
  -- the quantity is not below zero by a whole unit
  have hunit := Decimal.unit_le_one (toPriceScale .towardZero quotient).scale
  have hexact : 0 ≤ budget.value / lastPrice.value := by positivity
  have habs : |(toPriceScale .towardZero quotient).value| ≤ 7 * 10 ^ 20 := by
    rw [excess] at hclose
    exact abs_le.mpr ⟨by linarith, hsmall⟩
  refine Decimal.scale_toPlaces_of_le .towardZero priceScale_le ?_
  exact (mul_le_mul_of_nonneg_right habs (by positivity)).trans
    (by norm_num [Decimal.maxCoefficient])

/-- The price times the quantity: the budget, its lead, and what rounding the quantity adds. -/
theorem price_mul_quantity_eq (budget price quantity : Decimal) (hpos : 0 < lastPrice.value) :
    price.value * quantity.value =
      budget.value + lead budget lastPrice price +
        price.value * excess budget lastPrice quantity := by
  unfold lead excess
  field_simp
  ring

end Pricing

namespace Strategy

open Pricing

/-- **What a purchase commits** that was sized at `lastPrice`. -/
structure Commits (s : Strategy) (lastPrice : Decimal) (order : PlacedOrder) : Prop where
  lastPrice_pos : 0 < lastPrice.value
  /-- At the last price the quantity is worth the budget, up to half a unit of its last place. -/
  excess_le : excess s.budget lastPrice order.quantity ≤ Decimal.unit order.quantity.scale / 2
  abs_excess_le :
    |excess s.budget lastPrice order.quantity| ≤ 11 / 20 * Decimal.unit order.quantity.scale
  /-- The quantity has eight places, unless it is too large for them. -/
  scale_eq : order.quantity.value ≤ 7 * 10 ^ 20 → order.quantity.scale = priceScale
  /-- The budget is kept, up to half a unit of the eighth place, if and only if rounding takes back what
  the bid leads by. -/
  kept_iff : order.commitment ≤ s.budget.value + order.price.value * (Decimal.unit priceScale / 2) ↔
    lead s.budget lastPrice order.price ≤
      order.price.value * (Decimal.unit priceScale / 2 - excess s.budget lastPrice order.quantity)
  /-- So it is kept where the bid does not lead. -/
  kept : 0 ≤ order.price.value → order.price.value ≤ lastPrice.value →
    order.commitment ≤
      s.budget.value + order.price.value * (Decimal.unit order.quantity.scale / 2)
  /-- And it is missed where the bid leads by more than rounding can take back. -/
  missed : 0 ≤ order.price.value →
    order.price.value *
        (Decimal.unit priceScale / 2 + 11 / 20 * Decimal.unit order.quantity.scale) <
      lead s.budget lastPrice order.price →
    s.budget.value + order.price.value * (Decimal.unit priceScale / 2) < order.commitment

variable {s : Strategy} {lastPrice : Decimal} {order : PlacedOrder}

/-- A purchase that was sized at the last price commits this. -/
theorem commits_of_quantity (h : quantityAtPrice s.budget lastPrice = .ok order.quantity) :
    s.Commits lastPrice order := by
  have hbudget : 0 < s.budget.value := Decimal.value_pos_iff.mpr s.budget_pos
  obtain ⟨hpos, -⟩ := exists_atPlace_of_quantity h hbudget
  have hexcess := excess_le h hbudget
  have habs := abs_excess_le h hbudget
  have hcommitment : order.commitment = _ :=
    price_mul_quantity_eq s.budget order.price order.quantity hpos
  refine ⟨hpos, hexcess, habs, scale_quantity h hbudget, ?_, fun hprice hle => ?_,
    fun hprice hlead => ?_⟩
  · rw [hcommitment, mul_sub]
    constructor <;> intro h <;> linarith
  · have hbehind : lead s.budget lastPrice order.price ≤ 0 :=
      div_nonpos_of_nonpos_of_nonneg
        (mul_nonpos_of_nonneg_of_nonpos hbudget.le (sub_nonpos.mpr hle)) hpos.le
    have hround := mul_le_mul_of_nonneg_left hexcess hprice
    rw [hcommitment]
    linarith
  · have hround := mul_le_mul_of_nonneg_left (abs_le.mp habs).1 hprice
    rw [hcommitment]
    linarith

/-- **What the purchases of a run commit.**  Take any run from the start, against any exchange, and a
cycle of it that comes to a purchase. One last price was heard in the cycle, and it is positive; the
quantity is what the budget buys at it. The order commits no more than the budget, up to half a unit of
the eighth place of the quantity, exactly if rounding takes back what the bid leads the last price by. -/
theorem run_commits {σ : Type} (s : Strategy) (exchange : Exchange σ) (count : Nat) (world : σ) :
    ∀ before cycle after, s.run exchange count none world = before ++ cycle :: after →
      ∀ order, cycle.result = .ok (.placed order) → order.side = .buy →
        ∃ lastPrice, answers .lastTradePrice cycle.transcript = [lastPrice] ∧
          s.Commits lastPrice order := by
  intro before cycle after h order hresult hside
  obtain ⟨first, start, -, hcycle⟩ := run_split h
  have hconduct := s.execute_conduct exchange (placedIn (history before)).getLast? start
  rw [← hcycle] at hconduct
  obtain ⟨reads, reply, htranscript, occasion⟩ := hconduct.occasion_of_placed
    (hconduct.mem_placedIn hresult)
  rw [hside] at occasion
  obtain ⟨-, -, lastPrice, -, -, -, hlast, hquantity⟩ := occasion.purchase_eq
  refine ⟨lastPrice, ?_, commits_of_quantity hquantity⟩
  rw [htranscript, answers_reads_submission rfl, hlast]

/-! ## Two purchases -/

/-- The order that spends one unit at the bid `price`, sized at the price one. -/
def boughtAt (price : Decimal) : PlacedOrder :=
  ⟨.buy, ⟨"1"⟩, price, { coefficient := 100000000, scale := 8 }⟩

/-- At a bid that is the last price the budget is kept. -/
theorem budget_kept_sample :
    ∃ cycle, (spending .one).run (Exchange.flat .one .one .zero) 1 none () = [] ++ cycle :: [] ∧
      cycle.result = .ok (.placed (boughtAt .one)) ∧ (boughtAt .one).side = .buy ∧
      (boughtAt .one).commitment ≤ 1 + 1 * (Decimal.unit priceScale / 2) := by
  let cycle := (spending .one).execute (Exchange.flat .one .one .zero) none ()
  have hresult : cycle.result = .ok (.placed (boughtAt .one)) := by decide
  refine ⟨cycle, rfl, hresult, rfl, ?_⟩
  obtain ⟨lastPrice, hlast, hcommits⟩ := run_commits (spending .one) (Exchange.flat .one .one .zero) 1
    () [] cycle [] rfl (boughtAt .one) hresult rfl
  obtain ⟨rfl⟩ : [Decimal.one] = [lastPrice] := hlast
  have hkept := hcommits.kept (by norm_num [boughtAt]) (by norm_num [boughtAt])
  simpa [boughtAt, spending] using hkept

/-- The written form `2`. -/
def two : Decimal := ⟨2, 0, Nat.le_of_ble_eq_true rfl, Nat.le_of_ble_eq_true rfl⟩

/-- At a bid of twice the last price twice the budget is committed. -/
theorem budget_missed_sample :
    ∃ cycle ∈ (spending .one).run (Exchange.flat two .one .zero) 1 none (),
      cycle.result = .ok (.placed (boughtAt two)) ∧ (boughtAt two).side = .buy ∧
      answers .lastTradePrice cycle.transcript = [.one] ∧
      (boughtAt two).commitment = 2 * (spending .one).budget.value ∧
      ¬ (boughtAt two).commitment ≤
        (spending .one).budget.value + (boughtAt two).price.value * (Decimal.unit priceScale / 2) := by
  let cycle := (spending .one).execute (Exchange.flat two .one .zero) none ()
  refine ⟨cycle, List.mem_cons_self, by decide, rfl, rfl, ?_, ?_⟩
  · norm_num [PlacedOrder.commitment, boughtAt, two, spending, Decimal.value, Decimal.one]
  · norm_num [PlacedOrder.commitment, boughtAt, two, spending, Decimal.value, Decimal.one,
      Decimal.unit]

end Strategy

end ScalpBot
