import ScalpBot.Proofs.Decimal.Threshold
import ScalpBot.Proofs.Strategy.Overflow

/-!
# Orders of size zero

The budget and all prices may be positive, and still an order of quantity zero or at the price zero is
submitted: what is left of a quotient or a product at eight places may be nothing. How small they must
be for that is exact. A quantity is positive where the quotient of the budget and the last price is more
than `Pricing.quantityFloor`, half a unit of the eighth place and a little; an ask is positive where the
marked-up price is at least `Pricing.askFloor`, half a unit of the eighth place less a little. The little
is half a unit of the last place of a decimal, to which both are rounded first.

`Strategy.run_positive_iff` says so of every order that a run submits.
-/

namespace ScalpBot

namespace Pricing

variable {budget price quantity buyRate sellRate ask : Decimal}

/-- What a quotient must be more than for a quantity to be left of it. -/
def quantityFloor : ℚ := Decimal.unit priceScale / 2 + Decimal.unit Decimal.maxScale / 2

/-- What a marked-up price must be at least for an ask to be left of it. -/
def askFloor : ℚ := Decimal.unit priceScale / 2 - Decimal.unit Decimal.maxScale / 2

/-- Half a unit of a price is an even number of the last places. -/
theorem half_unit_priceScale :
    Decimal.unit priceScale / 2 = (5 * 10 ^ 19 : ℕ) * Decimal.unit Decimal.maxScale := by
  norm_num [Decimal.unit]

/-- **When a quantity is positive.** -/
theorem quantity_pos_iff (h : quantityAtPrice budget price = .ok quantity)
    (hbudget : 0 < budget.value) :
    0 < quantity.value ↔ quantityFloor < budget.value / price.value := by
  obtain ⟨hpos, quotient, hquotient, rfl⟩ := quantityAtPrice_eq_ok_iff.mp h
  have hfinest := Decimal.finest_div hquotient hbudget hpos
  have hround := Decimal.value_toPlaces_pos_iff .towardZero priceScale_le hfinest.value_nonneg
  rw [toPriceScale, hround, quantityFloor, half_unit_priceScale,
    hfinest.lt_iff (by norm_num) (by norm_num)]
  simp [Tie.goesUp]

/-- **When an ask is positive.** -/
theorem ask_pos_iff (h : askFromBuy price profitMargin buyRate sellRate = .ok ask)
    (hprice : 0 < price.value) (hbuy : 0 ≤ buyRate.value ∧ buyRate.value < 1)
    (hsell : 0 ≤ sellRate.value ∧ sellRate.value < 1) :
    0 < ask.value ↔ askFloor ≤ markedUp price profitMargin buyRate sellRate := by
  obtain ⟨markup, hmarkup, hpos, hvalue⟩ := markup_of_rates hbuy hsell
  obtain ⟨_, product, hsame, hproduct, rfl⟩ := askFromBuy_eq_ok_iff.mp h
  obtain rfl := Except.ok.inj (hmarkup.symm.trans hsame)
  have hfinest := Decimal.finest_mul hproduct hprice hpos
  rw [hvalue] at hfinest
  have hround := Decimal.value_toPlaces_pos_iff .awayFromZero priceScale_le hfinest.value_nonneg
  have hup : Tie.awayFromZero.goesUp 0 = true := rfl
  rw [toPriceScale, hround, hup, and_iff_left rfl, ← le_iff_lt_or_eq, askFloor,
    half_unit_priceScale, hfinest.le_iff (by norm_num) (by norm_num) (by norm_num)]

end Pricing

namespace Strategy

variable {s : Strategy} {σ : Type} {exchange : Exchange σ}

/-- **How much a submitted order is.**  `earlier` are the calls of the cycles before, `now` those of the
cycle that submits it. -/
structure Measured (s : Strategy) (earlier now : List Exchanged) (side : Side)
    (quantity price : Decimal) : Prop where
  /-- The quantity is what the budget buys at a last price that was heard. -/
  quantity_pos_iff : ∃ lastPrice ∈ answers .lastTradePrice (earlier ++ now),
    Pricing.quantityAtPrice s.budget lastPrice = .ok quantity ∧
    (0 < quantity.value ↔ Pricing.quantityFloor < s.budget.value / lastPrice.value)
  /-- A purchase is made at a positive price. -/
  buy_pos : side = .buy → 0 < price.value
  /-- A sale is made at the marked-up price of what was bought last. -/
  sell_pos_iff : side = .sell → ∃ bought buyRate sellRate,
    (placedIn earlier).getLast? = some bought ∧ bought.side = .buy ∧
    quantity = bought.quantity ∧ 0 < bought.price.value ∧
    answers .buyFeeRate now = [buyRate] ∧ answers .sellFeeRate now = [sellRate] ∧
    (0 < price.value ↔
      Pricing.askFloor ≤ Pricing.markedUp bought.price Pricing.profitMargin buyRate sellRate)

/-- **When orders are positive.**  Take any run from the start, against any exchange, in which all first
bids that are heard are positive and all fee rates are below one. Then a submitted purchase has a
positive price, and a positive quantity exactly if the budget is large enough for the last price; a sale
has the quantity of the purchase, and a positive price exactly if that of the purchase is large
enough. -/
theorem run_positive_iff (s : Strategy) (exchange : Exchange σ) (count : Nat) (world : σ)
    (hbids : ∀ book ∈ answers .orderBook (history (s.run exchange count none world)),
      ∀ bid, book.bestBid = some bid → 0 < bid.price.value)
    (hrates : RatesBelowOne (history (s.run exchange count none world))) :
    ∀ before cycle after, s.run exchange count none world = before ++ cycle :: after →
      ∀ e ∈ cycle.transcript, ∀ side quantity price, e.call = .submitOrder side quantity price →
        s.Measured (history before) cycle.transcript side quantity price := by
  intro before cycle after h e he side quantity price hcall
  obtain ⟨first, start, hbefore, hcycle⟩ := run_split h
  have hbudget : 0 < s.budget.value := Decimal.value_pos_iff.mpr s.budget_pos
  have hconduct := s.execute_conduct exchange (placedIn (history before)).getLast? start
  rw [← hcycle] at hconduct
  obtain ⟨reads, reply, htranscript, occasion⟩ := hconduct.occasion_of_mem he hcall
  -- what was heard in the cycles before and in this one was heard in the run
  rw [h, history_append, history_cons] at hbids hrates
  have hearlier : history before ⊆ history before ++ (cycle.transcript ++ history after) := by simp
  have hnow : cycle.transcript ⊆ history before ++ (cycle.transcript ++ history after) := by simp
  cases side with
  | buy =>
    obtain ⟨book, bid, lastPrice, hbook, hbid, rfl, hlast, hquantity⟩ := occasion.purchase_eq
    have hheard : lastPrice ∈ answers .lastTradePrice cycle.transcript := by
      rw [htranscript, answers_reads_submission rfl, hlast]
      exact List.mem_singleton_self _
    have hbookHeard : book ∈ answers .orderBook cycle.transcript := by
      rw [htranscript, answers_reads_submission rfl, hbook]
      exact List.mem_singleton_self _
    exact {
      quantity_pos_iff := ⟨lastPrice, by simp [hheard], hquantity,
        Pricing.quantity_pos_iff hquantity hbudget⟩
      buy_pos := fun _ => hbids book (answers_subset hnow _ hbookHeard) bid hbid
      sell_pos_iff := nofun }
  | sell =>
    obtain ⟨bought, buyRate, sellRate, hbought, hside, hbuy, hsell, rfl, hask⟩ := occasion.at_ask
    have hplaced := List.mem_of_getLast? hbought
    rw [hbefore] at hplaced
    obtain ⟨book, hbook, lastPrice, hlast, ⟨bid, hbid, hprice⟩, hquantity⟩ :=
      purchase_of_mem_session hplaced hside
    rw [← hbefore] at hbook hlast
    have hpos : 0 < bought.price.value := by
      rw [hprice]
      exact hbids book (answers_subset hearlier _ hbook) bid hbid
    have hbuyNow : answers .buyFeeRate cycle.transcript = [buyRate] := by
      rw [htranscript, answers_reads_submission rfl, hbuy]
    have hsellNow : answers .sellFeeRate cycle.transcript = [sellRate] := by
      rw [htranscript, answers_reads_submission rfl, hsell]
    have hnowRates := hrates.of_subset hnow
    have hbuyRate := hnowRates buyRate (.inl (by simp [hbuyNow]))
    have hsellRate := hnowRates sellRate (.inr (by simp [hsellNow]))
    exact {
      quantity_pos_iff := ⟨lastPrice, by simp [hlast], hquantity,
        Pricing.quantity_pos_iff hquantity hbudget⟩
      buy_pos := nofun
      sell_pos_iff := fun _ => ⟨bought, buyRate, sellRate, hbought, hside, rfl, hpos, hbuyNow,
        hsellNow, Pricing.ask_pos_iff hask hpos hbuyRate hsellRate⟩ }

/-! ## Two runs -/

/-- What is bought and sold for one unit at the price one is of a positive quantity at positive
prices. -/
theorem positive_sample :
    ∃ before cycle after quantity price, unitRun = before ++ cycle :: after ∧
      (∃ e ∈ cycle.transcript, e.call = .submitOrder .sell quantity price) ∧
      0 < quantity.value ∧ 0 < price.value := by
  let exchange := Exchange.flat .one .one Pricing.sampleFee
  have hbids : ∀ book ∈ answers .orderBook (history unitRun),
      ∀ bid, book.bestBid = some bid → 0 < bid.price.value := by
    intro book hbook bid hbid
    rw [(quotes_unitRun book hbook).1 bid hbid]
    norm_num
  let first := (spending .one).execute exchange none ()
  let second := (spending .one).execute exchange first.last first.world
  let quantity : Decimal := { coefficient := 100000000, scale := 8 }
  let price : Decimal := { coefficient := 101400000, scale := 8 }
  have hrun : unitRun = [first] ++ second :: [] := rfl
  have hsubmitted : ∃ e ∈ second.transcript, e.call = .submitOrder .sell quantity price := by decide
  obtain ⟨e, he, hcall⟩ := hsubmitted
  have hsale := run_positive_iff (spending .one) exchange 2 () hbids ratesBelowOne_unitRun [first]
    second [] hrun e he .sell quantity price hcall
  refine ⟨[first], second, [], quantity, price, hrun, ⟨e, he, hcall⟩, ?_, ?_⟩
  · obtain ⟨lastPrice, hlast, -, hquantity⟩ := hsale.quantity_pos_iff
    have hone : answers .lastTradePrice (history [first] ++ second.transcript) = [.one] := by rfl
    rw [hone] at hlast
    obtain rfl := List.mem_singleton.mp hlast
    refine hquantity.mpr ?_
    norm_num [Pricing.quantityFloor, Decimal.unit, spending]
  · obtain ⟨bought, buyRate, sellRate, hbought, -, -, -, hbuy, hsell, hprice⟩ :=
      hsale.sell_pos_iff rfl
    have hfirst : (placedIn (history [first])).getLast? =
        some ⟨.buy, ⟨"1"⟩, .one, quantity⟩ := by rfl
    obtain rfl := Option.some.inj (hfirst.symm.trans hbought)
    obtain ⟨rfl⟩ : [Pricing.sampleFee] = [buyRate] := hbuy
    obtain ⟨rfl⟩ : [Pricing.sampleFee] = [sellRate] := hsell
    refine hprice.mpr ?_
    norm_num [Pricing.askFloor, Pricing.markedUp, Pricing.profitMargin, Pricing.sampleFee,
      Decimal.unit, Decimal.value, Decimal.one]

/-- A hundred-millionth. -/
def tiny : Decimal := ⟨1, 8, Decimal.one.coefficient_le, Nat.le_of_ble_eq_true rfl⟩

/-- At the price of a hundred it buys nothing, and an order of quantity zero is submitted. -/
theorem zero_quantity_sample :
    0 < Decimal.hundred.value ∧ (0 ≤ Pricing.sampleFee.value ∧ Pricing.sampleFee.value < 1) ∧
    ∃ cycle ∈ (spending tiny).run (Exchange.flat .hundred .hundred Pricing.sampleFee) 1 none (),
      ∃ e ∈ cycle.transcript, ∃ quantity price, e.call = .submitOrder .buy quantity price ∧
        ¬ 0 < quantity.value := by
  let exchange := Exchange.flat .hundred .hundred Pricing.sampleFee
  let cycle := (spending tiny).execute exchange none ()
  let nothing : Decimal := { coefficient := 0, scale := 8 }
  have hsubmitted : ∃ e ∈ cycle.transcript, e.call = .submitOrder .buy nothing .hundred := by
    decide
  obtain ⟨e, he, hcall⟩ := hsubmitted
  refine ⟨?_, Pricing.sampleFee_mem, cycle, List.mem_cons_self, e, he, nothing, .hundred, hcall, ?_⟩
  · norm_num [Decimal.value, Decimal.hundred]
  · norm_num [Decimal.value, nothing]

end Strategy

end ScalpBot
