import ScalpBot.Proofs.Strategy.History

/-!
# Buying and selling in turn

Whatever the exchange answers, and whenever it fails, the orders that a run places are a purchase, a
sale of what was bought, a purchase, and so on. `Strategy.Orderly` says what the submissions of one
cycle keep to, given the order placed latest before it; it is read off the occasions to submit
(`Strategy.Conduct.orderly`). The main statement, `Strategy.run_trades`, is about runs of any length
from the start of the strategy.
-/

namespace ScalpBot

/-- The other side. -/
def Side.other : Side → Side
  | buy => sell
  | sell => buy

@[simp] theorem Side.other_other (side : Side) : side.other.other = side := by
  cases side <;> rfl

namespace Strategy

/-- The side that is due after the order placed latest. -/
def nextSide : Option PlacedOrder → Side
  | none => .buy
  | some order => order.side.other

/-- What the submissions of a cycle keep to, where `latest` is the order placed latest before it. -/
structure Orderly (latest : Option PlacedOrder) (transcript : List Exchanged) : Prop where
  /-- At most one order is submitted. -/
  single : (transcript.filter Exchanged.isSubmission).length ≤ 1
  /-- A purchase is made at the first bid of the book of the cycle. -/
  at_bid : ∀ order ∈ placedIn transcript, order.side = .buy →
    ∃ book bid, answers .orderBook transcript = [book] ∧ book.bids.head? = some bid ∧
      order.price = bid.price
  /-- A sale is of what the latest order bought, at the ask for its price and the fees of the
  cycle. -/
  at_ask : ∀ order ∈ placedIn transcript, order.side = .sell →
    ∃ bought buyRate sellRate, latest = some bought ∧ bought.side = .buy ∧
      answers .buyFeeRate transcript = [buyRate] ∧
      answers .sellFeeRate transcript = [sellRate] ∧ order.quantity = bought.quantity ∧
      Pricing.askFromBuy bought.price Pricing.profitMargin buyRate sellRate = .ok order.price
  /-- An order is submitted, with or without success, only where the latest order is not among the
  open orders of the cycle. -/
  not_open : (∃ e ∈ transcript, e.isSubmission = true) → ∀ order, latest = some order →
    ∃ orders, answers .openOrders transcript = [orders] ∧ ∀ o ∈ orders, o.id ≠ order.id

variable {s : Strategy} {last : Option PlacedOrder}

theorem Occasion.side_eq {reads : List Exchanged} {side : Side} {quantity price : Decimal}
    (h : s.Occasion last reads side quantity price) : side = nextSide last := by
  cases h with
  | first => rfl
  | sale hside => simp [nextSide, hside, Side.other]
  | purchase hside => simp [nextSide, hside, Side.other]

/-! ## The submissions of one cycle -/

/-- A submission comes after a look at the open orders that did not show the latest order. -/
theorem Occasion.not_open {reads : List Exchanged} {side : Side} {quantity price : Decimal}
    (h : s.Occasion last reads side quantity price) {order : PlacedOrder}
    (hlast : last = some order) :
    ∃ orders, answers .openOrders reads = [orders] ∧ ∀ o ∈ orders, o.id ≠ order.id := by
  cases h with
  | first => cases hlast
  | sale _ hopen | purchase _ hopen =>
    cases hlast
    exact ⟨_, rfl, hopen⟩

theorem Occasion.at_bid {reads : List Exchanged} {quantity price : Decimal}
    (h : s.Occasion last reads .buy quantity price) :
    ∃ book bid, answers .orderBook reads = [book] ∧ book.bids.head? = some bid ∧
      price = bid.price := by
  cases h with
  | first hbid | purchase _ _ hbid => exact ⟨_, _, rfl, hbid, rfl⟩

theorem Occasion.at_ask {reads : List Exchanged} {quantity price : Decimal}
    (h : s.Occasion last reads .sell quantity price) :
    ∃ bought buyRate sellRate, last = some bought ∧ bought.side = .buy ∧
      answers .buyFeeRate reads = [buyRate] ∧ answers .sellFeeRate reads = [sellRate] ∧
      quantity = bought.quantity ∧
      Pricing.askFromBuy bought.price Pricing.profitMargin buyRate sellRate = .ok price := by
  cases h with
  | sale hside _ hask => exact ⟨_, _, _, rfl, hside, rfl, rfl, rfl, hask⟩

/-- A submission answers no other call. -/
theorem answers_reads_submission {call : Call} (hcall : call.isSubmission = false)
    (reads : List Exchanged) (side : Side) (quantity price : Decimal)
    (reply : Except Failure OrderId) :
    answers call (reads ++ [s.submission side quantity price reply]) = answers call reads := by
  have hne : (s.submission side quantity price reply).call ≠ call := by
    rintro rfl
    cases hcall
  rw [answers_append, answers_cons_of_ne hne, answers_nil, List.append_nil]

/-- The only submission of a cycle is its last call. -/
theorem Occasion.filter_isSubmission {reads : List Exchanged} {side : Side}
    {quantity price : Decimal} (h : s.Occasion last reads side quantity price)
    (reply : Except Failure OrderId) :
    (reads ++ [s.submission side quantity price reply]).filter Exchanged.isSubmission =
      [s.submission side quantity price reply] := by
  rw [List.filter_append, List.filter_eq_nil_iff.mpr (by simpa using h.reads_quiet)]
  rfl

/-- An order is submitted on an occasion, as the last call of its cycle. -/
theorem Conduct.occasion_of_mem {transcript : List Exchanged} {result : Except CycleFault Outcome}
    {next : Option PlacedOrder} (h : s.Conduct last transcript result next) {e : Exchanged}
    (he : e ∈ transcript) {side : Side} {quantity price : Decimal}
    (hcall : e.call = .submitOrder side quantity price) :
    ∃ reads reply, transcript = reads ++ [s.submission side quantity price reply] ∧
      s.Occasion last reads side quantity price := by
  have hsub : e.isSubmission = true := by rw [Exchanged.isSubmission, hcall]; rfl
  have key : ∀ {reads : List Exchanged} {side' : Side} {quantity' price' : Decimal}
      {reply : Except Failure OrderId}, s.Occasion last reads side' quantity' price' →
      e ∈ reads ++ [s.submission side' quantity' price' reply] →
      ∃ reads' reply', reads ++ [s.submission side' quantity' price' reply] =
        reads' ++ [s.submission side quantity price reply'] ∧
        s.Occasion last reads' side quantity price := by
    intro reads side' quantity' price' reply occasion hmem
    rcases List.mem_append.mp hmem with hread | hlast
    · exact absurd hsub (by simp [occasion.reads_quiet e hread])
    · obtain rfl := List.mem_singleton.mp hlast
      obtain ⟨rfl, rfl, rfl⟩ := Call.submitOrder.inj hcall
      exact ⟨reads, reply, rfl, occasion⟩
  cases h with
  | quiet reads _ => exact absurd hsub (by simp [reads e he])
  | refused occasion | placed occasion => exact key occasion he

theorem Conduct.occasion_of_placed {transcript : List Exchanged}
    {result : Except CycleFault Outcome} {next : Option PlacedOrder}
    (h : s.Conduct last transcript result next) {order : PlacedOrder}
    (horder : order ∈ placedIn transcript) :
    ∃ reads reply,
      transcript = reads ++ [s.submission order.side order.quantity order.price reply] ∧
      s.Occasion last reads order.side order.quantity order.price := by
  obtain ⟨e, he, hplaced⟩ := List.mem_filterMap.mp horder
  refine h.occasion_of_mem he ?_
  unfold Exchanged.placed? at hplaced
  split at hplaced
  · cases hplaced
    rfl
  · cases hplaced

theorem Conduct.orderly {transcript : List Exchanged} {result : Except CycleFault Outcome}
    {next : Option PlacedOrder} (h : s.Conduct last transcript result next) :
    Orderly last transcript := by
  cases h with
  | quiet reads _ =>
    have hnone := placedIn_of_reads reads
    refine ⟨?_, by simp [hnone], by simp [hnone], ?_⟩
    · rw [List.filter_eq_nil_iff.mpr (by simpa using reads)]
      exact Nat.zero_le 1
    · rintro ⟨e, he, hsub⟩
      simp [reads e he] at hsub
  | @refused reads side quantity price _ occasion cause _ =>
    have hnone := placedIn_reads_append occasion.reads_quiet
      (s.submission side quantity price (.error cause))
    refine ⟨?_, by simp [hnone], by simp [hnone], ?_⟩
    · rw [occasion.filter_isSubmission]
      exact Nat.le_refl 1
    · intro _ order hlast
      rw [answers_reads_submission rfl]
      exact occasion.not_open hlast
  | @placed reads order occasion =>
    have hone : placedIn (reads ++
        [s.submission order.side order.quantity order.price (.ok order.id)]) = [order] :=
      placedIn_reads_append occasion.reads_quiet _
    refine ⟨?_, ?_, ?_, ?_⟩
    · rw [occasion.filter_isSubmission]
      exact Nat.le_refl 1
    · intro o ho hbuy
      obtain rfl := List.mem_singleton.mp (hone ▸ ho)
      rw [hbuy] at occasion ⊢
      rw [answers_reads_submission rfl]
      exact occasion.at_bid
    · intro o ho hsell
      obtain rfl := List.mem_singleton.mp (hone ▸ ho)
      rw [hsell] at occasion ⊢
      rw [answers_reads_submission rfl, answers_reads_submission rfl]
      exact occasion.at_ask
    · intro _ latest hlast
      rw [answers_reads_submission rfl]
      exact occasion.not_open hlast

/-! ## Whole runs -/

theorem Conduct.side_eq {transcript : List Exchanged} {result : Except CycleFault Outcome}
    {next : Option PlacedOrder} (h : s.Conduct last transcript result next) {order : PlacedOrder}
    (hresult : result = .ok (.placed order)) : order.side = nextSide last := by
  cases h with
  | quiet _ hn => exact absurd hresult (hn order)
  | refused _ _ hn => exact absurd hresult (hn order)
  | placed occasion =>
    cases hresult
    exact occasion.side_eq

variable {σ : Type} {exchange : Exchange σ}

/-- The orders placed in a session are of the side that is due, of the other side, and so on. -/
theorem side_of_placedIn_session {worlds : List σ} {i : Nat} {order : PlacedOrder}
    (h : (placedIn (history (s.session exchange worlds last)))[i]? = some order) :
    order.side = if i % 2 = 0 then nextSide last else (nextSide last).other := by
  -- a cycle that places nothing leaves the side that is due, and one that places an order turns it
  induction worlds generalizing last i with
  | nil => simp [session] at h
  | cons world worlds ih =>
    have hc := s.execute_conduct exchange last world
    rw [session, history_cons, placedIn_append] at h
    rcases hc.placedIn_cases with ⟨hp, hnext, _⟩ | ⟨first, hp, hnext, hresult⟩
    · rw [hp, hnext] at h
      exact ih h
    · rw [hp, hnext] at h
      have hside := hc.side_eq hresult
      cases i with
      | zero =>
        obtain rfl : first = order := by simpa using h
        exact hside
      | succ i =>
        have hrest := ih (by simpa using h)
        have hparity : (i + 1) % 2 = 0 ↔ ¬ i % 2 = 0 := by omega
        rw [hrest, nextSide, hside, Side.other_other]
        by_cases hi : i % 2 = 0 <;> simp [hparity, hi]

theorem Occasion.purchase_eq {reads : List Exchanged} {quantity price : Decimal}
    (h : s.Occasion last reads .buy quantity price) :
    ∃ book bid lastPrice, answers .orderBook reads = [book] ∧ book.bestBid = some bid ∧
      price = bid.price ∧ answers .lastTradePrice reads = [lastPrice] ∧
      Pricing.quantityAtPrice s.budget lastPrice = .ok quantity := by
  cases h with
  | first hbid hquantity | purchase _ _ hbid hquantity =>
    exact ⟨_, _, _, rfl, hbid, rfl, rfl, hquantity⟩

/-- A purchase that a session placed is at the first bid of a book that was heard, and of the quantity
that the budget buys at a last price that was heard. -/
theorem purchase_of_mem_session {worlds : List σ} {order : PlacedOrder}
    (h : order ∈ placedIn (history (s.session exchange worlds last))) (hside : order.side = .buy) :
    ∃ book ∈ answers .orderBook (history (s.session exchange worlds last)),
      ∃ lastPrice ∈ answers .lastTradePrice (history (s.session exchange worlds last)),
        (∃ bid, book.bestBid = some bid ∧ order.price = bid.price) ∧
        Pricing.quantityAtPrice s.budget lastPrice = .ok order.quantity := by
  induction worlds generalizing last with
  | nil => simp [session] at h
  | cons world worlds ih =>
    simp only [session, history_cons, placedIn_append, answers_append, List.mem_append] at h ⊢
    rcases h with hnow | hlater
    · obtain ⟨reads, reply, htranscript, occasion⟩ :=
        (s.execute_conduct exchange last world).occasion_of_placed hnow
      rw [hside] at occasion htranscript
      obtain ⟨book, bid, lastPrice, hbook, hbid, hprice, hlast, hquantity⟩ := occasion.purchase_eq
      rw [htranscript, answers_reads_submission rfl, answers_reads_submission rfl, hbook, hlast]
      exact ⟨book, .inl (by simp), lastPrice, .inl (by simp), ⟨bid, hbid, hprice⟩, hquantity⟩
    · obtain ⟨book, hbook, lastPrice, hlast, hpurchase⟩ := ih hlater
      exact ⟨book, .inr hbook, lastPrice, .inr hlast, hpurchase⟩

/-- **Buying and selling in turn.**  In every run from the start, against every exchange, the orders
placed are in turn a purchase and a sale, beginning with a purchase, and the submissions of each
cycle are orderly, given the order placed latest before it. -/
theorem run_trades (s : Strategy) (exchange : Exchange σ) (count : Nat) (world : σ) :
    (∀ i order, (placedIn (history (s.run exchange count none world)))[i]? = some order →
      order.side = if i % 2 = 0 then .buy else .sell) ∧
    ∀ before cycle after, s.run exchange count none world = before ++ cycle :: after →
      Orderly (placedIn (history before)).getLast? cycle.transcript := by
  rw [run_eq_session]
  refine ⟨fun i order h => side_of_placedIn_session h, ?_⟩
  intro before cycle after h
  obtain ⟨first, start, _, hbefore, rfl, _⟩ := session_split h
  have hlast : lastOf none before = (placedIn (history before)).getLast? := by
    rw [hbefore, lastOf_session, Option.or_none]
  rw [← hlast]
  exact (s.execute_conduct exchange _ start).orderly

/-! ## A market to run in -/

/-- A strategy that spends `budget` on each purchase. -/
def spending (budget : Decimal) (h : budget.isPositive = true := by decide) : Strategy :=
  ⟨⟨"ltcbtc", "LTC/BTC", "LTC", "BTC"⟩, budget, h⟩

end Strategy

/-- An exchange where nothing moves: bids and asks are at one price, trades and fees stay as they are,
and every order is filled at once. -/
def Exchange.flat (price lastPrice feeRate : Decimal) : Exchange Unit where
  name := "Flat"
  answer marketId call world :=
    match call with
    | .orderBook => (.ok ⟨marketId, [⟨price, .one⟩], [⟨price, .one⟩], ⟨0, 0⟩⟩, world)
    | .openOrders => (.ok [], world)
    | .lastTradePrice => (.ok lastPrice, world)
    | .buyFeeRate | .sellFeeRate => (.ok feeRate, world)
    | .submitOrder _ _ _ => (.ok ⟨"1"⟩, world)

end ScalpBot
