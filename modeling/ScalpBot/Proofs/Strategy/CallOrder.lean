import ScalpBot.Proofs.Strategy.Occasion

/-!
# The order of the calls

Which calls a cycle makes, and in which order, is settled by the remembered order alone:
`Strategy.protocol` is the whole row, and a cycle makes the first calls of it. How far it gets depends
on the replies. `Strategy.Due` says which call comes next after the calls answered so far, and
`Strategy.Over` that no call comes next, and with which result the cycle then ends. Each course of a
cycle ends with a call that was due and failed, or is over (`Strategy.ends_of_cycle`).
-/

namespace ScalpBot

open Dialogue

/-! ## Kinds of calls -/

/-- What is asked for by a call: all of it but the quantity and the price of an order. -/
inductive CallKind where
  | orderBook
  | openOrders
  | lastTradePrice
  | buyFeeRate
  | sellFeeRate
  | submitOrder (side : Side)
deriving DecidableEq, Repr

/-- The kind of a call. -/
def Call.kind : Call → CallKind
  | orderBook => .orderBook
  | openOrders => .openOrders
  | lastTradePrice => .lastTradePrice
  | buyFeeRate => .buyFeeRate
  | sellFeeRate => .sellFeeRate
  | submitOrder side _ _ => .submitOrder side

/-- The kinds of the calls that were made, in order. -/
def kinds (transcript : List Exchanged) : List CallKind := transcript.map fun e => e.call.kind

@[simp] theorem kinds_nil : kinds [] = [] := rfl

@[simp] theorem kinds_append (first rest : List Exchanged) :
    kinds (first ++ rest) = kinds first ++ kinds rest :=
  List.map_append

/-- Why a call failed, where it did. -/
def Exchanged.cause? (e : Exchanged) : Option Failure :=
  match e.reply with
  | .error cause => some cause
  | .ok _ => none

namespace Strategy

/-- The calls of a cycle after the order `last`, when every call is answered and nothing speaks
against going on. -/
def protocol : (last : Option PlacedOrder) → List CallKind
  | none => [.orderBook, .lastTradePrice, .submitOrder .buy]
  | some order =>
    match order.side with
    | .buy => [.orderBook, .openOrders, .buyFeeRate, .sellFeeRate, .submitOrder .sell]
    | .sell => [.orderBook, .openOrders, .lastTradePrice, .submitOrder .buy]

variable (s : Strategy)

@[simp] theorem cause?_heard (call : Call) (answer : call.Answer) :
    (s.heard call answer).cause? = none := rfl

@[simp] theorem kinds_heard (call : Call) (answer : call.Answer) (rest : List Exchanged) :
    kinds (s.heard call answer :: rest) = call.kind :: kinds rest := rfl

@[simp] theorem answers_heard_self (call : Call) (answer : call.Answer) (rest : List Exchanged) :
    answers call (s.heard call answer :: rest) = answer :: answers call rest := by
  rw [answers, List.filterMap_cons, heard, Exchanged.answer?_self]
  rfl

/-- An answer to another call does not count. -/
theorem answers_heard_of_ne {call other : Call} (h : other ≠ call) (answer : other.Answer)
    (rest : List Exchanged) : answers call (s.heard other answer :: rest) = answers call rest :=
  answers_cons_of_ne h rest

/-- A call that failed answers nothing. -/
theorem answers_failed (call other : Call) (marketId : String) (cause : Failure) :
    answers call [⟨marketId, other, .error cause⟩] = [] := by
  by_cases h : other = call
  · subst h
    rw [answers, List.filterMap_cons, Exchanged.answer?_self]
    rfl
  · exact answers_cons_of_ne h []

/-! ## The call that is due -/

/-- A book that quotes a bid and an ask, with a spread that is in range. -/
structure Quotes (book : OrderBook) (bid ask : PriceLevel) : Prop where
  bestBid_eq : book.bestBid = some bid
  bestAsk_eq : book.bestAsk = some ask
  spread_ok : ∃ spread, ask.price.sub bid.price = .ok spread

/-- **The call that is due.**  After the order `last`, when the calls of a cycle so far were answered
with `reads`, the next call is `call`. -/
inductive Due (last : Option PlacedOrder) : (reads : List Exchanged) → (call : Call) → Prop
  /-- Every cycle begins with the book. -/
  | orderBook : Due last [] .orderBook
  /-- Nothing was placed before: a purchase is to be sized. -/
  | firstPrice {book : OrderBook} {bid ask : PriceLevel} :
      Quotes book bid ask → last = none → Due last [s.heard .orderBook book] .lastTradePrice
  /-- Something was placed: it may still be open. -/
  | openOrders {book : OrderBook} {bid ask : PriceLevel} {order : PlacedOrder} :
      Quotes book bid ask → last = some order → Due last [s.heard .orderBook book] .openOrders
  /-- A sale is filled: the next purchase is to be sized. -/
  | nextPrice {book : OrderBook} {bid ask : PriceLevel} {sold : PlacedOrder}
      {orders : List OpenOrder} :
      Quotes book bid ask → last = some sold → sold.side = .sell → (∀ o ∈ orders, o.id ≠ sold.id) →
      Due last [s.heard .orderBook book, s.heard .openOrders orders] .lastTradePrice
  /-- A purchase is filled: a sale is to be priced. -/
  | buyFeeRate {book : OrderBook} {bid ask : PriceLevel} {bought : PlacedOrder}
      {orders : List OpenOrder} :
      Quotes book bid ask → last = some bought → bought.side = .buy →
      (∀ o ∈ orders, o.id ≠ bought.id) →
      Due last [s.heard .orderBook book, s.heard .openOrders orders] .buyFeeRate
  /-- The fee of the purchase is known. -/
  | sellFeeRate {reads : List Exchanged} {buyRate : Decimal} :
      Due last reads .buyFeeRate → Due last (reads ++ [s.heard .buyFeeRate buyRate]) .sellFeeRate
  /-- A purchase is sized. -/
  | purchase {reads : List Exchanged} {book : OrderBook} {bid ask : PriceLevel}
      {lastPrice quantity : Decimal} :
      Due last reads .lastTradePrice → Quotes book bid ask → answers .orderBook reads = [book] →
      Pricing.quantityAtPrice s.budget lastPrice = .ok quantity →
      Due last (reads ++ [s.heard .lastTradePrice lastPrice]) (.submitOrder .buy quantity bid.price)
  /-- A sale is priced. -/
  | sale {reads : List Exchanged} {bought : PlacedOrder} {buyRate sellRate markup price : Decimal} :
      Due last reads .buyFeeRate → last = some bought →
      (FeeSchedule.mk buyRate sellRate).totalMarkup Pricing.profitMargin = .ok markup →
      Pricing.askFromBuy bought.price Pricing.profitMargin buyRate sellRate = .ok price →
      Due last (reads ++ [s.heard .buyFeeRate buyRate, s.heard .sellFeeRate sellRate])
        (.submitOrder .sell bought.quantity price)

/-- **A cycle that is over.**  After the order `last`, when the calls of a cycle were answered with
`reads`, it makes no further call and comes to `result`. -/
inductive Over (last : Option PlacedOrder) :
    (reads : List Exchanged) → (result : Except Halt Outcome) → Prop
  | emptyBids {book : OrderBook} :
      book.bids = [] → Over last [s.heard .orderBook book] (.ok (.skipped .emptyBids))
  | emptyAsks {book : OrderBook} :
      book.bids ≠ [] → book.asks = [] →
      Over last [s.heard .orderBook book] (.ok (.skipped .emptyAsks))
  | spread {book : OrderBook} {bid ask : PriceLevel} {cause : Overflow} :
      book.bestBid = some bid → book.bestAsk = some ask → ask.price.sub bid.price = .error cause →
      Over last [s.heard .orderBook book] (.error (.overflowed cause))
  /-- The last order is still open. -/
  | held {reads : List Exchanged} {order : PlacedOrder} {orders : List OpenOrder}
      {reason : HoldReason} :
      Due s last reads .openOrders → last = some order → (∃ o ∈ orders, o.id = order.id) →
      Over last (reads ++ [s.heard .openOrders orders]) (.ok (.holding reason))
  /-- The budget buys nothing that can be ordered. -/
  | unsized {reads : List Exchanged} {lastPrice : Decimal} {cause : Pricing.SizingError} :
      Due s last reads .lastTradePrice →
      Pricing.quantityAtPrice s.budget lastPrice = .error cause →
      Over last (reads ++ [s.heard .lastTradePrice lastPrice])
        (.error (.failed (.invalidResponse cause.message)))
  /-- A sale cannot be priced. -/
  | unpriced {reads : List Exchanged} {bought : PlacedOrder} {buyRate sellRate : Decimal}
      {cause : Overflow} :
      Due s last reads .buyFeeRate → last = some bought →
      ((FeeSchedule.mk buyRate sellRate).totalMarkup Pricing.profitMargin >>= fun _ =>
        Pricing.askFromBuy bought.price Pricing.profitMargin buyRate sellRate) = .error cause →
      Over last (reads ++ [s.heard .buyFeeRate buyRate, s.heard .sellFeeRate sellRate])
        (.error (.overflowed cause))
  /-- An order is submitted, and the exchange has taken it. -/
  | placed {reads : List Exchanged} {side : Side} {quantity price : Decimal} {id : OrderId} :
      Due s last reads (.submitOrder side quantity price) →
      Over last (reads ++ [s.heard (.submitOrder side quantity price) id])
        (.ok (.placed ⟨side, id, price, quantity⟩))

/-- The courses of a cycle: a call that was due fails, or the cycle is over. -/
inductive Ends (last : Option PlacedOrder) (transcript : List Exchanged)
    (result : Except Halt Outcome) : Prop
  | failed {reads : List Exchanged} {call : Call} {cause : Failure} (due : s.Due last reads call)
      (transcript_eq : transcript = reads ++ [⟨s.market.id, call, .error cause⟩])
      (result_eq : result = .error (.failed cause))
  | complete (complete : s.Over last transcript result)

variable {s} {last : Option PlacedOrder} {reads transcript : List Exchanged}
  {result : Except Halt Outcome}

/-- A call that is due fails, or the cycle goes on with its answer. -/
theorem ends_of_call {call : Call} {next : call.Answer → Dialogue Outcome}
    (due : s.Due last reads call) (h : Course (s.call call >>= next) transcript result)
    (hnext : ∀ answer rest, Course (next answer) rest result →
      s.Ends last (reads ++ s.heard call answer :: rest) result) :
    s.Ends last (reads ++ transcript) result := by
  rcases course_call_bind_iff.mp h with ⟨cause, rfl, rfl⟩ | ⟨answer, rest, rfl, hn⟩
  · exact .failed due rfl rfl
  · exact hnext answer rest hn

theorem ends_of_submit {side : Side} {quantity price : Decimal}
    (due : s.Due last reads (.submitOrder side quantity price))
    (h : Course (s.submit side quantity price) transcript result) :
    s.Ends last (reads ++ transcript) result := by
  refine ends_of_call due h fun id rest hn => ?_
  obtain ⟨rfl, rfl⟩ := course_pure_iff.mp hn
  exact .complete (.placed due)

theorem ends_of_buy {book : OrderBook} {bid ask : PriceLevel}
    (due : s.Due last reads .lastTradePrice) (hbook : Quotes book bid ask)
    (hheard : answers .orderBook reads = [book]) (h : Course (s.buy bid.price) transcript result) :
    s.Ends last (reads ++ transcript) result := by
  refine ends_of_call due h fun lastPrice rest hn => ?_
  cases hq : Pricing.quantityAtPrice s.budget lastPrice with
  | ok quantity =>
    rw [hq] at hn
    rw [List.append_cons]
    exact ends_of_submit (.purchase due hbook hheard hq) hn
  | error cause =>
    rw [hq] at hn
    obtain ⟨rfl, rfl⟩ := course_halt_iff.mp hn
    exact .complete (.unsized due hq)

theorem ends_of_sell {bought : PlacedOrder} (due : s.Due last reads .buyFeeRate)
    (hlast : last = some bought) (h : Course (s.sell bought) transcript result) :
    s.Ends last (reads ++ transcript) result := by
  refine ends_of_call due h fun buyRate rest hs => ?_
  rw [List.append_cons]
  refine ends_of_call (.sellFeeRate due) hs fun sellRate rest hm => ?_
  have hreads : reads ++ [s.heard .buyFeeRate buyRate] ++ s.heard .sellFeeRate sellRate :: rest =
      reads ++ [s.heard .buyFeeRate buyRate, s.heard .sellFeeRate sellRate] ++ rest := by simp
  rw [hreads]
  rcases course_ofArithmetic_bind_iff.mp hm with ⟨cause, hc, rfl, rfl⟩ | ⟨markup, hmarkup, ha⟩
  · rw [List.append_nil]
    exact .complete (.unpriced due hlast (by rw [hc]; rfl))
  rcases course_ofArithmetic_bind_iff.mp ha with ⟨cause, hc, rfl, rfl⟩ | ⟨price, hprice, hn⟩
  · rw [List.append_nil]
    exact .complete (.unpriced due hlast (by rw [hmarkup]; exact hc))
  exact ends_of_submit (.sale due hlast hmarkup hprice) hn

theorem ends_of_isFilled {order : PlacedOrder} {next : Bool → Dialogue Outcome}
    (due : s.Due last reads .openOrders)
    (h : Course (s.isFilled order >>= next) transcript result)
    (hnext : ∀ orders rest, Course (next !orders.any fun o => o.id = order.id) rest result →
      s.Ends last (reads ++ s.heard .openOrders orders :: rest) result) :
    s.Ends last (reads ++ transcript) result := by
  have hc : Course (s.call .openOrders >>= fun orders : List OpenOrder =>
      next !orders.any fun o => o.id = order.id) transcript result := h
  exact ends_of_call due hc hnext

/-- What the strategy does once the best prices are known. -/
theorem ends_of_act {book : OrderBook} {bid ask : PriceLevel} (hbook : Quotes book bid ask)
    (h : Course (s.act last bid.price ask.price) transcript result) :
    s.Ends last (s.heard .orderBook book :: transcript) result := by
  cases last with
  | none => exact ends_of_buy (.firstPrice hbook rfl) hbook rfl h
  | some order =>
    refine ends_of_isFilled (.openOrders hbook rfl) h fun orders rest hn => ?_
    cases hfilled : !orders.any fun o => o.id = order.id with
    | false =>
      have hopen : ∃ o ∈ orders, o.id = order.id := by simpa using hfilled
      cases hside : order.side <;> simp only [hside, hfilled] at hn <;>
        obtain ⟨rfl, rfl⟩ := course_pure_iff.mp hn <;>
        exact .complete (.held (.openOrders hbook rfl) rfl hopen)
    | true =>
      have hgone : ∀ o ∈ orders, o.id ≠ order.id := by simpa using hfilled
      rw [List.append_cons]
      cases hside : order.side <;> simp only [hside, hfilled] at hn
      · exact ends_of_sell (.buyFeeRate hbook rfl hside hgone) rfl hn
      · exact ends_of_buy (.nextPrice hbook rfl hside hgone) hbook rfl hn

/-- **A cycle ends with a call that was due and failed, or it is over.** -/
theorem ends_of_cycle (h : Course (s.cycle last) transcript result) :
    s.Ends last transcript result := by
  refine ends_of_call .orderBook h fun book rest hn => ?_
  cases hbid : book.bestBid with
  | none =>
    rw [hbid] at hn
    obtain ⟨rfl, rfl⟩ := course_pure_iff.mp hn
    exact .complete (.emptyBids (List.head?_eq_none_iff.mp hbid))
  | some bid =>
    have hbids : book.bids ≠ [] := fun hnil => by simp [OrderBook.bestBid, hnil] at hbid
    cases hask : book.bestAsk with
    | none =>
      rw [hbid, hask] at hn
      obtain ⟨rfl, rfl⟩ := course_pure_iff.mp hn
      exact .complete (.emptyAsks hbids (List.head?_eq_none_iff.mp hask))
    | some ask =>
      rw [hbid, hask] at hn
      have hspread : book.spread = (ask.price.sub bid.price).map some := by
        simp only [OrderBook.spread, hbid, hask]
      cases hsub : ask.price.sub bid.price with
      | error cause =>
        rw [hsub] at hspread
        simp only [hspread] at hn
        obtain ⟨rfl, rfl⟩ := course_halt_iff.mp hn
        exact .complete (.spread hbid hask hsub)
      | ok spread =>
        rw [hsub] at hspread
        simp only [hspread] at hn
        exact ends_of_act ⟨hbid, hask, spread, hsub⟩ hn

end Strategy

end ScalpBot
