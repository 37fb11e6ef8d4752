import ScalpBot.Proofs.Exchange.Course
import ScalpBot.Strategy.Scalping

/-!
# When the strategy submits an order

A trade cycle makes at most one submission, and it is the last call of the cycle.
`Strategy.Occasion` lists the reads after which it is made, and with which side, quantity and price:
the first purchase, the sale of what was bought, and the next purchase after a sale.

`Strategy.course_cycle` says that nothing else happens: each course of a cycle is quiet, without a
submission and without a placed order, or it is the reads of an occasion, the submission and its
reply. All that is known about orders, however the exchange behaves, follows from it.
-/

namespace ScalpBot

open Dialogue

namespace Strategy

variable (s : Strategy)

/-- A call about the market of the strategy that was answered. -/
def heard (call : Call) (answer : call.Answer) : Exchanged := ⟨s.market.id, call, .ok answer⟩

/-- A submission with its reply. -/
def submission (side : Side) (quantity price : Decimal) (reply : Except Failure OrderId) :
    Exchanged :=
  ⟨s.market.id, .submitOrder side quantity price, reply⟩

/-- What a cycle comes to that ends with a submission. -/
def submissionEnd (side : Side) (quantity price : Decimal) :
    Except Failure OrderId → Except Halt Outcome
  | .ok id => .ok (.placed ⟨side, id, price, quantity⟩)
  | .error cause => .error (.failed cause)

/-- **The occasions to submit an order.**  After the order `last`, the calls `reads` of a cycle are
followed by the submission of an order with this side, quantity and price. -/
inductive Occasion : (last : Option PlacedOrder) → (reads : List Exchanged) → (side : Side) →
    (quantity price : Decimal) → Prop
  /-- Nothing was placed before: the budget is spent at the best bid. -/
  | first {book : OrderBook} {bid : PriceLevel} {lastPrice quantity : Decimal} :
      book.bestBid = some bid → Pricing.quantityAtPrice s.budget lastPrice = .ok quantity →
      Occasion none [s.heard .orderBook book, s.heard .lastTradePrice lastPrice]
        .buy quantity bid.price
  /-- A purchase is no longer open: what it brought in is sold. -/
  | sale {bought : PlacedOrder} {book : OrderBook} {orders : List OpenOrder}
      {buyRate sellRate ask : Decimal} :
      bought.side = .buy → (∀ o ∈ orders, o.id ≠ bought.id) →
      Pricing.askFromBuy bought.price Pricing.profitMargin buyRate sellRate = .ok ask →
      Occasion (some bought) [s.heard .orderBook book, s.heard .openOrders orders,
        s.heard .buyFeeRate buyRate, s.heard .sellFeeRate sellRate] .sell bought.quantity ask
  /-- A sale is no longer open: the budget is spent at the best bid. -/
  | purchase {sold : PlacedOrder} {book : OrderBook} {bid : PriceLevel} {orders : List OpenOrder}
      {lastPrice quantity : Decimal} :
      sold.side = .sell → (∀ o ∈ orders, o.id ≠ sold.id) → book.bestBid = some bid →
      Pricing.quantityAtPrice s.budget lastPrice = .ok quantity →
      Occasion (some sold) [s.heard .orderBook book, s.heard .openOrders orders,
        s.heard .lastTradePrice lastPrice] .buy quantity bid.price

/-- A course without a submission, at whose end no order is placed. -/
structure Quiet (transcript : List Exchanged) (result : Except Halt Outcome) : Prop where
  reads : ∀ e ∈ transcript, e.isSubmission = false
  not_placed : ∀ order, result ≠ .ok (.placed order)

variable {s} {transcript : List Exchanged} {result : Except Halt Outcome}

@[simp] theorem isSubmission_heard (call : Call) (answer : call.Answer) :
    (s.heard call answer).isSubmission = call.isSubmission := rfl

theorem Quiet.cons {e : Exchanged} (he : e.isSubmission = false) (h : Quiet transcript result) :
    Quiet (e :: transcript) result :=
  ⟨List.forall_mem_cons.mpr ⟨he, h.reads⟩, h.not_placed⟩

theorem Quiet.halted (cause : Halt) : Quiet [] (.error cause) :=
  ⟨by simp, by simp⟩

/-- A cycle makes calls about the market of the strategy only. -/
theorem about_cycle (last : Option PlacedOrder) : (s.cycle last).About s.market.id := by
  have hbuy : ∀ bid, (s.buy bid).About s.market.id := by
    refine fun bid => about_bind (about_call ..) fun lastPrice => ?_
    split
    · exact about_bind (about_call ..) fun _ => trivial
    · trivial
  have hsell : ∀ bought, (s.sell bought).About s.market.id := fun bought =>
    about_bind (about_call ..) fun _ => about_bind (about_call ..) fun _ =>
      about_bind (about_ofArithmetic _) fun _ => about_bind (about_ofArithmetic _) fun _ =>
        about_bind (about_call ..) fun _ => trivial
  have hact : ∀ bid ask, (s.act last bid ask).About s.market.id := by
    intro bid ask
    cases last with
    | none => exact hbuy bid
    | some order =>
      refine about_bind (about_bind (about_call ..) fun _ => trivial) fun filled => ?_
      split
      · exact hsell order
      · trivial
      · exact hbuy bid
      · trivial
  refine about_bind (about_call ..) fun book => ?_
  split
  · trivial
  · trivial
  · exact about_bind (about_ofArithmetic _) fun _ => hact ..

/-! ## The courses of the parts of a cycle -/

theorem course_submit {side : Side} {quantity price : Decimal}
    (h : Course (s.submit side quantity price) transcript result) :
    ∃ reply, transcript = [s.submission side quantity price reply] ∧
      result = submissionEnd side quantity price reply := by
  rcases course_call_bind_iff.mp h with ⟨cause, rfl, rfl⟩ | ⟨id, rest, rfl, hn⟩
  · exact ⟨.error cause, rfl, rfl⟩
  · obtain ⟨rfl, rfl⟩ := course_pure_iff.mp hn
    exact ⟨.ok id, rfl, rfl⟩

/-- A read that fails makes a course quiet. -/
theorem course_read_bind {call : Call} {next : call.Answer → Dialogue Outcome}
    (hcall : call.isSubmission = false) (h : Course (s.call call >>= next) transcript result) :
    Quiet transcript result ∨
    ∃ answer rest, transcript = s.heard call answer :: rest ∧
      Course (next answer) rest result := by
  rcases course_call_bind_iff.mp h with ⟨cause, rfl, rfl⟩ | ⟨answer, rest, rfl, hn⟩
  · exact .inl (.cons hcall (.halted _))
  · exact .inr ⟨answer, rest, rfl, hn⟩

/-- A purchase asks for the last trade price, and submits where the budget can be sized with it. -/
theorem course_buy {bid : Decimal} (h : Course (s.buy bid) transcript result) :
    Quiet transcript result ∨
    ∃ lastPrice quantity reply, Pricing.quantityAtPrice s.budget lastPrice = .ok quantity ∧
      transcript = [s.heard .lastTradePrice lastPrice, s.submission .buy quantity bid reply] ∧
      result = submissionEnd .buy quantity bid reply := by
  rcases course_read_bind rfl h with hq | ⟨lastPrice, rest, rfl, hn⟩
  · exact .inl hq
  · cases hq : Pricing.quantityAtPrice s.budget lastPrice with
    | ok quantity =>
      rw [hq] at hn
      obtain ⟨reply, rfl, rfl⟩ := course_submit hn
      exact .inr ⟨lastPrice, quantity, reply, hq, rfl, rfl⟩
    | error cause =>
      rw [hq] at hn
      obtain ⟨rfl, rfl⟩ := course_halt_iff.mp hn
      exact .inl (.cons rfl (.halted _))

/-- A sale asks for both fee rates, and submits where the price is in range. -/
theorem course_sell {bought : PlacedOrder} (h : Course (s.sell bought) transcript result) :
    Quiet transcript result ∨
    ∃ buyRate sellRate ask reply,
      Pricing.askFromBuy bought.price Pricing.profitMargin buyRate sellRate = .ok ask ∧
      transcript = [s.heard .buyFeeRate buyRate, s.heard .sellFeeRate sellRate,
        s.submission .sell bought.quantity ask reply] ∧
      result = submissionEnd .sell bought.quantity ask reply := by
  rcases course_read_bind rfl h with hq | ⟨buyRate, rest, rfl, hs⟩
  · exact .inl hq
  rcases course_read_bind rfl hs with hq | ⟨sellRate, rest, rfl, hm⟩
  · exact .inl (.cons rfl hq)
  rcases course_ofArithmetic_bind_iff.mp hm with ⟨cause, _, rfl, rfl⟩ | ⟨markup, _, ha⟩
  · exact .inl (.cons rfl (.cons rfl (.halted _)))
  rcases course_ofArithmetic_bind_iff.mp ha with ⟨cause, _, rfl, rfl⟩ | ⟨ask, hask, hn⟩
  · exact .inl (.cons rfl (.cons rfl (.halted _)))
  obtain ⟨reply, rfl, rfl⟩ := course_submit hn
  exact .inr ⟨buyRate, sellRate, ask, reply, hask, rfl, rfl⟩

/-- Before anything else the open orders tell whether the last order is filled. -/
theorem course_isFilled_bind {order : PlacedOrder} {next : Bool → Dialogue Outcome}
    (h : Course (s.isFilled order >>= next) transcript result) :
    Quiet transcript result ∨
    ∃ orders rest, transcript = s.heard .openOrders orders :: rest ∧
      Course (next !orders.any fun o => o.id = order.id) rest result := by
  have hc : Course (s.call .openOrders >>= fun orders : List OpenOrder =>
      next !orders.any fun o => o.id = order.id) transcript result := h
  exact course_read_bind rfl hc

/-! ## The courses of a cycle -/

/-- The courses that end with a submission, made on an occasion. -/
inductive Submits (s : Strategy) (last : Option PlacedOrder) :
    List Exchanged → Except Halt Outcome → Prop
  | intro {reads : List Exchanged} {side : Side} {quantity price : Decimal}
      (occasion : s.Occasion last reads side quantity price) (reply : Except Failure OrderId) :
      Submits s last (reads ++ [s.submission side quantity price reply])
        (submissionEnd side quantity price reply)

/-- What the strategy does once the best prices are known. -/
theorem course_act {last : Option PlacedOrder} {book : OrderBook} {bid : PriceLevel}
    {bestAsk : Decimal} (hbid : book.bestBid = some bid)
    (h : Course (s.act last bid.price bestAsk) transcript result) :
    Quiet transcript result ∨ s.Submits last (s.heard .orderBook book :: transcript) result := by
  cases last with
  | none =>
    rcases course_buy h with hq | ⟨lastPrice, quantity, reply, hq, rfl, rfl⟩
    · exact .inl hq
    · exact .inr (.intro (.first hbid hq) reply)
  | some order =>
    rcases course_isFilled_bind h with hq | ⟨orders, rest, rfl, hn⟩
    · exact .inl hq
    cases hside : order.side <;> cases hfilled : !orders.any fun o => o.id = order.id <;>
      simp only [hside, hfilled] at hn
    · obtain ⟨rfl, rfl⟩ := course_pure_iff.mp hn
      exact .inl (.cons rfl ⟨by simp, by simp⟩)
    · rcases course_sell hn with hq | ⟨buyRate, sellRate, ask, reply, hask, rfl, rfl⟩
      · exact .inl (.cons rfl hq)
      · exact .inr (.intro (.sale hside (by simpa using hfilled) hask) reply)
    · obtain ⟨rfl, rfl⟩ := course_pure_iff.mp hn
      exact .inl (.cons rfl ⟨by simp, by simp⟩)
    · rcases course_buy hn with hq | ⟨lastPrice, quantity, reply, hq, rfl, rfl⟩
      · exact .inl (.cons rfl hq)
      · exact .inr (.intro (.purchase hside (by simpa using hfilled) hbid hq) reply)

/-- **A cycle is quiet or ends with the submission of an order on an occasion.** -/
theorem course_cycle {last : Option PlacedOrder}
    (h : Course (s.cycle last) transcript result) :
    Quiet transcript result ∨ s.Submits last transcript result := by
  rcases course_read_bind rfl h with hq | ⟨book, rest, rfl, hn⟩
  · exact .inl hq
  cases hbid : book.bestBid with
  | none =>
    rw [hbid] at hn
    obtain ⟨rfl, rfl⟩ := course_pure_iff.mp hn
    exact .inl (.cons rfl ⟨by simp, by simp⟩)
  | some bid =>
    cases hask : book.bestAsk with
    | none =>
      rw [hbid, hask] at hn
      obtain ⟨rfl, rfl⟩ := course_pure_iff.mp hn
      exact .inl (.cons rfl ⟨by simp, by simp⟩)
    | some ask =>
      rw [hbid, hask] at hn
      rcases course_ofArithmetic_bind_iff.mp hn with ⟨cause, _, rfl, rfl⟩ | ⟨spread, _, ha⟩
      · exact .inl (.cons rfl (.halted _))
      exact (course_act hbid ha).imp_left (.cons rfl)

end Strategy

end ScalpBot
