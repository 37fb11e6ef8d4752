import ScalpBot.Exchange.Call
import ScalpBot.Strategy.Outcome
import ScalpBot.Strategy.Pricing
import ScalpBot.Text.Blank

/-!
# The scalping strategy

The strategy works with one order at a time. It buys at the best bid, waits until the order is filled,
sells what it bought at the price that it paid with both fee rates and a margin on top, waits again, and
starts over. All it remembers is its last order; an order counts as filled when the exchange no longer lists
it as open.

`Strategy.cycle` is the dialogue of one trade cycle, `Strategy.execute` holds it with an exchange and
settles its end: a transient failure defers to the next cycle, any other failure stops the strategy.
`Strategy.run` is a number of cycles in a row, and `Strategy.advance` one cycle of an engine.

A cycle is the one of a bot that logs at `INFO`, which is the default. Two results are computed for the log
alone, the spread of the book and the markup of a sale, and a cycle can overflow there. Logged at `WARN` or
`ERROR` only, it does not compute them.
-/

namespace ScalpBot

/-- What the strategy trades, and for how much. -/
structure Strategy where
  market : Market
  /-- The counter currency to spend on each purchase. -/
  budget : Decimal
  budget_pos : budget.isPositive = true

namespace Strategy

/-! ## Settings -/

/-- The setting that holds the budget. -/
def amountKey : String := "counter-currency-buy-order-amount"

/-- Why the budget is of no use. -/
inductive BudgetError where
  | missing
  | notANumber (text : String) (cause : Decimal.ParseError)
  | notPositive (amount : Decimal)
deriving DecidableEq

/-- The wording of the cause. -/
def BudgetError.message : BudgetError → String
  | missing => "Mandatory " ++ amountKey ++ " value missing in strategy config"
  | notANumber text cause =>
    amountKey ++ " value '" ++ text ++ "' is not a number: " ++ cause.message
  | notPositive amount => amountKey ++ " must be positive, got " ++ amount.toText

/-- The strategy for a market with the budget that `setting?` holds. -/
def init (market : Market) (setting? : String → Option String) : Except BudgetError Strategy :=
  match setting? amountKey with
  | none => .error .missing
  | some text =>
    match Decimal.parse (trimmed text) with
    | .error cause => .error (.notANumber text cause)
    | .ok budget =>
      if h : budget.isPositive = true then .ok ⟨market, budget, h⟩
      else .error (.notPositive budget)

/-! ## One trade cycle -/

variable (s : Strategy)

/-- A call about the market of the strategy. -/
def call (c : Call) : Dialogue c.Answer := Dialogue.call s.market.id c

/-- Submits an order. -/
def submit (side : Side) (quantity price : Decimal) : Dialogue Outcome := do
  let id ← s.call (.submitOrder side quantity price)
  return .placed ⟨side, id, price, quantity⟩

/-- Spends the budget on an order at the best bid. -/
def buy (bestBid : Decimal) : Dialogue Outcome := do
  let lastPrice ← s.call .lastTradePrice
  match Pricing.quantityAtPrice s.budget lastPrice with
  | .ok quantity => s.submit .buy quantity bestBid
  | .error cause => .halt (.failed (.invalidResponse cause.message))

/-- Sells what `bought` brought in. The markup is computed for what is logged at `INFO`, the default; the ask
adds it up anew. -/
def sell (bought : PlacedOrder) : Dialogue Outcome := do
  let buyRate ← s.call .buyFeeRate
  let sellRate ← s.call .sellFeeRate
  let _markup ← Dialogue.ofArithmetic
    ((FeeSchedule.mk buyRate sellRate).totalMarkup Pricing.profitMargin)
  let ask ← Dialogue.ofArithmetic
    (Pricing.askFromBuy bought.price Pricing.profitMargin buyRate sellRate)
  s.submit .sell bought.quantity ask

/-- Whether an order is no longer listed as open. -/
def isFilled (order : PlacedOrder) : Dialogue Bool := do
  let openOrders ← s.call .openOrders
  return !openOrders.any fun o => o.id = order.id

/-- Acts on the last order, given the best prices. -/
def act (last : Option PlacedOrder) (bestBid bestAsk : Decimal) : Dialogue Outcome :=
  match last with
  | none => s.buy bestBid
  | some order => do
    let filled ← s.isFilled order
    match order.side, filled with
    | .buy, true => s.sell order
    | .buy, false => return .holding .buyNotFilled
    | .sell, true => s.buy bestBid
    | .sell, false => return .holding (.sellNotFilled (.classify bestAsk order.price))

/-- One trade cycle after the order `last`, logged at `INFO`, the default: the spread is computed for what is
logged. -/
def cycle (last : Option PlacedOrder) : Dialogue Outcome := do
  let book ← s.call .orderBook
  match book.bestBid, book.bestAsk with
  | none, _ => return .skipped .emptyBids
  | some _, none => return .skipped .emptyAsks
  | some bid, some ask => do
    let _spread ← Dialogue.ofArithmetic book.spread
    s.act last bid.price ask.price

/-! ## Running -/

/-- What the end of a cycle's dialogue means to the strategy. -/
def settle : Except Halt Outcome → Except CycleFault Outcome
  | .ok outcome => .ok outcome
  | .error (.overflowed cause) => .error (.overflowed cause)
  | .error (.failed cause) =>
    match cause.failureClass with
    | .transient => .ok .deferred
    | .nonRecoverable => .error (.stopped (.exchange cause))

/-- The last order after a cycle: only a placed order is remembered. -/
def remember (last : Option PlacedOrder) : Except CycleFault Outcome → Option PlacedOrder
  | .ok (.placed order) => some order
  | _ => last

/-- A trade cycle that has been run. -/
structure Executed (σ : Type) where
  result : Except CycleFault Outcome
  /-- The calls that were made, in order. -/
  transcript : List Exchanged
  /-- The last order after the cycle. -/
  last : Option PlacedOrder
  /-- The state of the exchange after the cycle. -/
  world : σ

/-- Runs one trade cycle. -/
def execute {σ : Type} (exchange : Exchange σ) (last : Option PlacedOrder) (world : σ) :
    Executed σ :=
  let (ended, transcript, world) := (s.cycle last).run exchange world
  let result := settle ended
  ⟨result, transcript, remember last result, world⟩

/-- Runs as many trade cycles as `count` says, whatever their results. -/
def run {σ : Type} (exchange : Exchange σ) :
    (count : Nat) → (last : Option PlacedOrder) → (world : σ) → List (Executed σ)
  | 0, _, _ => []
  | count + 1, last, world =>
    let cycle := s.execute exchange last world
    cycle :: run exchange count cycle.last cycle.world

/-- How far a strategy has come. -/
structure Progress (σ : Type) where
  /-- The last order. -/
  last : Option PlacedOrder := none
  /-- The state of the exchange. -/
  world : σ
  /-- All calls that were made, in order. -/
  transcript : List Exchanged := []

/-- Runs the next trade cycle: one step of the strategy, as an engine takes it. -/
def advance {σ : Type} (exchange : Exchange σ) (p : Progress σ) :
    Except CycleFault Outcome × Progress σ :=
  let cycle := s.execute exchange p.last p.world
  (cycle.result, ⟨cycle.last, cycle.world, p.transcript ++ cycle.transcript⟩)

end Strategy

end ScalpBot
