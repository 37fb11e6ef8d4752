import ScalpBot.Exchange.Call

/-!
# Dry runs

In a dry run orders are not sent. `Exchange.dryRun` passes every other call on to an exchange and takes
orders itself: it gives each a fresh name and keeps them, oldest first. `Exchange.live` is the exchange
when there is no dry run, over the same state.
-/

namespace ScalpBot

/-- An order that was taken in a dry run. -/
structure SimulatedOrder where
  id : OrderId
  marketId : String
  side : Side
  quantity : Decimal
  price : Decimal
deriving DecidableEq

namespace SimulatedOrder

/-- What the names of simulated orders begin with. -/
def idPrefix : String := "DRY-"

end SimulatedOrder

/-- The state of a dry run. -/
structure DryRun (σ : Type) where
  /-- The state of the exchange behind it. -/
  inner : σ
  /-- The orders taken, oldest first. -/
  submitted : List SimulatedOrder

namespace DryRun

/-- Takes an order under the name `id`. -/
def record {σ : Type} (run : DryRun σ) (order : SimulatedOrder) : DryRun σ :=
  { run with submitted := run.submitted ++ [order] }

end DryRun

/-- The exchange of a dry run. `fresh n` is the part of an order's name that tells it from the others
when `n` orders have been taken before. -/
def Exchange.dryRun {σ : Type} (fresh : Nat → String) (inner : Exchange σ) :
    Exchange (DryRun σ) where
  name := inner.name
  answer marketId call run :=
    match call with
    | .submitOrder side quantity price =>
      let id : OrderId := ⟨SimulatedOrder.idPrefix ++ fresh run.submitted.length⟩
      (.ok id, run.record ⟨id, marketId, side, quantity, price⟩)
    | .orderBook => forward marketId .orderBook run
    | .openOrders => forward marketId .openOrders run
    | .lastTradePrice => forward marketId .lastTradePrice run
    | .buyFeeRate => forward marketId .buyFeeRate run
    | .sellFeeRate => forward marketId .sellFeeRate run
where
  /-- Passes a call on. -/
  forward (marketId : String) (call : Call) (run : DryRun σ) :
      Except Failure call.Answer × DryRun σ :=
    let (reply, world) := inner.answer marketId call run.inner
    (reply, { run with inner := world })

/-- An exchange without a dry run: all calls are passed on. -/
def Exchange.live {σ : Type} (inner : Exchange σ) : Exchange (DryRun σ) where
  name := inner.name
  answer marketId call run := Exchange.dryRun.forward inner marketId call run

end ScalpBot
