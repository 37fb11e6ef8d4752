import ScalpBot.Market.Basic
import ScalpBot.Exchange.Failure

/-!
# Talking to an exchange

A `Call` is one question to an exchange about one market, and `Call.Answer` the type of its answer. A
`Dialogue` is a computation that makes calls and goes on with their answers: it is data, so one can
reason about every course it may take. `Dialogue.run` holds it with an `Exchange`, which answers from a
state of its own, and keeps the transcript. A call that fails ends the dialogue with that failure.
-/

namespace ScalpBot

/-- A question to an exchange. -/
inductive Call where
  /-- What is on offer? -/
  | orderBook
  /-- Which orders of the account are not filled? -/
  | openOrders
  /-- At which price was the last trade? -/
  | lastTradePrice
  /-- Which part of its value does a purchase cost in fees? -/
  | buyFeeRate
  /-- Which part of its value does a sale cost in fees? -/
  | sellFeeRate
  /-- Will you take this order? -/
  | submitOrder (side : Side) (quantity price : Decimal)
deriving DecidableEq

/-- What answers a call. -/
abbrev Call.Answer : Call → Type
  | orderBook => OrderBook
  | openOrders => List OpenOrder
  | lastTradePrice | buyFeeRate | sellFeeRate => Decimal
  | submitOrder _ _ _ => OrderId

/-- A call and its reply. -/
structure Exchanged where
  /-- The market that the call is about. -/
  marketId : String
  call : Call
  reply : Except Failure call.Answer

/-- Somebody who answers calls, from a state that each call may change. -/
structure Exchange (σ : Type) where
  /-- The name shown in logs. -/
  name : String
  /-- The reply to a call, and the state after it. -/
  answer : (marketId : String) → (call : Call) → σ → Except Failure call.Answer × σ

/-- Why a dialogue ended early. -/
inductive Halt where
  /-- A call failed, or its answer was of no use. -/
  | failed (cause : Failure)
  /-- A result left the range of decimals. -/
  | overflowed (cause : Overflow)
deriving DecidableEq

/-- A computation that makes calls. -/
inductive Dialogue (α : Type) where
  /-- It is over and gives a value. -/
  | done (value : α)
  /-- It is over and gives none. -/
  | halt (cause : Halt)
  /-- It makes a call and goes on with the answer. -/
  | ask (marketId : String) (call : Call) (next : call.Answer → Dialogue α)

namespace Dialogue

variable {α β σ : Type}

/-- Goes on with `next` when `d` is done. -/
def bind (next : α → Dialogue β) : Dialogue α → Dialogue β
  | done a => next a
  | halt cause => halt cause
  | ask marketId call rest => ask marketId call fun answer => (rest answer).bind next

instance : Monad Dialogue where
  pure := done
  bind d next := d.bind next

/-- One call. -/
def call (marketId : String) (call : Call) : Dialogue call.Answer := ask marketId call done

/-- A result, or the end because it is out of range. -/
def ofArithmetic : Except Overflow α → Dialogue α
  | .ok a => done a
  | .error cause => halt (.overflowed cause)

/-- Holds a dialogue with an exchange in state `s`. Gives the result, the transcript in order, and the
state at the end. -/
def run (exchange : Exchange σ) : Dialogue α → σ → Except Halt α × List Exchanged × σ
  | done a, s => (.ok a, [], s)
  | halt cause, s => (.error cause, [], s)
  | ask marketId call next, s =>
    match exchange.answer marketId call s with
    | (.ok answer, s) =>
      let (result, transcript, s) := (next answer).run exchange s
      (result, ⟨marketId, call, .ok answer⟩ :: transcript, s)
    | (.error cause, s) => (.error (.failed cause), [⟨marketId, call, .error cause⟩], s)

end Dialogue

end ScalpBot
