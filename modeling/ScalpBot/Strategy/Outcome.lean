import ScalpBot.Market.Basic
import ScalpBot.Decimal.Text
import ScalpBot.Exchange.Failure

/-!
# Outcomes of a trade cycle

In each trade cycle the strategy places an order, holds because its order is still open, skips because
the book has an empty side, or defers because the exchange failed for the moment.
-/

namespace ScalpBot

/-- An order that the exchange has taken. -/
structure PlacedOrder where
  side : Side
  id : OrderId
  price : Decimal
  quantity : Decimal
deriving DecidableEq

/-- A line that shows the last order, for logs. -/
def PlacedOrder.describe (last : Option PlacedOrder) : String :=
  let line (id side price quantity : String) : String :=
    "OrderState [id=" ++ id ++ ", side=" ++ side ++ ", price=" ++ price ++ ", quantity="
      ++ quantity ++ "]"
  match last with
  | some o => line o.id.text o.side.name o.price.toText o.quantity.toText
  | none => line "-" "NONE" "0" "0"

/-- Where the best ask stands to the price of our own offer. -/
inductive AskPosition where
  | belowOurAsk
  | atOurAsk
  /-- The book should then show our offer, and does not. -/
  | aboveOurAsk
deriving DecidableEq, Repr

/-- Compares the best ask with the price of our own offer. -/
def AskPosition.classify (bestAsk ourAsk : Decimal) : AskPosition :=
  match bestAsk.compare ourAsk with
  | .lt => belowOurAsk
  | .eq => atOurAsk
  | .gt => aboveOurAsk

/-- Why a cycle ends without a decision. -/
inductive SkipReason where
  | emptyBids
  | emptyAsks
deriving DecidableEq, Repr

/-- Which order is still open. -/
inductive HoldReason where
  | buyNotFilled
  | sellNotFilled (position : AskPosition)
deriving DecidableEq, Repr

/-- What a trade cycle comes to. -/
inductive Outcome where
  | skipped (reason : SkipReason)
  | placed (order : PlacedOrder)
  | holding (reason : HoldReason)
  | deferred
deriving DecidableEq

/-- Whether an order was placed. -/
def Outcome.isPlaced : Outcome → Bool
  | placed _ => true
  | _ => false

/-- Why the strategy must stop. -/
inductive StrategyError where
  /-- Its settings are of no use. -/
  | configuration (detail : String)
  /-- The exchange failed for good. -/
  | exchange (cause : Failure)
deriving DecidableEq, Repr

/-- The wording of the cause. -/
def StrategyError.message : StrategyError → String
  | configuration detail => "Strategy configuration error: " ++ detail
  | exchange cause => "Exchange failure: " ++ cause.message

/-- How a trade cycle fails: in an orderly way, or because a result leaves the range of decimals. -/
inductive CycleFault where
  | stopped (cause : StrategyError)
  | overflowed (cause : Overflow)
deriving DecidableEq

end ScalpBot
