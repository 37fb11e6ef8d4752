import ScalpBot.Decimal.Arithmetic
import ScalpBot.Time.Calendar

/-!
# Markets and their orders

The bot trades in one `Market`, a pair of currencies. The exchange shows an `OrderBook` of price
levels, best price first, and lists the `OpenOrder`s of the account.
-/

namespace ScalpBot

/-- A pair of currencies that is traded. -/
structure Market where
  /-- The exchange's name for the pair, such as `ltcbtc`. -/
  id : String
  /-- The name shown to people. -/
  name : String
  /-- What is bought and sold. -/
  baseCurrency : String
  /-- What prices are given in. -/
  counterCurrency : String
deriving DecidableEq, Repr

/-- Which way an order goes. -/
inductive Side where
  | buy
  | sell
deriving DecidableEq, Repr

/-- The name of a side. -/
def Side.name : Side → String
  | buy => "BUY"
  | sell => "SELL"

/-- The name that the exchange gives to an order. -/
structure OrderId where
  text : String
deriving DecidableEq, Repr

/-- A price and the quantity on offer at it. -/
structure PriceLevel where
  price : Decimal
  quantity : Decimal
deriving DecidableEq

/-- What is on offer in a market. -/
structure OrderBook where
  marketId : String
  /-- Offers to buy, the highest first. -/
  bids : List PriceLevel
  /-- Offers to sell, the lowest first. -/
  asks : List PriceLevel
  timestamp : Instant
deriving DecidableEq

namespace OrderBook

/-- The offer to buy that stands first. -/
def bestBid (book : OrderBook) : Option PriceLevel := book.bids.head?

/-- The offer to sell that stands first. -/
def bestAsk (book : OrderBook) : Option PriceLevel := book.asks.head?

/-- How far the best ask lies above the best bid. A book with an empty side has no spread. -/
def spread (book : OrderBook) : Except Overflow (Option Decimal) :=
  match book.bestAsk, book.bestBid with
  | some ask, some bid => (ask.price.sub bid.price).map some
  | _, _ => .ok none

end OrderBook

/-- An order of the account that is not yet filled. -/
structure OpenOrder where
  id : OrderId
  marketId : String
  side : Side
  price : Decimal
  quantity : Decimal
  createdAt : Option Instant
deriving DecidableEq

end ScalpBot
