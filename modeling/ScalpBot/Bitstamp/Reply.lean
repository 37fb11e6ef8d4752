import ScalpBot.Market.Json
import ScalpBot.Json.Writer

/-!
# Replies of the exchange

The shapes in which the exchange sends its order book, ticker, orders, balance and errors, each read
from JSON and written to it. Numbers come as texts; names and type codes as texts or numbers.
-/

namespace ScalpBot.Bitstamp

open Json

/-- A name or code that is sent as a text or as a number. -/
inductive Label where
  | text (s : String)
  | number (n : Nat)
deriving DecidableEq, Repr

namespace Label

/-- Reads a label: a text, or an integer from 0 to `2 ^ 64 - 1`. -/
def ofJson : Decoder Label
  | .string s => .ok (.text s)
  | .number (.integer n) =>
    if 0 ≤ n && n < 2 ^ 64 then .ok (.number n.toNat) else .error (.noVariant "StringOrNumber")
  | _ => .error (.noVariant "StringOrNumber")

/-- The label in its own form. -/
def toJson : Label → Json
  | text s => .string s
  | number n => .ofInt n

/-- The text of a label: a number and its digits are the same label. -/
def toText : Label → String
  | text s => s
  | number n => toString n

end Label

/-- Writes a text that may be missing. -/
def optionalText (s : Option String) : Json := .ofOption Json.string s

/-- A price and an amount, as sent. -/
structure BookLevel where
  price : String
  amount : String
deriving DecidableEq, Repr

namespace BookLevel

/-- The two items of a level. -/
def fields : Fields Json DecodeError BookLevel :=
  Fields.start BookLevel.mk
    |>.field (.required "0" decodeString)
    |>.field (.required "1" decodeString)

/-- Reads a level, which is always an array. -/
def ofJson : Decoder BookLevel
  | .array items => decodeItems "tuple struct BookLevel" fields items
  | v => v.mismatch "tuple struct BookLevel"

/-- A level as an array. -/
def toJson (l : BookLevel) : Json := .array [.string l.price, .string l.amount]

end BookLevel

/-- The order book, as sent. -/
structure OrderBookReply where
  timestamp : String
  microtimestamp : Option String
  bids : List BookLevel
  asks : List BookLevel
deriving DecidableEq, Repr

namespace OrderBookReply

/-- The fields of the order book. -/
def fields : Fields Json DecodeError OrderBookReply :=
  Fields.start OrderBookReply.mk
    |>.field (.required "timestamp" decodeString)
    |>.field (.optional format "microtimestamp" decodeString)
    |>.field (.withDefault "bids" [] (decodeList BookLevel.ofJson))
    |>.field (.withDefault "asks" [] (decodeList BookLevel.ofJson))

/-- Reads an order book. -/
def ofJson : Decoder OrderBookReply := decodeRecord "OrderBookResponse" fields

/-- An order book as an object. -/
def toJson (r : OrderBookReply) : Json :=
  .ofMembers [("timestamp", .string r.timestamp), ("microtimestamp", optionalText r.microtimestamp),
    ("bids", .array (r.bids.map (·.toJson))), ("asks", .array (r.asks.map (·.toJson)))]

end OrderBookReply

/-- The latest prices, as sent. -/
structure TickerReply where
  last : String
  bid : Option String
  ask : Option String
  timestamp : Option String
deriving DecidableEq, Repr

namespace TickerReply

/-- The fields of the ticker. -/
def fields : Fields Json DecodeError TickerReply :=
  Fields.start TickerReply.mk
    |>.field (.required "last" decodeString)
    |>.field (.optional format "bid" decodeString)
    |>.field (.optional format "ask" decodeString)
    |>.field (.optional format "timestamp" decodeString)

/-- Reads a ticker. -/
def ofJson : Decoder TickerReply := decodeRecord "TickerResponse" fields

/-- A ticker as an object. -/
def toJson (r : TickerReply) : Json :=
  .ofMembers [("last", .string r.last), ("bid", optionalText r.bid), ("ask", optionalText r.ask),
    ("timestamp", optionalText r.timestamp)]

end TickerReply

/-- An open order, as sent. -/
structure OpenOrderReply where
  id : Label
  datetime : String
  /-- `0` for a purchase, `1` for a sale. -/
  orderType : Label
  price : String
  amount : String
  currencyPair : Option String
deriving DecidableEq, Repr

namespace OpenOrderReply

/-- The fields of an open order. -/
def fields : Fields Json DecodeError OpenOrderReply :=
  Fields.start OpenOrderReply.mk
    |>.field (.required "id" Label.ofJson)
    |>.field (.required "datetime" decodeString)
    |>.field (.required "type" Label.ofJson)
    |>.field (.required "price" decodeString)
    |>.field (.required "amount" decodeString)
    |>.field (.optional format "currency_pair" decodeString)

/-- Reads an open order. -/
def ofJson : Decoder OpenOrderReply := decodeRecord "OpenOrderResponse" fields

/-- An open order as an object. -/
def toJson (r : OpenOrderReply) : Json :=
  .ofMembers [("id", r.id.toJson), ("datetime", .string r.datetime), ("type", r.orderType.toJson),
    ("price", .string r.price), ("amount", .string r.amount),
    ("currency_pair", optionalText r.currencyPair)]

end OpenOrderReply

/-- An order that was taken, as sent. -/
structure OrderReply where
  id : Label
  datetime : Option String
  orderType : Option Label
  price : Option String
  amount : Option String
deriving DecidableEq, Repr

namespace OrderReply

/-- The fields of an order. -/
def fields : Fields Json DecodeError OrderReply :=
  Fields.start OrderReply.mk
    |>.field (.required "id" Label.ofJson)
    |>.field (.optional format "datetime" decodeString)
    |>.field (.optional format "type" Label.ofJson)
    |>.field (.optional format "price" decodeString)
    |>.field (.optional format "amount" decodeString)

/-- Reads an order. -/
def ofJson : Decoder OrderReply := decodeRecord "OrderResponse" fields

/-- An order as an object. -/
def toJson (r : OrderReply) : Json :=
  .ofMembers [("id", r.id.toJson), ("datetime", optionalText r.datetime),
    ("type", .ofOption Label.toJson r.orderType), ("price", optionalText r.price),
    ("amount", optionalText r.amount)]

end OrderReply

/-- The balance of the account, as sent: a fee for all markets, and all other members as they are. -/
structure BalanceReply where
  fee : Option String
  /-- The members of the object other than `fee`, in order. -/
  other : List (String × Json)

namespace BalanceReply

/-- Reads a balance, which is always an object. -/
def ofJson : Decoder BalanceReply
  | .object members => do
    let fee ← match members.lookup "fee" with
      | some v => decodeOption decodeString v
      | none => .ok none
    return ⟨fee, members.filter (·.1 ≠ "fee")⟩
  | v => v.mismatch "struct BalanceResponse"

/-- A balance as an object. -/
def toJson (r : BalanceReply) : Json := .ofMembers (("fee", optionalText r.fee) :: r.other)

/-- The fee in percent for a market: the fee for all markets, else the market's own. -/
def feeFor (r : BalanceReply) (marketId : String) : Option String :=
  match r.fee with
  | some fee => some fee
  | none =>
    match r.other.lookup (marketId ++ "_fee") with
    | some (.string s) => some s
    | some (.number n) => some n.toText
    | _ => none

end BalanceReply

/-- A rejection, as sent. -/
structure ErrorReply where
  status : String
  reason : Json
  code : Option String

namespace ErrorReply

/-- The fields of a rejection. -/
def fields : Fields Json DecodeError ErrorReply :=
  Fields.start ErrorReply.mk
    |>.field (.required "status" decodeString)
    |>.field (.withDefault "reason" .null .ok)
    |>.field (.optional format "code" decodeString)

/-- Reads a rejection. -/
def ofJson : Decoder ErrorReply := decodeRecord "ErrorResponse" fields

/-- A rejection as an object. -/
def toJson (r : ErrorReply) : Json :=
  .ofMembers [("status", .string r.status), ("reason", r.reason), ("code", optionalText r.code)]

/-- The rejection that a value is: an object whose status is `error` and whose other members fit. -/
def ofValue? (v : Json) : Option ErrorReply :=
  match v.member? "status" with
  | some (.string "error") => (ofJson v).toOption
  | _ => none

/-- What a rejection says. -/
def message (r : ErrorReply) : String :=
  let reason := match r.reason with
    | .string s => s
    | .null => "no reason given"
    | other => other.toText
  match r.code with
  | some code => reason ++ " (" ++ code ++ ")"
  | none => reason

end ErrorReply

end ScalpBot.Bitstamp
