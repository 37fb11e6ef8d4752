import ScalpBot.Market.Basic
import ScalpBot.Decimal.Text
import ScalpBot.Time.Text
import ScalpBot.Json.Decode

/-!
# Markets and orders in JSON

Every type of a market is read from JSON and written to it. A decimal is written as a string, so that
it keeps its places, and read from a string or a number; an instant is a string with a date, a time and an
offset.
-/

namespace ScalpBot

open Json

/-! ## Decimals and instants -/

namespace Decimal

/-- What a value should be that is read as a decimal. -/
def expectation : String := "a Decimal type representing a fixed-point number"

/-- The decimal that a text or the plain digits of a number write. -/
def ofJson (v : Json) : Except DecodeError Decimal :=
  let text? := match v with
    | .string s => some s
    | .number (.integer n) => some (toString n)
    | .number (.float x) => some (x.toText .plain)
    | _ => none
  match text? with
  | none => v.mismatch expectation
  | some text =>
    match parse text with
    | .ok a => .ok a
    | .error _ => .error (.invalidValue v.description expectation)

/-- A decimal with all its places. -/
def toJson (a : Decimal) : Json := .string a.toText

end Decimal

namespace Instant

/-- The instant that a text writes. -/
def ofJson : Json → Except DecodeError Instant
  | .string s =>
    match parse s with
    | .ok t => .ok t
    | .error cause => .error (.other cause.message)
  | v => v.mismatch "an RFC 3339 formatted date and time string"

/-- An instant in UTC. -/
def toJson (t : Instant) : Json := .string t.toText

end Instant

/-- A value or `null`. -/
def Json.ofOption {α : Type} (encode : α → Json) : Option α → Json
  | some a => encode a
  | none => .null

/-! ## Markets -/

namespace Market

/-- The fields of a market. -/
def fields {V ε : Type} [RecordError ε] (f : Format V ε) : Fields V ε Market :=
  Fields.start Market.mk
    |>.field (.required "id" f.string)
    |>.field (.required "name" f.string)
    |>.field (.required "base_currency" f.string)
    |>.field (.required "counter_currency" f.string)

/-- Reads a market. -/
def read {V ε : Type} [RecordError ε] (f : Format V ε) : V → Except ε Market :=
  f.record "Market" (fields f)

/-- A market as an object. -/
def toJson (m : Market) : Json :=
  .ofMembers [("id", .string m.id), ("name", .string m.name),
    ("base_currency", .string m.baseCurrency), ("counter_currency", .string m.counterCurrency)]

end Market

namespace Side

/-- The side of a name. -/
def ofName (name : String) : Except DecodeError Side :=
  if name = buy.name then .ok buy
  else if name = sell.name then .ok sell
  else .error (.unknownVariant name "`BUY` or `SELL`")

/-- Reads a side from its name, or from an object whose only member has that name and no value. -/
def ofJson : Json → Except DecodeError Side
  | .string s => ofName s
  | .object [(name, v)] => do
    let side ← ofName name
    if v matches .null then return side
    v.mismatch "unit"
  | .object _ => .error (.invalidValue "map" "map with a single key")
  | v => v.mismatch "string or map"

/-- The name of a side. -/
def toJson (side : Side) : Json := .string side.name

end Side

namespace OrderId

/-- Reads an order's name. -/
def ofJson (v : Json) : Except DecodeError OrderId := (decodeString v).map .mk

/-- An order's name. -/
def toJson (id : OrderId) : Json := .string id.text

end OrderId

namespace PriceLevel

/-- The fields of a price level. -/
def fields : Fields Json DecodeError PriceLevel :=
  Fields.start PriceLevel.mk
    |>.field (.required "price" Decimal.ofJson)
    |>.field (.required "quantity" Decimal.ofJson)

/-- Reads a price level. -/
def ofJson : Json → Except DecodeError PriceLevel := decodeRecord "PriceLevel" fields

/-- A price level as an object. -/
def toJson (l : PriceLevel) : Json :=
  .ofMembers [("price", l.price.toJson), ("quantity", l.quantity.toJson)]

end PriceLevel

namespace OrderBook

/-- The fields of an order book. -/
def fields : Fields Json DecodeError OrderBook :=
  Fields.start OrderBook.mk
    |>.field (.required "market_id" decodeString)
    |>.field (.required "bids" (decodeList PriceLevel.ofJson))
    |>.field (.required "asks" (decodeList PriceLevel.ofJson))
    |>.field (.required "timestamp" Instant.ofJson)

/-- Reads an order book. -/
def ofJson : Json → Except DecodeError OrderBook := decodeRecord "OrderBook" fields

/-- An order book as an object. -/
def toJson (b : OrderBook) : Json :=
  .ofMembers [("market_id", .string b.marketId), ("bids", .array (b.bids.map (·.toJson))),
    ("asks", .array (b.asks.map (·.toJson))), ("timestamp", b.timestamp.toJson)]

end OrderBook

namespace OpenOrder

/-- The fields of an open order. -/
def fields : Fields Json DecodeError OpenOrder :=
  Fields.start OpenOrder.mk
    |>.field (.required "id" OrderId.ofJson)
    |>.field (.required "market_id" decodeString)
    |>.field (.required "side" Side.ofJson)
    |>.field (.required "price" Decimal.ofJson)
    |>.field (.required "quantity" Decimal.ofJson)
    |>.field (.optionalMember format "created_at" Instant.ofJson)

/-- Reads an open order. -/
def ofJson : Json → Except DecodeError OpenOrder := decodeRecord "OpenOrder" fields

/-- An open order as an object. -/
def toJson (o : OpenOrder) : Json :=
  .ofMembers [("id", o.id.toJson), ("market_id", .string o.marketId), ("side", o.side.toJson),
    ("price", o.price.toJson), ("quantity", o.quantity.toJson),
    ("created_at", .ofOption (·.toJson) o.createdAt)]

end OpenOrder

end ScalpBot
