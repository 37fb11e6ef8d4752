import ScalpBot.Bitstamp.Reply
import ScalpBot.Bitstamp.Signature
import ScalpBot.Exchange.Call
import ScalpBot.Settings.Basic
import ScalpBot.Text.Blank
import ScalpBot.Time.Text
import ScalpBot.Web.Http

/-!
# The client of the exchange

A `Client` turns the calls of the bot into requests and the replies into answers. Every reply takes the
same way, `Client.readReply`: too many requests is settled by the status alone; then the body is read, and
only after it the status decides, first by the client's list of statuses that count as network errors,
then by success; a body of a success that is a rejection fails too. A failure to send or to read counts as
a network error when the client's list has a part of its text.
-/

namespace ScalpBot.Bitstamp

/-- How the exchange is reached. -/
structure Client where
  /-- The address that all paths are put behind, without slashes at its end. -/
  baseUrl : String
  /-- The host that is signed. -/
  host : String
  credentials : Option Credentials := none
  nonFatalCodes : List Nat := []
  nonFatalMessages : List String := []
deriving DecidableEq

/-- What a client needs of the world, from a state that each use may change. -/
structure Network (ν : Type) where
  /-- Sends a request. -/
  send : HttpRequest → ν → HttpReply × ν
  /-- A text that is never the same twice. -/
  nonce : ν → String × ν
  /-- The present time. -/
  now : ν → Instant

/-- Milliseconds from the start of 1970. -/
def milliseconds (t : Instant) : Int := t.seconds * 1000 + t.nanoseconds / 1000000

namespace Client

/-! ## Setting up -/

/-- The text without the slashes at its end. -/
def withoutSlashes (text : String) : String :=
  String.ofList (text.toList.reverse.dropWhile (· = '/')).reverse

/-- A client for the exchange at an address. -/
def ofUrl (url : String) : Except Failure Client :=
  let base := withoutSlashes url
  match WebAddress.parse base with
  | .error cause =>
    .error (.configuration ("Invalid REST URL " ++ base ++ ": " ++ cause.message))
  | .ok address =>
    match address.hostAndPort? with
    | none => .error (.configuration ("REST URL " ++ base ++ " has no host"))
    | some host => .ok { baseUrl := base, host := host }

/-- The client that the settings describe. -/
def ofSettings (s : ExchangeSettings) : Except Failure Client := do
  let client ← ofUrl s.restUrl
  return { client with
    credentials := s.credentials
    nonFatalCodes := s.nonFatalErrorCodes
    nonFatalMessages := s.nonFatalErrorMessages }

/-! ## Replies -/

variable (c : Client)

/-- A failure to send or to read, as a failure of the exchange. -/
def transportFailure (f : TransportFailure) : Failure :=
  if c.nonFatalMessages.any fun part => occursIn part.toList f.detail.toList then
    .network f.detail
  else f.classify

/-- The status for too many requests. -/
def tooManyRequests : Nat := 429

/-- Reads a response as a value of a type. -/
def readResponse {α : Type} (decode : Json.Decoder α) (r : HttpResponse) : Except Failure α :=
  let server := "Server returned status " ++ statusText r.status
  if r.status = tooManyRequests then
    .error (.rateLimit server ((r.header? "retry-after").bind fun text =>
      readNatBelow (2 ^ 64) text.toList))
  else
    match r.body with
    | .error f => .error (c.transportFailure f)
    | .ok body =>
      if r.status ∈ c.nonFatalCodes then .error (.network (server ++ ": " ++ body))
      else if !r.isSuccess then .error (.httpStatus r.status body)
      else
        match Json.parse body with
        | none => .error (.jsonParse .malformed)
        | some v =>
          match ErrorReply.ofValue? v with
          | some rejection => .error (.api rejection.message)
          | none => (decode v).mapError fun cause => .jsonParse (.mismatch cause)

/-- Reads what came of a request. -/
def readReply {α : Type} (decode : Json.Decoder α) : HttpReply → Except Failure α
  | .error f => .error (c.transportFailure f)
  | .ok r => c.readResponse decode r

/-! ## Requests -/

variable {ν : Type} (net : Network ν)

/-- Sends a request that could be built, and reads what comes of it. -/
def exchange {α : Type} (decode : Json.Decoder α)
    (request : Except TransportFailure HttpRequest) (world : ν) : Except Failure α × ν :=
  match request with
  | .error f => (.error (c.transportFailure f), world)
  | .ok request =>
    let (reply, world) := net.send request world
    (c.readReply decode reply, world)

/-- Asks for what everybody may see. -/
def publicGet {α : Type} (decode : Json.Decoder α) (path : String) (world : ν) :
    Except Failure α × ν :=
  c.exchange net decode (HttpRequest.build "GET" (c.baseUrl ++ path) [] "") world

/-- The body of a request: empty without values. -/
def formBody (values : List (String × String)) : String :=
  if values.isEmpty then "" else Form.encode values

/-- Asks for what is the account's own. -/
def privatePost {α : Type} (decode : Json.Decoder α) (path : String)
    (values : List (String × String)) (world : ν) : Except Failure α × ν :=
  match c.credentials with
  | none => (.error (.authentication ("API credentials required for " ++ path)), world)
  | some credentials =>
    let body := formBody values
    let timestamp := milliseconds (net.now world)
    let (nonce, world) := net.nonce world
    let headers := AuthHeaders.ofRequest credentials "POST" c.host path body nonce timestamp
    c.exchange net decode (HttpRequest.build "POST" (c.baseUrl ++ path) headers.fields body) world

/-! ## Answers -/

/-- Reads a decimal, which may have blanks around it. -/
def readDecimal (what text : String) : Except Failure Decimal :=
  match Decimal.parse (trimmed text) with
  | .ok a => .ok a
  | .error cause =>
    .error (.invalidResponse ("Invalid " ++ what ++ " '" ++ text ++ "': " ++ cause.message))

/-- The levels of one side of a book. -/
def readLevels (what : String) (levels : List BookLevel) : Except Failure (List PriceLevel) :=
  levels.mapM fun l => do
    return ⟨← readDecimal what l.price, ← readDecimal what l.amount⟩

/-- The instant of a number of seconds, where the text is one and the calendar has it. -/
def readSeconds? (text : String) : Option Instant :=
  let seconds? : Option Int := match text.toList with
    | '-' :: rest =>
      if rest.head? = some '+' then none
      else (readNatBelow (2 ^ 63 + 1) rest).map fun n => -(n : Int)
    | cs => (readNatBelow (2 ^ 63) cs).map Int.ofNat
  seconds?.bind Instant.ofSeconds?

/-- The order book of a reply; `now` is its time where the reply has none that can be read. -/
def readBook (now : Instant) (marketId : String) (reply : OrderBookReply) :
    Except Failure OrderBook := do
  let bids ← readLevels "bid" reply.bids
  let asks ← readLevels "ask" reply.asks
  return ⟨marketId, bids, asks, (readSeconds? reply.timestamp).getD now⟩

/-- The side of a type code. -/
def readSide (code : Label) : Except Failure Side :=
  if code.toText = "0" then .ok .buy
  else if code.toText = "1" then .ok .sell
  else .error (.invalidResponse ("Unknown order type: " ++ code.toText))

/-- The open order of a reply. -/
def readOpenOrder (marketId : String) (reply : OpenOrderReply) : Except Failure OpenOrder := do
  let side ← readSide reply.orderType
  let price ← readDecimal "open order price" reply.price
  let quantity ← readDecimal "open order amount" reply.amount
  return ⟨⟨reply.id.toText⟩, marketId, side, price, quantity,
    (Instant.parsePlain reply.datetime).toOption⟩

/-- The fee rate of a balance, which gives it in percent. -/
def readFee (marketId : String) (reply : BalanceReply) : Except Failure Decimal := do
  match reply.feeFor marketId with
  | none =>
    .error (.invalidResponse ("No fee in balance response for " ++ marketId))
  | some text => return (← readDecimal "fee" text).percent

/-! ## Calls -/

/-- The path of what is asked for. -/
def pathOf (endpoint marketId : String) : String :=
  "/api/v2/" ++ endpoint ++ "/" ++ marketId ++ "/"

/-- The endpoint that takes orders of a side. -/
def orderEndpoint : Side → String
  | .buy => "buy"
  | .sell => "sell"

/-- What is told of an order. -/
def orderValues (quantity price : Decimal) : List (String × String) :=
  [("amount", quantity.toText), ("price", price.toText)]

/-- The fee rate of a market, the same for both sides. -/
def feeRate (marketId : String) (world : ν) : Except Failure Decimal × ν :=
  let (reply, world) := c.privatePost net BalanceReply.ofJson (pathOf "balance" marketId) [] world
  (reply.bind (readFee marketId), world)

/-- Answers a call. -/
def answer (marketId : String) (call : Call) (world : ν) : Except Failure call.Answer × ν :=
  match call with
  | .orderBook =>
    let (reply, world) :=
      c.publicGet net OrderBookReply.ofJson (pathOf "order_book" marketId) world
    (reply.bind (readBook (net.now world) marketId), world)
  | .openOrders =>
    let (reply, world) := c.privatePost net (Json.decodeList OpenOrderReply.ofJson)
      (pathOf "open_orders" marketId) [] world
    (reply.bind fun orders => orders.mapM (readOpenOrder marketId), world)
  | .lastTradePrice =>
    let (reply, world) := c.publicGet net TickerReply.ofJson (pathOf "ticker" marketId) world
    (reply.bind fun ticker => readDecimal "last trade price" ticker.last, world)
  | .buyFeeRate => c.feeRate net marketId world
  | .sellFeeRate => c.feeRate net marketId world
  | .submitOrder side quantity price =>
    let (reply, world) := c.privatePost net OrderReply.ofJson
      (pathOf (orderEndpoint side) marketId) (orderValues quantity price) world
    (reply.map fun order => ⟨order.id.toText⟩, world)

/-- The exchange as the bot sees it. -/
def toExchange : Exchange ν where
  name := "Bitstamp"
  answer := c.answer net

end Client

end ScalpBot.Bitstamp
