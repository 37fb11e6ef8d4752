import ScalpBot.Bitstamp.Client

/-!
# What a call comes to

Each call of the bot is one request of the client, and what comes of that request settles the answer.
`Client.request?` is the request of a call, with the state in which it is sent, and `Client.reply?`
what comes of it. The reply carries a body in a shape that depends on the call (`Wire`), and what was
read from it is turned into the answer (`Wire.toAnswer`).

`Client.answer_fst` puts these together. How a reply is read is said by `Client.Verdict`, which lists
what a response can come to in the order in which the client decides.
-/

namespace ScalpBot

theorem HttpResponse.isSuccess_iff {r : HttpResponse} :
    r.isSuccess = true ↔ 200 ≤ r.status ∧ r.status < 300 := by
  simp [isSuccess]

namespace Bitstamp

/-! ## The shapes of the bodies -/

/-- The shape in which the answer to a call is sent. -/
def Wire : Call → Type
  | .orderBook => OrderBookReply
  | .openOrders => List OpenOrderReply
  | .lastTradePrice => TickerReply
  | .buyFeeRate | .sellFeeRate => BalanceReply
  | .submitOrder _ _ _ => OrderReply

namespace Wire

/-- Reads the shape of a call. -/
def ofJson : (call : Call) → Json.Decoder (Wire call)
  | .orderBook => OrderBookReply.ofJson
  | .openOrders => Json.decodeList OpenOrderReply.ofJson
  | .lastTradePrice => TickerReply.ofJson
  | .buyFeeRate | .sellFeeRate => BalanceReply.ofJson
  | .submitOrder _ _ _ => OrderReply.ofJson

/-- The answer that was sent in the shape of a call; `now` is the time of a book that has none. -/
def toAnswer (now : Instant) (marketId : String) :
    (call : Call) → Wire call → Except Failure call.Answer
  | .orderBook, book => Client.readBook now marketId book
  | .openOrders, orders => List.mapM (Client.readOpenOrder marketId) orders
  | .lastTradePrice, ticker => Client.readDecimal "last trade price" ticker.last
  | .buyFeeRate, balance | .sellFeeRate, balance => Client.readFee marketId balance
  | .submitOrder _ _ _, order => .ok ⟨order.id.toText⟩

end Wire

/-! ## The requests of the calls -/

/-- Whether a call asks for what everybody may see. -/
def isPublic : Call → Bool
  | .orderBook | .lastTradePrice => true
  | .openOrders | .buyFeeRate | .sellFeeRate | .submitOrder _ _ _ => false

/-- The endpoint that a call goes to. -/
def endpoint : Call → String
  | .orderBook => "order_book"
  | .openOrders => "open_orders"
  | .lastTradePrice => "ticker"
  | .buyFeeRate | .sellFeeRate => "balance"
  | .submitOrder side _ _ => Client.orderEndpoint side

/-- What a call tells the endpoint. -/
def values : Call → List (String × String)
  | .submitOrder _ quantity price => Client.orderValues quantity price
  | _ => []

namespace Client

variable {ν : Type} (c : Client) (net : Network ν)

/-- The signed request for what is the account's own, and the state after its nonce was taken. -/
def signedRequest (credentials : Credentials) (path : String) (values : List (String × String))
    (world : ν) : Except TransportFailure HttpRequest × ν :=
  let body := formBody values
  let (nonce, sent) := net.nonce world
  let headers := AuthHeaders.ofRequest credentials "POST" c.host path body nonce
    (milliseconds (net.now world))
  (HttpRequest.build "POST" (c.baseUrl ++ path) headers.fields body, sent)

/-- The request of a call, and the state in which it is sent. There is none where the call has to be
signed and the client has no credentials. -/
def request? (marketId : String) (call : Call) (world : ν) :
    Option (Except TransportFailure HttpRequest × ν) :=
  let path := pathOf (endpoint call) marketId
  if isPublic call then some (HttpRequest.build "GET" (c.baseUrl ++ path) [] "", world)
  else c.credentials.map fun credentials =>
    c.signedRequest net credentials path (values call) world

/-- What comes of the request of a call. A request that cannot be built is not sent. -/
def reply? (marketId : String) (call : Call) (world : ν) : Option HttpReply :=
  (c.request? net marketId call world).map fun (request, sent) =>
    request.bind fun request => (net.send request sent).1

/-- What is read from what came of a call. -/
def readWire (marketId : String) (call : Call) : Option HttpReply → Except Failure (Wire call)
  | some reply => c.readReply (Wire.ofJson call) reply
  | none => .error (.authentication
      ("API credentials required for " ++ pathOf (endpoint call) marketId))

/-! ## The answer -/

theorem exchange_fst {α : Type} (decode : Json.Decoder α)
    (request : Except TransportFailure HttpRequest) (world : ν) :
    (c.exchange net decode request world).1 =
      c.readReply decode (request.bind fun request => (net.send request world).1) := by
  cases request <;> rfl

theorem publicGet_fst (marketId : String) (call : Call) (hcall : isPublic call = true)
    (world : ν) :
    (c.publicGet net (Wire.ofJson call) (pathOf (endpoint call) marketId) world).1 =
      c.readWire marketId call (c.reply? net marketId call world) := by
  rw [publicGet, exchange_fst]
  simp [reply?, request?, hcall, readWire]

theorem privatePost_fst (marketId : String) (call : Call) (hcall : isPublic call = false)
    (world : ν) :
    (c.privatePost net (Wire.ofJson call) (pathOf (endpoint call) marketId) (values call) world).1 =
      c.readWire marketId call (c.reply? net marketId call world) := by
  rw [privatePost]
  cases hc : c.credentials with
  | none => simp [reply?, request?, hcall, hc, readWire]
  | some credentials =>
    simp only [exchange_fst, reply?, request?, hcall, hc, readWire, Option.map_some]
    rfl

/-- **The answer to a call** is what was read from what came of its request, turned into the answer at the
time after the call. -/
theorem answer_fst (marketId : String) (call : Call) (world : ν) :
    (c.answer net marketId call world).1 =
      (c.readWire marketId call (c.reply? net marketId call world)).bind
        (Wire.toAnswer (net.now (c.answer net marketId call world).2) marketId call) := by
  cases call with
  | orderBook | lastTradePrice =>
    rw [← c.publicGet_fst net marketId _ rfl]
    rfl
  | openOrders | buyFeeRate | sellFeeRate | submitOrder =>
    rw [← c.privatePost_fst net marketId _ rfl]
    rfl

theorem answer_eq (marketId : String) (call : Call) (world : ν) :
    ∃ now, (c.answer net marketId call world).1 =
      (c.readWire marketId call (c.reply? net marketId call world)).bind
        (Wire.toAnswer now marketId call) :=
  ⟨_, c.answer_fst net marketId call world⟩

/-! ## Reading a response -/

variable {α : Type}

/-- Reads the body of a success as a value of a type. -/
def readBody (decode : Json.Decoder α) (body : String) : Except Failure α :=
  match Json.parse body with
  | none => .error (.jsonParse .malformed)
  | some v =>
    match ErrorReply.ofValue? v with
    | some rejection => .error (.api rejection.message)
    | none => (decode v).mapError fun cause => .jsonParse (.mismatch cause)

/-- **What a response comes to.**  Too many requests are settled by the status alone, whatever is
configured; then the body has to be read; then the configured statuses come, before success. -/
inductive Verdict (decode : Json.Decoder α) (r : HttpResponse) : Except Failure α → Prop
  | tooMany (status : r.status = 429) :
      Verdict decode r (.error (.rateLimit ("Server returned status " ++ statusText r.status)
        ((r.header? "retry-after").bind fun text => readNatBelow (2 ^ 64) text.toList)))
  | unread {f : TransportFailure} (status : r.status ≠ 429) (body : r.body = .error f) :
      Verdict decode r (.error (c.transportFailure f))
  | configured {body : String} (status : r.status ≠ 429) (read : r.body = .ok body)
      (code : r.status ∈ c.nonFatalCodes) :
      Verdict decode r
        (.error (.network ("Server returned status " ++ statusText r.status ++ ": " ++ body)))
  | unsuccessful {body : String} (status : r.status ≠ 429) (read : r.body = .ok body)
      (code : r.status ∉ c.nonFatalCodes) (failed : ¬ (200 ≤ r.status ∧ r.status < 300)) :
      Verdict decode r (.error (.httpStatus r.status body))
  | success {body : String} (status : r.status ≠ 429) (read : r.body = .ok body)
      (code : r.status ∉ c.nonFatalCodes) (success : 200 ≤ r.status ∧ r.status < 300) :
      Verdict decode r (readBody decode body)

theorem readResponse_verdict (decode : Json.Decoder α) (r : HttpResponse) :
    c.Verdict decode r (c.readResponse decode r) := by
  rw [readResponse, tooManyRequests]
  by_cases hmany : r.status = 429
  · rw [if_pos hmany]
    exact .tooMany hmany
  rw [if_neg hmany]
  cases hbody : r.body with
  | error f => exact .unread hmany hbody
  | ok body =>
    by_cases hcode : r.status ∈ c.nonFatalCodes
    · simp only [if_pos hcode]
      exact .configured hmany hbody hcode
    simp only [if_neg hcode]
    by_cases hsuccess : r.isSuccess = true
    · rw [if_neg (by simp [hsuccess])]
      exact .success hmany hbody hcode (HttpResponse.isSuccess_iff.mp hsuccess)
    · rw [if_pos (by simp [hsuccess])]
      exact .unsuccessful hmany hbody hcode (mt HttpResponse.isSuccess_iff.mpr hsuccess)

/-- What was read from a body is in the JSON that the whole body is, which is not a rejection. -/
theorem json_of_readBody {decode : Json.Decoder α} {body : String} {a : α}
    (h : readBody decode body = .ok a) :
    ∃ v, Json.parse body = some v ∧ ErrorReply.ofValue? v = none ∧ decode v = .ok a := by
  rw [readBody] at h
  cases hjson : Json.parse body with
  | none =>
    rw [hjson] at h
    cases h
  | some v =>
    simp only [hjson] at h
    cases hrejection : ErrorReply.ofValue? v with
    | some rejection =>
      rw [hrejection] at h
      cases h
    | none =>
      simp only [hrejection] at h
      refine ⟨v, rfl, hrejection, ?_⟩
      cases hdecode : decode v with
      | error cause =>
        rw [hdecode] at h
        cases h
      | ok b =>
        rw [hdecode] at h
        cases h
        rfl

end Client

end Bitstamp

end ScalpBot
