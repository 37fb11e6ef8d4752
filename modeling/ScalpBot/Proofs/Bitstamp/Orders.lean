import ScalpBot.Proofs.Bitstamp.Authentication
import ScalpBot.Proofs.Bitstamp.Verification
import ScalpBot.Proofs.Decimal.Text
import ScalpBot.Proofs.Web.Form

/-!
# Orders on the wire

An order is told to the exchange by the texts of two decimals in a form body. The body is read as the
amount and the price, in this order, and these are read as the decimals of the order, with all their
places (`Client.tells_formBody`): the text of a decimal has no blanks that could be trimmed, and all its
digits are kept when it is read.

`Client.submission_told` says so of what is sent. A submission sends one request, or it is refused before.
Its body is not empty, so that the media type is signed, and it is sent too.
-/

namespace ScalpBot

namespace Decimal

variable {a : Decimal} {c : Char}

/-- The characters of a decimal are no blanks, and a form body keeps them. -/
theorem plain_of_mem_toText (h : c ∈ a.toText.toList) : isBlank c = false ∧ Form.keeps c = true := by
  rw [toText, String.toList_ofList] at h
  rcases mem_toChars h with rfl | rfl | hdigit
  · decide
  · decide
  · have hkept : Form.keeps c = true := by simp [Form.keeps, Char.isAlphanum, hdigit]
    exact ⟨isBlank_of_isDigit hdigit, hkept⟩

theorem trimmed_toText (a : Decimal) : trimmed a.toText = a.toText :=
  trimmed_eq_self fun _ h => (plain_of_mem_toText h).1

theorem encodeText_toText (a : Decimal) : Form.encodeText a.toText = a.toText.toList :=
  Form.encodeText_eq_self fun _ h => (plain_of_mem_toText h).2

end Decimal

namespace Bitstamp

/-! ## Bodies -/

/-- Whether a body is read as an order: it has an amount and a price and nothing else, and these are read
as the decimals of the order. -/
structure Tells (body : String) (quantity price : Decimal) : Prop where
  nonempty : body ≠ ""
  read : ∃ amountText priceText,
    Form.decode body = some [("amount", amountText), ("price", priceText)] ∧
      ∀ what, Client.readDecimal what amountText = .ok quantity ∧
        Client.readDecimal what priceText = .ok price

/-- Whether the media type of a form is signed and sent. -/
structure Typed (credentials : Credentials) (request : HttpRequest) : Prop where
  sent : request.header? "content-type" = some Form.mediaType
  signed : ∃ parts : SignedParts,
    request.header? "x-auth-signature" = some (sign credentials parts) ∧
      parts.body = request.body ∧ parts.contentType = Form.mediaType

namespace Client

/-- **A decimal is read back**, with all its places. -/
theorem readDecimal_toText (what : String) (a : Decimal) : readDecimal what a.toText = .ok a := by
  rw [readDecimal, a.trimmed_toText, Decimal.parse_toText]

/-- The characters of the body of an order. -/
theorem toList_formBody (quantity price : Decimal) :
    (formBody (orderValues quantity price)).toList =
      "amount=".toList ++ quantity.toText.toList ++ "&price=".toList ++ price.toText.toList := by
  have hamount : Form.encodeText "amount" = "amount".toList := by decide
  have hprice : Form.encodeText "price" = "price".toList := by decide
  have hbody : formBody (orderValues quantity price) = Form.encode (orderValues quantity price) := rfl
  rw [hbody, Form.encode, String.toList_ofList]
  simp [orderValues, Form.encodePairs, hamount, hprice, Decimal.encodeText_toText]

/-- **The body of an order is read as that order.** -/
theorem tells_formBody (quantity price : Decimal) :
    Tells (formBody (orderValues quantity price)) quantity price where
  nonempty := formBody_orderValues_ne quantity price
  read := ⟨quantity.toText, price.toText, Form.decode_encode (orderValues quantity price),
    fun what => ⟨readDecimal_toText what quantity, readDecimal_toText what price⟩⟩

/-! ## Requests -/

variable {ν : Type}

/-- What is signed of the request of a call. -/
def signedParts (c : Client) (net : Network ν) (marketId : String) (call : Call) (world : ν) :
    SignedParts where
  method := "POST"
  host := c.host
  path := pathOf (endpoint call) marketId
  query := ""
  nonce := (net.nonce world).1
  timestamp := milliseconds (net.now world)
  body := formBody (values call)

/-- The header of a private call has the signature of its parts, and a media type where there is a body. -/
theorem lookup_proofFields (c : Client) (credentials : Credentials) (net : Network ν)
    (marketId : String) (call : Call) (world : ν) :
    (c.proofFields credentials net marketId call world).lookup "x-auth-signature" =
        some (sign credentials (c.signedParts net marketId call world)) ∧
      (c.proofFields credentials net marketId call world).lookup "content-type" =
        if !(formBody (values call)).isEmpty then some Form.mediaType else none := by
  obtain ⟨hsignature, -, -, htype⟩ := lookup_fields (AuthHeaders.ofRequest credentials "POST" c.host
    (pathOf (endpoint call) marketId) (formBody (values call)) (net.nonce world).1
    (milliseconds (net.now world)))
  exact ⟨hsignature, htype⟩

/-- A private request with a body has the media type of a form, and so has what is signed of it. -/
theorem typed_of_proofFields {c : Client} {credentials : Credentials} {net : Network ν}
    {marketId : String} {call : Call} {world : ν} {request : HttpRequest}
    (hheaders : request.headers = c.proofFields credentials net marketId call world)
    (hbody : request.body = formBody (values call)) (hne : request.body ≠ "") :
    Typed credentials request := by
  have hempty : (formBody (values call)).isEmpty = false := by
    rw [← hbody, ← Bool.not_eq_true, String.isEmpty_iff]
    exact hne
  obtain ⟨hsignature, htype⟩ := lookup_proofFields c credentials net marketId call world
  rw [← hheaders] at hsignature htype
  refine ⟨?_, c.signedParts net marketId call world, hsignature, hbody.symm, ?_⟩
  · rw [HttpRequest.header?, htype, hempty]
    rfl
  · rw [SignedParts.contentType, signedParts, hempty]
    rfl

/-- **What a submission tells the exchange.**  The body of an order is read as that order. With credentials,
one request is sent with this body, signed and with its media type, or nothing is sent because the request
is refused. -/
theorem submission_told (c : Client) (net : Network ν) (marketId : String) (side : Side)
    (quantity price : Decimal) (start : ν × List HttpRequest) :
    Tells (formBody (orderValues quantity price)) quantity price ∧
    ∀ credentials, c.credentials = some credentials →
      (∃ request : HttpRequest, request.body = formBody (orderValues quantity price) ∧
        Typed credentials request ∧
        (c.answer net.recorded marketId (.submitOrder side quantity price) start).2.2 =
          start.2 ++ [request]) ∨
      (∃ f, (c.answer net.recorded marketId (.submitOrder side quantity price) start).1 =
          .error (c.transportFailure f) ∧
        HttpRequest.Refused (c.baseUrl ++ pathOf (orderEndpoint side) marketId)
          (c.proofFields credentials net.recorded marketId (.submitOrder side quantity price) start) ∧
        (c.answer net.recorded marketId (.submitOrder side quantity price) start).2.2 = start.2) := by
  have htells := tells_formBody quantity price
  refine ⟨htells, fun credentials hcredentials => ?_⟩
  have hcall : c.Dispatched credentials net.recorded marketId (.submitOrder side quantity price)
      start := dispatched hcredentials rfl
  cases hcall with
  | @sent request address signed body reply after =>
    have hne : request.body ≠ "" := body ▸ htells.nonempty
    refine .inl ⟨request, body, typed_of_proofFields signed body hne, ?_⟩
    rw [after]
    rfl
  | @refused f reason fails after =>
    refine .inr ⟨f, fails, reason, ?_⟩
    rw [after]
    rfl

/-- The largest coefficient with all places. -/
def finestLargest : Decimal :=
  ⟨79228162514264337593543950335, Decimal.maxScale, Nat.le_of_ble_eq_true rfl, Nat.le_refl _⟩

/-- The negative decimal next to zero. -/
def justNegative : Decimal := ⟨-1, Decimal.maxScale, Nat.le_of_ble_eq_true rfl, Nat.le_refl _⟩

/-- An order with 29 digits, for a negative price with 27 zeros behind the point, is sent and read back. -/
theorem submission_told_sample : sample.credentials = some ⟨"key", "secret"⟩ ∧
    ∃ request : HttpRequest,
      (sample.answer (Network.steady "").recorded "ltcbtc"
        (.submitOrder .buy finestLargest justNegative) ((), [])).2.2 = [request] ∧
      request.body =
        "amount=7.9228162514264337593543950335&price=-0.0000000000000000000000000001" ∧
      Tells request.body finestLargest justNegative ∧ Typed ⟨"key", "secret"⟩ request := by
  obtain ⟨htells, hsubmitted⟩ :=
    submission_told sample (.steady "") "ltcbtc" .buy finestLargest justNegative ((), [])
  have hsent : (sample.answer (Network.steady "").recorded "ltcbtc"
      (.submitOrder .buy finestLargest justNegative) ((), [])).2.2.length = 1 := by decide +kernel
  have hbody : formBody (orderValues finestLargest justNegative) =
      "amount=7.9228162514264337593543950335&price=-0.0000000000000000000000000001" := by
    decide +kernel
  rcases hsubmitted _ rfl with ⟨request, hrequest, htyped, hrecord⟩ | ⟨-, -, -, hnone⟩
  · exact ⟨rfl, request, hrecord, hrequest.trans hbody, hrequest ▸ htells, htyped⟩
  · rw [hnone] at hsent
    cases hsent

end Client

end Bitstamp

end ScalpBot
