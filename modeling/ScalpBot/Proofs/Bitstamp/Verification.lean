import ScalpBot.Proofs.Bitstamp.Delivery
import ScalpBot.Proofs.Bitstamp.Requests
import ScalpBot.Proofs.Web.Appended

/-!
# Requests that verify

The exchange checks a private request by putting its message together from what it received, and by
signing that (`Bitstamp.Verifies`). The client signs its host and the path as it wrote it, while the
request goes where the client's address with the path behind it leads when it is read.

`Client.verifies_iff` says when the two agree. The rest of the message is the same, so a request verifies
if it goes where it was signed to go; otherwise two messages would have one signature. The host is the one
that was signed. With an address that ends at the host the path is too, if and only if the market id is
plain.
-/

namespace ScalpBot

/-! ## What is received -/

namespace HttpRequest

/-- The first value of a header. -/
def header? (r : HttpRequest) (name : String) : Option String := r.headers.lookup name

/-- Where a request goes: the host, the path and the query, one after the other. -/
def destination (r : HttpRequest) : String :=
  r.address.hostAndPort?.getD "" ++ r.address.sentText

end HttpRequest

namespace Bitstamp

/-- The signature of a message. -/
def Credentials.tag (credentials : Credentials) (message : String) : String :=
  hexText (hmacSha256 (utf8Bytes credentials.apiSecret) (utf8Bytes message))

/-- The message of a request that goes to a destination. All else is taken from the request. -/
def messageTo (apiKey : String) (r : HttpRequest) (destination : String) : String :=
  SignedParts.keyField apiKey ++ r.method ++ destination ++ (r.header? "content-type").getD ""
    ++ (r.header? "x-auth-nonce").getD "" ++ (r.header? "x-auth-timestamp").getD "" ++ authVersion
    ++ r.body

/-- Whether a request carries the signature of a message. -/
def Carries (credentials : Credentials) (r : HttpRequest) (message : String) : Prop :=
  r.header? "x-auth-signature" = some (credentials.tag message)

/-- Whether a request carries the signature of the message that was received. -/
def Verifies (credentials : Credentials) (r : HttpRequest) : Prop :=
  Carries credentials r (messageTo credentials.apiKey r r.destination)

instance (credentials : Credentials) (r : HttpRequest) : Decidable (Verifies credentials r) :=
  inferInstanceAs (Decidable (_ = _))

/-- Two messages with one signature. -/
def Collide (credentials : Credentials) (m m' : String) : Prop :=
  m ≠ m' ∧ credentials.tag m = credentials.tag m'

theorem messageTo_inj {apiKey destination destination' : String} {r : HttpRequest} :
    messageTo apiKey r destination = messageTo apiKey r destination' ↔ destination = destination' := by
  simp only [messageTo, String.append_left_inj, String.append_right_inj]

/-- Messages with one signature are one message, or they collide. -/
theorem Credentials.tag_eq_iff {credentials : Credentials} {m m' : String} :
    credentials.tag m = credentials.tag m' ↔ m = m' ∨ Collide credentials m m' := by
  rw [Collide]
  by_cases hsame : m = m'
  · simp [hsame]
  · simp [hsame]

theorem verifies_iff_of_carries {credentials : Credentials} {r : HttpRequest} {written : String}
    (h : Carries credentials r (messageTo credentials.apiKey r written)) :
    Verifies credentials r ↔ r.destination = written ∨
      Collide credentials (messageTo credentials.apiKey r r.destination)
        (messageTo credentials.apiKey r written) := by
  have htag : Verifies credentials r ↔
      credentials.tag (messageTo credentials.apiKey r r.destination) =
        credentials.tag (messageTo credentials.apiKey r written) := by
    unfold Verifies
    rw [Carries, h, Option.some_inj, eq_comm]
  rw [htag, Credentials.tag_eq_iff, messageTo_inj]

/-! ## What is signed -/

theorem lookup_fields (h : AuthHeaders) :
    h.fields.lookup "x-auth-signature" = some h.signature ∧
      h.fields.lookup "x-auth-nonce" = some h.nonce ∧
      h.fields.lookup "x-auth-timestamp" = some (toString h.timestamp) ∧
      h.fields.lookup "content-type" = if h.hasBody then some Form.mediaType else none := by
  obtain ⟨auth, signature, nonce, timestamp, hasBody⟩ := h
  cases hasBody with
  | false | true => exact ⟨rfl, rfl, rfl, rfl⟩

/-- A request with the headers that prove it carries the signature for the host and the path that were
signed. -/
theorem carries_ofRequest (credentials : Credentials) (host path body nonce : String)
    (timestamp : Int) (r : HttpRequest) (hmethod : r.method = "POST")
    (hheaders : r.headers =
      (AuthHeaders.ofRequest credentials "POST" host path body nonce timestamp).fields)
    (hbody : r.body = body) :
    Carries credentials r (messageTo credentials.apiKey r (host ++ path)) := by
  obtain ⟨hsignature, hnonce, htimestamp, htype⟩ :=
    lookup_fields (AuthHeaders.ofRequest credentials "POST" host path body nonce timestamp)
  rw [← hheaders] at hsignature hnonce htimestamp htype
  let parts : SignedParts := ⟨"POST", host, path, "", nonce, timestamp, body⟩
  have hupper : upperCase "POST" = "POST" := by decide +kernel
  have htype' : (r.header? "content-type").getD "" = parts.contentType := by
    rw [HttpRequest.header?, htype, SignedParts.contentType, AuthHeaders.ofRequest]
    cases body.isEmpty with
    | false | true => rfl
  have hmessage : messageTo credentials.apiKey r (host ++ path) =
      parts.message credentials.apiKey := by
    rw [messageTo, htype', HttpRequest.header?, HttpRequest.header?, hnonce, htimestamp, hmethod,
      hbody]
    simp only [SignedParts.message, parts, hupper, Option.getD_some, String.append_empty,
      String.append_assoc]
    rfl
  rw [Carries, hmessage]
  exact hsignature

namespace Client

variable {ν : Type} {c : Client} {net : Network ν} {marketId url : String} {call : Call}
  {world sent : ν} {request : HttpRequest} {credentials : Credentials}

/-- **What a private request carries**: the signature of its message, with the host of the client and
the path that the client wrote. -/
theorem carries_of_request? (hprivate : isPublic call = false)
    (hcredentials : c.credentials = some credentials)
    (h : c.request? net marketId call world = some (.ok request, sent)) :
    Carries credentials request
        (messageTo credentials.apiKey request (c.host ++ pathOf (endpoint call) marketId)) ∧
      WebAddress.parse (c.baseUrl ++ pathOf (endpoint call) marketId) = .ok request.address ∧
      (request.address.scheme = "http" ∨ request.address.scheme = "https") := by
  simp only [request?, hprivate, hcredentials, signedRequest, Bool.false_eq_true, if_false,
    Option.map_some, Option.some.injEq, Prod.mk.injEq] at h
  obtain ⟨a, haddress, hscheme, rfl⟩ := exists_address_of_build h.1
  exact ⟨carries_ofRequest _ _ _ _ _ _ _ rfl rfl rfl, haddress, hscheme⟩

/-! ## Where it goes -/

/-- Whether a client is one for the exchange at an address. -/
def IsFor (c : Client) (url : String) : Prop :=
  ∃ made, ofUrl url = .ok made ∧ c.baseUrl = made.baseUrl ∧ c.host = made.host

theorem IsFor.exists_address (h : c.IsFor url) :
    ∃ a, WebAddress.parse c.baseUrl = .ok a ∧ a.hostAndPort? = some c.host := by
  obtain ⟨made, hmade, hbase, hhost⟩ := h
  rw [ofUrl] at hmade
  cases hparse : WebAddress.parse (withoutSlashes url) with
  | error cause => simp [hparse] at hmade
  | ok a =>
    cases hname : a.hostAndPort? with
    | none => simp [hparse, hname] at hmade
    | some host =>
      simp only [hparse, hname, Except.ok.injEq] at hmade
      subst hmade
      exact ⟨a, hbase ▸ hparse, hhost ▸ hname⟩

/-- The characters of a path: it begins and ends with a slash. -/
theorem toList_pathOf (endpoint marketId : String) :
    (pathOf endpoint marketId).toList =
      '/' :: (("api/v2/" ++ endpoint ++ "/" ++ marketId).toList ++ ['/']) := by
  simp [pathOf]

/-- A path is plain if the market id is, for the endpoints are. -/
theorem plainPath_pathOf (call : Call) (marketId : String) :
    WebAddress.PlainPath (pathOf (endpoint call) marketId).toList ↔
      WebAddress.PlainPath marketId.toList := by
  have hall : ∀ name ∈ ["order_book", "open_orders", "ticker", "balance", "buy", "sell"],
      WebAddress.PlainPath ("/api/v2/" ++ name).toList := by decide
  have hendpoint : WebAddress.PlainPath ("/api/v2/" ++ endpoint call).toList := by
    refine hall _ ?_
    cases call with
    | submitOrder side => cases side <;> simp [endpoint, orderEndpoint]
    | _ => simp [endpoint]
  have hempty : WebAddress.PlainPath [] := by decide
  have hpath : (pathOf (endpoint call) marketId).toList =
      ("/api/v2/" ++ endpoint call).toList ++ '/' :: (marketId.toList ++ '/' :: []) := by
    simp [pathOf]
  rw [hpath, WebAddress.plainPath_append_slash, WebAddress.plainPath_append_slash,
    and_iff_right hendpoint, and_iff_left hempty]

/-- A request to an address with a plain path, for a plain market id, goes where both were written. -/
theorem sentText_mount {start : WebAddress} {mount : String} (call : Call)
    (hmount : WebAddress.PlainPath mount.toList) (hhead : ∀ ch ∈ mount.toList.head?, ch = '/')
    (hid : WebAddress.PlainPath marketId.toList) :
    (WebAddress.finish start .special
      (mount.toList ++ (pathOf (endpoint call) marketId).toList.filter WebAddress.isVisible)).sentText
      = mount ++ pathOf (endpoint call) marketId := by
  have hvisible : mount.toList.filter WebAddress.isVisible = mount.toList :=
    WebAddress.filter_isVisible_eq_self (by decide) hmount.chars
  have hplain := (plainPath_pathOf call marketId).mpr hid
  have hpath := toList_pathOf (endpoint call) marketId
  have hboth : WebAddress.PlainPath (mount ++ pathOf (endpoint call) marketId).toList := by
    rw [hpath, ← List.nil_append ('/' :: _), WebAddress.plainPath_append_slash] at hplain
    rw [String.toList_append, hpath, WebAddress.plainPath_append_slash]
    exact ⟨hmount, hplain.2⟩
  obtain ⟨body, hbody⟩ : ∃ body,
      (mount ++ pathOf (endpoint call) marketId).toList = '/' :: (body ++ ['/']) := by
    rw [String.toList_append, hpath]
    cases hmount : mount.toList with
    | nil => exact ⟨_, rfl⟩
    | cons ch rest =>
      obtain rfl := hhead ch (by rw [hmount]; rfl)
      exact ⟨rest ++ '/' :: ("api/v2/" ++ endpoint call ++ "/" ++ marketId).toList, by simp⟩
  have hsent := (WebAddress.sent_eq_iff start hbody).mpr hboth
  rw [String.toList_append, List.filter_append, hvisible, ← String.toList_append] at hsent
  exact String.toList_inj.mp hsent

/-- **Where a request goes**: to the host of the client. What is read behind it is what the client's
address has there, and the path as far as it counts. -/
theorem exists_address_of_request? (hfor : c.IsFor url)
    (hvisible : WebAddress.EndsVisibly c.baseUrl)
    (hparse : WebAddress.parse (c.baseUrl ++ pathOf (endpoint call) marketId) = .ok request.address)
    (hscheme : request.address.scheme = "http" ∨ request.address.scheme = "https") :
    ∃ start : WebAddress, request.address.hostAndPort? = some c.host ∧
      request.address = start.finish .special (WebAddress.afterAuthority c.baseUrl ++
        (pathOf (endpoint call) marketId).toList.filter WebAddress.isVisible) := by
  obtain ⟨a, ha, hhost⟩ := hfor.exists_address
  have hpath := toList_pathOf (endpoint call) marketId
  have hkind : WebAddress.schemeKind a.scheme = .special := by
    rw [← WebAddress.scheme_append ha hparse hvisible hpath]
    rcases hscheme with h | h <;> rw [h] <;> decide
  obtain ⟨start, hstart, happend⟩ := WebAddress.parse_append ha hkind hvisible hpath
  have haddress := Except.ok.inj (hparse.symm.trans happend)
  refine ⟨start, ?_, haddress⟩
  rw [haddress, WebAddress.hostAndPort?_finish, ← hhost, hstart, WebAddress.hostAndPort?_finish]

/-- **When private requests verify.**  A request verifies if it goes to the host and the path that the
client wrote, or else two messages have one signature. The host is the client's if the end of its address
counts. With an address that has no path of its own, the path is as it was written if and only if the
market id is plain. With one that has a plain path, that path comes first, and is not signed. -/
theorem verifies_iff (hfor : c.IsFor url) (hprivate : isPublic call = false)
    (hcredentials : c.credentials = some credentials)
    (hrequest : c.request? net marketId call world = some (.ok request, sent)) :
    (Verifies credentials request ↔
      request.destination = c.host ++ pathOf (endpoint call) marketId ∨
      Collide credentials (messageTo credentials.apiKey request request.destination)
        (messageTo credentials.apiKey request (c.host ++ pathOf (endpoint call) marketId))) ∧
    (WebAddress.EndsVisibly c.baseUrl → request.address.hostAndPort? = some c.host) ∧
    (WebAddress.HasPath c.baseUrl "" →
      (request.destination = c.host ++ pathOf (endpoint call) marketId ↔
        WebAddress.PlainPath marketId.toList)) ∧
    (∀ mount, WebAddress.HasPath c.baseUrl mount → WebAddress.PlainPath mount.toList →
      WebAddress.PlainPath marketId.toList →
      request.destination = c.host ++ (mount ++ pathOf (endpoint call) marketId)) := by
  obtain ⟨hcarries, hparse, hscheme⟩ := carries_of_request? hprivate hcredentials hrequest
  refine ⟨verifies_iff_of_carries hcarries, fun hvisible => ?_, fun hbare => ?_,
    fun mount hmount hplain hid => ?_⟩
  · obtain ⟨-, hname, -⟩ := exists_address_of_request? hfor hvisible hparse hscheme
    exact hname
  · obtain ⟨start, hname, haddress⟩ :=
      exists_address_of_request? hfor hbare.endsVisibly hparse hscheme
    rw [hbare.afterAuthority_eq] at haddress
    rw [HttpRequest.destination, hname, Option.getD_some, String.append_right_inj, haddress,
      ← plainPath_pathOf call,
      ← WebAddress.sent_eq_iff start (toList_pathOf (endpoint call) marketId), String.toList_inj]
    rfl
  · obtain ⟨start, hname, haddress⟩ :=
      exists_address_of_request? hfor hmount.endsVisibly hparse hscheme
    rw [hmount.afterAuthority_eq] at haddress
    rw [HttpRequest.destination, hname, Option.getD_some, haddress,
      sentText_mount call hplain hmount.head_eq_slash hid]

/-! ## Two market ids -/

theorem exists_request_of_any {p : HttpRequest → Bool}
    (h : ((c.request? net marketId call world).bind (·.1.toOption)).any p = true) :
    ∃ request sent, c.request? net marketId call world = some (.ok request, sent) ∧
      p request = true := by
  cases hmade : c.request? net marketId call world with
  | none => simp [hmade] at h
  | some made =>
    obtain ⟨built, sent⟩ := made
    rw [hmade] at h
    cases built with
    | error f => cases h
    | ok request => exact ⟨request, sent, rfl, h⟩

/-- The address of the sample has no path. -/
theorem hasPath_sample : WebAddress.HasPath sample.baseUrl "" := by
  have hedges : (sample.baseUrl.toList.all fun ch => !WebAddress.isEdge ch) = true := by decide
  have hauthority : "[::1]".toList.all WebAddress.inAuthority = true := by decide
  exact ⟨"http".toList, "[::1]".toList, rfl, by simpa using hedges, by decide, by decide,
    List.all_eq_true.mp hauthority, by simp⟩

theorem isFor_sample : sample.IsFor "http://[::1]" :=
  ⟨⟨"http://[::1]", "[::1]", none, [], []⟩, rfl, rfl, rfl⟩

/-- For a market id of letters a request verifies. -/
theorem verifies_sample : sample.IsFor "http://[::1]" ∧ isPublic .openOrders = false ∧
    sample.credentials = some ⟨"key", "secret"⟩ ∧ ∃ request sent,
      sample.request? (.steady "") "ltcbtc" .openOrders () = some (.ok request, sent) ∧
      Verifies ⟨"key", "secret"⟩ request := by
  have hany : ((sample.request? (.steady "") "ltcbtc" .openOrders ()).bind (·.1.toOption)).any
      (fun _ => true) = true := by decide +kernel
  obtain ⟨request, sent, hrequest, -⟩ := exists_request_of_any hany
  obtain ⟨hiff, -, hbare, -⟩ := verifies_iff isFor_sample rfl rfl hrequest
  have hplain : WebAddress.PlainPath "ltcbtc".toList := by decide
  have hsent := (hbare hasPath_sample).mpr hplain
  exact ⟨isFor_sample, rfl, rfl, request, sent, hrequest, hiff.mpr (.inl hsent)⟩

/-- For one with a blank it does not. -/
theorem unverified_sample : sample.IsFor "http://[::1]" ∧ ∃ request sent,
    sample.request? (.steady "") "ltc btc" .openOrders () = some (.ok request, sent) ∧
      ¬ Verifies ⟨"key", "secret"⟩ request := by
  have hany : ((sample.request? (.steady "") "ltc btc" .openOrders ()).bind (·.1.toOption)).any
      (fun r => !decide (Verifies ⟨"key", "secret"⟩ r)) = true := by decide +kernel
  obtain ⟨request, sent, hrequest, hnot⟩ := exists_request_of_any hany
  exact ⟨isFor_sample, request, sent, hrequest, by simpa using hnot⟩

end Client

end Bitstamp

end ScalpBot
