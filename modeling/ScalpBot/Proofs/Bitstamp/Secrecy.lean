import ScalpBot.Proofs.Bitstamp.Delivery
import ScalpBot.Proofs.Bitstamp.Requests

/-!
# The secret only signs

What depends on the secret is the signature of a private request, and nothing else. Take one client with
two secrets, and a network that does not look at signatures (`Network.Blind`): the requests that are sent
are the same but for the signature (`HttpRequest.unsigned`), so the replies are the same, and with them the
answers and the failures.

A step is one call (`Client.answer_withSecret`), and `Client.perform_withSecret` is the induction over any
calls, one after the other. The two runs need not be in the same states, only in states that are alike.
-/

namespace ScalpBot

/-! ## Requests without the signature -/

namespace HttpRequest

/-- A header field, where the signature is left blank. -/
def hideSignature (field : String × String) : String × String :=
  if field.1 = "x-auth-signature" then (field.1, "") else field

/-- A request, where the signature is left blank. -/
def unsigned (r : HttpRequest) : HttpRequest := { r with headers := r.headers.map hideSignature }

/-- Whether a request is built, and all of it but the signature, does not depend on the signature. -/
theorem build_unsigned {method address body : String} {headers headers' : List (String × String)}
    (hfields : headers.map hideSignature = headers'.map hideSignature)
    (hvalues : (headers.all fun h => isHeaderValue h.2) = headers'.all fun h => isHeaderValue h.2) :
    (build method address headers body).map unsigned =
      (build method address headers' body).map unsigned := by
  rw [build, build]
  cases WebAddress.parse address with
  | error cause => rfl
  | ok a =>
    simp only [hvalues]
    split
    · rfl
    split
    · rfl
    · simp only [Except.map, unsigned, hfields]

end HttpRequest

/-- A text in hexadecimal digits can be the value of a header. -/
theorem isHeaderValue_hexText (bytes : List UInt8) : isHeaderValue (hexText bytes) = true := by
  have hdigit : ∀ n : Fin 16, 0x20 ≤ (Nat.digitChar n).toNat ∧ (Nat.digitChar n).toNat ≠ 0x7F := by
    decide
  have hall : ∀ n < 16, 0x20 ≤ (Nat.digitChar n).toNat ∧ (Nat.digitChar n).toNat ≠ 0x7F :=
    fun n hn => hdigit ⟨n, hn⟩
  rw [isHeaderValue, hexText, String.toList_ofList, List.all_eq_true]
  intro c hc
  obtain ⟨b, -, hb⟩ := List.mem_flatMap.mp hc
  have hlt := b.toNat_lt
  have hc : 0x20 ≤ c.toNat ∧ c.toNat ≠ 0x7F := by
    simp only [List.mem_cons, List.not_mem_nil, or_false] at hb
    rcases hb with rfl | rfl
    · exact hall _ (by omega)
    · exact hall _ (by omega)
  simp [hc.1, hc.2]

/-- Makes calls about markets, one after the other: the calls with their replies, and the state after. -/
def Exchange.perform {σ : Type} (exchange : Exchange σ) : List (String × Call) → σ → List Exchanged × σ
  | [], world => ([], world)
  | (marketId, call) :: rest, world =>
    let reply := exchange.answer marketId call world
    let later := exchange.perform rest reply.2
    (⟨marketId, call, reply.1⟩ :: later.1, later.2)

/-- The settings with this secret. -/
def ExchangeSettings.withSecret (secret : String) (s : ExchangeSettings) : ExchangeSettings :=
  { s with apiSecret := some secret }

namespace Bitstamp

/-! ## Networks that do not look at signatures -/

/-- **A network that does not look at signatures.**  In states that are alike it gives the same nonce, the
same time, and the same reply to requests that differ in the signature at most; and the states after are
alike. -/
structure Network.Blind {ν : Type} (net : Network ν) (alike : ν → ν → Prop) : Prop where
  nonce : ∀ {world world'}, alike world world' → (net.nonce world).1 = (net.nonce world').1 ∧
    alike (net.nonce world).2 (net.nonce world').2
  now : ∀ {world world'}, alike world world' → net.now world = net.now world'
  send : ∀ {world world' request request'}, alike world world' →
    HttpRequest.unsigned request = request'.unsigned →
    (net.send request world).1 = (net.send request' world').1 ∧
      alike (net.send request world).2 (net.send request' world').2

variable {ν : Type} {net : Network ν} {alike : ν → ν → Prop}

/-- States with records are alike where the states are and the requests on record differ in their
signatures at most. -/
def Recorded (alike : ν → ν → Prop) (world world' : ν × List HttpRequest) : Prop :=
  alike world.1 world'.1 ∧ world.2.map HttpRequest.unsigned = world'.2.map HttpRequest.unsigned

/-- To keep the requests does not help. -/
theorem Network.Blind.recorded (h : net.Blind alike) : net.recorded.Blind (Recorded alike) where
  nonce hw := ⟨(h.nonce hw.1).1, (h.nonce hw.1).2, hw.2⟩
  now hw := h.now hw.1
  send hw hr := by
    refine ⟨(h.send hw.1 hr).1, (h.send hw.1 hr).2, ?_⟩
    simp only [Network.recorded, List.map_append, hw.2, List.map_cons, hr, List.map_nil]

/-! ## Another secret -/

/-- The credentials with another secret. -/
def Credentials.withSecret (secret : String) (credentials : Credentials) : Credentials :=
  { credentials with apiSecret := secret }

/-- The proof of a request without the signature does not depend on the secret, nor does it depend on it
whether a header can carry the proof. -/
theorem fields_withSecret (credentials : Credentials) (secret method host path body nonce : String)
    (timestamp : Int) :
    let fields := (AuthHeaders.ofRequest credentials method host path body nonce timestamp).fields
    let fields' := (AuthHeaders.ofRequest (credentials.withSecret secret) method host path body nonce
      timestamp).fields
    fields.map HttpRequest.hideSignature = fields'.map HttpRequest.hideSignature ∧
      (fields.all fun h => isHeaderValue h.2) = fields'.all fun h => isHeaderValue h.2 := by
  intro fields fields'
  have hhidden (value : String) :
      HttpRequest.hideSignature ("x-auth-signature", value) = ("x-auth-signature", "") := if_pos rfl
  constructor
  · simp only [fields, fields', AuthHeaders.fields, AuthHeaders.ofRequest, Credentials.withSecret,
      List.map_append, List.map_cons, hhidden]
    rfl
  · simp only [fields, fields', AuthHeaders.fields, AuthHeaders.ofRequest, Credentials.withSecret, sign,
      List.all_append, List.all_cons, isHeaderValue_hexText]
    rfl

namespace Client

/-- The client with another secret. -/
def withSecret (secret : String) (c : Client) : Client :=
  { c with credentials := c.credentials.map (·.withSecret secret) }

variable (c : Client) (secret marketId : String) (call : Call) {world world' : ν}

/-- What is to be sent is the same but for the signature, and the states are alike. -/
def RequestsAlike (alike : ν → ν → Prop) (x y : Except TransportFailure HttpRequest × ν) : Prop :=
  x.1.map HttpRequest.unsigned = y.1.map HttpRequest.unsigned ∧ alike x.2 y.2

theorem request?_withSecret (hnet : net.Blind alike) (hworld : alike world world') :
    Option.Rel (RequestsAlike alike) (c.request? net marketId call world)
      ((c.withSecret secret).request? net marketId call world') := by
  simp only [request?]
  split
  · exact .some ⟨rfl, hworld⟩
  · cases hc : c.credentials with
    | none =>
      simp only [withSecret, hc, Option.map_none]
      exact .none
    | some credentials =>
      simp only [withSecret, hc, Option.map_some]
      obtain ⟨hnonce, hsent⟩ := hnet.nonce hworld
      refine .some ⟨?_, hsent⟩
      simp only [signedRequest, hnonce, hnet.now hworld]
      obtain ⟨hfields, hvalues⟩ := fields_withSecret credentials secret "POST" c.host
        (pathOf (endpoint call) marketId) (formBody (values call)) (net.nonce world').1
        (milliseconds (net.now world'))
      exact HttpRequest.build_unsigned hfields hvalues

/-- What comes of requests that are alike, and the states after them. -/
theorem sent_alike (hnet : net.Blind alike) {x y : Except TransportFailure HttpRequest × ν}
    (h : RequestsAlike alike x y) :
    (x.1.bind fun request => (net.send request x.2).1) =
        (y.1.bind fun request => (net.send request y.2).1) ∧
      alike (net.afterRequest x) (net.afterRequest y) := by
  obtain ⟨request, world⟩ := x
  obtain ⟨request', world'⟩ := y
  obtain ⟨hrequest, hworld⟩ := h
  cases request with
  | error f =>
    cases request' with
    | error f' =>
      obtain rfl := Except.error.inj hrequest
      exact ⟨rfl, hworld⟩
    | ok r' => cases hrequest
  | ok r =>
    cases request' with
    | error f' => cases hrequest
    | ok r' => exact hnet.send hworld (Except.ok.inj hrequest)

/-- **A call does not tell the secret.** Its reply is the same with another secret, and the states after
it are alike. -/
theorem answer_withSecret (hnet : net.Blind alike) (hworld : alike world world') :
    (c.answer net marketId call world).1 = ((c.withSecret secret).answer net marketId call world').1 ∧
      alike (c.answer net marketId call world).2
        ((c.withSecret secret).answer net marketId call world').2 := by
  have hrequest := c.request?_withSecret secret marketId call hnet hworld
  have hreply : c.reply? net marketId call world =
      (c.withSecret secret).reply? net marketId call world' := by
    rw [reply?, reply?]
    generalize c.request? net marketId call world = x at hrequest ⊢
    generalize (c.withSecret secret).request? net marketId call world' = y at hrequest ⊢
    cases hrequest with
    | none => rfl
    | some h => exact congrArg some (sent_alike hnet h).1
  have hafter : alike (c.answer net marketId call world).2
      ((c.withSecret secret).answer net marketId call world').2 := by
    rw [answer_snd, answer_snd]
    generalize c.request? net marketId call world = x at hrequest ⊢
    generalize (c.withSecret secret).request? net marketId call world' = y at hrequest ⊢
    cases hrequest with
    | none => exact hworld
    | some h => exact (sent_alike hnet h).2
  refine ⟨?_, hafter⟩
  rw [answer_fst, answer_fst, hreply, hnet.now hafter]
  rfl

/-- **Calls do not tell the secret.** With another secret any calls get the same replies, and send the
same requests but for the signatures. -/
theorem perform_withSecret (hnet : net.Blind alike) (hworld : alike world world')
    (calls : List (String × Call)) :
    ((c.toExchange net).perform calls world).1 =
        (((c.withSecret secret).toExchange net).perform calls world').1 ∧
      alike ((c.toExchange net).perform calls world).2
        (((c.withSecret secret).toExchange net).perform calls world').2 := by
  induction calls generalizing world world' with
  | nil => exact ⟨rfl, hworld⟩
  | cons asked calls ih =>
    obtain ⟨marketId, call⟩ := asked
    obtain ⟨hreply, hafter⟩ := c.answer_withSecret secret marketId call hnet hworld
    obtain ⟨hrest, hend⟩ := ih hafter
    refine ⟨?_, hend⟩
    simp only [Exchange.perform, toExchange] at hrest ⊢
    rw [hreply, hrest]

/-! ## Two clients -/

/-- Two secrets make clients that differ in the secret, or the same failure. -/
theorem ofSettings_withSecret (s : ExchangeSettings) {a b : String} (ha : a ≠ "") (hb : b ≠ "") :
    ofSettings (s.withSecret b) = (ofSettings (s.withSecret a)).map (withSecret b) := by
  have hcredentials : (s.withSecret b).credentials =
      (s.withSecret a).credentials.map (·.withSecret b) := by
    simp only [ExchangeSettings.credentials, ExchangeSettings.withSecret]
    cases s.apiKey with
    | none => rfl
    | some key =>
      by_cases hkey : key = ""
      · simp [Credentials.ofSettings, hkey]
      · simp [Credentials.ofSettings, hkey, ha, hb, Credentials.withSecret]
  simp only [ofSettings, hcredentials]
  cases hurl : ofUrl (s.withSecret a).restUrl with
  | error cause =>
    have hurl' : ofUrl (s.withSecret b).restUrl = .error cause := hurl
    rw [hurl']
    rfl
  | ok made =>
    have hurl' : ofUrl (s.withSecret b).restUrl = .ok made := hurl
    rw [hurl']
    rfl

/-- **The secret only signs.**  Take settings with two secrets that are not empty. They make no client for
the same reason, or two clients that diagnostics show alike. Let these make any calls, on a network that
does not look at signatures and in states that are alike. They get the same replies, answers and failures
with their texts, and the requests that they send are the same but for the signatures. -/
theorem secret_only_signs (s : ExchangeSettings) {a b : String} (ha : a ≠ "") (hb : b ≠ "") :
    (∀ cause, ofSettings (s.withSecret a) = .error cause ↔
      ofSettings (s.withSecret b) = .error cause) ∧
    ∀ c d, ofSettings (s.withSecret a) = .ok c → ofSettings (s.withSecret b) = .ok d →
      c.credentials.map Credentials.describe = d.credentials.map Credentials.describe ∧
      ∀ {ν : Type} (net : Network ν) (alike : ν → ν → Prop), net.Blind alike →
        ∀ world world', alike world world' → ∀ calls : List (String × Call),
          let first := (c.toExchange net.recorded).perform calls (world, [])
          let second := (d.toExchange net.recorded).perform calls (world', [])
          first.1 = second.1 ∧
            first.2.2.map HttpRequest.unsigned = second.2.2.map HttpRequest.unsigned := by
  have hmade := ofSettings_withSecret s ha hb
  constructor
  · intro cause
    rw [hmade]
    cases ofSettings (s.withSecret a) <;> simp [Except.map]
  · intro c d hc hd
    obtain rfl : c.withSecret b = d := by
      rw [hc, hd] at hmade
      exact (Except.ok.inj hmade).symm
    constructor
    · rw [withSecret, Option.map_map]
      rfl
    · intro ν net alike hnet world world' hworld calls
      have hstart : Recorded alike (world, []) (world', []) := ⟨hworld, rfl⟩
      obtain ⟨hreplies, -, hsent⟩ := c.perform_withSecret b hnet.recorded hstart calls
      exact ⟨hreplies, hsent⟩

/-! ## Two secrets -/

/-- A network that looks at the target only is blind. -/
theorem blind_answering (bodyOf : String → String) : (Network.answering bodyOf).Blind Eq where
  nonce _ := ⟨rfl, rfl⟩
  now _ := rfl
  send {_ _ request request'} _ hr := by
    have haddress : request.unsigned.address = request'.unsigned.address := by rw [hr]
    simp only [HttpRequest.unsigned] at haddress
    simp only [Network.answering, haddress, and_self]

/-- Settings for an exchange on the same machine. -/
def sampleReach : ExchangeSettings := { apiKey := some "key", restUrl := "http://[::1]" }

/-- A client for it. -/
def sampleWith (secret : String) : Client where
  baseUrl := "http://[::1]"
  host := "[::1]"
  credentials := some ⟨"key", secret⟩
  nonFatalCodes := sampleReach.nonFatalErrorCodes
  nonFatalMessages := sampleReach.nonFatalErrorMessages

/-- The requests that a client sends when it asks for the book and for its open orders. -/
def sampleRequests (c : Client) : List HttpRequest :=
  ((c.toExchange (Network.steady "[]").recorded).perform
    [("ltcbtc", .orderBook), ("ltcbtc", .openOrders)] ((), [])).2.2

/-- With two secrets the requests are different, and they are the same but for the signatures. -/
theorem secret_only_signs_sample :
    ofSettings (sampleReach.withSecret "one") = .ok (sampleWith "one") ∧
      ofSettings (sampleReach.withSecret "two") = .ok (sampleWith "two") ∧
      sampleRequests (sampleWith "one") ≠ sampleRequests (sampleWith "two") ∧
      (sampleRequests (sampleWith "one")).map HttpRequest.unsigned =
        (sampleRequests (sampleWith "two")).map HttpRequest.unsigned := by
  have hone : ofSettings (sampleReach.withSecret "one") = .ok (sampleWith "one") := by decide +kernel
  have htwo : ofSettings (sampleReach.withSecret "two") = .ok (sampleWith "two") := by decide +kernel
  have hdifferent : sampleRequests (sampleWith "one") ≠ sampleRequests (sampleWith "two") := by
    decide +kernel
  obtain ⟨-, hclients⟩ := secret_only_signs sampleReach (a := "one") (b := "two") (by decide) (by decide)
  obtain ⟨-, hcalls⟩ := hclients _ _ hone htwo
  obtain ⟨-, hsame⟩ := hcalls (.steady "[]") Eq (blind_answering _) () () rfl
    [("ltcbtc", .orderBook), ("ltcbtc", .openOrders)]
  refine ⟨hone, htwo, hdifferent, ?_⟩
  rw [sampleRequests, sampleRequests]
  exact hsame

end Client

end Bitstamp

end ScalpBot
