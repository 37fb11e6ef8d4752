import ScalpBot.Proofs.Bitstamp.Orders
import ScalpBot.Proofs.Text.Uuid

/-!
# Signed messages are unambiguous

The parts of a signed message stand one behind the other with nothing between them, and the media type is
one of them only where there is a body. Yet the message tells all of them, once the key, the method and
the host are known (`SignedParts.WellFormed.message_inj`). It is read from its end:

* No body of an order has a `v` in it, so the last `v` is the one of the version. The body is what stands
  behind the version, and it says whether there is a media type.
* No time since 1970 has a hyphen in it, so the last hyphen before the version is the one of the nonce.
  Behind it are the 12 digits of its last group, and then the time.
* What stands before that hyphen are the key, the method, the host, the path and the media type, and then
  23 characters of the nonce.

So a signature is that of one request, or else two messages have one signature (`Client.request_inj`).
-/

namespace ScalpBot

/-- Where a mark stands for the last time, a list comes apart in one way. -/
theorem append_cons_inj {α : Type} {mark : α} {before before' rest rest' : List α}
    (h : mark ∉ rest) (h' : mark ∉ rest') :
    before ++ mark :: rest = before' ++ mark :: rest' ↔ before = before' ∧ rest = rest' := by
  constructor
  · intro heq
    rcases List.append_eq_append_iff.mp heq with ⟨between, hbefore, hrest⟩ | ⟨between, hbefore, hrest⟩
    · cases between with
      | nil => exact ⟨by simp [hbefore], (List.cons.inj hrest).2⟩
      | cons b between =>
        obtain ⟨-, hbehind⟩ := List.cons.inj hrest
        exact absurd (by simp [hbehind]) h
    · cases between with
      | nil => exact ⟨by simp [hbefore], (List.cons.inj hrest).2.symm⟩
      | cons b between =>
        obtain ⟨-, hbehind⟩ := List.cons.inj hrest
        exact absurd (by simp [hbehind]) h'
  · rintro ⟨rfl, rfl⟩
    rfl

namespace Bitstamp

namespace SignedParts

/-- Whether parts are such as a private request has: no query, a nonce in the form of an identifier, a time
since 1970, and the body of an order if there is one. -/
structure WellFormed (parts : SignedParts) : Prop where
  query : parts.query = ""
  nonce : Uuid.HasForm parts.nonce
  timestamp : 0 ≤ parts.timestamp
  body : parts.body = "" ∨
    ∃ quantity price, parts.body = Client.formBody (Client.orderValues quantity price)

variable {parts parts' : SignedParts} {apiKey : String}

/-! ## The pieces of a message -/

/-- What stands before the path. -/
def opening (apiKey : String) (parts : SignedParts) : List Char :=
  (keyField apiKey ++ upperCase parts.method ++ parts.host).toList

/-- What stands before the version. -/
def beforeVersion (apiKey : String) (parts : SignedParts) : List Char :=
  parts.opening apiKey ++ parts.path.toList ++ parts.contentType.toList ++ parts.nonce.toList
    ++ (toString parts.timestamp).toList

/-- A message up to the version, and from there on. -/
theorem WellFormed.toList_message (h : parts.WellFormed) (apiKey : String) :
    (parts.message apiKey).toList =
      parts.beforeVersion apiKey ++ 'v' :: ('2' :: parts.body.toList) := by
  simp [message, beforeVersion, opening, authVersion, h.query]

/-- **No body has a `v` in it.** -/
theorem WellFormed.not_mem_body (h : parts.WellFormed) : 'v' ∉ parts.body.toList := by
  have hdecimal : ∀ a : Decimal, 'v' ∉ a.toText.toList := by
    intro a hmem
    rw [Decimal.toText, String.toList_ofList] at hmem
    rcases Decimal.mem_toChars hmem with hminus | hpoint | hdigit
    · exact absurd hminus (by decide)
    · exact absurd hpoint (by decide)
    · exact absurd hdigit (by decide)
  rcases h.body with hempty | ⟨quantity, price, hbody⟩
  · simp [hempty]
  · rw [hbody, Client.toList_formBody]
    simp [hdecimal]

/-- **A time since 1970 has no hyphen in it.** -/
theorem WellFormed.not_mem_timestamp (h : parts.WellFormed) :
    '-' ∉ (toString parts.timestamp).toList := by
  obtain ⟨n, hn⟩ := Int.eq_ofNat_of_zero_le h.timestamp
  rw [hn, toList_toString_natCast]
  intro hmem
  exact absurd (isDigit_of_mem_digits hmem) (by decide)

/-- Where the nonce has its last hyphen, all up to the version comes apart. -/
theorem beforeVersion_eq {front last : List Char} (h : parts.nonce.toList = front ++ '-' :: last) :
    parts.beforeVersion apiKey =
      (parts.opening apiKey ++ parts.path.toList ++ parts.contentType.toList ++ front) ++
        '-' :: (last ++ (toString parts.timestamp).toList) := by
  simp [beforeVersion, h]

/-! ## Messages -/

/-- What stands before the version tells the path, the nonce and the time, if the rest is known. -/
theorem WellFormed.beforeVersion_inj (h : parts.WellFormed) (h' : parts'.WellFormed)
    (hopening : parts.opening apiKey = parts'.opening apiKey)
    (htype : parts.contentType = parts'.contentType)
    (heq : parts.beforeVersion apiKey = parts'.beforeVersion apiKey) :
    parts.path = parts'.path ∧ parts.nonce = parts'.nonce ∧ parts.timestamp = parts'.timestamp := by
  obtain ⟨front, last, hnonce, hfront, hlast, hnone⟩ := h.nonce.exists_last
  obtain ⟨front', last', hnonce', hfront', hlast', hnone'⟩ := h'.nonce.exists_last
  have hrest : '-' ∉ last ++ (toString parts.timestamp).toList :=
    List.not_mem_append hnone h.not_mem_timestamp
  have hrest' : '-' ∉ last' ++ (toString parts'.timestamp).toList :=
    List.not_mem_append hnone' h'.not_mem_timestamp
  rw [beforeVersion_eq hnonce, beforeVersion_eq hnonce', append_cons_inj hrest hrest'] at heq
  obtain ⟨hbefore, hbehind⟩ := heq
  -- the groups behind the hyphens have one length, and so have the fronts
  obtain ⟨rfl, htime⟩ := List.append_inj hbehind (hlast.trans hlast'.symm)
  obtain ⟨hpath, rfl⟩ := List.append_inj' hbefore (hfront.trans hfront'.symm)
  rw [hopening, htype, List.append_left_inj, List.append_right_inj] at hpath
  refine ⟨String.toList_inj.mp hpath, ?_, ?_⟩
  · exact String.toList_inj.mp (hnonce.trans hnonce'.symm)
  · obtain ⟨m, hm⟩ := Int.eq_ofNat_of_zero_le h.timestamp
    obtain ⟨n, hn⟩ := Int.eq_ofNat_of_zero_le h'.timestamp
    rw [hm, hn] at htime ⊢
    rw [toString_natCast_inj (String.toList_inj.mp htime)]

/-- **A message tells its parts**, if the key, the method and the host are known. -/
theorem WellFormed.message_inj (apiKey : String) (h : parts.WellFormed) (h' : parts'.WellFormed)
    (hmethod : parts.method = parts'.method) (hhost : parts.host = parts'.host) :
    parts.message apiKey = parts'.message apiKey ↔ parts = parts' := by
  refine ⟨fun heq => ?_, fun heq => heq ▸ rfl⟩
  have hversion : 'v' ∉ '2' :: parts.body.toList := by simp [h.not_mem_body]
  have hversion' : 'v' ∉ '2' :: parts'.body.toList := by simp [h'.not_mem_body]
  have hchars := congrArg String.toList heq
  rw [h.toList_message, h'.toList_message, append_cons_inj hversion hversion'] at hchars
  obtain ⟨hbefore, hbehind⟩ := hchars
  have hbody : parts.body = parts'.body := String.toList_inj.mp (List.cons.inj hbehind).2
  have hopening : parts.opening apiKey = parts'.opening apiKey := by
    rw [opening, opening, hmethod, hhost]
  have htype : parts.contentType = parts'.contentType := by
    rw [contentType, contentType, hbody]
  obtain ⟨hpath, hnonce, htime⟩ := h.beforeVersion_inj h' hopening htype hbefore
  have hquery := h.query.trans h'.query.symm
  cases parts
  cases parts'
  exact SignedParts.mk.injEq .. ▸ ⟨hmethod, hhost, hpath, hquery, hnonce, htime, hbody⟩

/-- **One signature is that of one request**, or else two messages have it. -/
theorem WellFormed.sign_inj (credentials : Credentials) (h : parts.WellFormed) (h' : parts'.WellFormed)
    (hmethod : parts.method = parts'.method) (hhost : parts.host = parts'.host) :
    sign credentials parts = sign credentials parts' ↔ parts = parts' ∨
      Collide credentials (parts.message credentials.apiKey)
        (parts'.message credentials.apiKey) := by
  have htag : ∀ p : SignedParts,
      sign credentials p = credentials.tag (p.message credentials.apiKey) := fun _ => rfl
  rw [htag, htag, Credentials.tag_eq_iff, h.message_inj credentials.apiKey h' hmethod hhost]

/-- **Signed messages are unambiguous.**  For one key, method and host, equal messages have the same path,
nonce, time and body. So one signature is that of one request, unless two messages have it. -/
theorem unambiguous (credentials : Credentials) (h : parts.WellFormed) (h' : parts'.WellFormed)
    (hmethod : parts.method = parts'.method) (hhost : parts.host = parts'.host) :
    (parts.message credentials.apiKey = parts'.message credentials.apiKey →
      parts.path = parts'.path ∧ parts.nonce = parts'.nonce ∧
        parts.timestamp = parts'.timestamp ∧ parts.body = parts'.body) ∧
    (sign credentials parts = sign credentials parts' → parts = parts' ∨
      Collide credentials (parts.message credentials.apiKey)
        (parts'.message credentials.apiKey)) := by
  refine ⟨fun heq => ?_, (h.sign_inj credentials h' hmethod hhost).mp⟩
  obtain rfl := (h.message_inj credentials.apiKey h' hmethod hhost).mp heq
  exact ⟨rfl, rfl, rfl, rfl⟩

/-- What is signed of an order, and of a request without a body whose path ends with the media type. -/
def sampleParts (hasBody : Bool) : SignedParts where
  method := "POST"
  host := "[::1]"
  path := Client.pathOf "buy" "ltcbtc" ++ (if hasBody then "" else Form.mediaType)
  query := ""
  nonce := (Uuid.ofRandom 0x67e5504410b1426f9247bb680e5fe0c8).toText
  timestamp := 1700000000000
  body := if hasBody then Client.formBody (Client.orderValues .one .one) else ""

theorem unambiguous_sample : (sampleParts true).WellFormed ∧ (sampleParts false).WellFormed ∧
    (sampleParts true).method = (sampleParts false).method ∧
    (sampleParts true).host = (sampleParts false).host ∧
    (sampleParts true).message "key" ≠ (sampleParts false).message "key" := by
  have hnonce : Uuid.HasForm (sampleParts true).nonce := Uuid.hasForm_toText _
  have horder : (sampleParts true).WellFormed := ⟨rfl, hnonce, by decide, .inr ⟨_, _, rfl⟩⟩
  have hread : (sampleParts false).WellFormed := ⟨rfl, hnonce, by decide, .inl rfl⟩
  refine ⟨horder, hread, rfl, rfl, fun heq => ?_⟩
  obtain ⟨-, -, -, hbody⟩ := (unambiguous ⟨"key", "secret"⟩ horder hread rfl rfl).1 heq
  exact Client.formBody_orderValues_ne _ _ hbody

end SignedParts

/-! ## Requests -/

/-- Whether a network has the text of an identifier for a nonce, and a time since 1970. -/
structure Network.Stamps {ν : Type} (net : Network ν) (world : ν) : Prop where
  nonce : ∃ id : Uuid, (net.nonce world).1 = id.toText
  time : 0 ≤ milliseconds (net.now world)

namespace Client

variable {ν : Type} {c : Client} {net : Network ν} {marketId marketId' : String} {call call' : Call}
  {world world' sent sent' : ν} {request request' : HttpRequest} {credentials : Credentials}

theorem wellFormed_signedParts (hstamps : net.Stamps world) :
    (c.signedParts net marketId call world).WellFormed where
  query := rfl
  nonce := by
    obtain ⟨id, hid⟩ := hstamps.nonce
    rw [signedParts, hid]
    exact id.hasForm_toText
  timestamp := hstamps.time
  body := by
    cases call with
    | submitOrder side quantity price => exact .inr ⟨quantity, price, rfl⟩
    | _ => exact .inl rfl

/-- The request with these parts and their signature. -/
def requestOf (c : Client) (credentials : Credentials) (parts : SignedParts) :
    Except TransportFailure HttpRequest :=
  HttpRequest.build "POST" (c.baseUrl ++ parts.path)
    (AuthHeaders.ofRequest credentials "POST" c.host parts.path parts.body parts.nonce
      parts.timestamp).fields parts.body

/-- The request of a private call is made of what is signed of it. -/
theorem requestOf_signedParts (hprivate : isPublic call = false)
    (hcredentials : c.credentials = some credentials)
    (h : c.request? net marketId call world = some (.ok request, sent)) :
    c.requestOf credentials (c.signedParts net marketId call world) = .ok request := by
  rw [request?_of_private _ _ _ hcredentials hprivate] at h
  exact (Prod.mk.inj (Option.some.inj h)).1

/-- A private request carries the signature of its parts. -/
theorem signature_requestOf
    (h : c.requestOf credentials (c.signedParts net marketId call world) = .ok request) :
    request.header? "x-auth-signature" =
      some (sign credentials (c.signedParts net marketId call world)) := by
  obtain ⟨a, -, -, rfl⟩ := exists_address_of_build h
  exact (lookup_proofFields c credentials net marketId call world).1

/-- **One signature authorizes one request.**  Two private requests of a client with one signature are the
same request, or else two messages have one signature. -/
theorem request_inj (hstamps : net.Stamps world) (hstamps' : net.Stamps world')
    (hcredentials : c.credentials = some credentials)
    (hprivate : isPublic call = false) (hprivate' : isPublic call' = false)
    (h : c.request? net marketId call world = some (.ok request, sent))
    (h' : c.request? net marketId' call' world' = some (.ok request', sent')) :
    request.header? "x-auth-signature" = request'.header? "x-auth-signature" ↔
      request = request' ∨
        Collide credentials ((c.signedParts net marketId call world).message credentials.apiKey)
          ((c.signedParts net marketId' call' world').message credentials.apiKey) := by
  have hmade := requestOf_signedParts hprivate hcredentials h
  have hmade' := requestOf_signedParts hprivate' hcredentials h'
  have hsignature := signature_requestOf hmade
  have hsignature' := signature_requestOf hmade'
  have hwell : (c.signedParts net marketId call world).WellFormed := wellFormed_signedParts hstamps
  have hwell' : (c.signedParts net marketId' call' world').WellFormed :=
    wellFormed_signedParts hstamps'
  have hsign := hwell.sign_inj credentials hwell' rfl rfl
  constructor
  · intro heq
    rw [hsignature, hsignature', Option.some_inj] at heq
    rcases hsign.mp heq with hsame | hcollide
    · rw [hsame] at hmade
      exact .inl (Except.ok.inj (hmade.symm.trans hmade'))
    · exact .inr hcollide
  · rintro (rfl | hcollide)
    · rfl
    · rw [hsignature, hsignature', hsign.mpr (.inr hcollide)]

end Client

end Bitstamp

end ScalpBot
