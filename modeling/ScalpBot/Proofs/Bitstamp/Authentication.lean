import ScalpBot.Proofs.Bitstamp.Classification
import ScalpBot.Proofs.Bitstamp.Requests

/-!
# Calls that cannot be signed

Only a client without credentials fails to sign, and then it fails every private call: no reply amounts
to such a failure, and no answer that is of no use (`Client.unsigned_iff`). With credentials a private
call goes one of two ways, told by `Client.Dispatched`: its signed request is sent, or the request is
refused before that, for its address or for the value of a header (`HttpRequest.Refused`).
-/

namespace ScalpBot

/-! ## Requests that are refused -/

namespace HttpRequest

/-- Why a request is not built. -/
inductive Refused (address : String) (headers : List (String × String)) : Prop
  /-- The address cannot be read. -/
  | address {cause : AddressError} (parse : WebAddress.parse address = .error cause)
  /-- The address is not one of HTTP. -/
  | scheme {a : WebAddress} (parse : WebAddress.parse address = .ok a)
      (foreign : a.scheme ≠ "http" ∧ a.scheme ≠ "https")
  /-- A header cannot have its value. -/
  | header {field : String × String} (mem : field ∈ headers) (value : isHeaderValue field.2 = false)

variable {method address body : String} {headers : List (String × String)}

/-- A request is built unless it is refused. -/
theorem build_eq_error_iff :
    (∃ f, build method address headers body = .error f) ↔ Refused address headers := by
  rw [build]
  cases hparse : WebAddress.parse address with
  | error cause => exact iff_of_true ⟨_, rfl⟩ (.address hparse)
  | ok a =>
    by_cases hvalues : ∃ field ∈ headers, isHeaderValue field.2 = false
    · obtain ⟨field, hmem, hvalue⟩ := hvalues
      have hany : (!headers.all fun h => isHeaderValue h.2) = true := by
        simpa using ⟨field.1, field.2, hmem, hvalue⟩
      simp only [hany, if_true]
      exact iff_of_true ⟨_, rfl⟩ (.header hmem hvalue)
    have hall : (!headers.all fun h => isHeaderValue h.2) = false := by
      simpa using hvalues
    simp only [hall, Bool.false_eq_true, if_false]
    by_cases hscheme : a.scheme ≠ "http" ∧ a.scheme ≠ "https"
    · rw [if_pos (by simpa using hscheme)]
      exact iff_of_true ⟨_, rfl⟩ (.scheme hparse hscheme)
    · rw [if_neg (by simpa using hscheme)]
      refine iff_of_false (by simp) fun hrefused => ?_
      cases hrefused with
      | address parse => cases hparse.symm.trans parse
      | scheme parse foreign =>
        obtain rfl := Except.ok.inj (hparse.symm.trans parse)
        exact hscheme foreign
      | header mem value => exact hvalues ⟨_, mem, value⟩

end HttpRequest

namespace Bitstamp

namespace Client

/-! ## Failures to sign -/

variable {α ν : Type} {c : Client} {net : Network ν} {marketId : String} {call : Call} {world : ν}

/-- Whether a result is the failure to sign a call. -/
def Unsigned (result : Except Failure α) : Prop := ∃ text, result = .error (.authentication text)

/-- No failure to send or to read is one to sign. -/
theorem transportFailure_ne_authentication (f : TransportFailure) (text : String) :
    c.transportFailure f ≠ .authentication text := by
  rw [transportFailure]
  split
  · simp
  · rw [TransportFailure.classify]
    cases f.part <;> simp

theorem not_unsigned_readBody (decode : Json.Decoder α) (body : String) :
    ¬ Unsigned (readBody decode body) := by
  rintro ⟨text, h⟩
  rw [readBody] at h
  split at h
  · cases h
  split at h
  · cases h
  · cases hdecode : decode _ with
    | error cause =>
      rw [hdecode] at h
      cases h
    | ok a =>
      rw [hdecode] at h
      cases h

/-- Whatever comes of a request, it is no failure to sign. -/
theorem not_unsigned_readReply (decode : Json.Decoder α) (reply : HttpReply) :
    ¬ Unsigned (c.readReply decode reply) := by
  cases reply with
  | error f =>
    rintro ⟨text, h⟩
    exact transportFailure_ne_authentication f text (Except.error.inj h)
  | ok r =>
    have hverdict := c.readResponse_verdict decode r
    rw [readReply]
    generalize c.readResponse decode r = result at hverdict ⊢
    cases hverdict with
    | tooMany | configured | unsuccessful => rintro ⟨text, ⟨⟩⟩
    | unread =>
      rintro ⟨text, h⟩
      exact transportFailure_ne_authentication _ text (Except.error.inj h)
    | success => exact not_unsigned_readBody decode _

theorem reply?_eq_none_iff :
    c.reply? net marketId call world = none ↔ isPublic call = false ∧ c.credentials = none := by
  rw [reply?, Option.map_eq_none_iff, request?]
  cases isPublic call with
  | false => simp
  | true => simp

/-- **When a call cannot be signed.**  It is a private one, and the client has no credentials. -/
theorem unsigned_iff : Unsigned (c.answer net marketId call world).1 ↔
    isPublic call = false ∧ c.credentials = none := by
  obtain ⟨now, hanswer⟩ := c.answer_eq net marketId call world
  rw [hanswer, ← reply?_eq_none_iff]
  cases hreply : c.reply? net marketId call world with
  | none => exact iff_of_true ⟨_, rfl⟩ rfl
  | some reply =>
    refine iff_of_false ?_ (Option.some_ne_none reply)
    rintro ⟨text, htext⟩
    rcases bind_eq_error_iff.mp htext with hread | ⟨wire, -, hturn⟩
    · exact not_unsigned_readReply _ reply ⟨text, hread⟩
    · obtain ⟨_, hinvalid⟩ := onlyInvalid_toAnswer now marketId call wire _ hturn
      cases hinvalid

/-! ## What becomes of a private call -/

/-- The header fields that prove a private call. -/
def proofFields (c : Client) (credentials : Credentials) (net : Network ν) (marketId : String)
    (call : Call) (world : ν) : List (String × String) :=
  (AuthHeaders.ofRequest credentials "POST" c.host (pathOf (endpoint call) marketId)
    (formBody (values call)) (net.nonce world).1 (milliseconds (net.now world))).fields

/-- The request of a private call, with its proof. -/
theorem request?_of_private {credentials : Credentials} (net : Network ν) (marketId : String)
    (world : ν) (hcredentials : c.credentials = some credentials) (hprivate : isPublic call = false) :
    c.request? net marketId call world =
      some (HttpRequest.build "POST" (c.baseUrl ++ pathOf (endpoint call) marketId)
        (c.proofFields credentials net marketId call world) (formBody (values call)),
        (net.nonce world).2) := by
  rw [request?, hprivate, hcredentials]
  rfl

/-- **What becomes of a private call**, after it has taken its nonce. -/
inductive Dispatched (c : Client) (credentials : Credentials) (net : Network ν) (marketId : String)
    (call : Call) (world : ν) : Prop
  /-- A request with its proof is sent. -/
  | sent {request : HttpRequest}
      (address : WebAddress.parse (c.baseUrl ++ pathOf (endpoint call) marketId) =
        .ok request.address)
      (signed : request.headers = c.proofFields credentials net marketId call world)
      (body : request.body = formBody (values call))
      (reply : c.reply? net marketId call world =
        some (net.send request (net.nonce world).2).1)
      (after : (c.answer net marketId call world).2 = (net.send request (net.nonce world).2).2)
  /-- The request is refused, and nothing is sent. -/
  | refused {f : TransportFailure}
      (reason : HttpRequest.Refused (c.baseUrl ++ pathOf (endpoint call) marketId)
        (c.proofFields credentials net marketId call world))
      (fails : (c.answer net marketId call world).1 = .error (c.transportFailure f))
      (after : (c.answer net marketId call world).2 = (net.nonce world).2)

/-- **A private call of a client with credentials** sends its signed request, or is refused before. -/
theorem dispatched {credentials : Credentials} (hcredentials : c.credentials = some credentials)
    (hprivate : isPublic call = false) : c.Dispatched credentials net marketId call world := by
  have hrequest := request?_of_private net marketId world hcredentials hprivate
  have hafter := c.answer_snd net marketId call world
  rw [hrequest] at hafter
  cases hbuild : HttpRequest.build "POST" (c.baseUrl ++ pathOf (endpoint call) marketId)
      (c.proofFields credentials net marketId call world) (formBody (values call)) with
  | ok request =>
    obtain ⟨a, haddress, -, rfl⟩ := exists_address_of_build hbuild
    rw [hbuild] at hrequest hafter
    refine .sent haddress rfl rfl ?_ hafter
    rw [reply?, hrequest]
    rfl
  | error f =>
    rw [hbuild] at hrequest hafter
    obtain ⟨now, hanswer⟩ := c.answer_eq net marketId call world
    rw [reply?, hrequest] at hanswer
    exact .refused (HttpRequest.build_eq_error_iff.mp ⟨f, hbuild⟩) hanswer hafter

end Client

end Bitstamp

end ScalpBot
