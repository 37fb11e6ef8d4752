import ScalpBot.Proofs.Bitstamp.Calls
import ScalpBot.Proofs.Exchange.Transcript

/-!
# The requests that are sent

A call sends at most one request, the one that `Client.request?` has for it. Its body holds what the call
tells the endpoint, so it is empty for every call but a submission (`Client.body_of_request?`).

`Network.recorded` keeps the requests that go through a network. After any calls that submit nothing, the
record holds no request of an order that was not there before: `Client.no_order_sent`.
-/

namespace ScalpBot.Bitstamp

variable {ν : Type}

/-- A network that keeps the requests that are sent, in order. -/
def Network.recorded (net : Network ν) : Network (ν × List HttpRequest) where
  send request world :=
    let (reply, sent) := net.send request world.1
    (reply, sent, world.2 ++ [request])
  nonce world :=
    let (nonce, sent) := net.nonce world.1
    (nonce, sent, world.2)
  now world := net.now world.1

/-- The state after a request, which is sent if it could be built. -/
def Network.afterRequest (net : Network ν) : Except TransportFailure HttpRequest × ν → ν
  | (.ok request, sent) => (net.send request sent).2
  | (.error _, sent) => sent

/-- A request that is built goes to an address of HTTP, and is otherwise as it was asked for. -/
theorem exists_address_of_build {method address body : String} {headers : List (String × String)}
    {request : HttpRequest} (h : HttpRequest.build method address headers body = .ok request) :
    ∃ a, WebAddress.parse address = .ok a ∧ (a.scheme = "http" ∨ a.scheme = "https") ∧
      request = ⟨method, a, headers, body⟩ := by
  rw [HttpRequest.build] at h
  cases hparse : WebAddress.parse address with
  | error cause =>
    rw [hparse] at h
    cases h
  | ok a =>
    simp only [hparse] at h
    split at h
    · cases h
    · split at h
      · cases h
      · rename_i hscheme
        cases h
        refine ⟨a, rfl, ?_, rfl⟩
        simpa [Decidable.or_iff_not_imp_left] using hscheme

theorem body_of_build {method address body : String} {headers : List (String × String)}
    {request : HttpRequest} (h : HttpRequest.build method address headers body = .ok request) :
    request.body = body := by
  obtain ⟨a, -, -, rfl⟩ := exists_address_of_build h
  rfl

namespace Client

variable {c : Client} {net : Network ν} {marketId : String} {call : Call} {world sent : ν}
  {request : HttpRequest}

/-- The body of the request of a call holds what the call tells the endpoint. -/
theorem body_of_request?
    (h : c.request? net marketId call world = some (.ok request, sent)) :
    request.body = formBody (values call) := by
  simp only [request?] at h
  split at h
  · rename_i hpublic
    simp only [Option.some.injEq, Prod.mk.injEq] at h
    rw [body_of_build h.1]
    cases call with
    | orderBook | lastTradePrice => rfl
    | _ => cases hpublic
  · simp only [Option.map_eq_some_iff, signedRequest, Prod.mk.injEq] at h
    obtain ⟨credentials, -, hbuild, -⟩ := h
    exact body_of_build hbuild

/-- The request of an order. -/
def OrderRequest (c : Client) (net : Network ν) (request : HttpRequest) : Prop :=
  ∃ marketId side quantity price world sent,
    c.request? net marketId (.submitOrder side quantity price) world = some (.ok request, sent)

theorem formBody_orderValues_ne (quantity price : Decimal) :
    formBody (orderValues quantity price) ≠ "" := by
  intro hempty
  have hchars := congrArg String.toList hempty
  simp [formBody, orderValues, Form.encode, Form.encodePairs] at hchars

theorem OrderRequest.body_ne (h : c.OrderRequest net request) : request.body ≠ "" := by
  obtain ⟨_, _, quantity, price, _, _, hrequest⟩ := h
  rw [body_of_request? hrequest]
  exact formBody_orderValues_ne quantity price

/-! ## The state after a call -/

theorem exchange_snd {α : Type} (decode : Json.Decoder α)
    (request : Except TransportFailure HttpRequest) (world : ν) :
    (c.exchange net decode request world).2 = net.afterRequest (request, world) := by
  cases request <;> rfl

theorem publicGet_snd (hcall : isPublic call = true) :
    (c.publicGet net (Wire.ofJson call) (pathOf (endpoint call) marketId) world).2 =
      ((c.request? net marketId call world).map net.afterRequest).getD world := by
  rw [publicGet, exchange_snd]
  simp [request?, hcall]

theorem privatePost_snd (hcall : isPublic call = false) :
    (c.privatePost net (Wire.ofJson call) (pathOf (endpoint call) marketId) (values call) world).2 =
      ((c.request? net marketId call world).map net.afterRequest).getD world := by
  rw [privatePost]
  cases hc : c.credentials with
  | none => simp [request?, hcall, hc]
  | some credentials =>
    simp only [exchange_snd, request?, hcall, hc, Option.map_some]
    rfl

/-- **What a call leaves behind** is the state after its request. -/
theorem answer_snd (c : Client) (net : Network ν) (marketId : String) (call : Call) (world : ν) :
    (c.answer net marketId call world).2 =
      ((c.request? net marketId call world).map net.afterRequest).getD world := by
  cases call with
  | orderBook | lastTradePrice =>
    rw [← publicGet_snd rfl]
    rfl
  | openOrders | buyFeeRate | sellFeeRate | submitOrder =>
    rw [← privatePost_snd rfl]
    rfl

/-! ## The record -/

variable {start : ν × List HttpRequest}

/-- The request of a call is made before it is kept. -/
theorem record_of_request? {built : Except TransportFailure HttpRequest}
    {sent : ν × List HttpRequest}
    (h : c.request? net.recorded marketId call start = some (built, sent)) : sent.2 = start.2 := by
  simp only [request?] at h
  split at h
  · cases h
    rfl
  · obtain ⟨credentials, -, hsigned⟩ := Option.map_eq_some_iff.mp h
    rw [← (Prod.mk.inj hsigned).2]
    rfl

/-- What a call adds to the record is its request. -/
theorem mem_record_answer (h : request ∈ (c.answer net.recorded marketId call start).2.2) :
    request ∈ start.2 ∨ request.body = formBody (values call) := by
  rw [answer_snd] at h
  cases hrequest : c.request? net.recorded marketId call start with
  | none =>
    rw [hrequest] at h
    exact .inl h
  | some made =>
    obtain ⟨built, sent⟩ := made
    rw [hrequest] at h
    have hsent := record_of_request? hrequest
    cases built with
    | error f => exact .inl (hsent ▸ h)
    | ok built =>
      have h : request ∈ sent.2 ++ [built] := h
      rcases List.mem_append.mp h with h | h
      · exact .inl (hsent ▸ h)
      · obtain rfl := List.mem_singleton.mp h
        exact .inr (body_of_request? hrequest)

/-- A call that submits nothing tells the endpoint nothing. -/
theorem values_of_read (h : call.isSubmission = false) : values call = [] := by
  cases call with
  | submitOrder => cases h
  | _ => rfl

/-- **No order is sent by reads.**  After calls that submit nothing, the requests that were sent since
are not those of orders. -/
theorem no_order_sent {calls : List Exchanged} (hreads : ∀ e ∈ calls, e.isSubmission = false)
    (h : request ∈ ((c.toExchange net.recorded).after start calls).2) :
    request ∈ start.2 ∨ ¬ c.OrderRequest net.recorded request := by
  induction calls generalizing start with
  | nil => exact .inl h
  | cons e calls ih =>
    obtain ⟨he, hrest⟩ := List.forall_mem_cons.mp hreads
    rcases ih hrest h with hbefore | hnot
    · rcases mem_record_answer hbefore with hstart | hbody
      · exact .inl hstart
      · refine .inr fun horder => horder.body_ne ?_
        rw [hbody, values_of_read he]
        rfl
    · exact .inr hnot

end Client

end ScalpBot.Bitstamp
