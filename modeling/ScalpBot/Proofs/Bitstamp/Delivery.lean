import ScalpBot.Proofs.Bitstamp.Calls
import ScalpBot.Proofs.Result

/-!
# What a call receives

A reply with a status of success delivers its body, which has to be one JSON value
(`Client.Delivered`). Such a value is all that the answer depends on: it is a rejection, or it is read
in the shape of the call and turned into the answer (`Client.readValue`, `Client.answer_of_receives`).
No answer comes about in another way (`Client.receives_of_answer`).
-/

namespace ScalpBot.Bitstamp

variable {ν α : Type}

namespace Client

/-- A reply delivers a value: its status is one of success and not a configured one, and its body is
the value as a whole. -/
inductive Delivered (c : Client) (v : Json) : HttpReply → Prop
  | intro {r : HttpResponse} {body : String} (success : 200 ≤ r.status ∧ r.status < 300)
      (not_configured : r.status ∉ c.nonFatalCodes) (read : r.body = .ok body)
      (json : Json.parse body = some v) : Delivered c v (.ok r)

/-- The reply to a call delivers a value. -/
def Receives (c : Client) (net : Network ν) (marketId : String) (call : Call) (world : ν)
    (v : Json) : Prop :=
  ∃ reply, c.reply? net marketId call world = some reply ∧ c.Delivered v reply

/-- Reads what was delivered. -/
def readValue (decode : Json.Decoder α) (v : Json) : Except Failure α :=
  match ErrorReply.ofValue? v with
  | some rejection => .error (.api rejection.message)
  | none => (decode v).mapError fun cause => .jsonParse (.mismatch cause)

theorem readValue_eq_ok_iff {decode : Json.Decoder α} {v : Json} {a : α} :
    readValue decode v = .ok a ↔ ErrorReply.ofValue? v = none ∧ decode v = .ok a := by
  rw [readValue]
  cases ErrorReply.ofValue? v <;> simp [mapError_eq_ok_iff]

variable {c : Client} {net : Network ν} {marketId : String} {call : Call} {world : ν} {v : Json}

theorem readReply_of_delivered {reply : HttpReply} (h : c.Delivered v reply)
    (decode : Json.Decoder α) : c.readReply decode reply = readValue decode v := by
  obtain ⟨success, not_configured, read, json⟩ := h
  rename_i r body
  have hstatus : r.status ≠ 429 := by omega
  have hverdict := c.readResponse_verdict decode r
  rw [readReply]
  generalize c.readResponse decode r = result at hverdict ⊢
  cases hverdict with
  | tooMany status => exact absurd status hstatus
  | unread _ unread => cases read.symm.trans unread
  | configured _ _ code => exact absurd code not_configured
  | unsuccessful _ _ _ failed => exact absurd success failed
  | success _ read' =>
    obtain rfl := Except.ok.inj (read.symm.trans read')
    rw [readBody, json]
    rfl

theorem delivered_of_readReply {decode : Json.Decoder α} {reply : HttpReply} {a : α}
    (h : c.readReply decode reply = .ok a) :
    ∃ v, c.Delivered v reply ∧ readValue decode v = .ok a := by
  cases reply with
  | error f => cases h
  | ok r =>
    have hverdict := c.readResponse_verdict decode r
    have hread : c.readResponse decode r = .ok a := h
    generalize c.readResponse decode r = result at hverdict hread
    cases hverdict with
    | tooMany | unread | configured | unsuccessful => cases hread
    | success _ read code success =>
      obtain ⟨v, hjson, hrejection, hdecode⟩ := json_of_readBody hread
      exact ⟨v, .intro success code read hjson, readValue_eq_ok_iff.mpr ⟨hrejection, hdecode⟩⟩

/-- **The answer to a call that receives a value** is what is read from the value, turned into the
answer. -/
theorem answer_of_receives (h : c.Receives net marketId call world v) :
    ∃ now, (c.answer net marketId call world).1 =
      readValue (Wire.ofJson call) v >>= Wire.toAnswer now marketId call := by
  obtain ⟨reply, hreply, hdelivered⟩ := h
  obtain ⟨now, hanswer⟩ := c.answer_eq net marketId call world
  refine ⟨now, ?_⟩
  rw [hanswer, hreply, readWire, readReply_of_delivered hdelivered]
  rfl

/-- **A call that is answered has received a value** which is no rejection and gives the answer. -/
theorem receives_of_answer {a : call.Answer} (h : (c.answer net marketId call world).1 = .ok a) :
    ∃ v wire now, c.Receives net marketId call world v ∧ ErrorReply.ofValue? v = none ∧
      Wire.ofJson call v = .ok wire ∧ Wire.toAnswer now marketId call wire = .ok a := by
  obtain ⟨now, hanswer⟩ := c.answer_eq net marketId call world
  obtain ⟨wire, hwire, hturn⟩ := bind_eq_ok_iff.mp (hanswer.symm.trans h)
  cases hreply : c.reply? net marketId call world with
  | none =>
    rw [hreply] at hwire
    cases hwire
  | some reply =>
    rw [hreply, readWire] at hwire
    obtain ⟨v, hdelivered, hread⟩ := delivered_of_readReply hwire
    obtain ⟨hrejection, hshape⟩ := readValue_eq_ok_iff.mp hread
    exact ⟨v, wire, now, ⟨reply, hreply, hdelivered⟩, hrejection, hshape, hturn⟩

end Client

/-! ## A client and a network -/

/-- A network from which a request gets the body that `bodyOf` has for its target, with a status of
success. -/
def Network.answering (bodyOf : String → String) : Network Unit where
  send request _ := (.ok ⟨200, [], .ok (bodyOf request.address.target)⟩, ())
  nonce _ := ("nonce", ())
  now _ := ⟨0, 0⟩

/-- A network from which every request gets the same body. -/
def Network.steady (body : String) : Network Unit := .answering fun _ => body

/-- A client of an exchange on the same machine. -/
def Client.sample : Client where
  baseUrl := "http://[::1]"
  host := "[::1]"
  credentials := some ⟨"key", "secret"⟩

/-- Whether the request of a call can be built. -/
def Client.sends (c : Client) (net : Network ν) (marketId : String) (call : Call) (world : ν) :
    Bool :=
  match c.request? net marketId call world with
  | some (.ok _, _) => true
  | _ => false

/-- A call whose request can be built receives the body. -/
theorem Client.receives_steady {c : Client} {body marketId : String} {call : Call} {v : Json}
    (hsends : c.sends (.steady body) marketId call () = true) (hcodes : 200 ∉ c.nonFatalCodes)
    (hparse : Json.parse body = some v) : c.Receives (.steady body) marketId call () v := by
  refine ⟨.ok ⟨200, [], .ok body⟩, ?_, .intro (by simp) hcodes rfl hparse⟩
  rw [sends] at hsends
  split at hsends
  · rename_i request sent hrequest
    rw [reply?, hrequest]
    rfl
  · cases hsends

theorem Client.exists_receives_steady {c : Client} {body marketId : String} {call : Call}
    {p : Json → Bool} (hsends : c.sends (.steady body) marketId call () = true)
    (hcodes : 200 ∉ c.nonFatalCodes) (hjson : (Json.parse body).any p = true) :
    ∃ v, c.Receives (.steady body) marketId call () v ∧ p v = true := by
  obtain ⟨v, hparse, hp⟩ := (Option.any_eq_true _ _).mp hjson
  exact ⟨v, receives_steady hsends hcodes hparse, hp⟩

end ScalpBot.Bitstamp
