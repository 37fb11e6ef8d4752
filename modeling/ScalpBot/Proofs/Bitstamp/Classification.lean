import ScalpBot.Proofs.Bitstamp.Delivery

/-!
# Which failures of a call are transient

The client decides in many places what a failed call means: the status, the body, the two lists of its
settings and the kind of a transport failure all take part, one before the other.
`Client.Passing` says in one list what comes to a transient failure, without any order, and
`Client.answer_class` that a call fails with a transient failure exactly then. `Client.Accepted` is what
an answer needs.

A reply is read (`Client.readReply`) and then turned into the answer. The second part can fail, but not
with a transient failure: it only looks at what was read, and finds it of no use (`OnlyInvalid`).
-/

namespace ScalpBot

theorem occursIn_iff {part cs : List Char} : occursIn part cs = true ↔ part <:+: cs := by
  induction cs with
  | nil => simp [occursIn]
  | cons c rest ih =>
    rw [occursIn, Bool.or_eq_true, List.isPrefixOf_iff_prefix, ih, List.infix_cons_iff]

theorem TransportFailure.classify_transient_iff {f : TransportFailure} :
    f.classify.failureClass = .transient ↔
      f.part = .timeout ∨ f.part = .request ∨ f.part = .body := by
  rw [classify]
  cases f.part <;> simp [Failure.failureClass]

namespace Bitstamp

/-! ## Transient results -/

variable {α β : Type}

/-- Whether a result is a failure after which trying again may help. -/
def Transient (result : Except Failure α) : Prop :=
  ∃ cause, result = .error cause ∧ cause.failureClass = .transient

@[simp] theorem transient_error {cause : Failure} :
    Transient (.error cause : Except Failure α) ↔ cause.failureClass = .transient := by
  simp [Transient]

@[simp] theorem not_transient_ok {a : α} : ¬ Transient (.ok a : Except Failure α) := by
  simp [Transient]

theorem nonRecoverable_of_not_transient {cause : Failure}
    (h : ¬ Transient (.error cause : Except Failure α)) :
    cause.failureClass = .nonRecoverable := by
  rw [transient_error] at h
  cases hclass : cause.failureClass with
  | transient => exact absurd hclass h
  | nonRecoverable => rfl

theorem transient_bind_iff {x : Except Failure α} {f : α → Except Failure β}
    (hf : ∀ a, ¬ Transient (f a)) : Transient (x >>= f) ↔ Transient x := by
  cases x with
  | error cause => exact transient_error.trans transient_error.symm
  | ok a => exact iff_of_false (hf a) not_transient_ok

/-! ## Answers that are of no use -/

/-- Whether a result fails, if it does, because what was read is of no use. -/
def OnlyInvalid (result : Except Failure α) : Prop :=
  ∀ cause, result = .error cause → ∃ text, cause = .invalidResponse text

theorem OnlyInvalid.not_transient {result : Except Failure α} (h : OnlyInvalid result) :
    ¬ Transient result := by
  rintro ⟨cause, hcause, hclass⟩
  obtain ⟨text, rfl⟩ := h cause hcause
  cases hclass

theorem onlyInvalid_ok {a : α} : OnlyInvalid (.ok a) := by
  rintro cause ⟨⟩

theorem onlyInvalid_error (text : String) :
    OnlyInvalid (.error (.invalidResponse text) : Except Failure α) := by
  rintro cause ⟨⟩
  exact ⟨text, rfl⟩

theorem onlyInvalid_bind {x : Except Failure α} {f : α → Except Failure β} (hx : OnlyInvalid x)
    (hf : ∀ a, OnlyInvalid (f a)) : OnlyInvalid (x >>= f) := by
  intro cause hcause
  rcases bind_eq_error_iff.mp hcause with h | ⟨a, -, h⟩
  · exact hx cause h
  · exact hf a cause h

theorem onlyInvalid_mapM {f : α → Except Failure β} (hf : ∀ a, OnlyInvalid (f a)) (l : List α) :
    OnlyInvalid (l.mapM f) := by
  intro cause hcause
  obtain ⟨a, -, h⟩ := exists_eq_error_of_mapM hcause
  exact hf a cause h

namespace Client

/-! ## Turning what was read into the answer -/

theorem onlyInvalid_readDecimal (what text : String) : OnlyInvalid (readDecimal what text) := by
  rw [readDecimal]
  split
  · exact onlyInvalid_ok
  · exact onlyInvalid_error _

theorem onlyInvalid_readLevels (what : String) (levels : List BookLevel) :
    OnlyInvalid (readLevels what levels) :=
  onlyInvalid_mapM (fun _ => onlyInvalid_bind (onlyInvalid_readDecimal _ _) fun _ =>
    onlyInvalid_bind (onlyInvalid_readDecimal _ _) fun _ => onlyInvalid_ok) levels

theorem onlyInvalid_readOpenOrder (marketId : String) (reply : OpenOrderReply) :
    OnlyInvalid (readOpenOrder marketId reply) := by
  refine onlyInvalid_bind ?_ fun _ => onlyInvalid_bind (onlyInvalid_readDecimal _ _) fun _ =>
    onlyInvalid_bind (onlyInvalid_readDecimal _ _) fun _ => onlyInvalid_ok
  rw [readSide]
  split
  · exact onlyInvalid_ok
  · split
    · exact onlyInvalid_ok
    · exact onlyInvalid_error _

theorem onlyInvalid_readFee (marketId : String) (reply : BalanceReply) :
    OnlyInvalid (readFee marketId reply) := by
  rw [readFee]
  split
  · exact onlyInvalid_error _
  · exact onlyInvalid_bind (onlyInvalid_readDecimal _ _) fun _ => onlyInvalid_ok

/-- **What was read is turned into an answer, or is of no use.** -/
theorem onlyInvalid_toAnswer (now : Instant) (marketId : String) (call : Call)
    (wire : Wire call) : OnlyInvalid (Wire.toAnswer now marketId call wire) := by
  cases call with
  | orderBook =>
    exact onlyInvalid_bind (onlyInvalid_readLevels _ _) fun _ =>
      onlyInvalid_bind (onlyInvalid_readLevels _ _) fun _ => onlyInvalid_ok
  | openOrders => exact onlyInvalid_mapM (onlyInvalid_readOpenOrder marketId) wire
  | lastTradePrice => exact onlyInvalid_readDecimal _ _
  | buyFeeRate | sellFeeRate => exact onlyInvalid_readFee _ _
  | submitOrder => exact onlyInvalid_ok

theorem not_transient_toAnswer (now : Instant) (marketId : String) (call : Call)
    (wire : Wire call) : ¬ Transient (Wire.toAnswer now marketId call wire) :=
  (onlyInvalid_toAnswer now marketId call wire).not_transient

/-! ## Reading a reply -/

variable (c : Client)

/-- The failure to send a request, or to read the body of the response. -/
def faultOf? : HttpReply → Option TransportFailure
  | .error f => some f
  | .ok r =>
    match r.body with
    | .error f => some f
    | .ok _ => none

/-- **When trying again may help.** -/
inductive Passing : HttpReply → Prop
  /-- The final response has the status for too many requests. -/
  | tooMany {r : HttpResponse} (status : r.status = 429) : Passing (.ok r)
  /-- The text of the failure to send or to read, with its causes, has a configured part. -/
  | configuredPart {reply : HttpReply} {f : TransportFailure} {part : String}
      (fault : faultOf? reply = some f) (configured : part ∈ c.nonFatalMessages)
      (occurs : part.toList <:+: f.detail.toList) : Passing reply
  /-- No answer came in time, the request could not be sent, or the body broke off. -/
  | interrupted {reply : HttpReply} {f : TransportFailure} (fault : faultOf? reply = some f)
      (part : f.part = .timeout ∨ f.part = .request ∨ f.part = .body) : Passing reply
  /-- The body was read, and the status is a configured one. -/
  | configuredStatus {r : HttpResponse} {body : String} (read : r.body = .ok body)
      (configured : r.status ∈ c.nonFatalCodes) : Passing (.ok r)

/-- **What an answer needs**: a status of success that is not a configured one, and a body that is, as
a whole, JSON in the shape of the call. -/
inductive Accepted (call : Call) : HttpReply → Prop
  | intro {r : HttpResponse} {body : String} {v : Json} {wire : Wire call}
      (success : 200 ≤ r.status ∧ r.status < 300) (not_configured : r.status ∉ c.nonFatalCodes)
      (read : r.body = .ok body) (json : Json.parse body = some v)
      (shape : Wire.ofJson call v = .ok wire) : Accepted call (.ok r)

theorem transportFailure_transient_iff {f : TransportFailure} :
    (c.transportFailure f).failureClass = .transient ↔
      (∃ part ∈ c.nonFatalMessages, part.toList <:+: f.detail.toList) ∨
      f.part = .timeout ∨ f.part = .request ∨ f.part = .body := by
  simp only [transportFailure, List.any_eq_true, occursIn_iff]
  split
  · rename_i h
    exact iff_of_true rfl (.inl h)
  · rename_i h
    rw [TransportFailure.classify_transient_iff, or_iff_right h]

variable {c}

/-- Where sending or reading failed, the failure decides, unless the status had done so before. -/
theorem passing_iff_of_fault {reply : HttpReply} {f : TransportFailure}
    (hfault : faultOf? reply = some f) (hstatus : ∀ r, reply = .ok r → r.status ≠ 429) :
    c.Passing reply ↔ (c.transportFailure f).failureClass = .transient := by
  rw [transportFailure_transient_iff]
  constructor
  · intro h
    cases h with
    | tooMany status => exact absurd status (hstatus _ rfl)
    | configuredPart fault configured occurs =>
      obtain rfl := Option.some.inj (fault.symm.trans hfault)
      exact .inl ⟨_, configured, occurs⟩
    | interrupted fault part =>
      obtain rfl := Option.some.inj (fault.symm.trans hfault)
      exact .inr part
    | configuredStatus read => simp [faultOf?, read] at hfault
  · rintro (⟨part, configured, occurs⟩ | hpart)
    · exact .configuredPart hfault configured occurs
    · exact .interrupted hfault hpart

/-- Where a body was read, the status decides. -/
theorem passing_iff_of_read {r : HttpResponse} {body : String} (hbody : r.body = .ok body) :
    c.Passing (.ok r) ↔ r.status = 429 ∨ r.status ∈ c.nonFatalCodes := by
  have hnone : faultOf? (.ok r) = none := by simp [faultOf?, hbody]
  constructor
  · intro h
    cases h with
    | tooMany status => exact .inl status
    | configuredPart fault | interrupted fault => cases hnone.symm.trans fault
    | configuredStatus _ configured => exact .inr configured
  · rintro (status | configured)
    · exact .tooMany status
    · exact .configuredStatus hbody configured

/-- Reading the body of a success does not fail with a transient failure. -/
theorem not_transient_readBody (decode : Json.Decoder α) (body : String) :
    ¬ Transient (readBody decode body) := by
  rw [readBody]
  split
  · simp [Failure.failureClass]
  split
  · simp [Failure.failureClass]
  · cases decode _ with
    | error cause =>
      intro h
      cases transient_error.mp h
    | ok a => exact not_transient_ok

theorem readResponse_transient_iff {decode : Json.Decoder α} {r : HttpResponse} :
    Transient (c.readResponse decode r) ↔ c.Passing (.ok r) := by
  have hverdict := c.readResponse_verdict decode r
  generalize c.readResponse decode r = result at hverdict ⊢
  cases hverdict with
  | tooMany status => exact iff_of_true (transient_error.mpr rfl) (.tooMany status)
  | @unread f status body =>
    have hfault : faultOf? (.ok r) = some f := by simp [faultOf?, body]
    rw [passing_iff_of_fault hfault (by rintro _ ⟨⟩; exact status)]
    exact transient_error
  | configured status read code =>
    exact iff_of_true (transient_error.mpr rfl) (.configuredStatus read code)
  | unsuccessful status read code =>
    rw [passing_iff_of_read read]
    exact iff_of_false (by simp [Failure.failureClass]) (by simp [status, code])
  | success status read code =>
    rw [passing_iff_of_read read]
    exact iff_of_false (not_transient_readBody _ _) (by simp [status, code])

/-- **A reply is read as a transient failure if and only if trying again may help.** -/
theorem readReply_transient_iff {decode : Json.Decoder α} {reply : HttpReply} :
    Transient (c.readReply decode reply) ↔ c.Passing reply := by
  cases reply with
  | ok r => exact readResponse_transient_iff
  | error f =>
    rw [passing_iff_of_fault rfl (by rintro _ ⟨⟩)]
    exact transient_error

/-- A reply from which something was read is accepted. -/
theorem accepted_of_readReply {call : Call} {reply : HttpReply} {wire : Wire call}
    (h : c.readReply (Wire.ofJson call) reply = .ok wire) : c.Accepted call reply := by
  obtain ⟨v, ⟨success, not_configured, read, json⟩, hread⟩ := delivered_of_readReply h
  exact .intro success not_configured read json (readValue_eq_ok_iff.mp hread).2

variable {ν : Type}

theorem readWire_transient_iff {marketId : String} {call : Call} {reply? : Option HttpReply} :
    Transient (c.readWire marketId call reply?) ↔ ∃ reply, reply? = some reply ∧ c.Passing reply := by
  cases reply? with
  | none => simp [readWire, Failure.failureClass]
  | some reply => simp [readWire, readReply_transient_iff]

/-- **The classification of failures.**  For every client, network and call: the call fails with a
transient failure if and only if a request came to something after which trying again may help, it
fails for good in every other case in which it fails, and it is answered only where a request was
accepted and its body read. -/
theorem answer_class (c : Client) (net : Network ν) (marketId : String) (call : Call) (world : ν) :
    (Transient (c.answer net marketId call world).1 ↔
      ∃ reply, c.reply? net marketId call world = some reply ∧ c.Passing reply) ∧
    (∀ cause, (c.answer net marketId call world).1 = .error cause →
      (¬ ∃ reply, c.reply? net marketId call world = some reply ∧ c.Passing reply) →
      cause.failureClass = .nonRecoverable) ∧
    ∀ answer, (c.answer net marketId call world).1 = .ok answer →
      ∃ reply, c.reply? net marketId call world = some reply ∧ c.Accepted call reply := by
  obtain ⟨now, hanswer⟩ := c.answer_eq net marketId call world
  have hclass : Transient (c.answer net marketId call world).1 ↔
      ∃ reply, c.reply? net marketId call world = some reply ∧ c.Passing reply := by
    -- the answer is transient exactly where the reading was: turning it into the answer is not
    rw [hanswer, ← readWire_transient_iff]
    exact transient_bind_iff (not_transient_toAnswer now marketId call)
  refine ⟨hclass, ?_, ?_⟩
  · intro cause hcause hnone
    rw [hcause] at hclass
    exact nonRecoverable_of_not_transient (mt hclass.mp hnone)
  · intro answer hok
    rw [hanswer] at hok
    cases hreply : c.reply? net marketId call world with
    | none =>
      rw [hreply] at hok
      cases hok
    | some reply =>
      rw [hreply, readWire] at hok
      cases hread : c.readReply (Wire.ofJson call) reply with
      | error cause =>
        rw [hread] at hok
        cases hok
      | ok wire => exact ⟨reply, rfl, accepted_of_readReply hread⟩

end Client

end Bitstamp

end ScalpBot
