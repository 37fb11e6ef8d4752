import ScalpBot.Proofs.Bitstamp.Classification
import ScalpBot.Proofs.Json.Members
import ScalpBot.Proofs.Record

/-!
# Which rejections are noticed

The exchange rejects a call with a status of success and a body that says `"status": "error"`. Such a
body is noticed only if it has the shape of a rejection as a whole. Any reason will do, but the code has
to be a text or `null` where there is one (`ErrorReply.codeOf?`). A body with another code is read in the
shape of the call instead, as if it were no rejection, and may be taken for an answer.

`Client.rejection_noticed_iff` says so of every call, and `Client.rejection_taken_sample` shows an order
that counts as placed although it was rejected.
-/

namespace ScalpBot.Bitstamp

open Json

/-! ## The shape of a rejection -/

namespace ErrorReply

/-- Whether a value says of itself that it is a rejection. -/
def saysError (v : Json) : Bool :=
  match v.member? "status" with
  | some (.string status) => status = "error"
  | _ => false

theorem saysError_iff {v : Json} :
    saysError v = true ↔ v.member? "status" = some (.string "error") := by
  rw [saysError]
  split <;> simp_all

/-- The code that a rejection gives, or gives none; nothing where its code cannot be read. -/
def codeOf? (v : Json) : Option (Option String) :=
  match v.member? "code" with
  | none | some .null => some none
  | some (.string code) => some (some code)
  | some _ => none

/-- The reason that a rejection gives, which may be any value. -/
def reasonOf (v : Json) : Json := (v.member? "reason").getD .null

variable {members : List (String × Json)}

theorem find_status_eq_ok_iff {status : String} :
    (Field.required "status" decodeString).find (fun name => members.lookup name) = .ok status ↔
      members.lookup "status" = some (.string status) := by
  rw [Field.find_required_eq_ok_iff]
  cases members.lookup "status" with
  | none => simp
  | some v => cases v <;> simp [decodeString, mismatch]

theorem find_reason_eq_ok_iff {reason : Json} :
    (Field.withDefault "reason" .null .ok : Field Json DecodeError Json).find
        (fun name => members.lookup name) = .ok reason ↔ reason = reasonOf (.object members) := by
  rw [Field.find_withDefault_eq_ok_iff, reasonOf, member?]
  cases members.lookup "reason" <;> simp [eq_comm]

theorem find_code_eq_ok_iff {code : Option String} :
    (Field.optional format "code" decodeString).find (fun name => members.lookup name) = .ok code ↔
      codeOf? (.object members) = some code := by
  rw [Field.optional, Field.find_withDefault_eq_ok_iff, codeOf?, member?]
  cases members.lookup "code" with
  | none => simp [eq_comm]
  | some v => cases v <;> simp [format, decodeOption, decodeString, mismatch, Except.map, eq_comm]

theorem consistent_fields : fields.Consistent :=
  (((Fields.consistent_start _).field _).field _).field _

/-- **An object has the shape of a rejection** where its status is a text and its code can be read. -/
theorem ofJson_eq_ok_iff (h : Ordered members) {rejection : ErrorReply} :
    ofJson (.object members) = .ok rejection ↔
      members.lookup "status" = some (.string rejection.status) ∧
      rejection.reason = reasonOf (.object members) ∧
      codeOf? (.object members) = some rejection.code := by
  obtain ⟨status, reason, code⟩ := rejection
  rw [ofJson, decodeRecord, Fields.readMembers_eq_ok_iff consistent_fields fun m hm =>
    (lookup_eq_some_iff_mem h).mpr hm]
  simp only [fields, Fields.field_ofMembers_eq_ok_iff, find_status_eq_ok_iff, find_reason_eq_ok_iff,
    find_code_eq_ok_iff, Fields.start]
  constructor
  · rintro ⟨_, _, ⟨_, _, ⟨_, _, ⟨⟩, hstatus, rfl⟩, hreason, rfl⟩, hcode, ⟨⟩⟩
    exact ⟨hstatus, hreason, hcode⟩
  · rintro ⟨hstatus, hreason, hcode⟩
    exact ⟨_, code, ⟨_, reason, ⟨mk, status, rfl, hstatus, rfl⟩, hreason, rfl⟩, hcode, rfl⟩

/-- **What is noticed of a body that says `error`**: all of it or nothing, as its code can be read or
not. -/
theorem ofValue?_eq (h : Ordered members)
    (hstatus : (Json.object members).member? "status" = some (.string "error")) :
    ofValue? (.object members) =
      (codeOf? (.object members)).map fun code =>
        ⟨"error", reasonOf (.object members), code⟩ := by
  rw [ofValue?, hstatus]
  ext rejection
  trans ofJson (.object members) = .ok rejection
  · cases ofJson (.object members) <;> simp [Except.toOption]
  rw [ofJson_eq_ok_iff h, Option.map_eq_some_iff]
  constructor
  · obtain ⟨status, reason, code⟩ := rejection
    rintro ⟨hstatus', rfl, hcode⟩
    obtain rfl := Json.string.inj (Option.some.inj (hstatus.symm.trans hstatus'))
    exact ⟨code, hcode, rfl⟩
  · rintro ⟨code, hcode, rfl⟩
    exact ⟨hstatus, rfl, hcode⟩

end ErrorReply

/-! ## Answers to a rejection -/

namespace Client

variable {ν : Type} {c : Client} {net : Network ν} {marketId : String} {call : Call} {world : ν}
  {v : Json}

theorem ofValue?_of_receives (h : c.Receives net marketId call world v)
    (hstatus : v.member? "status" = some (.string "error")) :
    ErrorReply.ofValue? v = (ErrorReply.codeOf? v).map fun code =>
      ⟨"error", ErrorReply.reasonOf v, code⟩ := by
  obtain ⟨_, _, _, _, _, json⟩ := h
  cases v with
  | object members => exact ErrorReply.ofValue?_eq (ordered_of_parse json) hstatus
  | _ => cases hstatus

/-- What is read in the shape of a call may be refused, but not as a rejection. -/
theorem not_api_of_shape {decode : Json.Decoder (Wire call)} {now : Instant} {message : String} :
    ((decode v).mapError fun cause => Failure.jsonParse (.mismatch cause)) >>=
      Wire.toAnswer now marketId call ≠ .error (.api message) := by
  intro h
  rcases bind_eq_error_iff.mp h with hshape | ⟨wire, -, hturn⟩
  · cases hread : decode v <;> simp [hread, Except.mapError] at hshape
  · obtain ⟨text, ⟨⟩⟩ := onlyInvalid_toAnswer now marketId call wire _ hturn

/-- **Which rejections are noticed.**  Let a call receive a value that says `error`. It fails as
rejected if and only if the code of the value can be read, and then with the reason and the code, whatever
else the value holds. If the code cannot be read, the value is read in the shape of the call and turned
into the answer. Open orders, which come as an array, are not answered even so. -/
theorem rejection_noticed_iff (h : c.Receives net marketId call world v)
    (hstatus : v.member? "status" = some (.string "error")) :
    ((∃ message, (c.answer net marketId call world).1 = .error (.api message)) ↔
      (ErrorReply.codeOf? v).isSome = true) ∧
    (∀ code, ErrorReply.codeOf? v = some code →
      (c.answer net marketId call world).1 =
        .error (.api (ErrorReply.message ⟨"error", ErrorReply.reasonOf v, code⟩))) ∧
    (ErrorReply.codeOf? v = none → ∃ now, (c.answer net marketId call world).1 =
      ((Wire.ofJson call v).mapError fun cause => .jsonParse (.mismatch cause)) >>=
        Wire.toAnswer now marketId call) ∧
    (call = .openOrders → ∀ a, (c.answer net marketId call world).1 ≠ .ok a) := by
  obtain ⟨now, hanswer⟩ := answer_of_receives h
  have hvalue := ofValue?_of_receives h hstatus
  cases hcode : ErrorReply.codeOf? v with
  | some code =>
    rw [hcode, Option.map_some] at hvalue
    have hrejected : (c.answer net marketId call world).1 =
        .error (.api (ErrorReply.message ⟨"error", ErrorReply.reasonOf v, code⟩)) := by
      rw [hanswer, readValue, hvalue]
      rfl
    refine ⟨⟨fun _ => rfl, fun _ => ⟨_, hrejected⟩⟩, ?_, ?_, ?_⟩
    · rintro _ ⟨⟩
      exact hrejected
    · rintro ⟨⟩
    · intro _ a hanswered
      cases hrejected.symm.trans hanswered
  | none =>
    rw [hcode, Option.map_none] at hvalue
    have hread : (c.answer net marketId call world).1 =
        ((Wire.ofJson call v).mapError fun cause => .jsonParse (.mismatch cause)) >>=
          Wire.toAnswer now marketId call := by
      rw [hanswer, readValue, hvalue]
    refine ⟨⟨?_, ?_⟩, ?_, fun _ => ⟨now, hread⟩, ?_⟩
    · rintro ⟨message, hmessage⟩
      exact absurd (hread.symm.trans hmessage) not_api_of_shape
    · rintro ⟨⟩
    · rintro code ⟨⟩
    · rintro rfl a hanswered
      have hfails := hread.symm.trans hanswered
      cases v with
      | object members => cases hfails
      | _ => cases hstatus

/-! ## Two rejections -/

/-- A rejection with a code that is a text. -/
def codedRejection : String :=
  "\x7b\"status\": \"error\", \"code\": \"API0001\", \"last\": \"1\"\x7d"

/-- A rejection with a code that is a number. -/
def numberedRejection : String := "\x7b\"status\": \"error\", \"code\": 5, \"id\": \"1\"\x7d"

/-- With a code that is a text it is noticed. -/
theorem rejection_noticed_sample :
    ∃ v, sample.Receives (.steady codedRejection) "ltcbtc" .lastTradePrice () v ∧
      v.member? "status" = some (.string "error") ∧
      ∃ message, (sample.answer (.steady codedRejection) "ltcbtc" .lastTradePrice ()).1 =
        .error (.api message) := by
  have hreceives : ∃ v, sample.Receives (.steady codedRejection) "ltcbtc" .lastTradePrice () v ∧
      (ErrorReply.saysError v && (ErrorReply.codeOf? v).isSome) = true :=
    exists_receives_steady (by decide +kernel) (by decide) (by decide +kernel)
  obtain ⟨v, hreceives, hv⟩ := hreceives
  obtain ⟨herror, hcode⟩ := Bool.and_eq_true_iff.mp hv
  have hstatus := ErrorReply.saysError_iff.mp herror
  exact ⟨v, hreceives, hstatus, (rejection_noticed_iff hreceives hstatus).1.mpr hcode⟩

/-- With a code that is a number a rejected order counts as placed. -/
theorem rejection_taken_sample :
    ∃ v, sample.Receives (.steady numberedRejection) "ltcbtc" (.submitOrder .buy .one .one) () v ∧
      v.member? "status" = some (.string "error") ∧
      (sample.answer (.steady numberedRejection) "ltcbtc" (.submitOrder .buy .one .one) ()).1 =
        .ok ⟨"1"⟩ := by
  have hreceives : ∃ v, sample.Receives (.steady numberedRejection) "ltcbtc"
      (.submitOrder .buy .one .one) () v ∧ ErrorReply.saysError v = true :=
    exists_receives_steady (by decide +kernel) (by decide) (by decide +kernel)
  obtain ⟨v, hreceives, herror⟩ := hreceives
  exact ⟨v, hreceives, ErrorReply.saysError_iff.mp herror, by decide +kernel⟩

end Client

end ScalpBot.Bitstamp
