import ScalpBot.Proofs.Exchange.Transcript

/-!
# The courses of a dialogue

What a dialogue does depends on the replies it gets. `Dialogue.Course` gathers all that it can do:
`Course d transcript result` says that there are replies with which `d` makes the calls of
`transcript` and ends in `result`. A statement about every course holds against every exchange
(`Dialogue.course_run`), whatever it answers and whenever it fails. A course is taken apart step by step:
a call fails or is answered (`Dialogue.course_call_bind_iff`), and a result is in range or not
(`Dialogue.course_ofArithmetic_bind_iff`).

What the exchange itself goes through is tied to the transcript by `Dialogue.heard_run` and
`Dialogue.after_run`.
-/

namespace ScalpBot

namespace Dialogue

variable {α β σ : Type}

/-! ## Courses -/

/-- With some replies, the dialogue makes the calls of the transcript and ends in the result. -/
inductive Course : Dialogue α → List Exchanged → Except Halt α → Prop
  | done (value : α) : Course (.done value) [] (.ok value)
  | halt (cause : Halt) : Course (.halt cause) [] (.error cause)
  | answered {marketId : String} {call : Call} {next : call.Answer → Dialogue α}
      {answer : call.Answer} {transcript : List Exchanged} {result : Except Halt α} :
      Course (next answer) transcript result →
      Course (.ask marketId call next) (⟨marketId, call, .ok answer⟩ :: transcript) result
  | failed (marketId : String) (call : Call) (next : call.Answer → Dialogue α)
      (cause : Failure) :
      Course (.ask marketId call next) [⟨marketId, call, .error cause⟩] (.error (.failed cause))

/-- **What a dialogue does with an exchange is one of its courses.** -/
theorem course_run (exchange : Exchange σ) (d : Dialogue α) (world : σ) :
    d.Course (d.run exchange world).2.1 (d.run exchange world).1 := by
  induction d generalizing world with
  | done value => exact .done value
  | halt cause => exact .halt cause
  | ask marketId call next ih =>
    rw [run]
    split
    · rename_i answer s _
      exact .answered (ih answer s)
    · exact .failed ..

variable {transcript : List Exchanged}

@[simp] theorem course_pure_iff {value : α} {result : Except Halt α} :
    Course (pure value) transcript result ↔ transcript = [] ∧ result = .ok value := by
  constructor
  · rintro ⟨⟩
    exact ⟨rfl, rfl⟩
  · rintro ⟨rfl, rfl⟩
    exact .done value

@[simp] theorem course_halt_iff {cause : Halt} {result : Except Halt α} :
    Course (.halt cause) transcript result ↔ transcript = [] ∧ result = .error cause := by
  constructor
  · rintro ⟨⟩
    exact ⟨rfl, rfl⟩
  · rintro ⟨rfl, rfl⟩
    exact .halt cause

/-- A call that fails ends the dialogue, and one that is answered goes on. -/
theorem course_call_bind_iff {marketId : String} {call : Call} {next : call.Answer → Dialogue β}
    {result : Except Halt β} :
    Course (Dialogue.call marketId call >>= next) transcript result ↔
      (∃ cause, transcript = [⟨marketId, call, .error cause⟩] ∧
        result = .error (.failed cause)) ∨
      ∃ answer rest, transcript = ⟨marketId, call, .ok answer⟩ :: rest ∧
        Course (next answer) rest result := by
  constructor
  · intro h
    cases h with
    | answered h => exact .inr ⟨_, _, rfl, h⟩
    | failed => exact .inl ⟨_, rfl, rfl⟩
  · rintro (⟨cause, rfl, rfl⟩ | ⟨answer, rest, rfl, h⟩)
    · exact .failed ..
    · exact .answered h

/-- A result that is out of range ends the dialogue, and makes no call. -/
theorem course_ofArithmetic_bind_iff {a : Except Overflow α} {next : α → Dialogue β}
    {result : Except Halt β} :
    Course (ofArithmetic a >>= next) transcript result ↔
      (∃ cause, a = .error cause ∧ transcript = [] ∧ result = .error (.overflowed cause)) ∨
      ∃ value, a = .ok value ∧ Course (next value) transcript result := by
  cases a with
  | ok value =>
    refine ⟨fun h => .inr ⟨value, rfl, h⟩, ?_⟩
    rintro (⟨_, h, _⟩ | ⟨_, ⟨⟩, h⟩)
    · cases h
    · exact h
  | error cause =>
    refine ⟨fun h => .inl ⟨cause, rfl, course_halt_iff.mp h⟩, ?_⟩
    rintro (⟨_, ⟨⟩, h⟩ | ⟨_, h, _⟩)
    · exact course_halt_iff.mpr h
    · cases h

/-! ## One market -/

/-- Whether the dialogue makes calls about one market only. -/
def About (marketId : String) : Dialogue α → Prop
  | done _ => True
  | halt _ => True
  | ask marketId' _ next => marketId' = marketId ∧ ∀ answer, (next answer).About marketId

theorem about_bind {marketId : String} {d : Dialogue α} {next : α → Dialogue β}
    (hd : d.About marketId) (hnext : ∀ value, (next value).About marketId) :
    (d >>= next).About marketId := by
  induction d with
  | done value => exact hnext value
  | halt cause => trivial
  | ask marketId' call rest ih => exact ⟨hd.1, fun answer => ih answer (hd.2 answer)⟩

theorem about_call (marketId : String) (call : Call) :
    (Dialogue.call marketId call).About marketId := ⟨rfl, fun _ => trivial⟩

theorem about_ofArithmetic {marketId : String} (a : Except Overflow α) :
    (ofArithmetic a).About marketId := by
  cases a <;> trivial

theorem Course.about {marketId : String} {d : Dialogue α} {result : Except Halt α}
    (hc : d.Course transcript result) (hd : d.About marketId) :
    ∀ e ∈ transcript, e.marketId = marketId := by
  induction hc with
  | done | halt => simp
  | answered _ ih => exact List.forall_mem_cons.mpr ⟨hd.1, ih (hd.2 _)⟩
  | failed => exact List.forall_mem_singleton.mpr hd.1

/-! ## The states behind a transcript -/

/-- A call that is answered goes on with the answer. -/
theorem run_ask_ok {exchange : Exchange σ} {marketId : String} {call : Call}
    {next : call.Answer → Dialogue α} {world : σ} {answer : call.Answer}
    (h : (exchange.answer marketId call world).1 = .ok answer) :
    (ask marketId call next).run exchange world =
      let rest := (next answer).run exchange (exchange.answer marketId call world).2
      (rest.1, ⟨marketId, call, .ok answer⟩ :: rest.2.1, rest.2.2) := by
  rw [run]
  split
  · rename_i answer' s heq
    rw [heq] at h ⊢
    obtain rfl := Except.ok.inj h
    rfl
  · rename_i heq
    rw [heq] at h
    cases h

/-- A call that fails ends the dialogue. -/
theorem run_ask_error {exchange : Exchange σ} {marketId : String} {call : Call}
    {next : call.Answer → Dialogue α} {world : σ} {cause : Failure}
    (h : (exchange.answer marketId call world).1 = .error cause) :
    (ask marketId call next).run exchange world =
      (.error (.failed cause), [⟨marketId, call, .error cause⟩],
        (exchange.answer marketId call world).2) := by
  rw [run]
  split
  · rename_i heq
    rw [heq] at h
    cases h
  · rename_i cause' s heq
    rw [heq] at h ⊢
    obtain rfl := Except.error.inj h
    rfl

/-- The transcript of a dialogue holds the replies of the exchange. -/
theorem heard_run (exchange : Exchange σ) (d : Dialogue α) (world : σ) :
    exchange.Heard world (d.run exchange world).2.1 := by
  induction d generalizing world with
  | done value => trivial
  | halt cause => trivial
  | ask marketId call next ih =>
    rw [run]
    split
    · rename_i answer s h
      exact ⟨by rw [h], by rw [h]; exact ih answer s⟩
    · rename_i cause s h
      exact ⟨by rw [h], trivial⟩

/-- A dialogue leaves the exchange in the state after its calls. -/
theorem after_run (exchange : Exchange σ) (d : Dialogue α) (world : σ) :
    exchange.after world (d.run exchange world).2.1 = (d.run exchange world).2.2 := by
  induction d generalizing world with
  | done value => rfl
  | halt cause => rfl
  | ask marketId call next ih =>
    rw [run]
    split
    · rename_i answer s h
      simp only [Exchange.after_cons, h]
      exact ih answer s
    · rename_i cause s h
      simp only [Exchange.after_cons, h, Exchange.after_nil]

end Dialogue

end ScalpBot
