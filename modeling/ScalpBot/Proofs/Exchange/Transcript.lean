import ScalpBot.Exchange.Call
import ScalpBot.Strategy.Outcome

/-!
# Reading a transcript

A transcript lists the calls that were made, with their replies. This module reads off it what was
answered (`answers`) and which orders were placed (`placedIn`): a submission places an order when an
id comes back, and only then.

A transcript does not say in which states the exchange was. These are found by giving the exchange
the same calls again: `Exchange.after` is the state after some calls, and `Exchange.Heard` says that
the replies are those that the exchange gives in the states so found.
-/

namespace ScalpBot

/-! ## Submissions and answers -/

namespace Call

/-- Whether an order is submitted. -/
@[simp] def isSubmission : Call → Bool
  | submitOrder _ _ _ => true
  | orderBook | openOrders | lastTradePrice | buyFeeRate | sellFeeRate => false

end Call

namespace Exchanged

/-- Whether an order was submitted. -/
def isSubmission (e : Exchanged) : Bool := e.call.isSubmission

/-- The answer to one call, where it was that call and was answered. -/
def answer? (e : Exchanged) (call : Call) : Option call.Answer :=
  if h : e.call = call then (h ▸ e.reply).toOption else none

@[simp] theorem answer?_self (marketId : String) (call : Call)
    (reply : Except Failure call.Answer) :
    (⟨marketId, call, reply⟩ : Exchanged).answer? call = reply.toOption := by
  simp [answer?]

theorem answer?_of_ne {e : Exchanged} {call : Call} (h : e.call ≠ call) :
    e.answer? call = none := by
  simp [answer?, h]

end Exchanged

/-- The answers to one call that a transcript holds, in order. -/
def answers (call : Call) (transcript : List Exchanged) : List call.Answer :=
  transcript.filterMap fun e => e.answer? call

@[simp] theorem answers_nil (call : Call) : answers call [] = [] := rfl

@[simp] theorem answers_append (call : Call) (first rest : List Exchanged) :
    answers call (first ++ rest) = answers call first ++ answers call rest :=
  List.filterMap_append ..

theorem answers_cons_of_ne {call : Call} {e : Exchanged} (h : e.call ≠ call)
    (rest : List Exchanged) : answers call (e :: rest) = answers call rest := by
  rw [answers, List.filterMap_cons, Exchanged.answer?_of_ne h]
  rfl

theorem answers_subset {part all : List Exchanged} (h : part ⊆ all) (call : Call) :
    answers call part ⊆ answers call all :=
  List.filterMap_subset _ h

/-! ## Placed orders -/

/-- The order that a call placed, if it submitted one and an id came back. -/
def Exchanged.placed? : Exchanged → Option PlacedOrder
  | ⟨_, .submitOrder side quantity price, .ok id⟩ => some ⟨side, id, price, quantity⟩
  | _ => none

/-- The orders that were placed, in order. -/
def placedIn (transcript : List Exchanged) : List PlacedOrder :=
  transcript.filterMap Exchanged.placed?

@[simp] theorem placedIn_nil : placedIn [] = [] := rfl

@[simp] theorem placedIn_append (first rest : List Exchanged) :
    placedIn (first ++ rest) = placedIn first ++ placedIn rest :=
  List.filterMap_append ..

theorem Exchanged.placed?_of_read {e : Exchanged} (h : e.isSubmission = false) :
    e.placed? = none := by
  obtain ⟨marketId, call, reply⟩ := e
  cases call with
  | submitOrder => cases h
  | _ => rfl

theorem placedIn_of_reads {transcript : List Exchanged}
    (h : ∀ e ∈ transcript, e.isSubmission = false) : placedIn transcript = [] :=
  List.filterMap_eq_nil_iff.mpr fun e he => Exchanged.placed?_of_read (h e he)

theorem placedIn_reads_append {reads : List Exchanged}
    (h : ∀ e ∈ reads, e.isSubmission = false) (e : Exchanged) :
    placedIn (reads ++ [e]) = e.placed?.toList := by
  rw [placedIn_append, placedIn_of_reads h, List.nil_append, placedIn, List.filterMap_cons]
  cases e.placed? <;> rfl

/-! ## The states of an exchange -/

namespace Exchange

variable {σ : Type} (exchange : Exchange σ)

/-- The state after the calls of a transcript. -/
def after (world : σ) (transcript : List Exchanged) : σ :=
  transcript.foldl (fun w e => (exchange.answer e.marketId e.call w).2) world

@[simp] theorem after_nil (world : σ) : exchange.after world [] = world := rfl

@[simp] theorem after_cons (world : σ) (e : Exchanged) (rest : List Exchanged) :
    exchange.after world (e :: rest) =
      exchange.after (exchange.answer e.marketId e.call world).2 rest := rfl

@[simp] theorem after_append (world : σ) (first rest : List Exchanged) :
    exchange.after world (first ++ rest) = exchange.after (exchange.after world first) rest :=
  List.foldl_append ..

/-- The replies of the transcript are those that the exchange gives, one call after the other. -/
def Heard (world : σ) : List Exchanged → Prop
  | [] => True
  | e :: rest => (exchange.answer e.marketId e.call world).1 = e.reply ∧
      Heard (exchange.answer e.marketId e.call world).2 rest

variable {exchange}

theorem heard_append {world : σ} {first rest : List Exchanged} :
    exchange.Heard world (first ++ rest) ↔
      exchange.Heard world first ∧ exchange.Heard (exchange.after world first) rest := by
  induction first generalizing world with
  | nil => simp [Heard]
  | cons e first ih => simp [Heard, ih, and_assoc]

end Exchange

end ScalpBot
