import ScalpBot.Proofs.Strategy.CallOrder

/-!
# The protocol of a cycle

`Strategy.Protocol` gathers what a cycle keeps to, whatever the exchange answers: it makes the calls of
its row in order and about one market, it goes on after every answer that gives no reason to stop, and
it reports the failure that it met. There are three reasons to stop (`Strategy.Stops`): the book has an
empty side, the last order is still open, or the budget cannot be turned into an order. The last of them
is a failure too, although no call failed (`Strategy.Fails`).

`Strategy.execute_protocol` says that every cycle does so. What is left is a result out of range, which
ends a cycle without any of this.
-/

namespace ScalpBot

namespace Strategy

/-! ## Reasons to stop -/

/-- The book has an empty side. -/
def EmptySide (transcript : List Exchanged) : Prop :=
  ∃ book ∈ answers .orderBook transcript, book.bids = [] ∨ book.asks = []

/-- The open orders hold the order `last`. -/
def StillOpen (last : Option PlacedOrder) (transcript : List Exchanged) : Prop :=
  ∃ order ∈ last, ∃ orders ∈ answers .openOrders transcript, ∃ o ∈ orders, o.id = order.id

variable (s : Strategy)

/-- The budget cannot be turned into an order at the last trade price. -/
def Unsized (transcript : List Exchanged) (cause : Pricing.SizingError) : Prop :=
  ∃ lastPrice ∈ answers .lastTradePrice transcript,
    Pricing.quantityAtPrice s.budget lastPrice = .error cause

/-- **Why a cycle stops** although all its calls were answered. -/
def Stops (last : Option PlacedOrder) (transcript : List Exchanged) : Prop :=
  EmptySide transcript ∨ StillOpen last transcript ∨ ∃ cause, s.Unsized transcript cause

/-- **What fails in a cycle:** a call, or sizing an order. -/
def Fails (transcript : List Exchanged) (cause : Failure) : Prop :=
  (∃ e ∈ transcript, e.cause? = some cause) ∨
  ∃ sizing, s.Unsized transcript sizing ∧ cause = .invalidResponse sizing.message

/-- **What a cycle after the order `last` keeps to.** -/
structure Protocol {σ : Type} (last : Option PlacedOrder) (cycle : Executed σ) : Prop where
  /-- All calls are about the market of the strategy. -/
  market : ∀ e ∈ cycle.transcript, e.marketId = s.market.id
  /-- The calls are the first ones of the row, in order. -/
  in_order : kinds cycle.transcript <+: protocol last
  /-- Every call but the last was answered, and gave no reason to stop. -/
  goes_on : (∀ e ∈ cycle.transcript.dropLast, e.cause? = none) ∧
    ¬ s.Stops last cycle.transcript.dropLast
  /-- If all calls are answered and no result is out of range, then calls of the row are left out
  exactly where there is a reason to stop. -/
  stops_iff : (∀ cause, cycle.result ≠ .error (.overflowed cause)) →
    (∀ e ∈ cycle.transcript, e.cause? = none) →
    (kinds cycle.transcript ≠ protocol last ↔ s.Stops last cycle.transcript)
  /-- A failure that may pass defers to the next cycle. -/
  defers : ∀ cause, s.Fails cycle.transcript cause → cause.failureClass = .transient →
    cycle.result = .ok .deferred
  /-- Any other failure stops the strategy, and is passed on as it is. -/
  gives_up : ∀ cause, s.Fails cycle.transcript cause → cause.failureClass = .nonRecoverable →
    cycle.result = .error (.stopped (.exchange cause))
  /-- Nothing else defers or stops the strategy. -/
  only_failures : (cycle.result = .ok .deferred ∨ ∃ error, cycle.result = .error (.stopped error)) →
    ∃ cause, s.Fails cycle.transcript cause

variable {s} {last : Option PlacedOrder} {reads : List Exchanged} {call : Call}

/-! ## Up to a call that is due -/

/-- The calls up to one that is due are the first of the row. -/
theorem Due.kinds_prefix (h : s.Due last reads call) :
    kinds reads ++ [call.kind] <+: protocol last := by
  cases h with
  | orderBook =>
    cases last with
    | none => simp [protocol, Call.kind]
    | some order => cases hside : order.side <;> simp [protocol, hside, Call.kind]
  | firstPrice _ hlast => simp [protocol, hlast, Call.kind]
  | @openOrders _ _ _ order _ hlast =>
    cases hside : order.side <;> simp [protocol, hlast, hside, Call.kind]
  | nextPrice _ hlast hside => simp [protocol, hlast, hside, Call.kind]
  | buyFeeRate _ hlast hside => simp [protocol, hlast, hside, Call.kind]
  | sellFeeRate due | sale due =>
    cases due with
    | buyFeeRate _ hlast hside => simp [protocol, hlast, hside, Call.kind]
  | purchase due =>
    cases due with
    | firstPrice _ hlast => simp [protocol, hlast, Call.kind]
    | nextPrice _ hlast hside => simp [protocol, hlast, hside, Call.kind]

/-- Before a call only answers to questions are heard. -/
theorem Due.forall_mem_reads {p : Exchanged → Prop} (h : s.Due last reads call)
    (hp : ∀ (call : Call) (answer : call.Answer), call.isSubmission = false → p (s.heard call answer)) :
    ∀ e ∈ reads, p e := by
  induction h with
  | orderBook => simp
  | firstPrice | openOrders => exact List.forall_mem_singleton.mpr (hp _ _ rfl)
  | nextPrice | buyFeeRate =>
    exact List.forall_mem_cons.mpr ⟨hp _ _ rfl, List.forall_mem_singleton.mpr (hp _ _ rfl)⟩
  | sellFeeRate _ ih | purchase _ _ _ _ ih =>
    exact List.forall_mem_append.mpr ⟨ih, List.forall_mem_singleton.mpr (hp _ _ rfl)⟩
  | sale _ _ _ _ ih =>
    refine List.forall_mem_append.mpr ⟨ih, ?_⟩
    exact List.forall_mem_cons.mpr ⟨hp _ _ rfl, List.forall_mem_singleton.mpr (hp _ _ rfl)⟩

theorem Due.answered (h : s.Due last reads call) : ∀ e ∈ reads, e.cause? = none :=
  h.forall_mem_reads fun _ _ _ => rfl

theorem Quotes.sides {book : OrderBook} {bid ask : PriceLevel} (h : Quotes book bid ask) :
    book.bids ≠ [] ∧ book.asks ≠ [] := by
  constructor
  · intro hnil
    simpa [OrderBook.bestBid, hnil] using h.bestBid_eq
  · intro hnil
    simpa [OrderBook.bestAsk, hnil] using h.bestAsk_eq

theorem Due.not_stops (h : s.Due last reads call) : ¬ s.Stops last reads := by
  induction h with
  | orderBook => simp [Stops, EmptySide, StillOpen, Unsized]
  | firstPrice hbook | openOrders hbook =>
    simp [Stops, EmptySide, StillOpen, Unsized, answers_heard_of_ne, hbook.sides]
  | nextPrice hbook hlast _ hgone | buyFeeRate hbook hlast _ hgone =>
    simpa [Stops, EmptySide, StillOpen, Unsized, answers_heard_of_ne, hbook.sides, hlast]
      using hgone
  | sellFeeRate _ ih | sale _ _ _ _ ih =>
    simpa [Stops, EmptySide, StillOpen, Unsized, answers_heard_of_ne] using ih
  | purchase _ _ _ hsized ih =>
    simpa [Stops, EmptySide, StillOpen, Unsized, answers_heard_of_ne, hsized, or_and_right,
      exists_or] using ih

theorem Due.not_unsized (h : s.Due last reads call) (cause : Pricing.SizingError) :
    ¬ s.Unsized reads cause :=
  fun hunsized => h.not_stops (.inr (.inr ⟨cause, hunsized⟩))

/-- All calls of the row are made once an order is submitted. -/
theorem Due.kinds_eq_of_submission {side : Side} {quantity price : Decimal}
    (h : s.Due last reads (.submitOrder side quantity price)) :
    kinds reads ++ [.submitOrder side] = protocol last := by
  cases h with
  | sale due =>
    cases due with
    | buyFeeRate _ hlast hside => simp [protocol, hlast, hside, Call.kind]
  | purchase due =>
    cases due with
    | firstPrice _ hlast => simp [protocol, hlast, Call.kind]
    | nextPrice _ hlast hside => simp [protocol, hlast, hside, Call.kind]

/-- A row ends with a submission, so calls of it are left out where the last one is a question. -/
theorem kinds_ne_protocol (hcall : call.isSubmission = false) (reads : List Exchanged)
    (last : Option PlacedOrder) : kinds reads ++ [call.kind] ≠ protocol last := by
  have hends : ∃ side, (protocol last).getLast? = some (.submitOrder side) := by
    cases last with
    | none => exact ⟨_, rfl⟩
    | some order => cases hside : order.side <;> exact ⟨_, by rw [protocol, hside]; rfl⟩
  intro heq
  obtain ⟨side, hside⟩ := hends
  rw [← heq, List.getLast?_concat] at hside
  cases call with
  | submitOrder => cases hcall
  | _ => cases hside

/-! ## At the end of a cycle -/

variable {transcript : List Exchanged} {ended : Except Halt Outcome}

/-- What a cycle ends with is the answer to a call that was due. -/
theorem Over.last_due (h : s.Over last transcript ended) :
    ∃ reads call answer, s.Due last reads call ∧ transcript = reads ++ [s.heard call answer] := by
  cases h with
  | emptyBids | emptyAsks | spread => exact ⟨[], _, _, .orderBook, rfl⟩
  | held due | unsized due | placed due => exact ⟨_, _, _, due, rfl⟩
  | unpriced due => exact ⟨_, _, _, .sellFeeRate due, List.append_cons ..⟩

/-- Where all results are in range, calls of the row are left out if there is a reason to stop, and
only then. -/
theorem Over.stops_iff (h : s.Over last transcript ended)
    (hrange : ∀ cause, ended ≠ .error (.overflowed cause)) :
    kinds transcript ≠ protocol last ↔ s.Stops last transcript := by
  cases h with
  | emptyBids hbids =>
    exact iff_of_true (kinds_ne_protocol rfl [] last) (.inl ⟨_, by simp, .inl hbids⟩)
  | emptyAsks _ hasks =>
    exact iff_of_true (kinds_ne_protocol rfl [] last) (.inl ⟨_, by simp, .inr hasks⟩)
  | held due hlast hopen =>
    refine iff_of_true ?_ (.inr (.inl ⟨_, hlast, _, by simp, hopen⟩))
    rw [kinds_append]
    exact kinds_ne_protocol rfl _ last
  | unsized due hsized =>
    refine iff_of_true ?_ (.inr (.inr ⟨_, _, by simp, hsized⟩))
    rw [kinds_append]
    exact kinds_ne_protocol rfl _ last
  | spread | unpriced => exact absurd rfl (hrange _)
  | placed due =>
    refine iff_of_false (not_not_intro ?_) ?_
    · rw [kinds_append]
      exact due.kinds_eq_of_submission
    · simpa [Stops, EmptySide, StillOpen, Unsized, answers_heard_of_ne] using due.not_stops

/-- Where all calls were answered, only sizing an order can have failed. -/
theorem fails_iff_of_answered (h : ∀ e ∈ transcript, e.cause? = none) {cause : Failure} :
    s.Fails transcript cause ↔
      ∃ sizing, s.Unsized transcript sizing ∧ cause = .invalidResponse sizing.message := by
  refine or_iff_right ?_
  rintro ⟨e, he, hcause⟩
  rw [h e he] at hcause
  cases hcause

theorem Over.answered (h : s.Over last transcript ended) : ∀ e ∈ transcript, e.cause? = none := by
  obtain ⟨reads, call, answer, due, rfl⟩ := h.last_due
  exact List.forall_mem_append.mpr ⟨due.answered, by simp⟩

/-- A cycle that is over ends with a failure exactly if there was one. -/
theorem Over.failed_iff (h : s.Over last transcript ended) (cause : Failure) :
    ended = .error (.failed cause) ↔ s.Fails transcript cause := by
  rw [fails_iff_of_answered h.answered]
  -- only a purchase that cannot be sized fails without a failing call
  have key : (∀ sizing, ¬ s.Unsized transcript sizing) →
      ¬ ∃ sizing, s.Unsized transcript sizing ∧ cause = .invalidResponse sizing.message :=
    fun hsized ⟨sizing, hunsized, _⟩ => hsized sizing hunsized
  cases h with
  | emptyBids | emptyAsks | spread =>
    exact iff_of_false (by simp) (key (by simp [Unsized, answers_heard_of_ne]))
  | held due | unpriced due | placed due =>
    refine iff_of_false (by simp) (key fun sizing => ?_)
    simpa [Unsized, answers_heard_of_ne] using due.not_unsized sizing
  | @unsized _ lastPrice sizing due hsized =>
    constructor
    · rintro ⟨⟩
      exact ⟨sizing, ⟨lastPrice, by simp, hsized⟩, rfl⟩
    · rintro ⟨sizing', ⟨lastPrice', hmem, hsized'⟩, rfl⟩
      rw [answers_append, List.mem_append] at hmem
      rcases hmem with hbefore | hnow
      · exact absurd ⟨lastPrice', hbefore, hsized'⟩ (due.not_unsized sizing')
      · obtain rfl : lastPrice' = lastPrice := by simpa using hnow
        rw [Except.error.inj (hsized.symm.trans hsized')]

/-- **A cycle ends with a failure exactly if there was one.** -/
theorem Ends.failed_iff (h : s.Ends last transcript ended) (cause : Failure) :
    ended = .error (.failed cause) ↔ s.Fails transcript cause := by
  cases h with
  | complete complete => exact complete.failed_iff cause
  | @failed reads call cause' due htranscript hended =>
    subst htranscript hended
    have hlast : (⟨s.market.id, call, .error cause'⟩ : Exchanged).cause? = some cause' := rfl
    constructor
    · rintro ⟨⟩
      exact .inl ⟨_, by simp, hlast⟩
    · rintro (⟨e, he, hcause⟩ | ⟨sizing, hunsized, -⟩)
      · rcases List.mem_append.mp he with hbefore | hnow
        · cases (due.answered e hbefore).symm.trans hcause
        · obtain rfl := List.mem_singleton.mp hnow
          rw [Option.some.inj (hlast.symm.trans hcause)]
      · refine absurd ?_ (due.not_unsized sizing)
        simpa [Unsized, answers_failed] using hunsized

theorem Ends.ne_deferred (h : s.Ends last transcript ended) : ended ≠ .ok .deferred := by
  cases h with
  | failed _ _ hended => simp [hended]
  | complete complete => cases complete <;> simp

/-- The last call of a cycle was due after the calls before it. -/
theorem Ends.last_due (h : s.Ends last transcript ended) :
    ∃ reads call reply, s.Due last reads call ∧
      transcript = reads ++ [⟨s.market.id, call, reply⟩] := by
  cases h with
  | failed due htranscript _ => exact ⟨_, _, _, due, htranscript⟩
  | complete complete =>
    obtain ⟨reads, call, answer, due, htranscript⟩ := complete.last_due
    exact ⟨reads, call, .ok answer, due, htranscript⟩

/-- Where every call was answered and all results are in range, calls of the row are left out if there
is a reason to stop, and only then. -/
theorem Ends.stops_iff (h : s.Ends last transcript ended)
    (hrange : ∀ cause, ended ≠ .error (.overflowed cause))
    (hanswered : ∀ e ∈ transcript, e.cause? = none) :
    kinds transcript ≠ protocol last ↔ s.Stops last transcript := by
  cases h with
  | complete complete => exact complete.stops_iff hrange
  | failed _ htranscript _ => cases hanswered _ (htranscript ▸ List.mem_concat_self)

/-! ## Every cycle -/

theorem settle_failed (cause : Failure) :
    settle (.error (.failed cause)) =
      match cause.failureClass with
      | .transient => .ok .deferred
      | .nonRecoverable => .error (.stopped (.exchange cause)) := rfl

/-- A cycle that was deferred or stopped ended with a failure. -/
theorem exists_failed_of_settle {ended : Except Halt Outcome} (hended : ended ≠ .ok .deferred)
    (h : settle ended = .ok .deferred ∨ ∃ error, settle ended = .error (.stopped error)) :
    ∃ cause, ended = .error (.failed cause) := by
  cases ended with
  | ok outcome =>
    rcases h with h | ⟨error, h⟩
    · obtain rfl : outcome = .deferred := Except.ok.inj h
      exact absurd rfl hended
    · cases h
  | error halt =>
    cases halt with
    | failed cause => exact ⟨cause, rfl⟩
    | overflowed cause => rcases h with h | ⟨error, h⟩ <;> cases h

variable {σ : Type}

/-- **Every cycle keeps to its protocol**, from every remembered order and whatever the exchange
answers. -/
theorem execute_protocol (s : Strategy) (exchange : Exchange σ) (last : Option PlacedOrder)
    (world : σ) : s.Protocol last (s.execute exchange last world) := by
  let ended := ((s.cycle last).run exchange world).1
  let transcript := ((s.cycle last).run exchange world).2.1
  have hcourse : Dialogue.Course (s.cycle last) transcript ended :=
    Dialogue.course_run exchange (s.cycle last) world
  have hends : s.Ends last transcript ended := ends_of_cycle hcourse
  obtain ⟨reads, call, reply, due, htranscript⟩ := hends.last_due
  have hbefore : transcript.dropLast = reads := by rw [htranscript, List.dropLast_concat]
  have hkinds : kinds transcript = kinds reads ++ [call.kind] := by
    rw [htranscript, kinds_append]
    rfl
  have hfailed : ∀ cause, s.Fails transcript cause → ended = .error (.failed cause) :=
    fun cause => (hends.failed_iff cause).mpr
  show s.Protocol last ⟨settle ended, transcript, _, _⟩
  exact {
    market := hcourse.about (about_cycle last)
    in_order := hkinds ▸ due.kinds_prefix
    goes_on := hbefore.symm ▸ ⟨due.answered, due.not_stops⟩
    stops_iff := fun hrange => hends.stops_iff fun cause hcause => hrange cause (by rw [hcause]; rfl)
    defers := fun cause hfails hclass => by rw [hfailed cause hfails, settle_failed, hclass]
    gives_up := fun cause hfails hclass => by rw [hfailed cause hfails, settle_failed, hclass]
    only_failures := fun h => by
      obtain ⟨cause, hcause⟩ := exists_failed_of_settle hends.ne_deferred h
      exact ⟨cause, (hends.failed_iff cause).mp hcause⟩ }

/-! ## Skipped cycles -/

theorem settle_skipped_iff {ended : Except Halt Outcome} {reason : SkipReason} :
    settle ended = .ok (.skipped reason) ↔ ended = .ok (.skipped reason) := by
  cases ended with
  | ok outcome => simp [settle]
  | error halt =>
    cases halt with
    | overflowed cause => simp [settle]
    | failed cause => cases hclass : cause.failureClass <;> simp [settle, hclass]

/-- Which side of a book is missing, the bids first. -/
inductive Misses (book : OrderBook) : SkipReason → Prop
  | bids (bids : book.bids = []) : Misses book .emptyBids
  | asks (bids : book.bids ≠ []) (asks : book.asks = []) : Misses book .emptyAsks

variable {exchange : Exchange σ} {world : σ} {book : OrderBook} {reason : SkipReason}

theorem misses_iff : Misses book reason ↔
    reason = .emptyBids ∧ book.bids = [] ∨
      reason = .emptyAsks ∧ book.bids ≠ [] ∧ book.asks = [] := by
  constructor
  · rintro (bids | ⟨bids, asks⟩)
    · exact .inl ⟨rfl, bids⟩
    · exact .inr ⟨rfl, bids, asks⟩
  · rintro (⟨rfl, bids⟩ | ⟨rfl, bids, asks⟩)
    · exact .bids bids
    · exact .asks bids asks

theorem Over.misses (h : s.Over last transcript (.ok (.skipped reason))) :
    ∃ book, transcript = [s.heard .orderBook book] ∧ Misses book reason := by
  cases h with
  | emptyBids bids => exact ⟨_, rfl, .bids bids⟩
  | emptyAsks bids asks => exact ⟨_, rfl, .asks bids asks⟩

theorem Misses.run_cycle (h : Misses book reason)
    (hbook : (exchange.answer s.market.id .orderBook world).1 = .ok book)
    (last : Option PlacedOrder) :
    ((s.cycle last).run exchange world).1 = .ok (.skipped reason) := by
  have hcycle : s.cycle last = .ask s.market.id .orderBook _ := rfl
  rw [hcycle, Dialogue.run_ask_ok hbook]
  obtain ⟨marketId, bids, asks, timestamp⟩ := book
  cases h with
  | bids none =>
    obtain rfl : bids = [] := none
    rfl
  | asks some none =>
    obtain ⟨bid, rest, rfl⟩ : ∃ bid rest, bids = bid :: rest := List.exists_cons_of_ne_nil some
    obtain rfl : asks = [] := none
    rfl

/-- **A cycle is skipped exactly when the book that it gets has an empty side.** -/
theorem execute_skipped_iff
    (hbook : (exchange.answer s.market.id .orderBook world).1 = .ok book)
    (last : Option PlacedOrder) :
    (s.execute exchange last world).result = .ok (.skipped reason) ↔ Misses book reason := by
  refine Iff.trans settle_skipped_iff ⟨fun h => ?_, fun h => h.run_cycle hbook last⟩
  have hcourse := Dialogue.course_run exchange (s.cycle last) world
  have hheard := Dialogue.heard_run exchange (s.cycle last) world
  rw [h] at hcourse
  cases ends_of_cycle hcourse with
  | failed _ _ result_eq => cases result_eq
  | complete complete =>
    obtain ⟨heardBook, htranscript, hmisses⟩ := complete.misses
    rw [htranscript] at hheard
    obtain rfl : book = heardBook := Except.ok.inj (hbook.symm.trans hheard.1)
    exact hmisses

end Strategy

end ScalpBot
