import ScalpBot.Proofs.Strategy.Margin
import ScalpBot.Proofs.Strategy.Pricing
import ScalpBot.Proofs.Strategy.Protocol
import ScalpBot.Proofs.Strategy.Trading

/-!
# When a cycle overflows

A budget that buys more than the largest decimal is noticed, and the exchange is blamed for its price.
The other results of a cycle are not looked after: the spread of the book, the markup of a sale and its
ask. `Strategy.OutOfRange` says when one of them leaves the range of decimals, in terms of what was
answered, and `Strategy.run_overflowed_iff` that a cycle overflows in these cases and in no other. The spread
and the markup are computed because they are logged at `INFO`, the default: the runs are those of a bot that
logs at this level.

With plausible answers it does not come to this: with quotes that are not negative, bids up to a quarter
of the largest decimal, and fee rates below one (`Strategy.Plausible`).
-/

namespace ScalpBot

namespace Pricing

variable {price margin buyRate sellRate : Decimal} {cause : Overflow}

theorem totalMarkup_eq (buyRate sellRate margin : Decimal) :
    (FeeSchedule.mk buyRate sellRate).totalMarkup margin =
      Decimal.addAll margin [buyRate, sellRate] := by
  simp [FeeSchedule.totalMarkup, Decimal.addAll]

/-- **What overflows when a sale is priced.** -/
inductive Overflows (price buyRate sellRate : Decimal) : Overflow → Prop
  /-- The markup, alone or with the whole that it is added to. -/
  | markup : Decimal.LeavesRange profitMargin [buyRate, sellRate] ∨
      Decimal.LeavesRange .one [profitMargin, buyRate, sellRate] →
      Overflows price buyRate sellRate .addition
  /-- The price with the markup. -/
  | ask {markup : Decimal} : ¬ Decimal.LeavesRange profitMargin [buyRate, sellRate] →
      Decimal.addAll .one [profitMargin, buyRate, sellRate] = .ok markup →
      Decimal.TooLarge (price.value * markup.value) →
      Overflows price buyRate sellRate .multiplication

theorem overflows_iff :
    ((FeeSchedule.mk buyRate sellRate).totalMarkup profitMargin >>= fun _ =>
      askFromBuy price profitMargin buyRate sellRate) = .error cause ↔
      Overflows price buyRate sellRate cause := by
  rw [totalMarkup_eq, askFromBuy_eq]
  constructor
  · intro h
    rcases bind_eq_error_iff.mp h with hmarkup | ⟨markup, hmarkup, h⟩
    · obtain ⟨rfl, hleaves⟩ := Decimal.addAll_eq_error_iff.mp hmarkup
      exact .markup (.inl hleaves)
    rcases bind_eq_error_iff.mp h with hwhole | ⟨whole, hwhole, h⟩
    · obtain ⟨rfl, hleaves⟩ := Decimal.addAll_eq_error_iff.mp hwhole
      exact .markup (.inr hleaves)
    rcases bind_eq_error_iff.mp h with hproduct | ⟨product, _, h⟩
    · obtain ⟨rfl, hlarge⟩ := Decimal.mul_eq_error_iff.mp hproduct
      exact .ask (Decimal.not_leavesRange_of_addAll hmarkup) hwhole hlarge
    · cases h
  · intro h
    cases hmarkup : Decimal.addAll profitMargin [buyRate, sellRate] with
    | error cause' =>
      obtain ⟨rfl, hleaves⟩ := Decimal.addAll_eq_error_iff.mp hmarkup
      cases h with
      | markup => rfl
      | ask hin => exact absurd hleaves hin
    | ok markup =>
      refine bind_eq_error_iff.mpr (.inr ⟨markup, rfl, bind_eq_error_iff.mpr ?_⟩)
      cases h with
      | markup hleaves =>
        have hwhole := hleaves.resolve_left (Decimal.not_leavesRange_of_addAll hmarkup)
        exact .inl (Decimal.addAll_eq_error_iff.mpr ⟨rfl, hwhole⟩)
      | ask _ hwhole hlarge =>
        have hproduct := Decimal.mul_eq_error_iff.mpr ⟨rfl, hlarge⟩
        exact .inr ⟨_, hwhole, bind_eq_error_iff.mpr (.inl hproduct)⟩

/-- With rates that are small together the sum that marks up a price is exact. -/
theorem exists_markup (hmargin : 0 ≤ margin.value) (hbuy : 0 ≤ buyRate.value)
    (hsell : 0 ≤ sellRate.value) (hsmall : margin.value + buyRate.value + sellRate.value ≤ 6) :
    ∃ markup, Decimal.addAll .one [margin, buyRate, sellRate] = .ok markup ∧ 0 < markup.value ∧
      markup.value = 1 + margin.value + buyRate.value + sellRate.value := by
  obtain ⟨markup, hmarkup, hvalue⟩ := Decimal.addAll_of_le_seven .one [margin, buyRate, sellRate]
    (by simp) (by simp [hmargin, hbuy, hsell]) (by simp; linarith)
  have hsum : markup.value = 1 + margin.value + buyRate.value + sellRate.value := by
    rw [hvalue]
    simp [add_assoc]
  exact ⟨markup, hmarkup, by linarith, hsum⟩

/-- So it is with fee rates below one. -/
theorem markup_of_rates (hbuy : 0 ≤ buyRate.value ∧ buyRate.value < 1)
    (hsell : 0 ≤ sellRate.value ∧ sellRate.value < 1) :
    ∃ markup, Decimal.addAll .one [profitMargin, buyRate, sellRate] = .ok markup ∧
      0 < markup.value ∧
      ∀ price, price.value * markup.value = markedUp price profitMargin buyRate sellRate := by
  have hmargin := value_profitMargin
  have hnonneg : 0 ≤ profitMargin.value := by linarith
  obtain ⟨markup, hmarkup, hpos, hvalue⟩ := exists_markup hnonneg hbuy.1 hsell.1
    (by linarith [hbuy.2, hsell.2])
  exact ⟨markup, hmarkup, hpos, fun price => by rw [hvalue, markedUp]⟩

/-- With fee rates below one only the ask can overflow: where the price as it is marked up is too
large. -/
theorem overflows_iff_of_rates (hbuy : 0 ≤ buyRate.value ∧ buyRate.value < 1)
    (hsell : 0 ≤ sellRate.value ∧ sellRate.value < 1) :
    Overflows price buyRate sellRate cause ↔
      cause = .multiplication ∧
        Decimal.TooLarge (markedUp price profitMargin buyRate sellRate) := by
  have hmargin := value_profitMargin
  obtain ⟨alone, halone, -⟩ := Decimal.addAll_of_le_seven profitMargin [buyRate, sellRate]
    (by linarith) (by simp [hbuy.1, hsell.1]) (by simp; linarith [hbuy.2, hsell.2])
  obtain ⟨markup, hmarkup, -, hprice⟩ := markup_of_rates hbuy hsell
  constructor
  · rintro (hleaves | ⟨-, hok, hlarge⟩)
    · rcases hleaves with h | h
      · exact absurd h (Decimal.not_leavesRange_of_addAll halone)
      · exact absurd h (Decimal.not_leavesRange_of_addAll hmarkup)
    · obtain rfl := Except.ok.inj (hmarkup.symm.trans hok)
      exact ⟨rfl, hprice price ▸ hlarge⟩
  · rintro ⟨rfl, hlarge⟩
    exact .ask (Decimal.not_leavesRange_of_addAll halone) hmarkup (hprice price ▸ hlarge)

/-- Up to a quarter of the largest decimal a price leaves room for what is added to it. -/
theorem not_overflows (hprice : 0 ≤ price.value)
    (hroom : 4 * price.value ≤ Decimal.maxCoefficient)
    (hbuy : 0 ≤ buyRate.value ∧ buyRate.value < 1)
    (hsell : 0 ≤ sellRate.value ∧ sellRate.value < 1) :
    ¬ Overflows price buyRate sellRate cause := by
  intro h
  have hlarge := ((overflows_iff_of_rates hbuy hsell).mp h).2
  have hmargin := value_profitMargin
  have hfour : markedUp price profitMargin buyRate sellRate ≤ price.value * 4 :=
    mul_le_mul_of_nonneg_left (by linarith [hbuy.2, hsell.2]) hprice
  have hnonneg : 0 ≤ markedUp price profitMargin buyRate sellRate :=
    mul_nonneg hprice (by linarith [hbuy.1, hsell.1])
  refine Decimal.not_tooLarge_of_le ?_ hlarge
  rw [abs_of_nonneg hnonneg]
  exact (hfour.trans_eq (mul_comm ..)).trans hroom

end Pricing

namespace Strategy

/-! ## One cycle -/

/-- **What leaves the range of decimals in a cycle.**  `last` is the order before it, `transcript` its
calls. -/
inductive OutOfRange (last : Option PlacedOrder) (transcript : List Exchanged) : Overflow → Prop
  /-- The best ask and the best bid are too far apart. -/
  | spread {book : OrderBook} {bid ask : PriceLevel} :
      book ∈ answers .orderBook transcript → book.bestBid = some bid → book.bestAsk = some ask →
      Decimal.TooLarge (ask.price.value - bid.price.value) →
      OutOfRange last transcript .subtraction
  /-- A purchase cannot be priced for sale with the fee rates of the exchange. -/
  | sale {bought : PlacedOrder} {buyRate sellRate : Decimal} {cause : Overflow} :
      last = some bought → bought.side = .buy → buyRate ∈ answers .buyFeeRate transcript →
      sellRate ∈ answers .sellFeeRate transcript →
      Pricing.Overflows bought.price buyRate sellRate cause → OutOfRange last transcript cause

variable {s : Strategy} {last : Option PlacedOrder} {reads transcript : List Exchanged} {call : Call}
  {ended : Except Halt Outcome} {cause : Overflow}

/-- After the book a call is due only where its spread is in range. -/
theorem Due.quotes (h : s.Due last reads call) {book : OrderBook}
    (hbook : book ∈ answers .orderBook reads) : ∃ bid ask, Quotes book bid ask := by
  induction h with
  | orderBook => simp at hbook
  | firstPrice hquotes | openOrders hquotes =>
    obtain rfl : book = _ := by simpa using hbook
    exact ⟨_, _, hquotes⟩
  | nextPrice hquotes | buyFeeRate hquotes =>
    obtain rfl : book = _ := by simpa [answers_heard_of_ne] using hbook
    exact ⟨_, _, hquotes⟩
  | sellFeeRate _ ih | purchase _ _ _ _ ih | sale _ _ _ _ ih =>
    exact ih (by simpa [answers_heard_of_ne] using hbook)

/-- After the buy fee rate no other rate was asked for. -/
theorem Due.no_rates (h : s.Due last reads .buyFeeRate) :
    (∃ bought, last = some bought ∧ bought.side = .buy) ∧
      answers .buyFeeRate reads = [] ∧ answers .sellFeeRate reads = [] := by
  cases h with
  | buyFeeRate _ hlast hside => exact ⟨⟨_, hlast, hside⟩, by simp [answers_heard_of_ne]⟩

/-- Where the fee rates are answered and a call is due, the sale is priced. -/
theorem Due.priced (h : s.Due last reads call) {bought : PlacedOrder} {buyRate sellRate : Decimal}
    (hlast : last = some bought) (hbuy : buyRate ∈ answers .buyFeeRate reads)
    (hsell : sellRate ∈ answers .sellFeeRate reads) :
    ¬ Pricing.Overflows bought.price buyRate sellRate cause := by
  cases h with
  | orderBook => simp at hsell
  | firstPrice | openOrders | nextPrice | buyFeeRate => simp [answers_heard_of_ne] at hsell
  | sellFeeRate due => simp [answers_heard_of_ne, due.no_rates] at hsell
  | purchase due =>
    cases due <;> simp [answers_heard_of_ne] at hsell
  | sale due hlast' hmarkup hask =>
    obtain rfl : buyRate = _ := by simpa [answers_heard_of_ne, due.no_rates] using hbuy
    obtain rfl : sellRate = _ := by simpa [answers_heard_of_ne, due.no_rates] using hsell
    obtain rfl := Option.some.inj (hlast.symm.trans hlast')
    intro hover
    have herror := Pricing.overflows_iff.mpr hover
    rw [hmarkup] at herror
    cases hask.symm.trans herror

theorem Due.not_outOfRange (h : s.Due last reads call) : ¬ OutOfRange last reads cause := by
  intro hout
  cases hout with
  | spread hbook hbid hask hlarge =>
    obtain ⟨bid', ask', hquotes⟩ := h.quotes hbook
    obtain rfl := Option.some.inj (hbid.symm.trans hquotes.bestBid_eq)
    obtain rfl := Option.some.inj (hask.symm.trans hquotes.bestAsk_eq)
    obtain ⟨spread, hspread⟩ := hquotes.spread_ok
    cases hspread.symm.trans (Decimal.sub_eq_error_iff.mpr ⟨rfl, hlarge⟩)
  | sale hlast _ hbuy hsell hover => exact h.priced hlast hbuy hsell hover

/-- Only the book and the fee rates matter. -/
theorem OutOfRange.of_answers {transcript' : List Exchanged} (h : OutOfRange last transcript cause)
    (hbook : answers .orderBook transcript = answers .orderBook transcript')
    (hbuy : answers .buyFeeRate transcript = answers .buyFeeRate transcript')
    (hsell : answers .sellFeeRate transcript = answers .sellFeeRate transcript') :
    OutOfRange last transcript' cause := by
  cases h with
  | spread hmem => exact .spread (hbook ▸ hmem) ‹_› ‹_› ‹_›
  | sale hlast hside hb hs hover => exact .sale hlast hside (hbuy ▸ hb) (hsell ▸ hs) hover

/-- A cycle that is over has overflowed exactly if something left the range. -/
theorem Over.overflowed_iff (h : s.Over last transcript ended) :
    ended = .error (.overflowed cause) ↔ OutOfRange last transcript cause := by
  cases h with
  | emptyBids hbids =>
    refine iff_of_false (by simp) ?_
    intro hout
    cases hout with
    | spread hmem hbid =>
      obtain rfl := by simpa using hmem
      simp [OrderBook.bestBid, hbids] at hbid
    | sale _ _ _ hsell => simp [answers_heard_of_ne] at hsell
  | emptyAsks _ hasks =>
    refine iff_of_false (by simp) ?_
    intro hout
    cases hout with
    | spread hmem _ hask =>
      obtain rfl := by simpa using hmem
      simp [OrderBook.bestAsk, hasks] at hask
    | sale _ _ _ hsell => simp [answers_heard_of_ne] at hsell
  | spread hbid hask hsub =>
    obtain ⟨rfl, hlarge⟩ := Decimal.sub_eq_error_iff.mp hsub
    constructor
    · rintro ⟨⟩
      exact .spread (by simp) hbid hask hlarge
    · intro hout
      cases hout with
      | spread => rfl
      | sale _ _ _ hsell => simp [answers_heard_of_ne] at hsell
  | held due | unsized due | placed due =>
    refine iff_of_false (by simp) ?_
    intro hout
    refine due.not_outOfRange (hout.of_answers ?_ ?_ ?_) <;> simp [answers_heard_of_ne]
  | @unpriced reads bought buyRate sellRate _ due hlast herror =>
    obtain ⟨⟨bought, hbought, hside⟩, hbuys, hsells⟩ := due.no_rates
    obtain rfl := Option.some.inj (hlast.symm.trans hbought)
    have hover := Pricing.overflows_iff.mp herror
    constructor
    · rintro ⟨⟩
      exact .sale hlast hside (by simp) (by simp [answers_heard_of_ne]) hover
    · intro hout
      cases hout with
      | @spread book _ _ hmem hbid hask hlarge =>
        have hmem' : book ∈ answers .orderBook reads := by simpa [answers_heard_of_ne] using hmem
        exact absurd (.spread hmem' hbid hask hlarge) due.not_outOfRange
      | sale hlast' _ hbuy hsell hover' =>
        -- the same rates, and so the same cause
        obtain rfl := Option.some.inj (hlast.symm.trans hlast')
        obtain rfl := by simpa [answers_heard_of_ne, hbuys] using hbuy
        obtain rfl := by simpa [answers_heard_of_ne, hsells] using hsell
        exact congrArg _ (congrArg _ (Except.error.inj
          (herror.symm.trans (Pricing.overflows_iff.mpr hover'))))

/-- **A cycle has overflowed exactly if something left the range.** -/
theorem Ends.overflowed_iff (h : s.Ends last transcript ended) :
    ended = .error (.overflowed cause) ↔ OutOfRange last transcript cause := by
  cases h with
  | complete complete => exact complete.overflowed_iff
  | failed due htranscript hended =>
    refine iff_of_false (by simp [hended]) ?_
    intro hout
    rw [htranscript] at hout
    refine due.not_outOfRange (hout.of_answers ?_ ?_ ?_) <;> simp [answers_failed]

theorem settle_overflowed_iff {ended : Except Halt Outcome} :
    settle ended = .error (.overflowed cause) ↔ ended = .error (.overflowed cause) := by
  cases ended with
  | ok outcome => simp [settle]
  | error halt =>
    cases halt with
    | overflowed cause' => simp [settle]
    | failed cause' => cases hclass : cause'.failureClass <;> simp [settle, hclass]

variable {σ : Type} {exchange : Exchange σ}

theorem execute_overflowed_iff (s : Strategy) (exchange : Exchange σ) (last : Option PlacedOrder)
    (world : σ) :
    (s.execute exchange last world).result = .error (.overflowed cause) ↔
      OutOfRange last (s.execute exchange last world).transcript cause := by
  have hends := ends_of_cycle (Dialogue.course_run exchange (s.cycle last) world)
  exact settle_overflowed_iff.trans hends.overflowed_iff

/-! ## Whole runs -/

/-- Fee rates are answered that are not negative, and less than one. -/
def RatesBelowOne (transcript : List Exchanged) : Prop :=
  ∀ rate, rate ∈ answers .buyFeeRate transcript ∨ rate ∈ answers .sellFeeRate transcript →
    0 ≤ rate.value ∧ rate.value < 1

/-- What an exchange plausibly answers: quotes that are not negative, bids with room above them, and
fee rates below one. -/
structure Plausible (transcript : List Exchanged) : Prop where
  bids : ∀ book ∈ answers .orderBook transcript, ∀ bid, book.bestBid = some bid →
    0 ≤ bid.price.value ∧ 4 * bid.price.value ≤ Decimal.maxCoefficient
  asks : ∀ book ∈ answers .orderBook transcript, ∀ ask, book.bestAsk = some ask →
    0 ≤ ask.price.value
  rates : RatesBelowOne transcript

/-- After a purchase at a plausible bid nothing leaves the range while answers are plausible. -/
theorem Plausible.not_outOfRange (h : Plausible transcript)
    (hlast : ∀ bought, last = some bought → bought.side = .buy →
      0 ≤ bought.price.value ∧ 4 * bought.price.value ≤ Decimal.maxCoefficient) :
    ¬ OutOfRange last transcript cause := by
  intro hout
  cases hout with
  | @spread book bid ask hbook hbid hask hlarge =>
    refine Decimal.not_tooLarge_of_le ?_ hlarge
    have hbid' := (h.bids book hbook bid hbid).1
    have hask' := h.asks book hbook ask hask
    have hbidMax := (le_abs_self _).trans bid.price.abs_value_le
    have haskMax := (le_abs_self _).trans ask.price.abs_value_le
    exact abs_sub_le_of_nonneg_of_le hask' haskMax hbid' hbidMax
  | sale hbought hside hbuy hsell hover =>
    obtain ⟨hprice, hroom⟩ := hlast _ hbought hside
    exact Pricing.not_overflows hprice hroom (h.rates _ (.inl hbuy)) (h.rates _ (.inr hsell)) hover

/-- What is true of all answers is true of some of them. -/
theorem RatesBelowOne.of_subset {part : List Exchanged} (h : RatesBelowOne transcript)
    (hpart : part ⊆ transcript) : RatesBelowOne part :=
  fun rate hrate => h rate (hrate.imp (answers_subset hpart _ ·) (answers_subset hpart _ ·))

theorem Plausible.of_subset {part : List Exchanged} (h : Plausible transcript)
    (hpart : part ⊆ transcript) : Plausible part where
  bids := fun book hbook => h.bids book (answers_subset hpart _ hbook)
  asks := fun book hbook => h.asks book (answers_subset hpart _ hbook)
  rates := h.rates.of_subset hpart

/-- **When a run overflows.**  In every run from the start, against every exchange, a cycle overflows
exactly if its spread, or the price of the sale of what was bought last, leaves the range of decimals. A
budget that cannot be sized is reported instead. If all answers are plausible, no cycle overflows. The run is
logged at `INFO`, the default, for which the spread and the total markup of a sale are computed. -/
theorem run_overflowed_iff (s : Strategy) (exchange : Exchange σ) (count : Nat) (world : σ) :
    (∀ before cycle after, s.run exchange count none world = before ++ cycle :: after →
      (∀ cause, cycle.result = .error (.overflowed cause) ↔
        OutOfRange (placedIn (history before)).getLast? cycle.transcript cause) ∧
      ∀ cause, s.Unsized cycle.transcript cause →
        cycle.result = .error (.stopped (.exchange (.invalidResponse cause.message)))) ∧
    (Plausible (history (s.run exchange count none world)) →
      ∀ cycle ∈ s.run exchange count none world, ∀ cause,
        cycle.result ≠ .error (.overflowed cause)) := by
  refine ⟨?_, ?_⟩
  · intro before cycle after h
    obtain ⟨_, start, -, rfl⟩ := run_split h
    refine ⟨fun cause => execute_overflowed_iff s exchange _ start, ?_⟩
    intro cause hunsized
    have hends := ends_of_cycle (Dialogue.course_run exchange
      (s.cycle (placedIn (history before)).getLast?) start)
    have hfailed := (hends.failed_iff _).mpr (.inr ⟨cause, hunsized, rfl⟩)
    show settle _ = _
    rw [hfailed]
    rfl
  · intro hplausible cycle hmem cause hresult
    obtain ⟨before, after, h⟩ := List.append_of_mem hmem
    obtain ⟨first, start, hbefore, hcycle⟩ := run_split h
    rw [h, history_append, history_cons] at hplausible
    have hearlier : Plausible (history before) := hplausible.of_subset (by simp)
    have hnow : Plausible cycle.transcript := hplausible.of_subset (by simp)
    rw [hcycle] at hresult hnow
    refine hnow.not_outOfRange ?_ ((execute_overflowed_iff s exchange _ start).mp hresult)
    intro bought hbought hside
    -- what was bought last was bought at a bid that was heard before
    have hplaced := List.mem_of_getLast? hbought
    rw [hbefore] at hplaced hearlier
    obtain ⟨book, hbook, _, _, ⟨bid, hbid, hprice⟩, _⟩ := purchase_of_mem_session hplaced hside
    rw [hprice]
    exact hearlier.bids book hbook bid hbid

/-! ## Two runs -/

/-- What is bought and sold for one unit at the price one. -/
def unitRun : List (Executed Unit) :=
  (spending .one).run (Exchange.flat .one .one Pricing.sampleFee) 2 none ()

theorem quotes_unitRun : ∀ book ∈ answers .orderBook (history unitRun),
    (∀ bid, book.bestBid = some bid → bid.price = .one) ∧
      ∀ ask, book.bestAsk = some ask → ask.price = .one := by
  let flat : OrderBook := ⟨"ltcbtc", [⟨.one, .one⟩], [⟨.one, .one⟩], ⟨0, 0⟩⟩
  have hbooks : answers .orderBook (history unitRun) = [flat, flat] := by rfl
  intro book hbook
  obtain rfl : book = flat := by simpa [hbooks] using hbook
  constructor
  · rintro bid ⟨⟩
    rfl
  · rintro ask ⟨⟩
    rfl

theorem ratesBelowOne_unitRun : RatesBelowOne (history unitRun) := by
  have hbuy : answers .buyFeeRate (history unitRun) = [Pricing.sampleFee] := by rfl
  have hsell : answers .sellFeeRate (history unitRun) = [Pricing.sampleFee] := by rfl
  intro rate hrate
  rw [hbuy, hsell, or_self] at hrate
  obtain rfl := List.mem_singleton.mp hrate
  exact Pricing.sampleFee_mem

/-- No cycle of it overflows. -/
theorem in_range_sample : Plausible (history unitRun) ∧
    ∀ cycle ∈ unitRun, ∀ cause, cycle.result ≠ .error (.overflowed cause) := by
  have hone : 0 ≤ Decimal.one.value ∧ 4 * Decimal.one.value ≤ Decimal.maxCoefficient := by
    norm_num [Decimal.value, Decimal.one]
  have hall : Plausible (history unitRun) := {
    bids := fun book hbook bid hbid => (quotes_unitRun book hbook).1 bid hbid ▸ hone
    asks := fun book hbook ask hask => (quotes_unitRun book hbook).2 ask hask ▸ hone.1
    rates := ratesBelowOne_unitRun }
  exact ⟨hall, (run_overflowed_iff (spending .one)
    (Exchange.flat .one .one Pricing.sampleFee) 2 ()).2 hall⟩

/-- The largest decimal. -/
def largest : Decimal := ⟨Decimal.maxCoefficient, 0, Nat.le_refl _, Nat.zero_le _⟩

/-- What is bought at the largest price cannot be priced for sale. -/
theorem overflowed_sample :
    ∃ cycle ∈ (spending .one).run (Exchange.flat largest .one Pricing.sampleFee) 2 none (),
      cycle.result = .error (.overflowed .multiplication) := by
  refine ⟨_, List.mem_cons_of_mem _ List.mem_cons_self, ?_⟩
  decide

end Strategy

end ScalpBot
