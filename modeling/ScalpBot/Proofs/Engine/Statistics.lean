import ScalpBot.Proofs.Engine.Loop
import ScalpBot.Proofs.Exchange.Holdings
import ScalpBot.Proofs.Strategy.Protocol
import ScalpBot.Proofs.Strategy.Trading

/-!
# The statistics and the exchange

The engine counts outcomes, and knows nothing of the exchange. The exchange hears calls, and knows nothing
of outcomes. `EngineStats.Agrees` says that both come to the same numbers: each cycle asks for the book
once, and what else happens in it, a placed order, a failure, an empty side or an open order, happens once
and ends it. This is told of one cycle after the call that was its last (`Strategy.agrees_of_due`), and
added up over the cycles of a run (`EngineStats.Agrees.append`).

`Strategy.stats_agree` says so of every run of the engine that ends in good order.
-/

namespace ScalpBot

/-! ## Counting calls -/

/-- Why calls failed, in order. -/
def failures (transcript : List Exchanged) : List Failure := transcript.filterMap Exchanged.cause?

@[simp] theorem failures_append (first rest : List Exchanged) :
    failures (first ++ rest) = failures first ++ failures rest :=
  List.filterMap_append ..

/-- Whether nobody buys or nobody sells. -/
def OrderBook.hasEmptySide (book : OrderBook) : Bool := book.bids.isEmpty || book.asks.isEmpty

/-- Whether the open orders came back, and this order is one of them. -/
def Exchanged.shows (e : Exchanged) (order : Option PlacedOrder) : Bool :=
  (e.answer? .openOrders).any fun orders => order.any fun order => orders.any fun o => o.id = order.id

/-- How often the open orders came back and contained the order placed latest before. `latest` is the order
placed latest before all of these calls. -/
def sightings : (latest : Option PlacedOrder) → List Exchanged → Nat
  | _, [] => 0
  | latest, e :: rest => (e.shows latest).toNat + sightings (e.placed?.or latest) rest

theorem sightings_append (latest : Option PlacedOrder) (first rest : List Exchanged) :
    sightings latest (first ++ rest) =
      sightings latest first + sightings ((placedIn first).getLast?.or latest) rest := by
  induction first generalizing latest with
  | nil => simp [sightings]
  | cons e first ih =>
    have hlatest : (placedIn first).getLast?.or (e.placed?.or latest) =
        (placedIn (e :: first)).getLast?.or latest := by
      rw [← List.singleton_append, placedIn_append, List.getLast?_append, Option.or_assoc]
      cases hplaced : e.placed? <;> simp [placedIn, hplaced]
    rw [List.cons_append, sightings, sightings, ih, hlatest, Nat.add_assoc]

/-- How many of the orders are on this side. -/
def countSide (side : Side) (orders : List PlacedOrder) : Nat :=
  orders.countP fun order => order.side = side

/-- **The statistics agree with the calls.**  `latest` is the order placed latest before them. -/
structure EngineStats.Agrees (stats : EngineStats) (latest : Option PlacedOrder)
    (calls : List Exchanged) : Prop where
  /-- The book was asked for once in each cycle. -/
  cycles : stats.cycles = (kinds calls).count .orderBook
  /-- The submissions for which an id came back. -/
  ordersPlaced : stats.ordersPlaced = (placedIn calls).length
  /-- The open orders that contained the order placed latest. -/
  holds : stats.holds = sightings latest calls
  /-- The books with an empty side. -/
  skipped : stats.skipped = (answers .orderBook calls).countP OrderBook.hasEmptySide
  /-- The calls that failed. -/
  deferred : stats.deferred = (failures calls).length
  /-- Their failures may pass. -/
  transient : ∀ cause ∈ failures calls, cause.failureClass = .transient

theorem EngineStats.agrees_nil (latest : Option PlacedOrder) : ({} : EngineStats).Agrees latest [] :=
  ⟨rfl, rfl, rfl, rfl, rfl, nofun⟩

/-- What agrees with the calls so far, and with those of the next cycle, agrees with all of them. -/
theorem EngineStats.Agrees.append {stats : EngineStats} {latest : Option PlacedOrder}
    {first rest : List Exchanged} {outcome : Outcome} (hfirst : stats.Agrees latest first)
    (hrest : (({} : EngineStats).record outcome).Agrees ((placedIn first).getLast?.or latest) rest) :
    (stats.record outcome).Agrees latest (first ++ rest) := by
  rw [record_eq] at hrest ⊢
  obtain ⟨hcycles, hplaced, hholds, hskipped, hdeferred, htransient⟩ := hrest
  dsimp only at hcycles hplaced hholds hskipped hdeferred
  refine ⟨?_, ?_, ?_, ?_, ?_, ?_⟩
  · rw [kinds_append, List.count_append, ← hcycles, ← hfirst.cycles, Nat.zero_add]
  · rw [placedIn_append, List.length_append, ← hplaced, ← hfirst.ordersPlaced, Nat.zero_add]
  · rw [sightings_append, ← hholds, ← hfirst.holds, Nat.zero_add]
  · rw [answers_append, List.countP_append, ← hskipped, ← hfirst.skipped, Nat.zero_add]
  · rw [failures_append, List.length_append, ← hdeferred, ← hfirst.deferred, Nat.zero_add]
  · rw [failures_append]
    exact List.forall_mem_append.mpr ⟨hfirst.transient, htransient⟩

namespace Strategy

variable {s : Strategy} {last : Option PlacedOrder} {reads transcript : List Exchanged} {call : Call}
  {e : Exchanged} {ended : Except Halt Outcome} {outcome : Outcome}

/-! ## One cycle -/

theorem Due.reads_quiet (h : s.Due last reads call) : ∀ e ∈ reads, e.isSubmission = false :=
  h.forall_mem_reads fun _ _ hquestion => hquestion

/-- Before the last call of a cycle nothing failed. -/
theorem Due.failures_eq (h : s.Due last reads call) : failures reads = [] :=
  List.filterMap_eq_nil_iff.mpr h.answered

/-- Before the last call of a cycle no book had an empty side. -/
theorem Due.countP_hasEmptySide (h : s.Due last reads call) :
    (answers .orderBook reads).countP OrderBook.hasEmptySide = 0 := by
  refine List.countP_eq_zero.mpr fun book hbook hempty => h.not_stops (.inl ⟨book, hbook, ?_⟩)
  simpa [OrderBook.hasEmptySide] using hempty

/-- Before the last call of a cycle the order placed latest was not seen. -/
theorem Due.sightings_eq (h : s.Due last reads call) : sightings last reads = 0 := by
  have hnone : ∀ e ∈ reads, e.shows last = false := by
    intro e he
    refine Bool.eq_false_iff.mpr fun hshows => h.not_stops (.inr (.inl ?_))
    simp only [Exchanged.shows, Option.any_eq_true, List.any_eq_true, decide_eq_true_eq] at hshows
    obtain ⟨orders, horders, order, horder, o, ho, hid⟩ := hshows
    exact ⟨order, horder, orders, List.mem_filterMap.mpr ⟨e, he, horders⟩, o, ho, hid⟩
  have hquiet := h.reads_quiet
  clear h
  induction reads with
  | nil => rfl
  | cons e reads ih =>
    obtain ⟨hfirst, hnone⟩ := List.forall_mem_cons.mp hnone
    obtain ⟨hread, hquiet⟩ := List.forall_mem_cons.mp hquiet
    rw [sightings, hfirst, Exchanged.placed?_of_read hread, Option.none_or, ih hnone hquiet]
    rfl

/-- A row asks for the book at its beginning, and not again. -/
theorem protocol_eq_cons (last : Option PlacedOrder) :
    ∃ rest, protocol last = .orderBook :: rest ∧ .orderBook ∉ rest := by
  cases last with
  | none => exact ⟨_, rfl, by decide⟩
  | some order => cases hside : order.side <;> exact ⟨_, by rw [protocol, hside], by decide⟩

/-- A cycle asks for the book once. -/
theorem Due.count_orderBook (h : s.Due last reads call) :
    (kinds reads ++ [call.kind]).count .orderBook = 1 := by
  obtain ⟨rest, hrow, hrest⟩ := protocol_eq_cons last
  have hprefix := h.kinds_prefix
  rw [hrow] at hprefix
  rcases List.prefix_cons_iff.mp hprefix with hnil | ⟨made, hmade, hin⟩
  · simp at hnil
  · rw [hmade, List.count_cons_self, List.count_eq_zero.mpr fun hmem => hrest (hin.subset hmem)]

/-- **A cycle agrees with its outcome** if its last call does. -/
theorem agrees_of_due (due : s.Due last reads e.call)
    (hplaced : e.placed?.toList.length = outcome.isPlaced.toNat)
    (hshows : (e.shows last).toNat = outcome.isHolding.toNat)
    (hempty : (e.answer? .orderBook).toList.countP OrderBook.hasEmptySide = outcome.isSkipped.toNat)
    (hfailed : e.cause?.toList.length = outcome.isDeferred.toNat)
    (htransient : ∀ cause ∈ e.cause?, cause.failureClass = .transient) :
    (({} : EngineStats).record outcome).Agrees last (reads ++ [e]) := by
  have hnone := placedIn_of_reads due.reads_quiet
  have hfailures : failures (reads ++ [e]) = e.cause?.toList := by
    rw [failures_append, due.failures_eq, List.nil_append, failures, List.filterMap_cons]
    cases e.cause? <;> rfl
  have hbooks : answers .orderBook [e] = (e.answer? .orderBook).toList := by
    rw [answers, List.filterMap_cons]
    cases e.answer? .orderBook <;> rfl
  rw [EngineStats.record_eq]
  refine ⟨?_, ?_, ?_, ?_, ?_, ?_⟩
  · rw [kinds_append]
    exact due.count_orderBook.symm
  · rw [placedIn_reads_append due.reads_quiet, hplaced]
    exact Nat.zero_add _
  · rw [sightings_append, due.sightings_eq, hnone, ← hshows]
    rfl
  · rw [answers_append, List.countP_append, due.countP_hasEmptySide, hbooks, hempty]
  · rw [hfailures, hfailed]
    exact Nat.zero_add _
  · rw [hfailures]
    simpa using htransient

/-- A call that failed, and may be tried again, makes a cycle agree that is deferred. -/
theorem agrees_of_failed (due : s.Due last reads call) {cause : Failure}
    (htransient : cause.failureClass = .transient) :
    (({} : EngineStats).record .deferred).Agrees last
      (reads ++ [⟨s.market.id, call, .error cause⟩]) := by
  have hanswer : ∀ asked, (⟨s.market.id, call, .error cause⟩ : Exchanged).answer? asked = none :=
    fun asked => List.filterMap_eq_nil_iff.mp (answers_failed asked call s.market.id cause) _
      List.mem_cons_self
  refine agrees_of_due due ?_ ?_ ?_ rfl ?_
  · cases call <;> rfl
  · rw [Exchanged.shows, hanswer]
    rfl
  · rw [hanswer]
    rfl
  · rintro _ ⟨⟩
    exact htransient

/-- An answer makes a cycle agree that is not deferred. -/
theorem agrees_of_heard (due : s.Due last reads call) {answer : call.Answer}
    (hplaced : (s.heard call answer).placed?.toList.length = outcome.isPlaced.toNat)
    (hshows : (s.heard call answer).shows last = outcome.isHolding)
    (hempty : ((s.heard call answer).answer? .orderBook).toList.countP OrderBook.hasEmptySide =
      outcome.isSkipped.toNat)
    (hdeferred : outcome.isDeferred = false) :
    (({} : EngineStats).record outcome).Agrees last (reads ++ [s.heard call answer]) := by
  refine agrees_of_due due hplaced (congrArg Bool.toNat hshows) hempty ?_ ?_
  · rw [cause?_heard, hdeferred]
    rfl
  · simp

/-- A cycle that is over agrees with its outcome. -/
theorem agrees_of_over (h : s.Over last transcript ended) (hended : settle ended = .ok outcome) :
    (({} : EngineStats).record outcome).Agrees last transcript := by
  have hbook : ∀ {book : OrderBook}, book.hasEmptySide = true →
      ((s.heard .orderBook book).answer? .orderBook).toList.countP OrderBook.hasEmptySide = 1 := by
    intro book hempty
    rw [heard, Exchanged.answer?_self]
    exact List.countP_eq_length.mpr (List.forall_mem_singleton.mpr hempty)
  cases h with
  | emptyBids hbids =>
    obtain rfl := Except.ok.inj hended
    exact agrees_of_heard .orderBook rfl rfl (hbook (by simp [OrderBook.hasEmptySide, hbids])) rfl
  | emptyAsks _ hasks =>
    obtain rfl := Except.ok.inj hended
    exact agrees_of_heard .orderBook rfl rfl (hbook (by simp [OrderBook.hasEmptySide, hasks])) rfl
  | held due hlast hopen =>
    obtain rfl := Except.ok.inj hended
    refine agrees_of_heard due rfl ?_ rfl rfl
    rw [heard, Exchanged.shows, Exchanged.answer?_self, hlast]
    simpa [Except.toOption, Outcome.isHolding] using hopen
  | placed due =>
    obtain rfl := Except.ok.inj hended
    exact agrees_of_heard due rfl rfl rfl rfl
  | spread | unsized | unpriced => cases hended

/-- A cycle that comes to an outcome agrees with it. -/
theorem agrees_of_ends (h : s.Ends last transcript ended) (hended : settle ended = .ok outcome) :
    (({} : EngineStats).record outcome).Agrees last transcript := by
  cases h with
  | complete complete => exact agrees_of_over complete hended
  | @failed _ _ cause due htranscript hresult =>
    subst htranscript hresult
    rw [settle_failed] at hended
    cases hclass : cause.failureClass with
    | transient =>
      rw [hclass] at hended
      obtain rfl := Except.ok.inj hended
      exact agrees_of_failed due hclass
    | nonRecoverable =>
      rw [hclass] at hended
      cases hended

/-! ## Runs -/

/-- As many purchases as sales, or one more while something bought is to be sold. -/
def Balanced (orders : List PlacedOrder) : Prop :=
  countSide .buy orders =
    countSide .sell orders + if nextSide orders.getLast? = .sell then 1 else 0

/-- An order of the side that is due keeps the balance. -/
theorem Balanced.concat {orders : List PlacedOrder} {order : PlacedOrder} (h : Balanced orders)
    (hside : order.side = nextSide orders.getLast?) : Balanced (orders ++ [order]) := by
  have hcount : ∀ side, countSide side (orders ++ [order]) =
      countSide side orders + if order.side = side then 1 else 0 := by
    intro side
    rw [countSide, countSide, List.countP_append, List.countP_singleton]
    simp
  rw [Balanced, ← hside] at h
  rw [Balanced, hcount, hcount, h, List.getLast?_concat, nextSide]
  cases order.side <;> simp [Side.other]

/-- **What is true of a run of the engine while no cycle fails.**  `world` is the state of the exchange at
its start. -/
structure Progress.Audited {σ : Type} (exchange : Exchange σ) (world : σ) (stats : EngineStats)
    (p : Progress σ) : Prop where
  tracks : p.Tracks exchange world
  last_eq : p.last = (placedIn p.transcript).getLast?
  agrees : stats.Agrees none p.transcript
  balanced : Balanced (placedIn p.transcript)

variable {σ : Type} {exchange : Exchange σ} {world : σ} {stats : EngineStats} {p p' : Progress σ}

/-- **Each cycle that comes to an outcome keeps the books.** -/
theorem audited_advance (h : p.Audited exchange world stats)
    (hcycle : s.advance exchange p = (.ok outcome, p')) :
    p'.Audited exchange world (stats.record outcome) := by
  have htracks : p'.Tracks exchange world := by
    have hnext := tracks_advance (s := s) h.tracks
    rwa [hcycle] at hnext
  obtain ⟨hresult, rfl⟩ := Prod.mk.inj hcycle
  have hconduct := s.execute_conduct exchange p.last p.world
  have hends := ends_of_cycle (Dialogue.course_run exchange (s.cycle p.last) p.world)
  refine ⟨htracks, ?_, ?_, ?_⟩
  · show (s.execute exchange p.last p.world).last = _
    rw [hconduct.next_eq, placedIn_append, List.getLast?_append, h.last_eq]
  · refine h.agrees.append ?_
    rw [Option.or_none, ← h.last_eq]
    exact agrees_of_ends hends hresult
  · show Balanced (placedIn (p.transcript ++ (s.execute exchange p.last p.world).transcript))
    rw [placedIn_append]
    rcases hconduct.placedIn_cases with ⟨hplaced, -, -⟩ | ⟨order, hplaced, -, hplacing⟩
    · rw [hplaced, List.append_nil]
      exact h.balanced
    · rw [hplaced]
      exact h.balanced.concat (h.last_eq ▸ hconduct.side_eq hplacing)

/-- **The statistics agree with what reached the exchange.**  Let an engine that runs the strategy from its
start end in good order with the statistics `stats`, whatever the exchange answered and whenever the engine
was told to stop. Its transcript tells all that the exchange heard and replied. In it the book was asked
for once in each cycle that was counted; the orders counted as placed are the submissions for which an id
came back; the cycles counted as deferred are the calls that failed, all of them for the moment; those
counted as skipped are the books with an empty side, and those counted as holding the open orders that
contained the order placed latest. As many purchases as sales were placed, or one more. -/
theorem stats_agree (s : Strategy) (exchange : Exchange σ) (channel : Channel) (world : σ)
    {turns : List Turn} {stats : EngineStats}
    (h : (Engine.afterTurns (s.advance exchange) channel { world := world } turns).ended =
      some (.stopped stats)) :
    let p := (Engine.afterTurns (s.advance exchange) channel { world := world } turns).strategy
    p.Tracks exchange world ∧ stats.Agrees none p.transcript ∧
      (countSide .buy (placedIn p.transcript) = countSide .sell (placedIn p.transcript) ∨
        countSide .buy (placedIn p.transcript) = countSide .sell (placedIn p.transcript) + 1) := by
  have hstart : ({ world := world } : Progress σ).Audited exchange world {} :=
    ⟨⟨trivial, rfl⟩, rfl, EngineStats.agrees_nil none, rfl⟩
  have haudited := Engine.holds_of_stopped (P := Progress.Audited exchange world)
    (fun _ _ _ _ => audited_advance) rfl hstart h
  refine ⟨haudited.tracks, haudited.agrees, ?_⟩
  have hbalanced := haudited.balanced
  unfold Balanced at hbalanced
  split at hbalanced
  · exact .inr hbalanced
  · exact .inl hbalanced

/-- An engine that defers a cycle, buys in the next one and then holds, until it is told to stop. -/
theorem stats_agree_deferred_placed_held :
    let ticks : List Turn := [⟨[], true⟩, ⟨[], true⟩, ⟨[], true⟩, ⟨[.send true], true⟩]
    let e := Engine.afterTurns ((spending .one).advance (.steady false (· == 0))) ⟨false, false, false⟩
      { world := {} } ticks
    e.ended = some (.stopped ⟨3, 1, 1, 0, 1⟩) ∧
      (⟨3, 1, 1, 0, 1⟩ : EngineStats).Agrees none e.strategy.transcript := by
  intro ticks e
  have hended : e.ended = some (.stopped ⟨3, 1, 1, 0, 1⟩) := by decide +kernel
  have hagree := stats_agree (spending .one) (.steady false (· == 0)) ⟨false, false, false⟩ {} hended
  exact ⟨hended, hagree.2.1⟩

end Strategy

end ScalpBot
