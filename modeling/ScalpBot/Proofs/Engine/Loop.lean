import Mathlib.Data.List.Induction
import ScalpBot.Engine

/-!
# The loop of the engine

A turn of the loop looks at the channel before anything else, and what it sees there (`Channel.sight`)
does not depend on the strategy. So the turns that tell the engine to stop can be found from the signals
alone (`Channel.sightAt`). `Engine.Turned` says all that one turn can do, and `Engine.Account` what some
turns come to: which calls of the strategy were made, with which results, what was counted, and why the
run is over, if it is. Each turn keeps the account (`Engine.Account.turned`).

The main statement, `Engine.keeps_discipline`, is about every strategy and every list of turns: after the
first turn that sees the value true or a closed channel, and after the first failure of the strategy, no
cycle begins; a run that was told to stop has counted every cycle once.
-/

namespace ScalpBot

/-! ## What a turn sees -/

/-- What a look at the channel shows. -/
inductive Sight where
  /-- Nothing that was not seen before. -/
  | nothing
  /-- The value false. -/
  | goOn
  /-- The value true, or a closed channel. -/
  | stop
deriving DecidableEq, Repr

namespace Channel

/-- What the channel shows. A value that was not seen yet comes before the end of the channel. -/
def sight (c : Channel) : Sight :=
  match c.unseen, c.value, c.closed with
  | true, true, _ => .stop
  | true, false, _ => .goOn
  | false, _, true => .stop
  | false, _, false => .nothing

/-- The channel at the moment in which a turn looks at it. -/
def atTurn (c : Channel) (t : Turn) : Channel := t.signals.foldl receive c

/-- The channel after some turns, each of which has seen what there was to see. -/
def after (c : Channel) (turns : List Turn) : Channel :=
  turns.foldl (fun c t => { c.atTurn t with unseen := false }) c

/-- What the turn `t` sees when it comes after the turns `before`. -/
def sightAt (c : Channel) (before : List Turn) (t : Turn) : Sight := ((c.after before).atTurn t).sight

/-- One of the turns sees the value true or a closed channel. -/
def Stops (c : Channel) (turns : List Turn) : Prop :=
  ∃ before t after, turns = before ++ t :: after ∧ c.sightAt before t = .stop

theorem after_concat (c : Channel) (turns : List Turn) (t : Turn) :
    c.after (turns ++ [t]) = { (c.after turns).atTurn t with unseen := false } := by
  rw [after, after, List.foldl_append, List.foldl_cons, List.foldl_nil]

variable {c : Channel}

/-- There is nothing to see in a channel that need not be looked at. -/
theorem sight_eq_nothing_iff : c.sight = .nothing ↔ ¬ (c.unseen || c.closed) = true := by
  obtain ⟨value, unseen, closed⟩ := c
  cases unseen <;> cases value <;> cases closed <;> decide

theorem sight_eq_goOn_iff :
    c.sight = .goOn ↔ (c.unseen || c.closed) = true ∧ (c.unseen && !c.value) = true := by
  obtain ⟨value, unseen, closed⟩ := c
  cases unseen <;> cases value <;> cases closed <;> decide

theorem sight_eq_stop_iff :
    c.sight = .stop ↔ (c.unseen || c.closed) = true ∧ ¬ (c.unseen && !c.value) = true := by
  obtain ⟨value, unseen, closed⟩ := c
  cases unseen <;> cases value <;> cases closed <;> decide

theorem Stops.concat {turns : List Turn} (h : c.Stops turns) (t : Turn) : c.Stops (turns ++ [t]) := by
  obtain ⟨before, stop, after, rfl, hsight⟩ := h
  exact ⟨before, stop, after ++ [t], by simp, hsight⟩

/-- Where there is nothing to see, the latest value was seen before. -/
theorem seen_of_sight (h : c.sight = .nothing) : { c with unseen := false } = c := by
  have hlooks := sight_eq_nothing_iff.mp h
  obtain ⟨value, unseen, closed⟩ := c
  cases unseen with
  | false => rfl
  | true => exact absurd rfl hlooks

end Channel

/-! ## Counting results -/

/-- Whether an order is still open. -/
def Outcome.isHolding : Outcome → Bool
  | holding _ => true
  | _ => false

/-- Whether the book had an empty side. -/
def Outcome.isSkipped : Outcome → Bool
  | skipped _ => true
  | _ => false

/-- Whether the exchange failed for the moment. -/
def Outcome.isDeferred : Outcome → Bool
  | deferred => true
  | _ => false

/-- How many of the results are outcomes of this kind. -/
def tally (such : Outcome → Bool) (results : List (Except CycleFault Outcome)) : Nat :=
  results.countP fun result => result.toOption.any such

@[simp] theorem tally_concat_ok (such : Outcome → Bool) (results : List (Except CycleFault Outcome))
    (outcome : Outcome) :
    tally such (results ++ [.ok outcome]) = tally such results + (such outcome).toNat := by
  rw [tally, tally, List.countP_append, List.countP_singleton]
  cases h : such outcome <;> simp [Except.toOption, h]

@[simp] theorem tally_concat_error (such : Outcome → Bool)
    (results : List (Except CycleFault Outcome)) (cause : CycleFault) :
    tally such (results ++ [.error cause]) = tally such results := by
  rw [tally, tally, List.countP_append, List.countP_singleton]
  rfl

namespace EngineStats

/-- An outcome is of one kind. -/
theorem toNat_kinds (outcome : Outcome) :
    outcome.isPlaced.toNat + outcome.isHolding.toNat + outcome.isSkipped.toNat +
      outcome.isDeferred.toNat = 1 := by
  cases outcome <;> rfl

theorem record_eq (stats : EngineStats) (outcome : Outcome) :
    stats.record outcome =
      { cycles := stats.cycles + 1
        ordersPlaced := stats.ordersPlaced + outcome.isPlaced.toNat
        holds := stats.holds + outcome.isHolding.toNat
        skipped := stats.skipped + outcome.isSkipped.toNat
        deferred := stats.deferred + outcome.isDeferred.toNat } := by
  cases outcome <;> rfl

/-- The statistics count these results, each outcome once. -/
structure Counts (stats : EngineStats) (results : List (Except CycleFault Outcome)) : Prop where
  cycles : stats.cycles = tally (fun _ => true) results
  ordersPlaced : stats.ordersPlaced = tally Outcome.isPlaced results
  holds : stats.holds = tally Outcome.isHolding results
  skipped : stats.skipped = tally Outcome.isSkipped results
  deferred : stats.deferred = tally Outcome.isDeferred results
  sum : stats.ordersPlaced + stats.holds + stats.skipped + stats.deferred = stats.cycles

variable {stats : EngineStats} {results : List (Except CycleFault Outcome)}

theorem counts_nil : ({} : EngineStats).Counts [] := ⟨rfl, rfl, rfl, rfl, rfl, rfl⟩

theorem Counts.concat_ok (h : stats.Counts results) (outcome : Outcome) :
    (stats.record outcome).Counts (results ++ [.ok outcome]) := by
  rw [record_eq]
  refine ⟨?_, ?_, ?_, ?_, ?_, ?_⟩
  · rw [tally_concat_ok, h.cycles]
    rfl
  · rw [tally_concat_ok, h.ordersPlaced]
  · rw [tally_concat_ok, h.holds]
  · rw [tally_concat_ok, h.skipped]
  · rw [tally_concat_ok, h.deferred]
  · have hkinds := toNat_kinds outcome
    have hsum := h.sum
    dsimp only
    omega

theorem Counts.concat_error (h : stats.Counts results) (cause : CycleFault) :
    stats.Counts (results ++ [.error cause]) := by
  refine ⟨?_, ?_, ?_, ?_, ?_, h.sum⟩ <;> rw [tally_concat_error]
  exacts [h.cycles, h.ordersPlaced, h.holds, h.skipped, h.deferred]

end EngineStats

/-- Where no cycle failed, the cycles that were counted are all results. -/
theorem tally_all {results : List (Except CycleFault Outcome)}
    (h : ∀ cause, .error cause ∉ results) : tally (fun _ => true) results = results.length := by
  refine List.countP_eq_length.mpr fun result hresult => ?_
  cases result with
  | ok outcome => rfl
  | error cause => exact absurd hresult (h cause)

namespace Engine

variable {σ : Type} {execute : σ → Except CycleFault Outcome × σ} {e e' : Engine σ} {t : Turn}

/-! ## One turn -/

/-- **What one turn does.** -/
inductive Turned (execute : σ → Except CycleFault Outcome × σ) (e : Engine σ) (t : Turn) :
    Engine σ → Prop
  /-- The run is over. -/
  | finished {reason : RunEnd} (ended : e.ended = some reason) : Turned execute e t e
  /-- The engine is told to stop. -/
  | told (ended : e.ended = none) (sight : (e.channel.atTurn t).sight = .stop) :
      Turned execute e t
        { e with channel := e.channel.atTurn t, ended := some (.stopped e.stats) }
  /-- The value false is seen. -/
  | seen (ended : e.ended = none) (sight : (e.channel.atTurn t).sight = .goOn) :
      Turned execute e t { e with channel := { e.channel.atTurn t with unseen := false } }
  /-- There is nothing to see, and no tick is due. -/
  | idle (ended : e.ended = none) (sight : (e.channel.atTurn t).sight = .nothing)
      (due : t.tickDue = false) : Turned execute e t { e with channel := e.channel.atTurn t }
  /-- A cycle comes to an outcome, which is counted. -/
  | counted {outcome : Outcome} {strategy : σ} (ended : e.ended = none)
      (sight : (e.channel.atTurn t).sight = .nothing) (due : t.tickDue = true)
      (call : execute e.strategy = (.ok outcome, strategy)) :
      Turned execute e t
        { channel := e.channel.atTurn t, stats := e.stats.record outcome, strategy := strategy,
          results := e.results ++ [.ok outcome], ended := none }
  /-- A cycle fails, and the run is over. -/
  | failed {cause : CycleFault} {strategy : σ} (ended : e.ended = none)
      (sight : (e.channel.atTurn t).sight = .nothing) (due : t.tickDue = true)
      (call : execute e.strategy = (.error cause, strategy)) :
      Turned execute e t
        { channel := e.channel.atTurn t, stats := e.stats, strategy := strategy,
          results := e.results ++ [.error cause], ended := some (.failed cause) }

theorem turned_turn (execute : σ → Except CycleFault Outcome × σ) (e : Engine σ) (t : Turn) :
    Turned execute e t (e.turn execute t) := by
  cases hended : e.ended with
  | some reason =>
    rw [turn, if_pos (by rw [hended]; rfl)]
    exact .finished hended
  | none =>
    rw [turn, if_neg (by simp [hended])]
    show Turned execute e t (if (e.channel.atTurn t).unseen || (e.channel.atTurn t).closed then
      { e with channel := e.channel.atTurn t }.look else _)
    cases hsight : (e.channel.atTurn t).sight with
    | stop =>
      obtain ⟨hlooks, hfalse⟩ := Channel.sight_eq_stop_iff.mp hsight
      rw [if_pos hlooks, look, if_neg hfalse]
      exact .told hended hsight
    | goOn =>
      obtain ⟨hlooks, hfalse⟩ := Channel.sight_eq_goOn_iff.mp hsight
      rw [if_pos hlooks, look, if_pos hfalse]
      exact .seen hended hsight
    | nothing =>
      rw [if_neg (Channel.sight_eq_nothing_iff.mp hsight)]
      cases hdue : t.tickDue with
      | false =>
        rw [if_neg Bool.false_ne_true]
        exact .idle hended hsight hdue
      | true =>
        rw [if_pos rfl]
        rcases hcall : execute e.strategy with ⟨cause | outcome, strategy⟩
        · have hturned := Turned.failed hended hsight hdue hcall
          simp only [runCycle, hcall]
          exact hturned
        · have hturned := Turned.counted hended hsight hdue hcall
          simp only [runCycle, hcall, hended]
          exact hturned

/-! ## Many turns -/

/-- The engine that starts with this channel and this strategy, after some turns. -/
def afterTurns (execute : σ → Except CycleFault Outcome × σ) (channel : Channel) (strategy : σ)
    (turns : List Turn) : Engine σ :=
  ({ channel := channel, strategy := strategy } : Engine σ).run execute turns

theorem run_concat (e : Engine σ) (turns : List Turn) (t : Turn) :
    e.run execute (turns ++ [t]) = (e.run execute turns).turn execute t := by
  rw [run, run, List.foldl_append, List.foldl_cons, List.foldl_nil]

/-- What each turn keeps holds after all turns. -/
theorem invariant {P : List Turn → Engine σ → Prop} (start : P [] e)
    (step : ∀ turns t e e', P turns e → Turned execute e t e' → P (turns ++ [t]) e')
    (turns : List Turn) : P turns (e.run execute turns) := by
  induction turns using List.reverseRecOn with
  | nil => exact start
  | append_singleton turns t ih =>
    rw [run_concat]
    exact step turns t _ _ ih (turned_turn execute _ t)

/-- What holds of the strategy and is kept by its cycles holds after any turns. -/
theorem strategy_run {P : σ → Prop} (hexecute : ∀ p, P p → P (execute p).2) (h : P e.strategy)
    (turns : List Turn) : P (e.run execute turns).strategy := by
  refine invariant (P := fun _ e => P e.strategy) h (fun _ t e e' hP hturned => ?_) turns
  cases hturned with
  | finished | told | seen | idle => exact hP
  | counted _ _ _ hcall | failed _ _ _ hcall =>
    have hnext := hexecute _ hP
    rwa [hcall] at hnext

/-- What holds of the statistics and the strategy, and is kept by the cycles that come to an outcome, holds
when a run ends in good order. -/
theorem holds_of_stopped {P : EngineStats → σ → Prop}
    (hexecute : ∀ stats p outcome p', P stats p → execute p = (.ok outcome, p') →
      P (stats.record outcome) p')
    (hgoing : e.ended = none) (h : P e.stats e.strategy) {turns : List Turn} {stats : EngineStats}
    (hstopped : (e.run execute turns).ended = some (.stopped stats)) :
    P stats (e.run execute turns).strategy := by
  have key : ((e.run execute turns).ended = none →
        P (e.run execute turns).stats (e.run execute turns).strategy) ∧
      ∀ stats, (e.run execute turns).ended = some (.stopped stats) →
        P stats (e.run execute turns).strategy := by
    refine invariant (P := fun _ e => (e.ended = none → P e.stats e.strategy) ∧
      ∀ stats, e.ended = some (.stopped stats) → P stats e.strategy) ⟨fun _ => h, ?_⟩
      (fun _ t e e' hP hturned => ?_) turns
    · simp [hgoing]
    · cases hturned with
      | finished => exact hP
      | told hended =>
        refine ⟨nofun, ?_⟩
        rintro stats ⟨⟩
        exact hP.1 hended
      | seen hended | idle hended => exact ⟨fun _ => hP.1 hended, by simp [hended]⟩
      | counted hended _ _ hcall => exact ⟨fun _ => hexecute _ _ _ _ (hP.1 hended) hcall, nofun⟩
      | failed => exact ⟨nofun, nofun⟩
  exact key.2 stats hstopped

/-- A run that is over stays as it is. -/
theorem run_of_ended (h : e.ended ≠ none) (turns : List Turn) : e.run execute turns = e := by
  refine invariant (P := fun _ e' => e' = e) rfl (fun _ t e₁ e₂ heq hturned => ?_) turns
  subst heq
  cases hturned with
  | finished => rfl
  | told hended | seen hended | idle hended | counted hended | failed hended => exact absurd hended h

/-- What so many calls of the strategy come to: their results, in order, and the strategy after
them. -/
def calls (execute : σ → Except CycleFault Outcome × σ) :
    (count : Nat) → (strategy : σ) → List (Except CycleFault Outcome) × σ
  | 0, strategy => ([], strategy)
  | count + 1, strategy =>
    let (results, strategy) := calls execute count strategy
    let (result, strategy) := execute strategy
    (results ++ [result], strategy)

/-- **What some turns come to.**  The engine started with this channel and this strategy. -/
structure Account (execute : σ → Except CycleFault Outcome × σ) (channel : Channel) (strategy : σ)
    (turns : List Turn) (e : Engine σ) : Prop where
  calls_eq : (e.results, e.strategy) = calls execute e.results.length strategy
  counts : e.stats.Counts e.results
  going : e.ended = none → e.channel = channel.after turns ∧ ∀ cause, .error cause ∉ e.results
  stopped : ∀ stats, e.ended = some (.stopped stats) →
    stats = e.stats ∧ (∀ cause, .error cause ∉ e.results) ∧ channel.Stops turns
  failed : ∀ cause, e.ended = some (.failed cause) →
    ∃ earlier, e.results = earlier ++ [.error cause] ∧ ∀ cause', .error cause' ∉ earlier

variable {channel : Channel} {strategy : σ} {turns : List Turn}

/-- One call more. -/
theorem calls_concat {result : Except CycleFault Outcome} {strategy' : σ}
    (h : (e.results, e.strategy) = calls execute e.results.length strategy)
    (hcall : execute e.strategy = (result, strategy')) :
    (e.results ++ [result], strategy') =
      calls execute (e.results ++ [result]).length strategy := by
  rw [List.length_append, List.length_singleton, calls, ← h]
  simp only [hcall]

/-- **Each turn keeps the account.** -/
theorem Account.turned (h : Account execute channel strategy turns e) (hturned : Turned execute e t e') :
    Account execute channel strategy (turns ++ [t]) e' := by
  cases hturned with
  | finished hended =>
    refine ⟨h.calls_eq, h.counts, fun hnone => ?_, fun stats hstats => ?_, h.failed⟩
    · rw [hended] at hnone
      cases hnone
    · obtain ⟨hcounted, hok, hstops⟩ := h.stopped stats hstats
      exact ⟨hcounted, hok, hstops.concat t⟩
  | told hended hsight =>
    obtain ⟨hchannel, hok⟩ := h.going hended
    refine ⟨h.calls_eq, h.counts, nofun, ?_, nofun⟩
    rintro stats ⟨⟩
    exact ⟨rfl, hok, turns, t, [], rfl, by rwa [Channel.sightAt, ← hchannel]⟩
  | seen hended hsight =>
    obtain ⟨hchannel, hok⟩ := h.going hended
    refine ⟨h.calls_eq, h.counts, fun _ => ⟨?_, hok⟩, ?_, ?_⟩
    · rw [Channel.after_concat, hchannel]
    · simp [hended]
    · simp [hended]
  | idle hended hsight =>
    obtain ⟨hchannel, hok⟩ := h.going hended
    refine ⟨h.calls_eq, h.counts, fun _ => ⟨?_, hok⟩, ?_, ?_⟩
    · rw [Channel.after_concat, ← hchannel, Channel.seen_of_sight hsight]
    · simp [hended]
    · simp [hended]
  | counted hended hsight due hcall =>
    obtain ⟨hchannel, hok⟩ := h.going hended
    refine ⟨calls_concat h.calls_eq hcall, h.counts.concat_ok _, fun _ => ⟨?_, ?_⟩, nofun, nofun⟩
    · rw [Channel.after_concat, ← hchannel, Channel.seen_of_sight hsight]
    · intro cause
      simp [hok cause]
  | @failed cause _ hended hsight due hcall =>
    obtain ⟨hchannel, hok⟩ := h.going hended
    refine ⟨calls_concat h.calls_eq hcall, h.counts.concat_error _, nofun, nofun, ?_⟩
    rintro cause' ⟨⟩
    exact ⟨e.results, rfl, hok⟩

theorem account (execute : σ → Except CycleFault Outcome × σ) (channel : Channel) (strategy : σ)
    (turns : List Turn) :
    Account execute channel strategy turns (afterTurns execute channel strategy turns) := by
  refine invariant ⟨rfl, EngineStats.counts_nil, fun _ => ⟨rfl, by simp⟩, nofun, nofun⟩ ?_ turns
  exact fun _ _ _ _ haccount hturned => haccount.turned hturned

/-! ## The discipline of an engine -/

/-- **What an engine keeps to** that starts with this channel and this strategy. `run` gives the engine
after any turns. -/
structure Discipline (execute : σ → Except CycleFault Outcome × σ) (channel : Channel) (strategy : σ)
    (run : List Turn → Engine σ) : Prop where
  /-- The results are those of the calls that were made, and nothing else changes the strategy. -/
  calls_eq : ∀ turns, ((run turns).results, (run turns).strategy) =
    calls execute (run turns).results.length strategy
  /-- Where there is nothing to see and a tick is due, a turn makes one call, unless the run is over. The
  call has its result when the turn ends, so before the channel is looked at again. -/
  one_call : ∀ before t, channel.sightAt before t = .nothing → t.tickDue = true →
    (run before).ended = none →
    (run (before ++ [t])).results = (run before).results ++ [(execute (run before).strategy).1]
  /-- The outcomes are counted as soon as they are there, each once. -/
  counts : ∀ turns, (run turns).stats.Counts (run turns).results
  /-- A turn that sees the value false makes no call, and changes nothing but what was seen. -/
  passes : ∀ before t, channel.sightAt before t = .goOn →
    run (before ++ [t]) = { run before with channel := (run (before ++ [t])).channel }
  /-- From a turn on that sees the value true or a closed channel no call is made. -/
  stops : ∀ before t after, channel.sightAt before t = .stop →
    (run (before ++ t :: after)).results = (run before).results
  /-- The run ends in good order, with its statistics, exactly if there was such a turn and no call
  failed. -/
  stopped_iff : ∀ turns stats, (run turns).ended = some (.stopped stats) ↔
    channel.Stops turns ∧ (∀ cause, .error cause ∉ (run turns).results) ∧ stats = (run turns).stats
  /-- It has then counted all calls. -/
  all_counted : ∀ turns stats, (run turns).ended = some (.stopped stats) →
    stats.cycles = (run turns).results.length
  /-- After a failure no call is made, and the run has ended with it. -/
  fails : ∀ turns earlier cause later, (run turns).results = earlier ++ .error cause :: later →
    later = [] ∧ (run turns).ended = some (.failed cause)

variable (execute channel strategy)

theorem turned_afterTurns (before : List Turn) (t : Turn) :
    Turned execute (afterTurns execute channel strategy before) t
      (afterTurns execute channel strategy (before ++ [t])) := by
  rw [afterTurns, afterTurns, run_concat]
  exact turned_turn ..

theorem afterTurns_append (before after : List Turn) :
    afterTurns execute channel strategy (before ++ after) =
      (afterTurns execute channel strategy before).run execute after :=
  List.foldl_append ..

/-- What a turn sees is what its engine sees, while the run goes on. -/
theorem sight_eq (before : List Turn) (t : Turn)
    (h : (afterTurns execute channel strategy before).ended = none) :
    ((afterTurns execute channel strategy before).channel.atTurn t).sight =
      channel.sightAt before t := by
  have hchannel := ((account execute channel strategy before).going h).1
  rw [hchannel, Channel.sightAt]

/-- A turn that is to stop the engine makes no call, and the run is over after it. -/
theorem stopped_of_sight {before : List Turn} {t : Turn} (h : channel.sightAt before t = .stop) :
    (afterTurns execute channel strategy (before ++ [t])).ended ≠ none ∧
      (afterTurns execute channel strategy (before ++ [t])).results =
        (afterTurns execute channel strategy before).results := by
  have hsight := sight_eq execute channel strategy before t
  have hturned := turned_afterTurns execute channel strategy before t
  generalize afterTurns execute channel strategy (before ++ [t]) = e' at hturned ⊢
  cases hturned with
  | finished hended => exact ⟨by simp [hended], rfl⟩
  | told => exact ⟨by simp, rfl⟩
  | seen hended hgoOn => simp [hsight hended, h] at hgoOn
  | idle hended hnothing | counted hended hnothing | failed hended hnothing =>
    simp [hsight hended, h] at hnothing

/-- A run in which a call failed has ended with a failure. -/
theorem ended_of_error {turns : List Turn} {cause : CycleFault}
    (h : .error cause ∈ (afterTurns execute channel strategy turns).results) :
    ∃ cause', (afterTurns execute channel strategy turns).ended = some (.failed cause') := by
  have haccount := account execute channel strategy turns
  cases hended : (afterTurns execute channel strategy turns).ended with
  | none => exact absurd h ((haccount.going hended).2 cause)
  | some reason =>
    cases reason with
    | stopped stats => exact absurd h ((haccount.stopped stats hended).2.1 cause)
    | failed cause' => exact ⟨cause', rfl⟩

/-- A turn with nothing to see and a tick due makes one call. -/
theorem results_of_due {before : List Turn} {t : Turn} (hsight : channel.sightAt before t = .nothing)
    (hdue : t.tickDue = true) (hended : (afterTurns execute channel strategy before).ended = none) :
    (afterTurns execute channel strategy (before ++ [t])).results =
      (afterTurns execute channel strategy before).results ++
        [(execute (afterTurns execute channel strategy before).strategy).1] := by
  rw [← sight_eq execute channel strategy before t hended] at hsight
  have hturned := turned_afterTurns execute channel strategy before t
  generalize afterTurns execute channel strategy (before ++ [t]) = e' at hturned ⊢
  cases hturned with
  | finished hover => simp [hended] at hover
  | told _ hstop => simp [hsight] at hstop
  | seen _ hgoOn => simp [hsight] at hgoOn
  | idle _ _ hidle => simp [hdue] at hidle
  | counted _ _ _ hcall | failed _ _ _ hcall => rw [hcall]

/-- A turn that sees the value false changes the channel only. -/
theorem eq_of_goOn {before : List Turn} {t : Turn} (hsight : channel.sightAt before t = .goOn) :
    afterTurns execute channel strategy (before ++ [t]) =
      { afterTurns execute channel strategy before with
        channel := (afterTurns execute channel strategy (before ++ [t])).channel } := by
  have hsame := sight_eq execute channel strategy before t
  have hturned := turned_afterTurns execute channel strategy before t
  generalize afterTurns execute channel strategy (before ++ [t]) = e' at hturned ⊢
  cases hturned with
  | finished | seen => rfl
  | told hended hstop => simp [hsame hended, hsight] at hstop
  | idle hended hnothing | counted hended hnothing | failed hended hnothing =>
    simp [hsame hended, hsight] at hnothing

/-- The run ends in good order if a turn was to stop it and no call failed, and only then. -/
theorem ended_eq_stopped_iff {turns : List Turn} {stats : EngineStats} :
    (afterTurns execute channel strategy turns).ended = some (.stopped stats) ↔
      channel.Stops turns ∧
      (∀ cause, .error cause ∉ (afterTurns execute channel strategy turns).results) ∧
      stats = (afterTurns execute channel strategy turns).stats := by
  have haccount := account execute channel strategy turns
  constructor
  · intro hended
    obtain ⟨hstats, hok, hstops⟩ := haccount.stopped stats hended
    exact ⟨hstops, hok, hstats⟩
  · rintro ⟨⟨before, t, after, hturns, hsight⟩, hok, rfl⟩
    have hover : (afterTurns execute channel strategy turns).ended ≠ none := by
      have hended := (stopped_of_sight execute channel strategy hsight).1
      rwa [hturns, List.append_cons, afterTurns_append, run_of_ended hended]
    obtain ⟨reason, hreason⟩ := Option.ne_none_iff_exists'.mp hover
    cases reason with
    | stopped stats => rw [hreason, (haccount.stopped stats hreason).1]
    | failed cause =>
      obtain ⟨earlier, hresults, -⟩ := haccount.failed cause hreason
      exact absurd (by simp [hresults]) (hok cause)

/-- The result of a call that failed is the last one, and the run has ended with it. -/
theorem failed_last {turns : List Turn} {earlier later : List (Except CycleFault Outcome)}
    {cause : CycleFault}
    (hresults : (afterTurns execute channel strategy turns).results = earlier ++ .error cause :: later) :
    later = [] ∧ (afterTurns execute channel strategy turns).ended = some (.failed cause) := by
  have herror : .error cause ∈ (afterTurns execute channel strategy turns).results := by
    simp [hresults]
  obtain ⟨cause', hended⟩ := ended_of_error execute channel strategy herror
  obtain ⟨earlier', hlast, hok⟩ := (account execute channel strategy turns).failed cause' hended
  -- a failure before the last result would be among the results before it
  rw [hlast] at hresults
  rcases List.eq_nil_or_concat later with rfl | ⟨later', result, rfl⟩
  · obtain ⟨-, hcause⟩ := List.append_inj' hresults rfl
    obtain rfl : cause' = cause := by simpa using hcause
    exact ⟨rfl, hended⟩
  · rw [List.concat_eq_append, ← List.cons_append, ← List.append_assoc] at hresults
    obtain ⟨hearlier, -⟩ := List.append_inj' hresults rfl
    exact absurd (by simp [hearlier]) (hok cause)

/-- **Every engine keeps its discipline**, whatever the strategy does and whenever ticks and signals
come. -/
theorem keeps_discipline : Discipline execute channel strategy (afterTurns execute channel strategy) where
  calls_eq turns := (account execute channel strategy turns).calls_eq
  one_call _ _ := results_of_due execute channel strategy
  counts turns := (account execute channel strategy turns).counts
  passes _ _ := eq_of_goOn execute channel strategy
  stops before t after hsight := by
    obtain ⟨hended, hresults⟩ := stopped_of_sight execute channel strategy hsight
    rw [List.append_cons, afterTurns_append, run_of_ended hended, hresults]
  stopped_iff _ _ := ended_eq_stopped_iff execute channel strategy
  all_counted turns stats hended := by
    obtain ⟨rfl, hok, -⟩ := (account execute channel strategy turns).stopped stats hended
    rw [(account execute channel strategy turns).counts.cycles, tally_all hok]
  fails _ _ _ _ := failed_last execute channel strategy

end Engine

end ScalpBot
