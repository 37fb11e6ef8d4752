import ScalpBot.Proofs.Strategy.Occasion

/-!
# What a run has placed

The transcript of a run records the submissions that the exchange took; `placedIn` reads them off,
and the latest of them is the order that the strategy remembers (`Strategy.lastOf_session`). So what
the strategy does in a cycle depends on the calls of the cycles before through that one order only.

`Strategy.session` runs one cycle from each of a list of states of the exchange. A run is a session
over the states that its cycles begin in (`Strategy.run_eq_session`), but the states of a session
need not follow from one another: the replies to each cycle are free.
-/

namespace ScalpBot

namespace Strategy

variable {s : Strategy}

@[simp] theorem placed?_refused (side : Side) (quantity price : Decimal) (cause : Failure) :
    (s.submission side quantity price (.error cause)).placed? = none := rfl

theorem Occasion.reads_quiet {last : Option PlacedOrder} {reads : List Exchanged} {side : Side}
    {quantity price : Decimal} (h : s.Occasion last reads side quantity price) :
    ∀ e ∈ reads, e.isSubmission = false := by
  cases h <;> simp

/-! ## One cycle -/

/-- **What one cycle does to the remembered order.**  After the order `last` it makes the calls of
`transcript`, comes to `result` and remembers `next`. -/
inductive Conduct (s : Strategy) (last : Option PlacedOrder) :
    (transcript : List Exchanged) → (result : Except CycleFault Outcome) →
    (next : Option PlacedOrder) → Prop
  /-- Nothing is submitted. -/
  | quiet {transcript : List Exchanged} {result : Except CycleFault Outcome}
      (reads : ∀ e ∈ transcript, e.isSubmission = false)
      (not_placed : ∀ order, result ≠ .ok (.placed order)) : Conduct s last transcript result last
  /-- An order is submitted, and the exchange fails. -/
  | refused {reads : List Exchanged} {side : Side} {quantity price : Decimal}
      {result : Except CycleFault Outcome}
      (occasion : s.Occasion last reads side quantity price) (cause : Failure)
      (not_placed : ∀ order, result ≠ .ok (.placed order)) :
      Conduct s last (reads ++ [s.submission side quantity price (.error cause)]) result last
  /-- An order is submitted and placed. -/
  | placed {reads : List Exchanged} {order : PlacedOrder}
      (occasion : s.Occasion last reads order.side order.quantity order.price) :
      Conduct s last
        (reads ++ [s.submission order.side order.quantity order.price (.ok order.id)])
        (.ok (.placed order)) (some order)

theorem settle_ne_placed {ended : Except Halt Outcome} {order : PlacedOrder}
    (h : ended ≠ .ok (.placed order)) : settle ended ≠ .ok (.placed order) := by
  unfold settle
  split
  · simpa using h
  · simp
  · split <;> simp

theorem remember_of_not_placed {last : Option PlacedOrder} {result : Except CycleFault Outcome}
    (h : ∀ order, result ≠ .ok (.placed order)) : remember last result = last := by
  unfold remember
  split
  · exact absurd rfl (h _)
  · rfl

variable {last : Option PlacedOrder}

theorem conduct_of_course {transcript : List Exchanged} {ended : Except Halt Outcome}
    (h : Dialogue.Course (s.cycle last) transcript ended) :
    s.Conduct last transcript (settle ended) (remember last (settle ended)) := by
  rcases course_cycle h with ⟨reads, hn⟩ | ⟨occasion, reply⟩
  · have hs := fun order => settle_ne_placed (hn order)
    rw [remember_of_not_placed hs]
    exact .quiet reads hs
  · rename_i reads side quantity price
    cases reply with
    | error cause =>
      have hs : ∀ order, settle (submissionEnd side quantity price (.error cause)) ≠
          .ok (.placed order) := fun order => settle_ne_placed (by simp [submissionEnd])
      rw [remember_of_not_placed hs]
      exact .refused occasion cause hs
    | ok id =>
      let order : PlacedOrder := ⟨side, id, price, quantity⟩
      have placed : s.Occasion last reads order.side order.quantity order.price := occasion
      exact .placed placed

variable {σ : Type} {exchange : Exchange σ}

theorem execute_conduct (s : Strategy) (exchange : Exchange σ) (last : Option PlacedOrder)
    (world : σ) :
    s.Conduct last (s.execute exchange last world).transcript
      (s.execute exchange last world).result (s.execute exchange last world).last :=
  conduct_of_course (Dialogue.course_run exchange (s.cycle last) world)

/-- A cycle places nothing and leaves the remembered order, or places one order, which is remembered
from then on. -/
theorem Conduct.placedIn_cases {transcript : List Exchanged}
    {result : Except CycleFault Outcome} {next : Option PlacedOrder}
    (h : s.Conduct last transcript result next) :
    (placedIn transcript = [] ∧ next = last ∧ ∀ order, result ≠ .ok (.placed order)) ∨
    ∃ order, placedIn transcript = [order] ∧ next = some order ∧ result = .ok (.placed order) := by
  cases h with
  | quiet reads hn => exact .inl ⟨placedIn_of_reads reads, rfl, hn⟩
  | refused occasion cause hn =>
    exact .inl ⟨placedIn_reads_append occasion.reads_quiet _, rfl, hn⟩
  | placed occasion =>
    exact .inr ⟨_, placedIn_reads_append occasion.reads_quiet _, rfl, rfl⟩

/-- The order that a cycle comes to was placed in it. -/
theorem Conduct.mem_placedIn {transcript : List Exchanged} {result : Except CycleFault Outcome}
    {next : Option PlacedOrder} (h : s.Conduct last transcript result next) {order : PlacedOrder}
    (hresult : result = .ok (.placed order)) : order ∈ placedIn transcript := by
  rcases h.placedIn_cases with ⟨-, -, hnone⟩ | ⟨placed, hplaced, -, hplacing⟩
  · exact absurd hresult (hnone order)
  · obtain rfl : placed = order := by simpa [hresult, eq_comm] using hplacing
    rw [hplaced]
    exact List.mem_singleton_self _

/-- The order remembered after a cycle is the one it placed, and else the one before. -/
theorem Conduct.next_eq {transcript : List Exchanged} {result : Except CycleFault Outcome}
    {next : Option PlacedOrder} (h : s.Conduct last transcript result next) :
    next = (placedIn transcript).getLast?.or last := by
  rcases h.placedIn_cases with ⟨hp, rfl, _⟩ | ⟨order, hp, rfl, _⟩ <;> rw [hp] <;> rfl

/-! ## Many cycles -/

/-- Runs a cycle from each of the states, with the order that the cycle before left. -/
def session (s : Strategy) (exchange : Exchange σ) :
    (worlds : List σ) → (last : Option PlacedOrder) → List (Executed σ)
  | [], _ => []
  | world :: worlds, last =>
    let cycle := s.execute exchange last world
    cycle :: session s exchange worlds cycle.last

/-- The states of the exchange in which cycles begin that follow on one another. -/
def starts : (world : σ) → (cycles : List (Executed σ)) → List σ
  | _, [] => []
  | world, cycle :: rest => world :: starts cycle.world rest

/-- All calls that were made, in order. -/
def history (cycles : List (Executed σ)) : List Exchanged :=
  cycles.flatMap fun cycle => cycle.transcript

/-- The order that is remembered after some cycles. -/
def lastOf (last : Option PlacedOrder) (cycles : List (Executed σ)) : Option PlacedOrder :=
  cycles.foldl (fun _ cycle => cycle.last) last

@[simp] theorem history_nil : history ([] : List (Executed σ)) = [] := rfl

@[simp] theorem history_cons (cycle : Executed σ) (rest : List (Executed σ)) :
    history (cycle :: rest) = cycle.transcript ++ history rest := rfl

theorem history_append (first rest : List (Executed σ)) :
    history (first ++ rest) = history first ++ history rest :=
  List.flatMap_append

theorem lastOf_cons (last : Option PlacedOrder) (cycle : Executed σ) (rest : List (Executed σ)) :
    lastOf last (cycle :: rest) = lastOf cycle.last rest := rfl

/-- **A run is a session.** -/
theorem run_eq_session (count : Nat) (last : Option PlacedOrder) (world : σ) :
    s.run exchange count last world =
      s.session exchange (starts world (s.run exchange count last world)) last := by
  induction count generalizing last world with
  | zero => rfl
  | succ count ih =>
    rw [run, starts, session]
    exact congrArg _ (ih ..)

/-- Each cycle of a session is run after a session, with the order that it left, and before one. -/
theorem session_split {worlds : List σ} {before after : List (Executed σ)} {cycle : Executed σ}
    (h : s.session exchange worlds last = before ++ cycle :: after) :
    ∃ first world rest, before = s.session exchange first last ∧
      cycle = s.execute exchange (lastOf last before) world ∧
      after = s.session exchange rest cycle.last := by
  induction worlds generalizing last before with
  | nil => simp [session] at h
  | cons world worlds ih =>
    rw [session] at h
    cases before with
    | nil =>
      obtain ⟨rfl, rfl⟩ := List.cons_eq_cons.mp h
      exact ⟨[], world, worlds, rfl, rfl, rfl⟩
    | cons head before =>
      obtain ⟨rfl, hrest⟩ := List.cons_eq_cons.mp h
      obtain ⟨first, start, rest, hbefore, hcycle, hafter⟩ := ih hrest
      exact ⟨world :: first, start, rest, congrArg _ hbefore, hcycle, hafter⟩

/-- **The strategy remembers the order placed latest.** -/
theorem lastOf_session (worlds : List σ) (last : Option PlacedOrder) :
    lastOf last (s.session exchange worlds last) =
      (placedIn (history (s.session exchange worlds last))).getLast?.or last := by
  induction worlds generalizing last with
  | nil => rfl
  | cons world worlds ih =>
    have hl := (s.execute_conduct exchange last world).next_eq
    rw [session, history_cons, placedIn_append, List.getLast?_append, Option.or_assoc, ← hl]
    exact ih _

/-- Each cycle of a run from the start is run after a session, with the order placed latest. -/
theorem run_split {count : Nat} {world : σ} {before after : List (Executed σ)} {cycle : Executed σ}
    (h : s.run exchange count none world = before ++ cycle :: after) :
    ∃ first start, before = s.session exchange first none ∧
      cycle = s.execute exchange (placedIn (history before)).getLast? start := by
  rw [run_eq_session] at h
  obtain ⟨first, start, _, hbefore, hcycle, _⟩ := session_split h
  have hlast : lastOf none before = (placedIn (history before)).getLast? := by
    rw [hbefore, lastOf_session, Option.or_none]
  exact ⟨first, start, hbefore, hlast ▸ hcycle⟩

/-! ## The calls of a run -/

/-- All calls are about the market of the strategy. -/
theorem marketId_of_mem_history {worlds : List σ} :
    ∀ e ∈ history (s.session exchange worlds last), e.marketId = s.market.id := by
  induction worlds generalizing last with
  | nil => simp [session]
  | cons world worlds ih =>
    rw [session, history_cons]
    refine List.forall_mem_append.mpr ⟨?_, ih⟩
    exact (Dialogue.course_run exchange (s.cycle last) world).about (about_cycle last)

/-- The transcript of a run holds the replies of the exchange. -/
theorem heard_history (count : Nat) (last : Option PlacedOrder) (world : σ) :
    exchange.Heard world (history (s.run exchange count last world)) := by
  induction count generalizing last world with
  | zero => trivial
  | succ count ih =>
    rw [run, history_cons, Exchange.heard_append]
    refine ⟨Dialogue.heard_run exchange (s.cycle last) world, ?_⟩
    have hafter := Dialogue.after_run exchange (s.cycle last) world
    exact hafter ▸ ih _ _

/-- The transcript tells all that the exchange went through from the state `world` on. -/
structure Progress.Tracks (exchange : Exchange σ) (world : σ) (p : Progress σ) : Prop where
  heard : exchange.Heard world p.transcript
  world_eq : p.world = exchange.after world p.transcript

theorem tracks_advance {world : σ} {p : Progress σ} (h : p.Tracks exchange world) :
    (s.advance exchange p).2.Tracks exchange world where
  heard := by
    have hheard := Dialogue.heard_run exchange (s.cycle p.last) p.world
    refine Exchange.heard_append.mpr ⟨h.heard, ?_⟩
    rw [← h.world_eq]
    exact hheard
  world_eq := by
    have hafter := Dialogue.after_run exchange (s.cycle p.last) p.world
    refine (Exchange.after_append ..).trans ?_ |>.symm
    rw [← h.world_eq]
    exact hafter

/-- A submission is the last call of its cycle, and the calls before it are an occasion. -/
theorem Conduct.occasion_of_submission {transcript : List Exchanged}
    {result : Except CycleFault Outcome} {next : Option PlacedOrder}
    (hc : s.Conduct last transcript result next) {earlier : List Exchanged} {e : Exchanged}
    (h : earlier ++ [e] <+: transcript) (he : e.isSubmission = true) :
    ∃ side quantity price, s.Occasion last earlier side quantity price := by
  have key : ∀ {reads : List Exchanged} {side : Side} {quantity price : Decimal}
      {reply : Except Failure OrderId}, s.Occasion last reads side quantity price →
      earlier ++ [e] <+: reads ++ [s.submission side quantity price reply] → earlier = reads := by
    intro reads side quantity price reply occasion h
    rcases List.prefix_concat_iff.mp h with heq | hpre
    · exact (List.append_inj' heq rfl).1
    · have hread := occasion.reads_quiet e (hpre.subset (by simp))
      rw [he] at hread
      cases hread
  cases hc with
  | quiet reads _ =>
    have hread := reads e (h.subset (by simp))
    rw [he] at hread
    cases hread
  | refused occasion => exact ⟨_, _, _, key occasion h ▸ occasion⟩
  | placed occasion => exact ⟨_, _, _, key occasion h ▸ occasion⟩

/-- **Every submission of a session is made on an occasion**, which the reads right before it and
the order placed latest before these give. -/
theorem occasion_of_submission {worlds : List σ} {earlier : List Exchanged} {e : Exchanged}
    (h : earlier ++ [e] <+: history (s.session exchange worlds last))
    (he : e.isSubmission = true) :
    ∃ before reads side quantity price, earlier = before ++ reads ∧
      s.Occasion ((placedIn before).getLast?.or last) reads side quantity price := by
  induction worlds generalizing last earlier with
  | nil => simp [session] at h
  | cons world worlds ih =>
    have hc := s.execute_conduct exchange last world
    rw [session, history_cons] at h
    -- the submission is made in this cycle, or after all of its calls
    have hsplit : earlier ++ [e] <+: (s.execute exchange last world).transcript ∨
        (s.execute exchange last world).transcript <+: earlier := by
      rcases List.prefix_or_prefix_of_prefix h (List.prefix_append _ _) with hin | hover
      · exact .inl hin
      · rcases List.prefix_concat_iff.mp hover with heq | hpre
        · exact .inl (heq ▸ List.prefix_rfl)
        · exact .inr hpre
    rcases hsplit with hin | ⟨later, rfl⟩
    · obtain ⟨side, quantity, price, occasion⟩ := hc.occasion_of_submission hin he
      exact ⟨[], earlier, side, quantity, price, rfl, occasion⟩
    · rw [List.append_assoc, List.prefix_append_right_inj] at h
      obtain ⟨before, reads, side, quantity, price, rfl, occasion⟩ := ih h
      refine ⟨_ ++ before, reads, side, quantity, price, (List.append_assoc ..).symm, ?_⟩
      rw [placedIn_append, List.getLast?_append, Option.or_assoc, ← hc.next_eq]
      exact occasion

end Strategy

end ScalpBot
