import ScalpBot.Proofs.Strategy.Trading

/-!
# A cycle places an order or leaves no trace

A cycle can end in the middle: at a book without offers, at an order that is still open, at a call
that fails. `Strategy.Atomic` says that the remembered order cannot tell where: either an order was
placed, with one submission, and is remembered as it was submitted, or nothing has changed.

So the cycles that place nothing and do not stop the strategy can be left out of a run, and the rest
of it stays the same, call by call (`Strategy.session_moving`).
-/

namespace ScalpBot

namespace Strategy

variable {s : Strategy} {σ : Type} {exchange : Exchange σ} {last : Option PlacedOrder}

/-- What a cycle after the order `last` does to the remembered order. -/
structure Atomic (s : Strategy) (last : Option PlacedOrder) (cycle : Executed σ) : Prop where
  /-- It changes if and only if an order was placed. -/
  changes_iff : cycle.last ≠ last ↔ ∃ order, cycle.result = .ok (.placed order)
  /-- The placed order is remembered, and is what the only submission of the cycle asked for, under
  the name that came back. -/
  placed : ∀ order, cycle.result = .ok (.placed order) → cycle.last = some order ∧
    cycle.transcript.filter Exchanged.isSubmission =
      [s.submission order.side order.quantity order.price (.ok order.id)]
  /-- Whatever else a cycle comes to, and however it fails, it leaves the remembered order. -/
  kept : (∀ order, cycle.result ≠ .ok (.placed order)) → cycle.last = last

/-! ## One cycle -/

/-- The order that was placed on an occasion is not the one before it: its side is the other one. -/
theorem Occasion.ne_last {reads : List Exchanged} {order : PlacedOrder}
    (h : s.Occasion last reads order.side order.quantity order.price) : some order ≠ last := by
  rintro rfl
  have hside := h.side_eq
  cases horder : order.side <;> simp [nextSide, horder, Side.other] at hside

/-- **Each cycle is atomic.** -/
theorem execute_atomic (s : Strategy) (exchange : Exchange σ) (last : Option PlacedOrder)
    (world : σ) : s.Atomic last (s.execute exchange last world) := by
  have hc := s.execute_conduct exchange last world
  generalize s.execute exchange last world = cycle at hc ⊢
  obtain ⟨result, transcript, next, after⟩ := cycle
  cases hc with
  | quiet _ hn | refused _ _ hn =>
    exact ⟨by simpa using hn, fun order h => absurd h (hn order), fun _ => rfl⟩
  | placed occasion =>
    refine ⟨⟨fun _ => ⟨_, rfl⟩, fun _ => occasion.ne_last⟩, ?_, fun h => absurd rfl (h _)⟩
    rintro order ⟨⟩
    exact ⟨rfl, occasion.filter_isSubmission _⟩

/-! ## Leaving cycles out -/

/-- The order that the cycle placed. -/
def Executed.order? (cycle : Executed σ) : Option PlacedOrder :=
  match cycle.result with
  | .ok (.placed order) => some order
  | _ => none

/-- Whether the cycle was skipped, held or deferred. -/
def Executed.stutters (cycle : Executed σ) : Bool :=
  match cycle.result with
  | .ok outcome => !outcome.isPlaced
  | .error _ => false

/-- Of the states of the exchange in which cycles begin, those of the cycles that do not stutter. -/
def moving (worlds : List σ) (cycles : List (Executed σ)) : List σ :=
  ((worlds.zip cycles).filter fun p => !p.2.stutters).map Prod.fst

theorem not_placed_of_stutters {cycle : Executed σ} (h : cycle.stutters = true)
    (order : PlacedOrder) : cycle.result ≠ .ok (.placed order) := by
  intro hresult
  simp [Executed.stutters, hresult, Outcome.isPlaced] at h

/-- A run stays the same without the cycles that stutter, if the others get the replies that they
got. -/
theorem session_moving (s : Strategy) (exchange : Exchange σ) (worlds : List σ)
    (last : Option PlacedOrder) :
    s.session exchange (moving worlds (s.session exchange worlds last)) last =
      (s.session exchange worlds last).filter fun cycle => !cycle.stutters := by
  induction worlds generalizing last with
  | nil => rfl
  | cons world worlds ih =>
    rw [session]
    cases hstutters : (s.execute exchange last world).stutters with
    | true =>
      -- it leaves `last`, so the cycles after it are the same without it
      have hkept := (s.execute_atomic exchange last world).kept (not_placed_of_stutters hstutters)
      have hih := ih (s.execute exchange last world).last
      rw [List.filter_cons_of_neg (by simp [hstutters]), ← hih]
      simp only [moving, List.zip_cons_cons, hstutters, Bool.not_true, Bool.false_eq_true,
        not_false_eq_true, List.filter_cons_of_neg, hkept]
    | false =>
      rw [List.filter_cons_of_pos (by simp [hstutters]), ← ih]
      simp only [moving, List.zip_cons_cons, hstutters, Bool.not_false, List.filter_cons_of_pos,
        List.map_cons, session]

/-- The cycles that stutter do not tell in the remembered order. -/
theorem lastOf_filter_session (worlds : List σ) (last : Option PlacedOrder) :
    lastOf last ((s.session exchange worlds last).filter fun cycle => !cycle.stutters) =
      lastOf last (s.session exchange worlds last) := by
  induction worlds generalizing last with
  | nil => rfl
  | cons world worlds ih =>
    rw [session]
    cases hstutters : (s.execute exchange last world).stutters with
    | true =>
      have hkept := (s.execute_atomic exchange last world).kept (not_placed_of_stutters hstutters)
      have hih := ih (s.execute exchange last world).last
      rw [List.filter_cons_of_neg (by simp [hstutters]), lastOf_cons, ← hih, hkept]
    | false =>
      rw [List.filter_cons_of_pos (by simp [hstutters]), lastOf_cons, lastOf_cons, ih]

/-- The cycles that stutter place no orders. -/
theorem filterMap_order?_filter (cycles : List (Executed σ)) :
    (cycles.filter fun cycle => !cycle.stutters).filterMap Executed.order? =
      cycles.filterMap Executed.order? := by
  have hnone : ∀ cycle : Executed σ,
      (if (!cycle.stutters) = true then cycle.order? else none) = cycle.order? := by
    rintro ⟨result, _, _, _⟩
    rcases result with _ | (_ | _ | _ | _) <;> rfl
  rw [List.filterMap_filter]
  simp only [hnone]

/-- What is remembered is never forgotten. -/
theorem last_ne_none_of_mem_session {worlds : List σ} (hlast : last ≠ none) :
    ∀ cycle ∈ s.session exchange worlds last, cycle.last ≠ none := by
  induction worlds generalizing last with
  | nil => simp [session]
  | cons world worlds ih =>
    have hnext : (s.execute exchange last world).last ≠ none := by
      rcases (s.execute_conduct exchange last world).placedIn_cases with
        ⟨_, hnext, _⟩ | ⟨order, _, hnext, _⟩
      · rwa [hnext]
      · simp [hnext]
    exact List.forall_mem_cons.mpr ⟨hnext, ih hnext⟩

/-- **Atomic cycles, and runs that may stutter.**  Each cycle is atomic. If the cycles of a run that
were skipped, held or deferred are left out, and the others get the same replies as before, then
these others stay as they were; the order remembered at the end and the orders placed are the same.
After an order is placed there always is a last order. -/
theorem run_stutters (s : Strategy) (exchange : Exchange σ) :
    (∀ last world, s.Atomic last (s.execute exchange last world)) ∧
    ∀ count last world cycles moved, cycles = s.run exchange count last world →
      moved = s.session exchange (moving (starts world cycles) cycles) last →
      moved = cycles.filter (fun cycle => !cycle.stutters) ∧
      lastOf last moved = lastOf last cycles ∧
      moved.filterMap Executed.order? = cycles.filterMap Executed.order? ∧
      ∀ before cycle after order, cycles = before ++ cycle :: after →
        cycle.result = .ok (.placed order) → ∀ c ∈ cycle :: after, c.last ≠ none := by
  refine ⟨s.execute_atomic exchange, ?_⟩
  rintro count last world cycles moved hcycles rfl
  have hsession : cycles = s.session exchange (starts world cycles) last := by
    rw [hcycles]
    exact run_eq_session ..
  have hmoved : s.session exchange (moving (starts world cycles) cycles) last =
      cycles.filter fun cycle => !cycle.stutters := by
    have h := s.session_moving exchange (starts world cycles) last
    rwa [← hsession] at h
  have hlast : lastOf last (cycles.filter fun cycle => !cycle.stutters) = lastOf last cycles := by
    rw [hsession]
    exact lastOf_filter_session ..
  rw [hmoved]
  refine ⟨rfl, hlast, filterMap_order?_filter cycles, ?_⟩
  intro before cycle after order hsplit hresult
  obtain ⟨_, start, rest, _, rfl, hafter⟩ := session_split (hsession.symm.trans hsplit)
  have hplaced := ((s.execute_atomic exchange _ start).placed order hresult).1
  have hsome : (s.execute exchange (lastOf last before) start).last ≠ none := by simp [hplaced]
  rw [hafter]
  exact List.forall_mem_cons.mpr ⟨hsome, last_ne_none_of_mem_session hsome⟩

end Strategy

end ScalpBot
