import ScalpBot.Proofs.Exchange.Holdings
import ScalpBot.Proofs.Strategy.Trading

/-!
# The orders that are live at the same time

The strategy looks at the open orders before it submits, and goes on only if the order placed latest
is gone. So an order whose name came back is filled when the next one is submitted
(`Strategy.latest_not_live`). An order whose name got lost is not looked for: it may be live when
the next order is accepted, and then two are.

`Strategy.single_iff` says that nothing else can go wrong: at most one order is live throughout a
run if and only if no order becomes live beside one whose name got lost.
-/

namespace ScalpBot

namespace Strategy

variable {s : Strategy} {σ : Type} {exchange : Exchange σ} {view : σ → Holdings} {world : σ}
  {count : Nat}

/-- The first calls of a run are about the market of the strategy, and were answered by the
exchange. -/
theorem prefix_run {transcript : List Exchanged}
    (h : transcript <+: history (s.run exchange count none world)) :
    (∀ e ∈ transcript, e.marketId = s.market.id) ∧ exchange.Heard world transcript := by
  have hheard : exchange.Heard world (history (s.run exchange count none world)) :=
    heard_history ..
  have hmarket : ∀ e ∈ history (s.run exchange count none world), e.marketId = s.market.id := by
    rw [run_eq_session]
    exact marketId_of_mem_history
  obtain ⟨rest, hrest⟩ := h
  rw [← hrest] at hheard hmarket
  exact ⟨(List.forall_mem_append.mp hmarket).1, (Exchange.heard_append.mp hheard).1⟩

/-- **When an order is submitted, the order placed latest is filled.** -/
theorem latest_not_live (hv : Venue exchange s.market.id view) {earlier : List Exchanged}
    {e : Exchanged} (h : earlier ++ [e] <+: history (s.run exchange count none world))
    (he : e.isSubmission = true) {order : PlacedOrder}
    (horder : (placedIn earlier).getLast? = some order) :
    order.id ∉ (view (exchange.after world earlier)).live := by
  obtain ⟨hmarket, hheard⟩ := prefix_run ((List.prefix_append earlier [e]).trans h)
  rw [run_eq_session] at h
  obtain ⟨before, reads, side, quantity, price, rfl, occasion⟩ := occasion_of_submission h he
  rw [placedIn_append, placedIn_of_reads occasion.reads_quiet, List.append_nil] at horder
  -- among the reads is the list of open orders, and the order is not on it
  obtain ⟨orders, horders, hgone⟩ := occasion.not_open (by rw [horder]; rfl)
  have hmem : orders ∈ answers .openOrders reads := by rw [horders]; exact List.mem_singleton_self _
  obtain ⟨look, hlook, hanswer⟩ := List.mem_filterMap.mp hmem
  obtain ⟨first, rest, rfl⟩ := List.append_of_mem hlook
  rw [← List.singleton_append, ← List.append_assoc, ← List.append_assoc] at hmarket hheard ⊢
  obtain ⟨hmarket, hmarketRest⟩ := List.forall_mem_append.mp hmarket
  obtain ⟨hheard, hheardRest⟩ := Exchange.heard_append.mp hheard
  rw [Exchange.after_append]
  refine hv.not_live_after ?_ ?_ hmarketRest hheardRest
  · refine hv.placed_accepted hmarket hheard order ?_
    rw [placedIn_append, placedIn_append]
    exact List.mem_append_left _ (List.mem_append_left _ (List.mem_of_getLast? horder))
  · intro hlive
    have hs := hv.step_after (hmarket look (by simp)) hheard
    obtain ⟨o, ho, hid⟩ := hs.listed hanswer _ hlive
    exact hgone o ho hid

/-- **A live order is the one placed latest, or its name got lost.** -/
theorem live_cases (hv : Venue exchange s.market.id view) (hstart : (view world).live = [])
    {transcript : List Exchanged}
    (h : transcript <+: history (s.run exchange count none world)) {id : OrderId}
    (hid : id ∈ (view (exchange.after world transcript)).live) :
    id ∈ (view (exchange.after world transcript)).untold ∨
    ∃ order, (placedIn transcript).getLast? = some order ∧ order.id = id := by
  induction transcript using List.reverseRecOn with
  | nil => simp [hstart] at hid
  | append_singleton earlier e ih =>
    obtain ⟨hmarket, hheard⟩ := prefix_run h
    have hs := hv.step_after (hmarket e (by simp)) hheard
    rw [placedIn_append, List.getLast?_append]
    rcases hs.live_cases hid with hold | ⟨_, huntold | ⟨order, horder, rfl⟩⟩
    · rcases ih ((List.prefix_append _ _).trans h) hold with huntold | ⟨order, horder, rfl⟩
      · exact .inl (hs.untold_subset huntold)
      · -- it is still the latest, for it would be filled at a submission
        have hread : e.isSubmission = false := by
          by_contra hsub
          exact latest_not_live hv h (by simpa using hsub) horder hold
        rw [placedIn_of_reads (List.forall_mem_singleton.mpr hread)]
        exact .inr ⟨order, horder, rfl⟩
    · exact .inl huntold
    · have hplaced : placedIn [e] = [order] := by simp [placedIn, horder]
      rw [hplaced]
      exact .inr ⟨order, rfl, rfl⟩

/-- **One live order at a time, unless one is accepted beside a live one whose name got lost.**  Take
any run from the start on a venue where no order of ours is live. At most one order is live at every
point of it if and only if at each submission the following holds: an order whose name had got lost
before, and which is live after the submission, is the only live order. -/
theorem single_iff (hv : Venue exchange s.market.id view) (hstart : (view world).live = []) :
    (∀ calls, calls <+: history (s.run exchange count none world) →
      (view (exchange.after world calls)).Single) ↔
    ∀ calls e, calls ++ [e] <+: history (s.run exchange count none world) →
      e.isSubmission = true →
      ∀ id ∈ (view (exchange.after world calls)).untold,
        id ∈ (view (exchange.after world (calls ++ [e]))).live →
        ∀ other ∈ (view (exchange.after world (calls ++ [e]))).live, other = id := by
  constructor
  · intro hsingle calls e h _ id _ hid other hother
    exact hsingle _ h other hother id hid
  · intro halone calls h
    induction calls using List.reverseRecOn with
    | nil => simp [Holdings.Single, hstart]
    | append_singleton calls e ih =>
      obtain ⟨hmarket, hheard⟩ := prefix_run h
      have hs := hv.step_after (hmarket e (by simp)) hheard
      have hbefore := (List.prefix_append calls [e]).trans h
      intro a ha b hb
      cases hsub : e.isSubmission with
      | false =>
        have hlive := hs.live_subset hsub
        exact ih hbefore a (hlive ha) b (hlive hb)
      | true =>
        -- what was live before the submission had lost its name, for the latest order is filled
        have huntold : ∀ id ∈ (view (exchange.after world calls)).live,
            id ∈ (view (exchange.after world calls)).untold := by
          intro id hid
          rcases live_cases hv hstart hbefore hid with huntold | ⟨order, horder, rfl⟩
          · exact huntold
          · exact absurd hid (latest_not_live hv h hsub horder)
        by_cases hlivea : a ∈ (view (exchange.after world calls)).live
        · exact (halone calls e h hsub a (huntold a hlivea) ha b hb).symm
        by_cases hliveb : b ∈ (view (exchange.after world calls)).live
        · exact halone calls e h hsub b (huntold b hliveb) hb a ha
        · exact hs.new_eq ha hb hlivea hliveb

/-! ## Two runs -/

/-- A strategy that spends one unit of the counter currency on each purchase. -/
def sample : Strategy := ⟨⟨"ltcbtc", "LTC/BTC", "LTC", "BTC"⟩, .one, rfl⟩

/-- Where all replies arrive and orders are filled, one order is live at a time. -/
theorem single_sample :
    Venue (Exchange.steady true fun _ => false) sample.market.id id ∧
    ({} : Holdings).live = [] ∧
    ∀ calls, calls <+: history (sample.run (Exchange.steady true fun _ => false) 3 none {}) →
      (id ((Exchange.steady true fun _ => false).after {} calls)).Single := by
  have hv := venue_steady true (fun _ => false) sample.market.id
  refine ⟨hv, rfl, (single_iff hv rfl).mpr fun calls e _ _ order horder => ?_⟩
  have htold : ((Exchange.steady true fun _ => false).after {} calls).untold = [] :=
    untold_after_steady (fun _ => rfl) {} calls
  simp [htold] at horder

/-- Where no order is filled and the reply to the first one is lost, the strategy waits for the next
cycle, submits again, and two orders are live. -/
theorem two_live_sample :
    Venue (Exchange.steady false (· == 0)) sample.market.id id ∧
    ({} : Holdings).live = [] ∧
    ¬ ∀ calls, calls <+: history (sample.run (Exchange.steady false (· == 0)) 2 none {}) →
      (id ((Exchange.steady false (· == 0)).after {} calls)).Single := by
  refine ⟨venue_steady .., rfl, fun hsingle => ?_⟩
  have hlive : ((Exchange.steady false (· == 0)).after {}
      (history (sample.run (Exchange.steady false (· == 0)) 2 none {}))).live =
        [⟨"11"⟩, ⟨"1"⟩] := by decide
  have heq : (⟨"11"⟩ : OrderId) = ⟨"1"⟩ := by
    refine hsingle _ List.prefix_rfl _ ?_ _ ?_ <;> rw [id, hlive] <;> simp
  exact absurd heq (by decide)

end Strategy

end ScalpBot
