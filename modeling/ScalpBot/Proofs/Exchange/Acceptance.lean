import ScalpBot.Proofs.Exchange.DryRun
import ScalpBot.Proofs.Exchange.Holdings

/-!
# Exchanges that take every order

A dry run is to behave like an exchange that takes every order, and otherwise answers like the exchange
behind the dry run. `Exchange.Accepting` says of a live exchange that it is one. Its states need not be
those of the exchange it is compared with; two states are alike where the same questions are answered in
the same way from then on.

`Exchange.obliging` makes such an exchange of any other.
-/

namespace ScalpBot

namespace Exchange

variable {σ τ : Type} {inner : Exchange σ} {live : Exchange τ} {alike : σ → τ → Prop}
  {issued : τ → List OrderId}

/-- **Answers like another exchange, and takes every order.**  `alike` says when the states of both are
alike, and `issued` which names the live exchange has given. -/
structure Accepting (inner : Exchange σ) (live : Exchange τ) (alike : σ → τ → Prop)
    (issued : τ → List OrderId) : Prop where
  /-- Every question is answered in the same way, or fails in the same way. -/
  read : ∀ marketId call world venue, call.isSubmission = false → alike world venue →
    (live.answer marketId call venue).1 = (inner.answer marketId call world).1 ∧
    alike (inner.answer marketId call world).2 (live.answer marketId call venue).2 ∧
    issued venue ⊆ issued (live.answer marketId call venue).2
  /-- Every order is taken under a fresh name, and this changes no answer to a question. -/
  submit : ∀ marketId side quantity price world venue, alike world venue →
    ∃ id, (live.answer marketId (.submitOrder side quantity price) venue).1 = .ok id ∧
      id ∉ issued venue ∧
      alike world (live.answer marketId (.submitOrder side quantity price) venue).2 ∧
      id :: issued venue ⊆
        issued (live.answer marketId (.submitOrder side quantity price) venue).2

/-- The orders that an accepting exchange takes have names that are all different, and different from
those given before. -/
theorem Accepting.nodup_of_heard (h : Accepting inner live alike issued) {world : σ} {venue : τ}
    (halike : alike world venue) {calls : List Exchanged} (hheard : live.Heard venue calls) :
    ((placedIn calls).map (·.id)).Nodup ∧ ∀ order ∈ placedIn calls, order.id ∉ issued venue := by
  induction calls generalizing world venue with
  | nil => exact ⟨List.nodup_nil, by simp⟩
  | cons e calls ih =>
    obtain ⟨hreply, hrest⟩ := hheard
    cases hsub : e.isSubmission with
    | false =>
      have hread : placedIn (e :: calls) = placedIn calls :=
        List.filterMap_cons_none (Exchanged.placed?_of_read hsub)
      obtain ⟨-, hnext, hissued⟩ := h.read e.marketId e.call world venue hsub halike
      obtain ⟨hnodup, hfresh⟩ := ih hnext hrest
      rw [hread]
      exact ⟨hnodup, fun order horder hold => hfresh order horder (hissued hold)⟩
    | true =>
      obtain ⟨marketId, call, reply⟩ := e
      cases call with
      | submitOrder side quantity price =>
        obtain ⟨id, hid, hnew, hnext, hissued⟩ :=
          h.submit marketId side quantity price world venue halike
        obtain ⟨hnodup, hfresh⟩ := ih hnext hrest
        obtain ⟨hgiven, hkept⟩ := List.cons_subset.mp hissued
        obtain rfl : reply = .ok id := hreply.symm.trans hid
        have hplaced : placedIn (⟨marketId, .submitOrder side quantity price, .ok id⟩ :: calls) =
            ⟨side, id, price, quantity⟩ :: placedIn calls := List.filterMap_cons_some rfl
        rw [hplaced, List.map_cons]
        refine ⟨List.nodup_cons.mpr ⟨?_, hnodup⟩, List.forall_mem_cons.mpr ⟨hnew, ?_⟩⟩
        · -- the name is among those given from now on
          rw [List.mem_map]
          rintro ⟨order, horder, rfl⟩
          exact hfresh order horder hgiven
        · exact fun order horder hold => hfresh order horder (hkept hold)
      | _ => cases hsub

/-! ## An exchange that takes every order -/

/-- Takes every order under a fresh name, and leaves the questions to another exchange. The state holds
the names that were given. -/
def obliging (inner : Exchange σ) : Exchange (σ × List OrderId) where
  name := inner.name
  answer marketId call venue :=
    match call with
    | .submitOrder _ _ _ => (.ok (nextName venue.2), venue.1, nextName venue.2 :: venue.2)
    | .orderBook => forward marketId .orderBook venue
    | .openOrders => forward marketId .openOrders venue
    | .lastTradePrice => forward marketId .lastTradePrice venue
    | .buyFeeRate => forward marketId .buyFeeRate venue
    | .sellFeeRate => forward marketId .sellFeeRate venue
where
  /-- Passes a question on. -/
  forward (marketId : String) (call : Call) (venue : σ × List OrderId) :
      Except Failure call.Answer × σ × List OrderId :=
    ((inner.answer marketId call venue.1).1, (inner.answer marketId call venue.1).2, venue.2)

theorem accepting_obliging (inner : Exchange σ) :
    Accepting inner inner.obliging (fun world venue => venue.1 = world) Prod.snd where
  read marketId call world venue hread halike := by
    subst halike
    cases call with
    | submitOrder => cases hread
    | _ => exact ⟨rfl, rfl, List.Subset.refl _⟩
  submit marketId side quantity price world venue halike :=
    ⟨nextName venue.2, rfl, nextName_not_mem venue.2, halike, List.Subset.refl _⟩

end Exchange

end ScalpBot
