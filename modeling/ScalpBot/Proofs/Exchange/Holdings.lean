import Mathlib.Data.List.Induction
import Mathlib.Tactic.ByContra
import ScalpBot.Proofs.Exchange.Transcript

/-!
# Our orders on an exchange

What the exchange holds of us and what it tells us are two things: it may accept an order, and the
reply may get lost on the way. `Holdings` is the truth about our orders, `Holdings.Step` what one
call can do to them, whatever its reply, and a `Venue` is an exchange in whose states our holdings
can be seen. A venue gives fresh names, and lists every order of ours that is live.

Orders may be filled at any time. The holdings are those at the moment in which a call takes effect;
what is filled later counts as filled during the next call, before that one takes effect. So the
live orders at any other moment are among those seen right after a call.

`Venue.invariant` is the induction over the calls of a transcript. `Exchange.steady` is a venue that
can be run.
-/

namespace ScalpBot

/-- Our orders on an exchange. -/
structure Holdings where
  /-- The names of the orders that were accepted, the latest first. -/
  accepted : List OrderId := []
  /-- Those among them whose names did not come back. -/
  untold : List OrderId := []
  /-- Those among them that are not filled. -/
  live : List OrderId := []
deriving DecidableEq

/-- Whether a submission ended with a timeout or a network failure, which leave open whether the
order was accepted. -/
def Exchanged.isInDoubt : Exchanged → Bool
  | ⟨_, .submitOrder _ _ _, .error (.timeout _)⟩ => true
  | ⟨_, .submitOrder _ _ _, .error (.network _)⟩ => true
  | _ => false

theorem Exchanged.isSubmission_of_isInDoubt {e : Exchanged} (h : e.isInDoubt = true) :
    e.isSubmission = true := by
  obtain ⟨marketId, call, reply⟩ := e
  cases call with
  | submitOrder => rfl
  | _ => cases h

theorem Exchanged.placed?_of_isInDoubt {e : Exchanged} (h : e.isInDoubt = true) :
    e.placed? = none := by
  obtain ⟨marketId, call, reply⟩ := e
  cases call with
  | submitOrder side quantity price =>
    cases reply with
    | error => rfl
    | ok => cases h
  | _ => cases h

namespace Holdings

/-- At most one order is live. -/
def Single (h : Holdings) : Prop := ∀ a ∈ h.live, ∀ b ∈ h.live, a = b

/-- What one call, with its reply, can do to our orders. Whatever is called, some of the live orders
may have been filled before. -/
inductive Step (h : Holdings) (e : Exchanged) : Holdings → Prop
  /-- A question. The open orders show all that is live. -/
  | read {live : List OrderId} (call : e.isSubmission = false) (filled : live.Sublist h.live)
      (listed : ∀ orders, e.answer? .openOrders = some orders →
        ∀ id ∈ live, ∃ o ∈ orders, o.id = id) :
      Step h e { h with live := live }
  /-- An order is accepted, and its name comes back. -/
  | placed {order : PlacedOrder} {live : List OrderId} (call : e.placed? = some order)
      (fresh : order.id ∉ h.accepted) (filled : live.Sublist h.live) :
      Step h e { h with accepted := order.id :: h.accepted, live := order.id :: live }
  /-- An order is accepted, and the reply gets lost. -/
  | lost {id : OrderId} {live : List OrderId} (call : e.isInDoubt = true)
      (fresh : id ∉ h.accepted) (filled : live.Sublist h.live) :
      Step h e ⟨id :: h.accepted, id :: h.untold, id :: live⟩
  /-- An order is not accepted. -/
  | refused {live : List OrderId} (call : e.isSubmission = true) (failed : e.placed? = none)
      (filled : live.Sublist h.live) :
      Step h e { h with live := live }

variable {h h' : Holdings} {e : Exchanged}

theorem Step.accepted_subset (hs : h.Step e h') : h.accepted ⊆ h'.accepted := by
  cases hs with
  | read | refused => exact fun _ hid => hid
  | placed | lost => exact List.subset_cons_self ..

theorem Step.untold_subset (hs : h.Step e h') : h.untold ⊆ h'.untold := by
  cases hs with
  | read | placed | refused => exact fun _ hid => hid
  | lost => exact List.subset_cons_self ..

/-- A live order was live before, or has just been accepted under a fresh name, which either came
back or did not. -/
theorem Step.live_cases (hs : h.Step e h') {id : OrderId} (hid : id ∈ h'.live) :
    id ∈ h.live ∨
    id ∉ h.accepted ∧ (id ∈ h'.untold ∨ ∃ order, e.placed? = some order ∧ order.id = id) := by
  cases hs with
  | read _ filled | refused _ _ filled => exact .inl (filled.subset hid)
  | placed call fresh filled =>
    rcases List.mem_cons.mp hid with rfl | hold
    · exact .inr ⟨fresh, .inr ⟨_, call, rfl⟩⟩
    · exact .inl (filled.subset hold)
  | lost _ fresh filled =>
    rcases List.mem_cons.mp hid with rfl | hold
    · exact .inr ⟨fresh, .inl List.mem_cons_self⟩
    · exact .inl (filled.subset hold)

/-- An order that is filled, once accepted, stays so. -/
theorem Step.not_live (hs : h.Step e h') {id : OrderId} (haccepted : id ∈ h.accepted)
    (hfilled : id ∉ h.live) : id ∉ h'.live := by
  intro hid
  rcases hs.live_cases hid with hold | ⟨fresh, _⟩
  · exact hfilled hold
  · exact fresh haccepted

/-- What is live is among the open orders, where these were asked for. -/
theorem Step.listed (hs : h.Step e h') {orders : List OpenOrder}
    (horders : e.answer? .openOrders = some orders) : ∀ id ∈ h'.live, ∃ o ∈ orders, o.id = id := by
  -- only a look at the open orders has them for an answer
  have hcall : e.call = .openOrders := by
    by_contra hne
    rw [Exchanged.answer?_of_ne hne] at horders
    cases horders
  have hread : e.isSubmission = false := by rw [Exchanged.isSubmission, hcall]; rfl
  cases hs with
  | read _ _ listed => exact listed orders horders
  | placed call => cases (Exchanged.placed?_of_read hread).symm.trans call
  | lost call => cases (Exchanged.isSubmission_of_isInDoubt call).symm.trans hread
  | refused call => cases call.symm.trans hread

/-- Of the orders live after a call, at most one was not live before it. -/
theorem Step.new_eq (hs : h.Step e h') {a b : OrderId} (ha : a ∈ h'.live) (hb : b ∈ h'.live)
    (hnewa : a ∉ h.live) (hnewb : b ∉ h.live) : a = b := by
  cases hs with
  | read _ filled | refused _ _ filled => exact absurd (filled.subset ha) hnewa
  | placed _ _ filled | lost _ _ filled =>
    rcases List.mem_cons.mp ha with rfl | hold
    · rcases List.mem_cons.mp hb with rfl | hold
      · rfl
      · exact absurd (filled.subset hold) hnewb
    · exact absurd (filled.subset hold) hnewa

/-- A question makes no order live. -/
theorem Step.live_subset (hs : h.Step e h') (hread : e.isSubmission = false) :
    h'.live ⊆ h.live := by
  cases hs with
  | read _ filled | refused _ _ filled => exact filled.subset
  | placed call => cases (Exchanged.placed?_of_read hread).symm.trans call
  | lost call => cases (Exchanged.isSubmission_of_isInDoubt call).symm.trans hread

/-- The name of a placed order was accepted. -/
theorem Step.placed_accepted (hs : h.Step e h') {order : PlacedOrder}
    (horder : e.placed? = some order) : order.id ∈ h'.accepted := by
  cases hs with
  | read call => cases (Exchanged.placed?_of_read call).symm.trans horder
  | placed call =>
    obtain rfl := Option.some.inj (call.symm.trans horder)
    exact List.mem_cons_self
  | lost call => cases (Exchanged.placed?_of_isInDoubt call).symm.trans horder
  | refused _ failed => cases failed.symm.trans horder

end Holdings

/-- **A venue.** An exchange in whose states our orders can be seen, and where each call about the
market does to them what a call can do. -/
structure Venue {σ : Type} (exchange : Exchange σ) (marketId : String) (view : σ → Holdings) :
    Prop where
  step : ∀ call world, (view world).Step
    ⟨marketId, call, (exchange.answer marketId call world).1⟩
    (view (exchange.answer marketId call world).2)

namespace Venue

variable {σ : Type} {exchange : Exchange σ} {marketId : String} {view : σ → Holdings} {world : σ}

theorem step_after (hv : Venue exchange marketId view) {transcript : List Exchanged}
    {e : Exchanged} (hm : e.marketId = marketId)
    (hh : exchange.Heard world (transcript ++ [e])) :
    (view (exchange.after world transcript)).Step e
      (view (exchange.after world (transcript ++ [e]))) := by
  subst hm
  obtain ⟨_, hreply, _⟩ := Exchange.heard_append.mp hh
  have hs := hv.step e.call (exchange.after world transcript)
  rw [hreply] at hs
  rw [Exchange.after_append]
  exact hs

/-- What each call preserves holds after all calls of a transcript. -/
theorem invariant (hv : Venue exchange marketId view) {P : List Exchanged → Holdings → Prop}
    (start : P [] (view world))
    (step : ∀ transcript e h h', P transcript h → h.Step e h' → P (transcript ++ [e]) h')
    {transcript : List Exchanged} (hm : ∀ e ∈ transcript, e.marketId = marketId)
    (hh : exchange.Heard world transcript) :
    P transcript (view (exchange.after world transcript)) := by
  induction transcript using List.reverseRecOn with
  | nil => exact start
  | append_singleton transcript e ih =>
    obtain ⟨hm, hlast⟩ := List.forall_mem_append.mp hm
    have hbefore := ih hm (Exchange.heard_append.mp hh).1
    exact step _ _ _ _ hbefore (hv.step_after (hlast e List.mem_cons_self) hh)

/-- An order that was accepted and is filled stays filled. -/
theorem not_live_after (hv : Venue exchange marketId view) {id : OrderId}
    (haccepted : id ∈ (view world).accepted) (hfilled : id ∉ (view world).live)
    {transcript : List Exchanged} (hm : ∀ e ∈ transcript, e.marketId = marketId)
    (hh : exchange.Heard world transcript) :
    id ∉ (view (exchange.after world transcript)).live := by
  have hinv : id ∈ (view (exchange.after world transcript)).accepted ∧
      id ∉ (view (exchange.after world transcript)).live := by
    refine hv.invariant (P := fun _ h => id ∈ h.accepted ∧ id ∉ h.live) ⟨haccepted, hfilled⟩
      (fun _ _ _ _ hP hs => ?_) hm hh
    exact ⟨hs.accepted_subset hP.1, hs.not_live hP.1 hP.2⟩
  exact hinv.2

/-- The names of the orders that were placed were accepted. -/
theorem placed_accepted (hv : Venue exchange marketId view) {transcript : List Exchanged}
    (hm : ∀ e ∈ transcript, e.marketId = marketId) (hh : exchange.Heard world transcript) :
    ∀ order ∈ placedIn transcript,
      order.id ∈ (view (exchange.after world transcript)).accepted := by
  refine hv.invariant (P := fun t h => ∀ order ∈ placedIn t, order.id ∈ h.accepted) (by simp)
    (fun t e h h' hP hs order horder => ?_) hm hh
  rw [placedIn_append, List.mem_append] at horder
  rcases horder with hold | hnew
  · exact hs.accepted_subset (hP order hold)
  · obtain ⟨e', he', hplaced⟩ := List.mem_filterMap.mp hnew
    obtain rfl := List.mem_singleton.mp he'
    exact hs.placed_accepted hplaced

end Venue

/-! ## A venue that can be run -/

/-- How long some names are together. -/
def totalLength (names : List OrderId) : Nat :=
  names.foldr (fun id total => id.text.length + total) 0

/-- A name that is not among the taken ones, for it is longer than all of them together. -/
def nextName (taken : List OrderId) : OrderId :=
  ⟨String.ofList (List.replicate (totalLength taken + 1) '1')⟩

/-- An exchange where all prices are one, fees are zero and every order is accepted. The reply to an
order that is accepted after `n` others may get lost. Orders are filled whenever the open orders are
looked at, or never. -/
def Exchange.steady (fills : Bool) (loses : Nat → Bool) : Exchange Holdings where
  name := "Steady"
  answer marketId call h :=
    match call with
    | .orderBook =>
      let levels : List PriceLevel := [⟨.one, .one⟩]
      (.ok ⟨marketId, levels, levels, ⟨0, 0⟩⟩, h)
    | .openOrders =>
      let listed (id : OrderId) : OpenOrder := ⟨id, marketId, .buy, .one, .one, none⟩
      let live := if fills then [] else h.live
      (.ok (live.map listed), { h with live := live })
    | .lastTradePrice => (.ok .one, h)
    | .buyFeeRate | .sellFeeRate => (.ok .zero, h)
    | .submitOrder _ _ _ =>
      let id := nextName h.accepted
      if loses h.accepted.length then
        (.error (.timeout "no answer in time"),
          ⟨id :: h.accepted, id :: h.untold, id :: h.live⟩)
      else (.ok id, ⟨id :: h.accepted, h.untold, id :: h.live⟩)

theorem length_le_totalLength {id : OrderId} {names : List OrderId} (h : id ∈ names) :
    id.text.length ≤ totalLength names := by
  induction h with
  | head rest => exact Nat.le_add_right ..
  | tail _ _ ih => exact Nat.le_trans ih (Nat.le_add_left ..)

theorem nextName_not_mem (taken : List OrderId) : nextName taken ∉ taken := by
  intro h
  have hle := length_le_totalLength h
  rw [nextName, String.length_ofList, List.length_replicate] at hle
  exact Nat.not_succ_le_self _ hle

theorem venue_steady (fills : Bool) (loses : Nat → Bool) (marketId : String) :
    Venue (Exchange.steady fills loses) marketId id where
  step call h := by
    cases call with
    | submitOrder side quantity price =>
      have fresh := nextName_not_mem h.accepted
      cases hlost : loses h.accepted.length with
      | true =>
        simp only [Exchange.steady, hlost, if_true]
        exact .lost rfl fresh (List.Sublist.refl _)
      | false =>
        simp only [Exchange.steady, hlost, Bool.false_eq_true, if_false]
        let order : PlacedOrder := ⟨side, nextName h.accepted, price, quantity⟩
        exact @Holdings.Step.placed _ _ order _ rfl fresh (List.Sublist.refl _)
    | openOrders =>
      have filled : (if fills then [] else h.live).Sublist h.live := by
        split
        · exact List.nil_sublist _
        · exact List.Sublist.refl _
      refine .read rfl filled fun orders horders id hid => ?_
      rw [Exchanged.answer?_self] at horders
      obtain rfl := Option.some.inj horders
      exact ⟨_, List.mem_map_of_mem hid, rfl⟩
    | orderBook | lastTradePrice | buyFeeRate | sellFeeRate =>
      refine .read rfl (List.Sublist.refl _) fun orders horders => ?_
      rw [Exchanged.answer?_of_ne (by simp)] at horders
      cases horders

/-- Where no reply gets lost, all names are told. -/
theorem untold_after_steady {fills : Bool} {loses : Nat → Bool} (hloses : ∀ n, loses n = false)
    (h : Holdings) (transcript : List Exchanged) :
    ((Exchange.steady fills loses).after h transcript).untold = h.untold := by
  induction transcript generalizing h with
  | nil => rfl
  | cons e rest ih =>
    rw [Exchange.after_cons, ih]
    cases e.call with
    | submitOrder => simp [Exchange.steady, hloses]
    | _ => rfl

end ScalpBot
