import ScalpBot.Proofs.Exchange.Acceptance
import ScalpBot.Proofs.Strategy.Trading

/-!
# A dry run as a rehearsal

A dry run is worth something if it shows what would happen without it. It names the orders it takes, and
an exchange would give them other names; so the two runs can agree up to a renaming only. They do
(`Strategy.dryRun_mirrors`): against an exchange that gives the same answers and takes every order, the
cycles make the same calls, come to the same outcomes and leave the same order to remember, if the orders
that the dry run placed are renamed one by one.

The strategy does not look at a name but to find it among the open orders. So two cycles that remember the
same order under two names are one dialogue, except for what they do with open orders that show one of the
names (`Dialogue.Alike`). Held with both exchanges, they end alike (`Strategy.twins_of_alike`).
-/

namespace ScalpBot

/-! ## Renaming -/

variable {f : OrderId → OrderId}

/-- The same order under another name. -/
def PlacedOrder.rename (f : OrderId → OrderId) (order : PlacedOrder) : PlacedOrder :=
  { order with id := f order.id }

@[simp] theorem PlacedOrder.side_rename (order : PlacedOrder) : (order.rename f).side = order.side := rfl

/-- The same outcome, with another name for what was placed. -/
def Outcome.rename (f : OrderId → OrderId) : Outcome → Outcome
  | placed order => placed (order.rename f)
  | skipped reason => skipped reason
  | holding reason => holding reason
  | deferred => deferred

/-- The same call and the same reply, with another name for what was placed. -/
def Exchanged.rename (f : OrderId → OrderId) : Exchanged → Exchanged
  | ⟨marketId, .submitOrder side quantity price, .ok id⟩ =>
    ⟨marketId, .submitOrder side quantity price, .ok (f id)⟩
  | e => e

theorem Exchanged.rename_of_read {e : Exchanged} (h : e.isSubmission = false) : e.rename f = e := by
  obtain ⟨marketId, call, reply⟩ := e
  cases call with
  | submitOrder => cases h
  | _ => rfl

theorem map_rename_of_reads {calls : List Exchanged} (h : ∀ e ∈ calls, e.isSubmission = false) :
    calls.map (Exchanged.rename f) = calls := by
  rw [List.map_congr_left fun e he => Exchanged.rename_of_read (h e he), List.map_id']

/-- Where nothing was placed there is nothing to rename. -/
theorem map_rename_of_not_placed {result : Except CycleFault Outcome}
    (h : ∀ order, result ≠ .ok (.placed order)) : result.map (Outcome.rename f) = result := by
  cases result with
  | error cause => rfl
  | ok outcome =>
    cases outcome with
    | placed order => exact absurd rfl (h order)
    | _ => rfl

/-! ## Dialogues that differ by a name -/

namespace Dialogue

/-- **Dialogues that are alike** as long as the open orders are clear: they ask the same questions and go
on alike with the answers, and an order that they submit is the last that they do. -/
inductive Alike (clear : List OpenOrder → Prop) : Dialogue Outcome → Dialogue Outcome → Prop
  | done {outcome : Outcome} (not_placed : ∀ order, outcome ≠ .placed order) :
      Alike clear (.done outcome) (.done outcome)
  | halt (cause : Halt) : Alike clear (.halt cause) (.halt cause)
  | read {marketId : String} {call : Call} {next next' : call.Answer → Dialogue Outcome}
      (read : call.isSubmission = false)
      (rest : ∀ answer,
        (∀ orders ∈ answers .openOrders [⟨marketId, call, .ok answer⟩], clear orders) →
        Alike clear (next answer) (next' answer)) :
      Alike clear (.ask marketId call next) (.ask marketId call next')
  | submit (marketId : String) (side : Side) (quantity price : Decimal) :
      Alike clear
        (.ask marketId (.submitOrder side quantity price) fun id =>
          .done (.placed ⟨side, id, price, quantity⟩))
        (.ask marketId (.submitOrder side quantity price) fun id =>
          .done (.placed ⟨side, id, price, quantity⟩))

variable {clear : List OpenOrder → Prop}

theorem alike_call_bind {marketId : String} {call : Call} {next next' : call.Answer → Dialogue Outcome}
    (hread : call.isSubmission = false) (h : ∀ answer, Alike clear (next answer) (next' answer)) :
    Alike clear (Dialogue.call marketId call >>= next) (Dialogue.call marketId call >>= next') :=
  .read hread fun answer _ => h answer

theorem alike_ofArithmetic_bind {α : Type} (a : Except Overflow α)
    {next next' : α → Dialogue Outcome}
    (h : ∀ value, Alike clear (next value) (next' value)) :
    Alike clear (ofArithmetic a >>= next) (ofArithmetic a >>= next') := by
  cases a with
  | ok value => exact h value
  | error cause => exact .halt _

end Dialogue

namespace Strategy

open Dialogue

variable {clear : List OpenOrder → Prop}

theorem alike_submit (s : Strategy) (side : Side) (quantity price : Decimal) :
    Alike clear (s.submit side quantity price) (s.submit side quantity price) :=
  .submit ..

theorem alike_buy (s : Strategy) (bid : Decimal) : Alike clear (s.buy bid) (s.buy bid) := by
  refine alike_call_bind rfl fun lastPrice => ?_
  split
  · exact s.alike_submit ..
  · exact .halt _

theorem alike_sell (s : Strategy) (bought : PlacedOrder) : Alike clear (s.sell bought) (s.sell bought) :=
  alike_call_bind rfl fun _ => alike_call_bind rfl fun _ => alike_ofArithmetic_bind _ fun _ =>
    alike_ofArithmetic_bind _ fun _ => s.alike_submit ..

/-- An order that the open orders show under neither name is filled under both. -/
theorem alike_isFilled_bind (s : Strategy) {order : PlacedOrder} {next next' : Bool → Dialogue Outcome}
    (hclear : ∀ orders, clear orders → ∀ o ∈ orders, o.id ≠ order.id ∧ o.id ≠ f order.id)
    (h : Alike clear (next true) (next' true)) :
    Alike clear (s.isFilled order >>= next) (s.isFilled (order.rename f) >>= next') := by
  refine .read rfl fun orders hheard => ?_
  have horders : clear orders := hheard orders (by simp [answers, Except.toOption])
  have hgone : (!orders.any fun o => o.id = order.id) = true := by
    simpa using fun o ho => (hclear orders horders o ho).1
  have hgone' : (!orders.any fun o => o.id = f order.id) = true := by
    simpa using fun o ho => (hclear orders horders o ho).2
  show Alike clear (next !orders.any fun o => o.id = order.id)
    (next' !orders.any fun o => o.id = f order.id)
  rwa [hgone, hgone']

theorem alike_act (s : Strategy) (order : PlacedOrder) (bestBid bestAsk : Decimal)
    (hclear : ∀ orders, clear orders → ∀ o ∈ orders, o.id ≠ order.id ∧ o.id ≠ f order.id) :
    Alike clear (s.act (some order) bestBid bestAsk)
      (s.act (some (order.rename f)) bestBid bestAsk) := by
  refine s.alike_isFilled_bind hclear ?_
  rw [PlacedOrder.side_rename]
  cases order.side with
  | buy => exact s.alike_sell order
  | sell => exact s.alike_buy bestBid

/-- **Two names for the last order make no difference** to a cycle, where the open orders show neither. -/
theorem alike_cycle (s : Strategy) {last : Option PlacedOrder}
    (hclear : ∀ orders, clear orders →
      ∀ order ∈ last, ∀ o ∈ orders, o.id ≠ order.id ∧ o.id ≠ f order.id) :
    Alike clear (s.cycle last) (s.cycle (last.map (PlacedOrder.rename f))) := by
  refine alike_call_bind rfl fun book => ?_
  split
  · exact .done (by simp)
  · exact .done (by simp)
  · refine alike_ofArithmetic_bind _ fun _ => ?_
    cases last with
    | none => exact s.alike_buy _
    | some order => exact s.alike_act order _ _ fun orders horders => hclear orders horders order rfl

/-! ## Alike dialogues with both exchanges -/

/-- **How two dialogues end alike**: in the same way and without a submission, or with an order that both
exchanges have taken, each under a name of its own. -/
inductive Twins : (transcript : List Exchanged) → (ended : Except Halt Outcome) →
    (transcript' : List Exchanged) → (ended' : Except Halt Outcome) → Prop
  | same {transcript : List Exchanged} {ended : Except Halt Outcome} (quiet : Quiet transcript ended) :
      Twins transcript ended transcript ended
  | renamed {reads : List Exchanged} (marketId : String) (order : PlacedOrder) (id' : OrderId)
      (quiet : ∀ e ∈ reads, e.isSubmission = false) :
      Twins
        (reads ++ [⟨marketId, .submitOrder order.side order.quantity order.price, .ok order.id⟩])
        (.ok (.placed order))
        (reads ++ [⟨marketId, .submitOrder order.side order.quantity order.price, .ok id'⟩])
        (.ok (.placed { order with id := id' }))

variable {transcript transcript' : List Exchanged} {ended ended' : Except Halt Outcome}

theorem Twins.cons {e : Exchanged} (he : e.isSubmission = false)
    (h : Twins transcript ended transcript' ended') :
    Twins (e :: transcript) ended (e :: transcript') ended' := by
  cases h with
  | same quiet => exact .same (quiet.cons he)
  | renamed marketId order id' quiet =>
    exact .renamed marketId order id' (List.forall_mem_cons.mpr ⟨he, quiet⟩)

variable {σ τ : Type} {inner : Exchange σ} {live : Exchange τ} {alike : σ → τ → Prop}
  {issued : τ → List OrderId} {fresh : Nat → String}

/-- **Alike dialogues end alike**, one held with the dry run and one with an exchange that answers in the
same way and takes every order, if the open orders that both hear of are clear. -/
theorem twins_of_alike (fresh : Nat → String)
    (haccepting : Exchange.Accepting inner live alike issued) {d d' : Dialogue Outcome}
    (h : Alike clear d d') {run : DryRun σ} {venue : τ} (halike : alike run.inner venue)
    (hclear : ∀ orders ∈ answers .openOrders (d.run (inner.dryRun fresh) run).2.1,
      orders ∈ answers .openOrders (d'.run live venue).2.1 → clear orders) :
    Twins (d.run (inner.dryRun fresh) run).2.1 (d.run (inner.dryRun fresh) run).1
        (d'.run live venue).2.1 (d'.run live venue).1 ∧
      alike (d.run (inner.dryRun fresh) run).2.2.inner (d'.run live venue).2.2 := by
  induction h generalizing run venue with
  | done not_placed =>
    exact ⟨.same ⟨by simp [Dialogue.run], by simpa [Dialogue.run] using not_placed⟩, halike⟩
  | halt cause => exact ⟨.same (.halted cause), halike⟩
  | @read marketId call next next' hread rest ih =>
    obtain ⟨hreply, hnext, -⟩ := haccepting.read marketId call run.inner venue hread halike
    have hdry : (inner.dryRun fresh).answer marketId call run = _ :=
      Exchange.dryRun_read hread marketId run
    cases hanswer : (inner.answer marketId call run.inner).1 with
    | error cause =>
      rw [run_ask_error (by rw [hdry, hanswer]), run_ask_error (hreply.trans hanswer), hdry]
      exact ⟨.same ((Quiet.halted _).cons hread), hnext⟩
    | ok answer =>
      rw [run_ask_ok (by rw [hdry, hanswer]), run_ask_ok (hreply.trans hanswer), hdry] at hclear ⊢
      -- the answer opens both transcripts, and the rest of both comes after it
      have hnow : ∀ orders ∈ answers .openOrders [⟨marketId, call, .ok answer⟩], clear orders :=
        fun orders h => hclear orders (answers_subset (by simp) _ h) (answers_subset (by simp) _ h)
      obtain ⟨htwins, hafter⟩ := ih answer hnow hnext fun orders h h' =>
        hclear orders (answers_subset (List.subset_cons_self ..) _ h)
          (answers_subset (List.subset_cons_self ..) _ h')
      exact ⟨htwins.cons hread, hafter⟩
  | submit marketId side quantity price =>
    obtain ⟨id', hid', -, hnext, -⟩ :=
      haccepting.submit marketId side quantity price run.inner venue halike
    let id : OrderId := ⟨SimulatedOrder.idPrefix ++ fresh run.submitted.length⟩
    have hid : ((inner.dryRun fresh).answer marketId (.submitOrder side quantity price) run).1 =
        .ok id := rfl
    rw [run_ask_ok hid, run_ask_ok hid']
    exact ⟨@Twins.renamed [] marketId ⟨side, id, price, quantity⟩ id' (by simp), hnext⟩

/-! ## Cycles that mirror one another -/

/-- **A cycle of one run mirrors a cycle of another**, up to the names of the orders that are placed. -/
structure Mirrors {ρ : Type} (f : OrderId → OrderId) (dry : Executed ρ) (real : Executed τ) :
    Prop where
  /-- The outcomes are the same, or the faults. -/
  result_eq : real.result = dry.result.map (Outcome.rename f)
  /-- The calls are the same, in order, and their replies. -/
  transcript_eq : real.transcript = dry.transcript.map (Exchanged.rename f)
  /-- The same order is remembered. -/
  last_eq : real.last = dry.last.map (PlacedOrder.rename f)

/-- The names of the orders that were placed, in order. -/
def placedNames (transcript : List Exchanged) : List OrderId := (placedIn transcript).map (·.id)

theorem placedNames_append (first rest : List Exchanged) :
    placedNames (first ++ rest) = placedNames first ++ placedNames rest := by
  rw [placedNames, placedIn_append, List.map_append]
  rfl

variable {last last' : Option PlacedOrder}

theorem Twins.length_placedNames (h : Twins transcript ended transcript' ended') :
    (placedNames transcript').length = (placedNames transcript).length := by
  cases h with
  | same => rfl
  | renamed marketId order id' quiet =>
    rw [placedNames, placedNames, placedIn_reads_append quiet, placedIn_reads_append quiet]
    rfl

/-- After cycles that end alike, both runs remember the same order under two names. -/
theorem Twins.exists_rename (h : Twins transcript ended transcript' ended')
    (hlast : ∃ g, last' = last.map (PlacedOrder.rename g)) :
    ∃ g, remember last' (settle ended') =
      (remember last (settle ended)).map (PlacedOrder.rename g) := by
  cases h with
  | same quiet =>
    have hnone := fun order => settle_ne_placed (quiet.not_placed order)
    rw [remember_of_not_placed hnone, remember_of_not_placed hnone]
    exact hlast
  | renamed marketId order id' quiet => exact ⟨fun _ => id', rfl⟩

/-- Cycles that end alike mirror one another, under every renaming that fits. -/
theorem Twins.mirrors {ρ : Type} {world : ρ} {venue : τ}
    (h : Twins transcript ended transcript' ended')
    (hlast : last' = last.map (PlacedOrder.rename f))
    (hnames : placedNames transcript' = (placedNames transcript).map f) :
    Mirrors f ⟨settle ended, transcript, remember last (settle ended), world⟩
      ⟨settle ended', transcript', remember last' (settle ended'), venue⟩ := by
  cases h with
  | same quiet =>
    have hnone := fun order => settle_ne_placed (quiet.not_placed order)
    refine ⟨(map_rename_of_not_placed hnone).symm, (map_rename_of_reads quiet.reads).symm, ?_⟩
    show remember last' (settle ended) = (remember last (settle ended)).map (PlacedOrder.rename f)
    rw [remember_of_not_placed hnone, remember_of_not_placed hnone, hlast]
  | @renamed reads marketId order id' quiet =>
    obtain rfl : id' = f order.id := by
      rw [placedNames, placedNames, placedIn_reads_append quiet, placedIn_reads_append quiet] at hnames
      exact List.head_eq_of_cons_eq hnames
    refine ⟨rfl, ?_, rfl⟩
    show _ = List.map (Exchanged.rename f) _
    rw [List.map_append, map_rename_of_reads quiet]
    rfl

/-- In no cycle do the open orders show an order that was placed before. `earlier` are the orders that were
placed before all of these cycles. -/
def Unlisted {ρ : Type} : (earlier : List PlacedOrder) → List (Executed ρ) → Prop
  | _, [] => True
  | earlier, cycle :: rest =>
    (∀ orders ∈ answers .openOrders cycle.transcript, ∀ o ∈ orders,
      ∀ order ∈ earlier, o.id ≠ order.id) ∧
    Unlisted (earlier ++ placedIn cycle.transcript) rest

/-- **Cycles that remember the same order under two names** leave the exchanges alike, remember the same
order again, and mirror one another under every renaming that fits, where the open orders show what is
remembered under neither name. -/
theorem execute_mirrors (s : Strategy) (haccepting : Exchange.Accepting inner live alike issued)
    {run : DryRun σ} {venue : τ} (halike : alike run.inner venue)
    (hlast : ∃ g, last' = last.map (PlacedOrder.rename g))
    (hdry : ∀ orders ∈ answers .openOrders (s.execute (inner.dryRun fresh) last run).transcript,
      ∀ o ∈ orders, ∀ order ∈ last, o.id ≠ order.id)
    (hlive : ∀ orders ∈ answers .openOrders (s.execute live last' venue).transcript,
      ∀ o ∈ orders, ∀ order ∈ last', o.id ≠ order.id) :
    let dry := s.execute (inner.dryRun fresh) last run
    let real := s.execute live last' venue
    alike dry.world.inner real.world ∧ (∃ g, real.last = dry.last.map (PlacedOrder.rename g)) ∧
      (placedNames real.transcript).length = (placedNames dry.transcript).length ∧
      ∀ f, last' = last.map (PlacedOrder.rename f) →
        placedNames real.transcript = (placedNames dry.transcript).map f → Mirrors f dry real := by
  obtain ⟨g, rfl⟩ := hlast
  let clear (orders : List OpenOrder) : Prop :=
    ∀ order ∈ last, ∀ o ∈ orders, o.id ≠ order.id ∧ o.id ≠ g order.id
  have hcycles : Alike clear (s.cycle last) (s.cycle (last.map (PlacedOrder.rename g))) :=
    s.alike_cycle fun _ horders => horders
  obtain ⟨htwins, hafter⟩ := twins_of_alike fresh haccepting hcycles halike
    fun orders hdryHeard hliveHeard order horder o ho =>
      ⟨hdry orders hdryHeard o ho order horder,
        hlive orders hliveHeard o ho (order.rename g) (Option.mem_map_of_mem _ horder)⟩
  exact ⟨hafter, htwins.exists_rename ⟨g, rfl⟩, htwins.length_placedNames,
    fun f hlast hnames => htwins.mirrors hlast hnames⟩

/-- What is remembered after a cycle was placed in it, or was remembered before. -/
theorem mem_of_mem_last {ρ : Type} (s : Strategy) (exchange : Exchange ρ) (world : ρ)
    {earlier : List PlacedOrder} (h : ∀ order ∈ last, order ∈ earlier) :
    ∀ order ∈ (s.execute exchange last world).last,
      order ∈ earlier ++ placedIn (s.execute exchange last world).transcript := by
  intro order horder
  rcases (s.execute_conduct exchange last world).placedIn_cases with
    ⟨-, hsame, -⟩ | ⟨placed, hplaced, hnext, -⟩
  · exact List.mem_append_left _ (h order (hsame ▸ horder))
  · rw [hplaced]
    obtain rfl : placed = order := Option.some.inj (hnext.symm.trans horder)
    exact List.mem_append_right _ (List.mem_singleton_self _)

/-- **Runs that remember the same order under two names** place as many orders, and mirror one another
cycle by cycle under every renaming that fits the names of these orders. -/
theorem run_mirrors (s : Strategy) (haccepting : Exchange.Accepting inner live alike issued) (count : Nat)
    {run : DryRun σ} {venue : τ} {earlier earlier' : List PlacedOrder} (halike : alike run.inner venue)
    (hlast : ∃ g, last' = last.map (PlacedOrder.rename g))
    (hearlier : ∀ order ∈ last, order ∈ earlier) (hearlier' : ∀ order ∈ last', order ∈ earlier')
    (hdry : Unlisted earlier (s.run (inner.dryRun fresh) count last run))
    (hlive : Unlisted earlier' (s.run live count last' venue)) :
    (placedNames (history (s.run live count last' venue))).length =
        (placedNames (history (s.run (inner.dryRun fresh) count last run))).length ∧
      ∀ f, last' = last.map (PlacedOrder.rename f) →
        placedNames (history (s.run live count last' venue)) =
          (placedNames (history (s.run (inner.dryRun fresh) count last run))).map f →
        List.Forall₂ (Mirrors f) (s.run (inner.dryRun fresh) count last run)
          (s.run live count last' venue) := by
  induction count generalizing last last' run venue earlier earlier' with
  | zero => exact ⟨rfl, fun _ _ _ => .nil⟩
  | succ count ih =>
    obtain ⟨hdryNow, hdryLater⟩ := hdry
    obtain ⟨hliveNow, hliveLater⟩ := hlive
    obtain ⟨hafter, hnext, hlengthNow, hmirrorsNow⟩ := s.execute_mirrors haccepting halike hlast
      (fun orders horders o ho order horder => hdryNow orders horders o ho order (hearlier order horder))
      (fun orders horders o ho order horder =>
        hliveNow orders horders o ho order (hearlier' order horder))
    obtain ⟨hlengthLater, hmirrorsLater⟩ := ih hafter hnext (s.mem_of_mem_last _ _ hearlier)
      (s.mem_of_mem_last _ _ hearlier') hdryLater hliveLater
    simp only [Strategy.run, history_cons, placedNames_append]
    refine ⟨?_, fun f hf hnames => ?_⟩
    · rw [List.length_append, List.length_append, hlengthNow, hlengthLater]
    · rw [List.map_append] at hnames
      obtain ⟨hnow, hlater⟩ := List.append_inj hnames (by rw [List.length_map, hlengthNow])
      have hcycle := hmirrorsNow f hf hnow
      exact .cons hcycle (hmirrorsLater f hcycle.last_eq hlater)

/-! ## Whole runs -/

theorem placedNames_eq (transcript : List Exchanged) :
    placedNames transcript = (simulatedIn transcript).map (·.id) := by
  rw [placedNames, placedIn, simulatedIn, List.map_filterMap, List.map_filterMap]
  refine List.filterMap_congr fun e _ => ?_
  obtain ⟨marketId, call, reply⟩ := e
  cases call with
  | submitOrder => cases reply <;> rfl
  | _ => rfl

/-- As many names, all different on both sides, are renamed one by one. -/
theorem exists_renaming {names names' : List OrderId} (hnodup : names.Nodup) (hnodup' : names'.Nodup)
    (hlength : names'.length = names.length) :
    ∃ f, names' = names.map f ∧ ∀ a ∈ names, ∀ b ∈ names, f a = f b → a = b := by
  let f (id : OrderId) : OrderId := (names'[names.idxOf id]?).getD id
  have hmap : names' = names.map f := by
    refine List.ext_getElem (by rw [List.length_map, hlength]) fun i hi hi' => ?_
    rw [List.length_map] at hi'
    rw [List.getElem_map]
    show _ = (names'[names.idxOf names[i]]?).getD _
    rw [hnodup.idxOf_getElem, List.getElem?_eq_getElem hi, Option.getD_some]
  exact ⟨f, hmap, fun a ha b hb hab => List.inj_on_of_nodup_map (hmap ▸ hnodup') ha hb hab⟩

/-- **A dry run is a faithful rehearsal.**  Let a live exchange answer every question as the exchange
behind the dry run does, and fail as it does, and let it take every order under a fresh name; let the dry
run have fresh names too, and in neither run an open order be listed that was placed before. Then there is
a one-to-one renaming of the orders of the dry run under which its cycles, as many as there are, make the
calls of the live run, come to its outcomes and faults, and leave what it remembers. -/
theorem dryRun_mirrors (s : Strategy) (haccepting : Exchange.Accepting inner live alike issued)
    (hfresh : Function.Injective fresh) (count : Nat) {run : DryRun σ} {venue : τ}
    (halike : alike run.inner venue)
    (hdry : Unlisted [] (s.run (inner.dryRun fresh) count none run))
    (hlive : Unlisted [] (s.run live count none venue)) :
    ∃ f : OrderId → OrderId,
      (∀ a ∈ placedNames (history (s.run (inner.dryRun fresh) count none run)),
        ∀ b ∈ placedNames (history (s.run (inner.dryRun fresh) count none run)), f a = f b → a = b) ∧
      List.Forall₂ (Mirrors f) (s.run (inner.dryRun fresh) count none run)
        (s.run live count none venue) := by
  obtain ⟨hlength, hmirrors⟩ := s.run_mirrors haccepting count halike ⟨id, rfl⟩ (by simp) (by simp)
    hdry hlive
  have hdryHeard : (inner.dryRun fresh).Heard run
      (history (s.run (inner.dryRun fresh) count none run)) := heard_history count none run
  have hliveHeard : live.Heard venue (history (s.run live count none venue)) :=
    heard_history count none venue
  have hdryNames := (Exchange.simulates_of_heard hdryHeard).nodup hfresh
  rw [← placedNames_eq] at hdryNames
  have hliveNames := (haccepting.nodup_of_heard halike hliveHeard).1
  obtain ⟨f, hnames, hinjective⟩ := exists_renaming hdryNames hliveNames hlength
  exact ⟨f, hinjective, hmirrors f rfl hnames⟩

/-- As many ones as were asked for. -/
def ones (count : Nat) : String := String.ofList (List.replicate count '1')

theorem ones_injective : Function.Injective ones := by
  intro a b h
  simpa [ones] using congrArg String.length h

/-- A purchase and the sale of what was bought, in a dry run and with an exchange that takes them. -/
theorem dryRun_mirrors_sample :
    let dry := (spending .one).run ((Exchange.flat .one .one .zero).dryRun ones) 2 none ⟨(), []⟩
    let real := (spending .one).run (Exchange.flat .one .one .zero).obliging 2 none ((), [])
    placedNames (history dry) = [⟨"DRY-"⟩, ⟨"DRY-1"⟩] ∧
      placedNames (history real) = [⟨"1"⟩, ⟨"11"⟩] ∧
      Unlisted [] dry ∧ Unlisted [] real ∧ ∃ f, List.Forall₂ (Mirrors f) dry real := by
  intro dry real
  have hdry : Unlisted [] dry := ⟨by decide, by decide, trivial⟩
  have hreal : Unlisted [] real := ⟨by decide, by decide, trivial⟩
  obtain ⟨f, -, hmirrors⟩ := dryRun_mirrors (spending .one)
    (Exchange.accepting_obliging (Exchange.flat .one .one .zero)) ones_injective 2 rfl hdry hreal
  exact ⟨by decide +kernel, by decide +kernel, hdry, hreal, f, hmirrors⟩

end Strategy

end ScalpBot
