import ScalpBot.Program.Launch
import ScalpBot.Proofs.Bitstamp.Delivery
import ScalpBot.Proofs.Bitstamp.Requests
import ScalpBot.Proofs.Engine.Loop
import ScalpBot.Proofs.Exchange.Course
import ScalpBot.Proofs.Exchange.DryRun
import ScalpBot.Proofs.Program.CommandLine
import ScalpBot.Proofs.Strategy.History

/-!
# A dry run from the start of the program

The command line or the settings ask for a dry run, and either is enough (`isDryRun_of_launch`). From
then on the engine runs the strategy in turns, and all that the exchange goes through is what the
transcript says (`Strategy.Progress.Tracks`). In a dry run that leaves the reads to the client and the
submissions to the dry run: `dryRun_never_submits`.
-/

namespace ScalpBot

open Bitstamp

/-! ## Starting -/

variable {arguments : Arguments} {document? : Option SettingDocument}
  {vars : Environment.Variables} {trader : Trader}

theorem isDryRun_of_launchWith {settings : Settings}
    (h : (launchWith arguments settings).result = .ok trader) :
    trader.isDryRun = (arguments.dryRun || settings.exchange.dryRun) := by
  simp only [launchWith] at h
  split at h
  · cases h
  · split at h
    · cases h
    · cases h
      rfl

/-- **The command line or the settings make a dry run.** -/
theorem isDryRun_of_launch (h : (launch arguments document? vars).result = .ok trader) :
    ∃ settings, Settings.load document? vars = .ok settings ∧
      trader.isDryRun = (arguments.dryRun || settings.exchange.dryRun) := by
  rw [launch] at h
  split at h
  · rename_i settings hload
    exact ⟨settings, hload, isDryRun_of_launchWith h⟩
  · cases h

/-! ## Running -/

/-- How far a trader has come after some turns of its engine. `world` is the state of the network at the
start, and `fresh` names the orders of a dry run. -/
def Trader.progress {ν : Type} (t : Trader) (net : Network ν) (fresh : Nat → String)
    (channel : Channel) (turns : List Turn) (world : ν) : Strategy.Progress (DryRun ν) :=
  let engine : Engine (Strategy.Progress (DryRun ν)) :=
    { channel := channel, strategy := { world := ⟨world, []⟩ } }
  (engine.run (t.strategy.advance (t.exchange net fresh)) turns).strategy

namespace Trader

variable {ν : Type} (t : Trader) (net : Network ν) (fresh : Nat → String) (channel : Channel)
  (turns : List Turn) (world : ν)

theorem tracks_progress :
    (t.progress net fresh channel turns world).Tracks (t.exchange net fresh) ⟨world, []⟩ :=
  Engine.strategy_run (fun _ => Strategy.tracks_advance) ⟨trivial, rfl⟩ turns

/-- **A trader of a dry run** leaves the reads to its client, and the submissions to the dry run. -/
theorem simulates_progress {t : Trader} (h : t.isDryRun = true) :
    DryRun.Simulates fresh (t.client.toExchange net) ⟨world, []⟩
      (t.progress net fresh channel turns world).transcript
      (t.progress net fresh channel turns world).world := by
  have hexchange : t.exchange net fresh = (t.client.toExchange net).dryRun fresh := if_pos h
  have htracks := t.tracks_progress net fresh channel turns world
  rw [hexchange] at htracks
  rw [htracks.world_eq]
  exact Exchange.simulates_of_heard htracks.heard

end Trader

/-! ## No order is sent -/

/-- **A dry run never trades.**  Let the command line or the settings ask for a dry run, and let the
trader that the program starts with run any number of turns. The client has then heard all calls but the
submissions, one by one, and has given the replies to them; the submissions, each with its market, side,
quantity, price and name, are the orders that the dry run has kept, in order, and their names are all
different where fresh names are. Among the requests that were sent none is the request of an order. -/
theorem dryRun_never_submits {environmentPath? : Option String} {line : List String}
    (harguments : Arguments.parse environmentPath? line = .ok arguments)
    (htrader : (launch arguments document? vars).result = .ok trader)
    (hdry : "--dry-run" ∈ line ∨
      ∃ settings, Settings.load document? vars = .ok settings ∧ settings.exchange.dryRun = true)
    {ν : Type} (net : Network ν) (fresh : Nat → String) (channel : Channel) (turns : List Turn)
    (world : ν) :
    let p := trader.progress net fresh channel turns world
    DryRun.Simulates fresh (trader.client.toExchange net) ⟨world, []⟩ p.transcript p.world ∧
    p.world.submitted = simulatedIn p.transcript ∧
    (Function.Injective fresh → (p.world.submitted.map (·.id)).Nodup) ∧
    ∀ request ∈ (trader.progress net.recorded fresh channel turns (world, [])).world.inner.2,
      ¬ trader.client.OrderRequest net.recorded request := by
  have hisDryRun : trader.isDryRun = true := by
    obtain ⟨settings, hload, heq⟩ := isDryRun_of_launch htrader
    rw [heq, Bool.or_eq_true]
    rcases hdry with hline | ⟨settings', hload', hdry⟩
    · exact .inl (Arguments.dryRun_of_mem hline harguments)
    · obtain rfl := Except.ok.inj (hload.symm.trans hload')
      exact .inr hdry
  have hsimulates := Trader.simulates_progress net fresh channel turns world hisDryRun
  have hsubmitted := hsimulates.submitted_eq.trans (List.nil_append _)
  refine ⟨hsimulates, hsubmitted, fun hfresh => ?_, fun request hrequest => ?_⟩
  · rw [hsubmitted]
    exact hsimulates.nodup hfresh
  · -- the record is that of the reads
    have hrecorded :=
      Trader.simulates_progress net.recorded fresh channel turns (world, []) hisDryRun
    rw [hrecorded.inner_eq] at hrequest
    rcases Client.no_order_sent (fun _ => isSubmission_of_mem_reads) hrequest with h | h
    · cases h
    · exact h

/-! ## A simulated purchase -/

/-- Settings that do not ask for a dry run. -/
def sampleSettings : SettingDocument where
  name := none
  text := "[exchange]\nrest_url = \"http://[::1]\"\napi_key = \"key\"\napi_secret = \"secret\"\n" ++
    "[market]\nid = \"ltcbtc\"\nname = \"LTC/BTC\"\nbase_currency = \"LTC\"\n" ++
    "counter_currency = \"BTC\"\n[strategy.config]\ncounter-currency-buy-order-amount = \"1\"\n"

/-- A market that somebody sells and somebody buys in, and its latest price. -/
def sampleQuotes : String :=
  "\x7b\"timestamp\": \"0\", \"bids\": [[\"1\", \"1\"]], \"asks\": [[\"2\", \"1\"]], \"last\": \"1\"\x7d"

/-- One turn of a trader in that market. -/
def sampleTurn (t : Trader) : Strategy.Progress (DryRun Unit) :=
  t.progress (.steady sampleQuotes) toString ⟨false, false, false⟩ [⟨[], true⟩] ()

/-- With the option the trader buys, and the purchase is only taken note of. -/
theorem dryRun_never_submits_sample :
    ∃ arguments trader, Arguments.parse none ["--dry-run"] = .ok arguments ∧
      (launch arguments (some sampleSettings) []).result = .ok trader ∧
      (sampleTurn trader).world.submitted.map (·.side) = [.buy] ∧
      (sampleTurn trader).world.submitted = simulatedIn (sampleTurn trader).transcript := by
  let arguments : Arguments := ⟨"config.toml", none, true⟩
  have harguments : Arguments.parse none ["--dry-run"] = .ok arguments := by decide +kernel
  have hturn : (launch arguments (some sampleSettings) []).result.toOption.map (fun t =>
      (sampleTurn t).world.submitted.map (·.side)) = some [.buy] := by decide +kernel
  cases htrader : (launch arguments (some sampleSettings) []).result with
  | error report =>
    rw [htrader] at hturn
    cases hturn
  | ok trader =>
    rw [htrader] at hturn
    exact ⟨arguments, trader, harguments, htrader, Option.some.inj hturn,
      (dryRun_never_submits harguments htrader (.inl (List.mem_singleton_self _)) _ _ _ _ _).2.1⟩

end ScalpBot
