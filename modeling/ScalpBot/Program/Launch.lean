import ScalpBot.Bitstamp.Client
import ScalpBot.Exchange.DryRun
import ScalpBot.Program.Arguments
import ScalpBot.Program.Log
import ScalpBot.Settings.Load
import ScalpBot.Strategy.Scalping

/-!
# Starting the program

From the command line and the settings to a `Trader`, which holds all that trading takes: the client, the
strategy, how often to run it, and whether orders are sent. `launch` gives the trader or a `Report` of what
went wrong, and the levels of the log lines on the way.
-/

namespace ScalpBot

/-! ## Reports -/

/-- What the program says when it gives up. -/
structure Report where
  /-- What it failed at. -/
  headline : String
  /-- The causes, the nearest first. -/
  causes : List String
deriving DecidableEq, Repr

namespace Report

/-- The text of a cause: its lines go on under its first. -/
def causeText (first later text : String) : String :=
  first ++ ("\n" ++ later).intercalate ((text.toList.splitOn '\n').map String.ofList)

/-- The number in front of a cause. -/
def number (n : Nat) : String :=
  let digits := toString n
  String.ofList (List.replicate (5 - digits.length) ' ') ++ digits ++ ": "

/-- The causes in lines of their own, numbered if there are several. -/
def causeLines : List String → List String
  | [only] => [causeText "    " "    " only]
  | causes => causes.zipIdx.map fun (cause, n) => causeText (number n) "       " cause

/-- The text of a report. -/
def toText (r : Report) : String :=
  "Error: " ++ r.headline ++ "\n" ++
    if r.causes.isEmpty then ""
    else "\nCaused by:\n" ++ String.join ((causeLines r.causes).map (· ++ "\n"))

end Report

/-- The causes behind a failure of the exchange, and the failure itself. -/
def Failure.chain (f : Failure) : List String :=
  match f with
  | .jsonParse cause => [f.message, cause.message]
  | _ => [f.message]

/-- The causes behind settings that cannot be loaded, and the error itself. -/
def SettingsError.chain (e : SettingsError) : List String :=
  match e with
  | .unfit cause => [e.message, cause.message]
  | _ => [e.message]

/-- The report of a strategy that stopped. -/
def StrategyError.report (e : StrategyError) : Report :=
  match e with
  | .configuration _ => ⟨e.message, []⟩
  | .exchange cause => ⟨e.message, cause.chain⟩

/-! ## Traders -/

/-- All that trading takes. -/
structure Trader where
  client : Bitstamp.Client
  strategy : Strategy
  /-- Whether orders are only taken note of. -/
  isDryRun : Bool
  intervalSeconds : Nat

/-- The exchange that a trader deals with. `fresh` names the orders of a dry run. -/
def Trader.exchange {ν : Type} (t : Trader) (net : Bitstamp.Network ν) (fresh : Nat → String) :
    Exchange (DryRun ν) :=
  if t.isDryRun then (t.client.toExchange net).dryRun fresh else (t.client.toExchange net).live

/-- What the start of the program came to. -/
structure Launch where
  /-- Which log lines are shown. -/
  limit : LogLevel
  /-- The levels of the log lines, in order. -/
  logged : List LogLevel
  result : Except Report Trader

/-- Starts with these settings. -/
def launchWith (arguments : Arguments) (settings : Settings) : Launch :=
  let limit := LogLevel.ofName (arguments.logLevel.getD settings.engine.logLevel)
  match Bitstamp.Client.ofSettings settings.exchange with
  | .error cause => ⟨limit, [.info], .error ⟨"Failed to create exchange client", cause.chain⟩⟩
  | .ok client =>
    let isDryRun := arguments.dryRun || settings.exchange.dryRun
    let logged := if isDryRun then [.info, .warn] else [.info]
    match Strategy.init settings.market fun key => settings.strategy.config.lookup key with
    | .error cause =>
      ⟨limit, logged, .error ⟨"Failed to initialise trading strategy",
        [(StrategyError.configuration cause.message).message]⟩⟩
    | .ok strategy =>
      ⟨limit, logged,
        .ok ⟨client, strategy, isDryRun, settings.engine.tradeCycleIntervalSeconds⟩⟩

/-- Starts with the settings in a document, if there is one, and the environment. -/
def launch (arguments : Arguments) (document? : Option SettingDocument)
    (vars : Environment.Variables) : Launch :=
  match Settings.load document? vars with
  | .ok settings => launchWith arguments settings
  | .error cause =>
    ⟨.info, [], .error
      ⟨"Failed to load configuration from " ++ arguments.configPath, cause.chain⟩⟩

/-- The levels of the log lines that are shown, each once. -/
def shownLevels (limit : LogLevel) (logged : List LogLevel) : List LogLevel :=
  (logged.filter limit.isShown).eraseDups

end ScalpBot
