import ScalpBot.Market.Basic
import ScalpBot.Bitstamp.Signature
import ScalpBot.Text.Blank

/-!
# Settings

What the bot is told: how to reach the exchange, which market to trade, which strategy to follow and
how often. `Settings.validate` refuses settings that the bot cannot start with.
-/

namespace ScalpBot

/-- How the exchange is reached. -/
structure ExchangeSettings where
  /-- The name shown in logs. -/
  name : String := "bitstamp"
  apiKey : Option String := none
  apiSecret : Option String := none
  /-- The address that all paths are put behind. -/
  restUrl : String := "https://www.bitstamp.net"
  requestTimeoutSeconds : Nat := 30
  /-- The statuses that count as network errors. -/
  nonFatalErrorCodes : List Nat := [502, 503, 504, 520, 522, 525]
  /-- The parts of messages that mark network errors. -/
  nonFatalErrorMessages : List String :=
    ["Connection reset", "Connection refused", "Remote host closed connection during handshake"]
  /-- Whether orders are only logged. -/
  dryRun : Bool := false
deriving DecidableEq, Repr

/-- The credentials, where the key and the secret are given. -/
def ExchangeSettings.credentials (s : ExchangeSettings) : Option Bitstamp.Credentials :=
  Bitstamp.Credentials.ofSettings s.apiKey s.apiSecret

/-- Which strategy is followed. -/
structure StrategySettings where
  name : String := "scalping"
  /-- The strategy's own settings, in the order of their names. -/
  config : List (String × String) := []
deriving DecidableEq, Repr

/-- How often a trade cycle is run, and what is logged. -/
structure EngineSettings where
  tradeCycleIntervalSeconds : Nat := 60
  logLevel : String := "info"
deriving DecidableEq, Repr

/-- All settings. -/
structure Settings where
  exchange : ExchangeSettings
  market : Market
  strategy : StrategySettings
  engine : EngineSettings
deriving DecidableEq, Repr

/-- Why the bot cannot start with its settings. -/
inductive InvalidSettings where
  | emptyMarketId
  | zeroInterval
  | missingCredentials
deriving DecidableEq, Repr

/-- The wording of the cause. -/
def InvalidSettings.message : InvalidSettings → String
  | emptyMarketId => "market.id must not be empty"
  | zeroInterval => "engine.trade_cycle_interval_seconds must be greater than zero"
  | missingCredentials => "exchange.api_key and exchange.api_secret are required"

/-- The settings, unless the bot cannot start with them. -/
def Settings.validate (s : Settings) : Except InvalidSettings Settings :=
  if s.market.id.toList.all isBlank then .error .emptyMarketId
  else if s.engine.tradeCycleIntervalSeconds = 0 then .error .zeroInterval
  else if s.exchange.credentials.isNone then .error .missingCredentials
  else .ok s

end ScalpBot
