import ScalpBot.Settings.Basic
import ScalpBot.Market.Json

/-!
# The shape of settings

How settings are read from any data language, and written as JSON. What is left out has the default of
its type; the exchange and the market cannot be left out.
-/

namespace ScalpBot

variable {V ε : Type} [RecordError ε]

namespace ExchangeSettings

/-- The fields of the exchange's settings. -/
def fields (f : Format V ε) : Fields V ε ExchangeSettings :=
  let default : ExchangeSettings := {}
  Fields.start ExchangeSettings.mk
    |>.field (.withDefault "name" default.name f.string)
    |>.field (.optional f "api_key" f.string)
    |>.field (.optional f "api_secret" f.string)
    |>.field (.withDefault "rest_url" default.restUrl f.string)
    |>.field (.withDefault "request_timeout_seconds" default.requestTimeoutSeconds (f.word 64))
    |>.field (.withDefault "non_fatal_error_codes" default.nonFatalErrorCodes
        (f.list (f.word 16)))
    |>.field (.withDefault "non_fatal_error_messages" default.nonFatalErrorMessages
        (f.list f.string))
    |>.field (.withDefault "dry_run" default.dryRun f.truth)

/-- Reads the exchange's settings. -/
def read (f : Format V ε) : V → Except ε ExchangeSettings := f.record "ExchangeConfig" (fields f)

/-- The exchange's settings as an object. -/
def toJson (s : ExchangeSettings) : Json :=
  .ofMembers [("name", .string s.name), ("api_key", .ofOption Json.string s.apiKey),
    ("api_secret", .ofOption Json.string s.apiSecret), ("rest_url", .string s.restUrl),
    ("request_timeout_seconds", .ofInt s.requestTimeoutSeconds),
    ("non_fatal_error_codes", .array (s.nonFatalErrorCodes.map fun (n : Nat) => Json.ofInt n)),
    ("non_fatal_error_messages", .array (s.nonFatalErrorMessages.map .string)),
    ("dry_run", .bool s.dryRun)]

end ExchangeSettings

namespace StrategySettings

/-- The fields of the strategy's settings. -/
def fields (f : Format V ε) : Fields V ε StrategySettings :=
  let default : StrategySettings := {}
  Fields.start StrategySettings.mk
    |>.field (.withDefault "name" default.name f.string)
    |>.field (.withDefault "config" default.config (f.dictionary f.string))

/-- Reads the strategy's settings. -/
def read (f : Format V ε) : V → Except ε StrategySettings :=
  f.record "StrategySettings" (fields f)

/-- The strategy's settings as an object. -/
def toJson (s : StrategySettings) : Json :=
  .ofMembers [("name", .string s.name),
    ("config", .ofMembers (s.config.map fun p => (p.1, .string p.2)))]

end StrategySettings

namespace EngineSettings

/-- The fields of the engine's settings. -/
def fields (f : Format V ε) : Fields V ε EngineSettings :=
  let default : EngineSettings := {}
  Fields.start EngineSettings.mk
    |>.field (.withDefault "trade_cycle_interval_seconds" default.tradeCycleIntervalSeconds
        (f.word 64))
    |>.field (.withDefault "log_level" default.logLevel f.string)

/-- Reads the engine's settings. -/
def read (f : Format V ε) : V → Except ε EngineSettings := f.record "EngineSettings" (fields f)

/-- The engine's settings as an object. -/
def toJson (s : EngineSettings) : Json :=
  .ofMembers [("trade_cycle_interval_seconds", .ofInt s.tradeCycleIntervalSeconds),
    ("log_level", .string s.logLevel)]

end EngineSettings

namespace Settings

/-- The fields of all settings. -/
def fields (f : Format V ε) : Fields V ε Settings :=
  Fields.start Settings.mk
    |>.field (.required "exchange" (ExchangeSettings.read f))
    |>.field (.required "market" (Market.read f))
    |>.field (.withDefault "strategy" {} (StrategySettings.read f))
    |>.field (.withDefault "engine" {} (EngineSettings.read f))

/-- Reads all settings. -/
def read (f : Format V ε) : V → Except ε Settings := f.record "AppConfig" (fields f)

/-- All settings as an object. -/
def toJson (s : Settings) : Json :=
  .ofMembers [("exchange", s.exchange.toJson), ("market", s.market.toJson),
    ("strategy", s.strategy.toJson), ("engine", s.engine.toJson)]

end Settings

end ScalpBot
