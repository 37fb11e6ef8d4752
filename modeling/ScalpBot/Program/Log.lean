import ScalpBot.Strategy.Outcome
import ScalpBot.Text.Case

/-!
# Log levels

What the program does is logged at one of five levels; a limit says down to which level log lines are
shown.
-/

namespace ScalpBot

/-- How much a log line matters. -/
inductive LogLevel where
  | error
  | warn
  | info
  | debug
  | trace
deriving DecidableEq, Repr

namespace LogLevel

/-- The level as it is shown. -/
def name : LogLevel → String
  | error => "ERROR"
  | warn => "WARN"
  | info => "INFO"
  | debug => "DEBUG"
  | trace => "TRACE"

/-- The place of a level, from what matters most. -/
def rank : LogLevel → Nat
  | error => 0
  | warn => 1
  | info => 2
  | debug => 3
  | trace => 4

/-- The level with a name, in upper or lower case; `info` for all that names none. -/
def ofName (text : String) : LogLevel :=
  match lowerCase text with
  | "error" => error
  | "warn" => warn
  | "debug" => debug
  | "trace" => trace
  | _ => info

/-- Whether a line of a level is shown under a limit. -/
def isShown (limit level : LogLevel) : Bool := level.rank ≤ limit.rank

/-- The levels at which a trade cycle with this result is logged. -/
def ofCycle : Except CycleFault Outcome → List LogLevel
  | .ok (.skipped _) => [debug, info, warn]
  | .ok .deferred => [debug, info, error]
  | .ok (.holding (.sellNotFilled .aboveOurAsk)) => [debug, info, error]
  | .ok _ => [debug, info]
  | .error _ => [debug, info, error]

end LogLevel

end ScalpBot
