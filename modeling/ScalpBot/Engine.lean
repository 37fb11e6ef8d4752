import ScalpBot.Strategy.Outcome

/-!
# The trading engine

The engine runs a strategy once per tick of a clock until it is told to stop. It learns of that over a
`Channel` that holds a truth value, of which only the latest counts, and that may close. At each turn of
its loop a value not yet seen, or a closed channel, comes before a tick that is due; a trade cycle is
never interrupted. The first error of the strategy ends the run.
-/

namespace ScalpBot

/-! ## The shutdown channel -/

/-- What can happen to the channel. -/
inductive Signal where
  /-- A value is sent. -/
  | send (value : Bool)
  /-- Nobody is left to send. -/
  | close
deriving DecidableEq, Repr

/-- The receiving end of the channel. -/
structure Channel where
  /-- The latest value. -/
  value : Bool
  /-- Whether the latest value has been sent since the engine last looked. -/
  unseen : Bool := false
  /-- Whether nobody is left to send. -/
  closed : Bool := false
deriving DecidableEq, Repr

/-- The channel after a signal. A closed channel takes no more values. -/
def Channel.receive (c : Channel) : Signal → Channel
  | .send value => if c.closed then c else { c with value := value, unseen := true }
  | .close => { c with closed := true }

/-! ## Statistics -/

/-- What the cycles of a run came to. -/
structure EngineStats where
  cycles : Nat := 0
  ordersPlaced : Nat := 0
  holds : Nat := 0
  skipped : Nat := 0
  deferred : Nat := 0
deriving DecidableEq, Repr

/-- Counts one more cycle. -/
def EngineStats.record (stats : EngineStats) (outcome : Outcome) : EngineStats :=
  let stats := { stats with cycles := stats.cycles + 1 }
  match outcome with
  | .placed _ => { stats with ordersPlaced := stats.ordersPlaced + 1 }
  | .holding _ => { stats with holds := stats.holds + 1 }
  | .skipped _ => { stats with skipped := stats.skipped + 1 }
  | .deferred => { stats with deferred := stats.deferred + 1 }

/-! ## The loop -/

/-- One turn of the loop: the signals that came in since the turn before, and whether a tick is
due. -/
structure Turn where
  signals : List Signal
  tickDue : Bool

/-- Why the engine cannot start. -/
inductive StartError where
  /-- A clock needs time between its ticks. -/
  | zeroInterval
deriving DecidableEq, Repr

/-- The wording of the cause. -/
def StartError.message : StartError → String
  | zeroInterval => "`period` must be non-zero."

/-- How a run ended. -/
inductive RunEnd where
  /-- It was told to stop. -/
  | stopped (stats : EngineStats)
  /-- A cycle failed. -/
  | failed (cause : CycleFault)
deriving DecidableEq

/-- An engine at the start of a turn. `σ` is the state of the strategy. -/
structure Engine (σ : Type) where
  channel : Channel
  stats : EngineStats := {}
  strategy : σ
  /-- The results of the cycles so far, in order. -/
  results : List (Except CycleFault Outcome) := []
  /-- How the run ended, once it has. -/
  ended : Option RunEnd := none

namespace Engine

variable {σ : Type}

/-- An engine whose clock ticks every `interval` units of time. -/
def start (interval : Nat) (channel : Channel) (strategy : σ) : Except StartError (Engine σ) :=
  if interval = 0 then .error .zeroInterval
  else .ok { channel := channel, strategy := strategy }

/-- Looks at the channel. -/
def look (e : Engine σ) : Engine σ :=
  if e.channel.unseen && !e.channel.value then
    { e with channel := { e.channel with unseen := false } }
  else { e with ended := some (.stopped e.stats) }

/-- Runs one trade cycle. -/
def runCycle (execute : σ → Except CycleFault Outcome × σ) (e : Engine σ) : Engine σ :=
  let (result, strategy) := execute e.strategy
  let e := { e with strategy := strategy, results := e.results ++ [result] }
  match result with
  | .ok outcome => { e with stats := e.stats.record outcome }
  | .error cause => { e with ended := some (.failed cause) }

/-- One turn of the loop. -/
def turn (execute : σ → Except CycleFault Outcome × σ) (e : Engine σ) (t : Turn) : Engine σ :=
  if e.ended.isSome then e
  else
    let e := { e with channel := t.signals.foldl Channel.receive e.channel }
    if e.channel.unseen || e.channel.closed then e.look
    else if t.tickDue then e.runCycle execute
    else e

/-- The engine after these turns. -/
def run (execute : σ → Except CycleFault Outcome × σ) (e : Engine σ) (turns : List Turn) :
    Engine σ :=
  turns.foldl (turn execute) e

end Engine

end ScalpBot
