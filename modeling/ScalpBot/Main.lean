import ScalpBot.Program.DotEnv
import ScalpBot.Program.Launch
import ScalpBot.Text.Uuid
import ScalpBot.Engine
import Std.Time.DateTime.Timestamp

/-!
# The program

Reads the command line, the environment and the file with the settings, and runs trade cycles until one
fails for good. Connections are not part of this program: every request fails as it does on a machine
without a network, and a trade cycle that needs one is put off.
-/

namespace ScalpBot

/-- The present and the source of random numbers, as they were when the trade cycle began. -/
structure Moment where
  now : Instant
  random : StdGen

namespace Moment

/-- A fresh identifier. -/
def uuid (m : Moment) : Uuid × Moment :=
  let (bits, random) := randNat m.random 0 (2 ^ 128 - 1)
  (.ofRandom (BitVec.ofNat 128 bits), { m with random := random })

/-- A network that no request gets through. -/
def network : Bitstamp.Network Moment where
  send request m := (.error (.unreachable request.address.toText), m)
  nonce m := let (id, m) := m.uuid; (id.toText, m)
  now m := m.now

end Moment

/-- The present moment. -/
def Moment.current : IO Moment := do
  let now ← Std.Time.Timestamp.now
  return ⟨⟨now.toSecondsSinceUnixEpoch.toInt, 0⟩, mkStdGen (← IO.rand 0 (2 ^ 62))⟩

namespace Program

/-- The environment of the process. -/
def environment : IO Environment.Variables := do
  let bytes ← IO.FS.readBinFile "/proc/self/environ"
  let text := (String.fromUTF8? bytes).getD ""
  let entries := (text.toList.splitOn '\x00').filter (!·.isEmpty)
  return entries.map fun cs =>
    (String.ofList (cs.takeWhile (· ≠ '=')), String.ofList ((cs.dropWhile (· ≠ '=')).drop 1))

/-- The text of a file, if it can be read. -/
def readText? (path : String) : IO (Option String) := do
  try
    return some (← IO.FS.readFile path)
  catch _ => return none

/-- Writes the log line of a level, at once. -/
def log (limit level : LogLevel) (text : String) : IO Unit := do
  if limit.isShown level then
    IO.println (level.name ++ " " ++ text)
    (← IO.getStdout).flush

/-- Runs trade cycles until one fails for good. -/
partial def trade (limit : LogLevel) (t : Trader) (last : Option PlacedOrder)
    (submitted : List SimulatedOrder) : IO UInt32 := do
  let moment ← Moment.current
  let naming ← Moment.current
  let fresh (_ : Nat) : String := naming.uuid.1.toText
  let (result, progress) := t.strategy.advance (t.exchange Moment.network fresh)
    { last := last, world := ⟨moment, submitted⟩ }
  (LogLevel.ofCycle result).forM fun level => log limit level "trade cycle"
  match result with
  | .ok _ =>
    IO.sleep (t.intervalSeconds * 1000).toUInt32
    trade limit t progress.last progress.world.submitted
  | .error (.stopped cause) =>
    IO.eprint cause.report.toText
    return 1
  | .error (.overflowed cause) =>
    IO.eprintln cause.message
    return 101

/-- Runs the program. -/
def run (arguments : List String) : IO UInt32 := do
  let vars ← environment
  match Arguments.parse (vars.lookup Arguments.configVariable) arguments with
  | .error .help =>
    IO.print (Arguments.helpText (vars.lookup Arguments.configVariable))
    return 0
  | .error .version =>
    IO.print Arguments.versionText
    return 0
  | .error (.misuse mistake) =>
    IO.eprint mistake.message
    return 2
  | .ok arguments =>
    let vars := match ← readText? DotEnv.fileName with
      | some text => DotEnv.load text vars
      | none => vars
    let document? := match ← readText? arguments.configPath with
      | some text => SettingDocument.find? arguments.configPath [(arguments.configPath, text)]
      | none => none
    let launched := launch arguments document? vars
    launched.logged.forM fun level => log launched.limit level "start"
    match launched.result with
    | .ok trader => trade launched.limit trader none []
    | .error report =>
      IO.eprint report.toText
      return 1

end Program

end ScalpBot

def main (arguments : List String) : IO UInt32 := ScalpBot.Program.run arguments
