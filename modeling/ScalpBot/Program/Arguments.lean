import ScalpBot.Text.Similarity

/-!
# The command line

The program takes options only. An option may be followed by its value, or have it attached; each may be
given once. `Arguments.parse` reads a command line: it gives the arguments, or says why the program stops
at once, be it to tell about itself or because of a mistake (`UsageError`).
-/

namespace ScalpBot

/-- An option. -/
inductive Switch where
  | config
  | logLevel
  | dryRun
  | help
  | version
deriving DecidableEq, Repr

namespace Switch

/-- All options, in the order in which they are listed. -/
def all : List Switch := [config, logLevel, dryRun, help, version]

/-- The name after two hyphens. -/
def word : Switch → String
  | config => "config"
  | logLevel => "log-level"
  | dryRun => "dry-run"
  | help => "help"
  | version => "version"

/-- The letter after one hyphen. -/
def letter? : Switch → Option Char
  | config => some 'c'
  | help => some 'h'
  | version => some 'V'
  | logLevel | dryRun => none

/-- What the value is called, for an option that has one. -/
def valueName? : Switch → Option String
  | config => some "CONFIG"
  | logLevel => some "LOG_LEVEL"
  | dryRun | help | version => none

/-- The option as it is shown. -/
def shown (s : Switch) : String :=
  match s.valueName? with
  | some value => "--" ++ s.word ++ " <" ++ value ++ ">"
  | none => "--" ++ s.word

/-- The option with a name. -/
def ofWord? (word : String) : Option Switch := all.find? (·.word = word)

/-- The option with a letter. -/
def ofLetter? (letter : Char) : Option Switch := all.find? (·.letter? = some letter)

/-- The option that somebody may have meant by a name. -/
def meant? (word : String) : Option Switch :=
  (mostSimilar? word (all.map Switch.word)).bind ofWord?

end Switch

/-! ## Mistakes -/

/-- A mistake on the command line. -/
inductive UsageError where
  /-- There is no such argument. `similar` is an option of a similar name; `given` are the options
  before it. -/
  | unexpected (argument : String) (similar : Option Switch) (given : List Switch)
  | missingValue (switch : Switch)
  | repeated (switch : Switch)
  /-- An option that has no value got one. `given` are the options before it. -/
  | unexpectedValue (value : String) (switch : Switch) (given : List Switch)
deriving DecidableEq, Repr

namespace UsageError

/-- How to use the program with some options. -/
def usage (switches : List Switch) : String :=
  "Usage: scalper " ++
    (if switches.isEmpty then "[OPTIONS]" else " ".intercalate (switches.map Switch.shown))

/-- The paragraphs about a mistake. -/
def paragraphs : UsageError → List String
  | unexpected argument none given =>
    ["unexpected argument '" ++ argument ++ "' found", usage given]
  | unexpected argument (some similar) given =>
    ["unexpected argument '" ++ argument ++ "' found",
      "  tip: a similar argument exists: '--" ++ similar.word ++ "'",
      usage (if given.contains similar then given else given ++ [similar])]
  | missingValue switch =>
    ["a value is required for '" ++ switch.shown ++ "' but none was supplied"]
  | repeated switch =>
    ["the argument '" ++ switch.shown ++ "' cannot be used multiple times", usage []]
  | unexpectedValue value switch given =>
    ["unexpected value '" ++ value ++ "' for '" ++ switch.shown
        ++ "' found; no more were expected",
      usage (given ++ [switch])]

/-- What the program says about a mistake. -/
def message (e : UsageError) : String :=
  "error: " ++ "\n\n".intercalate (e.paragraphs ++ ["For more information, try '--help'."]) ++ "\n"

end UsageError

/-! ## Reading -/

/-- The arguments of the program. -/
structure Arguments where
  /-- The path of the file with the settings. -/
  configPath : String
  /-- The name of a log level, which outdoes the one in the settings. -/
  logLevel : Option String
  dryRun : Bool
deriving DecidableEq, Repr

namespace Arguments

/-- The path of the file with the settings, where nothing says otherwise. -/
def defaultConfigPath : String := "config.toml"

/-- The environment variable that may hold the path. -/
def configVariable : String := "SCALPER_CONFIG"

/-- Why the program stops at its command line. -/
inductive Stop where
  | help
  | version
  | misuse (mistake : UsageError)
deriving DecidableEq, Repr

/-- An argument by its form. -/
inductive Word where
  /-- Two hyphens: no more options follow. -/
  | hyphens
  /-- A name after two hyphens, with what follows the first `=`. -/
  | long (name : String) (value : Option String)
  /-- A letter after a hyphen, with what follows it. -/
  | short (letter : Char) (attached : List Char)
  | plain (text : String)

/-- The form of an argument. -/
def Word.ofText (text : String) : Word :=
  match text.toList with
  | ['-', '-'] => hyphens
  | '-' :: '-' :: cs =>
    long (String.ofList (cs.takeWhile (· ≠ '=')))
      (match cs.dropWhile (· ≠ '=') with
        | _ :: value => some (String.ofList value)
        | [] => none)
  | '-' :: letter :: attached => short letter attached
  | _ => plain text

/-- The value in what follows a letter. -/
def attachedValue? : List Char → Option String
  | [] => none
  | '=' :: value => some (String.ofList value)
  | value => some (String.ofList value)

/-- What has been read of a command line. -/
structure Reading where
  /-- The options that are settled, in order, with their values. -/
  given : List (Switch × String) := []
  /-- An option that waits for its value, or has one and is not settled yet. -/
  pending : Option (Switch × Option String) := none

namespace Reading

/-- The options that are settled. -/
def switches (r : Reading) : List Switch := r.given.map (·.1)

/-- Settles the option that is pending. -/
def settle (r : Reading) : Except UsageError Reading :=
  match r.pending with
  | none => .ok r
  | some (s, none) => .error (.missingValue s)
  | some (s, some value) =>
    if r.switches.contains s then .error (.repeated s)
    else .ok ⟨r.given ++ [(s, value)], none⟩

/-- Settles the option that is pending, or stops. -/
def settleOrStop (r : Reading) : Except Stop Reading := r.settle.mapError .misuse

/-- The options that would be settled if the command line ended here. -/
def settledSwitches (r : Reading) : List Switch :=
  match r.settle with
  | .ok r => r.switches
  | .error (.repeated s) => r.switches.filter (· ≠ s)
  | .error _ => r.switches

/-- Takes an option with the value that is attached to it. -/
def take (r : Reading) (s : Switch) (value : Option String) : Except Stop Reading := do
  match s.valueName?, value with
  | none, some value => .error (.misuse (.unexpectedValue value s r.switches))
  | some _, none =>
    let r ← r.settleOrStop
    return { r with pending := some (s, none) }
  | _, _ =>
    let r ← r.settleOrStop
    match s with
    | .help => .error .help
    | .version => .error .version
    | s => Reading.settleOrStop { r with pending := some (s, some (value.getD "true")) }

/-- Takes an argument. -/
def step (r : Reading) : Word → Except Stop Reading
  | .hyphens => .ok r
  | .long name value =>
    match Switch.ofWord? name with
    | some s => r.take s value
    | none =>
      .error (.misuse (.unexpected ("--" ++ name) (Switch.meant? name) r.settledSwitches))
  | .short letter attached =>
    match Switch.ofLetter? letter with
    | some s => r.take s (if s.valueName?.isSome then attachedValue? attached else none)
    | none => .error (.misuse (.unexpected ("-" ++ String.singleton letter) none []))
  | .plain text =>
    match r.pending with
    | some (s, none) => .ok { r with pending := some (s, some text) }
    | _ => .error (.misuse (.unexpected text none []))

/-- Takes all arguments. After two hyphens there may be none. -/
def readAll (r : Reading) : List String → Except Stop Reading
  | [] => r.settleOrStop
  | text :: rest =>
    match Word.ofText text, rest with
    | .hyphens, [] => r.settleOrStop
    | .hyphens, extra :: _ => .error (.misuse (.unexpected extra none []))
    | word, rest => do (← r.step word).readAll rest

end Reading

/-- Reads a command line. `environmentPath?` is the value of `configVariable`. -/
def parse (environmentPath? : Option String) (arguments : List String) : Except Stop Arguments := do
  let r ← ({} : Reading).readAll arguments
  return { configPath := (r.given.lookup .config).getD (environmentPath?.getD defaultConfigPath)
           logLevel := r.given.lookup .logLevel
           dryRun := (r.given.lookup .dryRun).isSome }

/-! ## What the program tells about itself -/

/-- The name and the version. -/
def versionText : String := "scalper 0.1.0\n"

/-- What an option is for. -/
def purpose (environmentPath? : Option String) : Switch → String
  | .config =>
    "Path to configuration file [env: " ++ configVariable ++ "=" ++ environmentPath?.getD ""
      ++ "] [default: " ++ defaultConfigPath ++ "]"
  | .logLevel => "Log level (trace, debug, info, warn, error), overrides engine.log_level"
  | .dryRun => "Log orders instead of sending them"
  | .help => "Print help"
  | .version => "Print version"

/-- The line about an option; all purposes begin in one column. -/
def helpLine (environmentPath? : Option String) (s : Switch) : String :=
  let letter := match s.letter? with
    | some c => "  -" ++ String.singleton c ++ ", "
    | none => "      "
  let width := (Switch.all.map fun s => s.shown.length).foldl max 0
  letter ++ s.shown ++ String.ofList (List.replicate (width - s.shown.length + 2) ' ')
    ++ purpose environmentPath? s ++ "\n"

/-- What the program is for and which options it has. -/
def helpText (environmentPath? : Option String) : String :=
  "A single-market scalping bot that buys at the bid and resells at a fee-adjusted profit\n\n"
    ++ UsageError.usage [] ++ "\n\nOptions:\n"
    ++ String.join (Switch.all.map (helpLine environmentPath?))

end Arguments

end ScalpBot
