import ScalpBot.Settings.Coercion
import ScalpBot.Settings.Shape
import ScalpBot.Toml.Document

/-!
# Loading settings

Settings are a TOML document under the environment: a variable whose name begins with `APP__` sets the
value at the path that the rest of its name spells, with `__` between the levels. Names of settings do
not distinguish upper and lower case.

Of the files with settings, those whose names end in `.toml` are modelled. The bot also takes other formats,
told by their suffixes, and where its path leads to no file it tries the path with each of the suffixes; both
are left out.
-/

namespace ScalpBot

namespace Environment

/-- The variables of a process: names and values. -/
abbrev Variables := List (String × String)

/-- What the names of settings begin with, in lower case. -/
def marker : List Char := "app__".toList

/-- What diagnostics call the environment. -/
def origin : String := "the environment"

/-- The text with a point for every `__`. -/
def pointed : List Char → List Char
  | '_' :: '_' :: rest => '.' :: pointed rest
  | c :: rest => c :: pointed rest
  | [] => []

/-- The name of the setting that a variable sets. -/
def settingName? (name : String) : Option String :=
  let name := (lowerCase name).toList
  if marker.isPrefixOf name then some (String.ofList (pointed (name.drop marker.length)))
  else none

/-- An integer of 64 bits, perhaps with a sign. -/
def integer? (text : String) : Option Int :=
  match text.toList with
  | '-' :: rest =>
    if rest.head? = some '+' then none
    else (readNatBelow (2 ^ 63 + 1) rest).map fun n => -(n : Int)
  | cs => (readNatBelow (2 ^ 63) cs).map Int.ofNat

/-- The value of a variable: a truth value, a number, or else the text itself. -/
def scalarOf (text : String) : SettingScalar :=
  let word := lowerCase text
  if word = "true" then .boolean true
  else if word = "false" then .boolean false
  else
    match integer? text with
    | some n => .integer n
    | none =>
      match Binary64.parse text with
      | some x => .float x
      | none => .text text

/-- The settings in an environment, in the order of their names. -/
def settings (vars : Variables) : List (String × SettingTree) :=
  vars.foldl (fun acc v =>
    match settingName? v.1 with
    | some name => Json.insertMember name (.scalar (some origin) (scalarOf v.2)) acc
    | none => acc) []

end Environment

/-- A document with settings, and the name of its file if it has one. -/
structure SettingDocument where
  name : Option String
  text : String

/-- Why there are no settings. -/
inductive SettingsError where
  /-- The document is no TOML. What is wrong with it is not told. -/
  | malformed
  /-- A setting does not fit. -/
  | unfit (cause : SettingError)
  /-- The bot cannot start with the settings. -/
  | invalid (cause : InvalidSettings)
deriving DecidableEq, Repr

/-- The wording of the cause. -/
def SettingsError.message : SettingsError → String
  | malformed => "<malformed>"
  | unfit cause => "Failed to load configuration: " ++ cause.message
  | invalid cause => "Invalid configuration: " ++ cause.message

namespace Settings

/-- The entries of a document, or of none. -/
def documentEntries (document? : Option SettingDocument) :
    Except SettingsError (List (String × SettingTree)) :=
  match document? with
  | none => .ok []
  | some document =>
    match Toml.parse document.text with
    | some entries => .ok (SettingTree.ofTomlEntries document.name entries)
    | none => .error .malformed

/-- The document under the environment, as one tree. -/
def tree (entries : List (String × SettingTree)) (vars : Environment.Variables) :
    SettingTree :=
  SettingTree.overlay (Environment.settings vars)
    (SettingTree.overlay entries .emptyTable)

/-- Loads settings from a document, if there is one, and the environment. The document is TOML; the bot's other
formats of settings are left out. -/
def load (document? : Option SettingDocument) (vars : Environment.Variables) :
    Except SettingsError Settings := do
  let entries ← documentEntries document?
  let settings ← (read SettingTree.format (tree entries vars)).mapError .unfit
  settings.validate.mapError .invalid

end Settings

/-! ## Files -/

namespace SettingDocument

/-- The parts of a path without those that change nothing. -/
def pathParts (path : String) : List String :=
  ((path.toList.splitOn '/').map String.ofList).filter fun part => part ≠ "" && part ≠ "."

/-- A path in its normal form. -/
def normalPath (path : String) : String := "/".intercalate (pathParts path)

/-- Whether a name ends in `.toml` after at least one character of its last part. -/
def namesToml (path : String) : Bool :=
  match (pathParts path).getLast? with
  | some last => last.endsWith ".toml" && last ≠ ".toml"
  | none => false

/-- The document at `path` among the files of a directory. A file that is no TOML document by its name
is passed over, and so is a path where nothing is. Left out are files in the bot's other formats, such as
`.json` and `.yaml`, and a file that only the path with another suffix names: for these there is no document
here. -/
def find? (path : String) (files : List (String × String)) : Option SettingDocument :=
  let name := normalPath path
  if namesToml path then
    match files.find? fun f => normalPath f.1 = name with
    | some file => some ⟨some name, file.2⟩
    | none => none
  else none

end SettingDocument

end ScalpBot
