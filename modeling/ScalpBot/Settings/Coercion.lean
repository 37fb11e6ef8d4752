import ScalpBot.Settings.Tree
import ScalpBot.Json.Decode

/-!
# Reading setting trees

Sources know few types, an environment variable only text, so a setting is read generously: a truth
value from words and numbers, a number from words, and a text from any scalar. `SettingTree.format` holds
these rules; a `SettingError` tells where a value that does not fit stands and where it came from.
-/

namespace ScalpBot

/-- Why a setting does not fit. -/
inductive SettingError where
  /-- A scalar that cannot be read as what is expected. The key leads to it from the value that was
  read. -/
  | unsuitable (found expected : String) (key : Option String) (origin : Option String)
  /-- A setting of the wrong shape, or none. -/
  | misshapen (cause : DecodeError)
deriving DecidableEq, Repr

namespace SettingError

/-- The wording of the cause. -/
def message : SettingError → String
  | unsuitable found expected key origin =>
    let keyText := match key with
      | some key => " for key `" ++ key ++ "`"
      | none => ""
    let originText := match origin with
      | some origin => " in " ++ origin
      | none => ""
    "invalid type: " ++ found ++ ", expected " ++ expected ++ keyText ++ originText
  | misshapen cause => cause.message

/-- The key of something inside a member: a point stands between two names. -/
def underName (name : String) : Option String → String
  | none => name
  | some key => if key.isEmpty || key.startsWith "[" then name ++ key else name ++ "." ++ key

/-- The error told from outside, where `outer` extends the key. -/
def outside (outer : Option String → String) : SettingError → SettingError
  | unsuitable found expected key origin => unsuitable found expected (some (outer key)) origin
  | misshapen cause => misshapen cause

instance : RecordError SettingError where
  missingField name := misshapen (.missingField name)
  invalidLength count expected := misshapen (.invalidLength count expected)
  atMember name := outside (underName name)
  atItem index := outside fun key => "[" ++ toString index ++ "]" ++ key.getD ""

end SettingError

namespace SettingTree

/-- A reader of settings of one type. -/
abbrev Reader (α : Type) := SettingTree → Except SettingError α

/-- How diagnostics name a value that is no suitable scalar. -/
def description : SettingTree → String
  | scalar _ .nothing => "unit value"
  | scalar _ (.boolean b) => "boolean `" ++ toString b ++ "`"
  | scalar _ (.integer n) => "64-bit integer `" ++ toString n ++ "`"
  | scalar _ (.float x) => "floating point `" ++ x.toText .plain ++ "`"
  | scalar _ (.text s) => "string " ++ quoted s
  | list _ _ => "sequence"
  | table _ _ => "map"

/-- How diagnostics name a value of the wrong shape. -/
def shapeDescription : SettingTree → String
  | scalar _ (.integer n) => "integer `" ++ toString n ++ "`"
  | scalar _ (.float x) => "floating point `" ++ x.toText .pointed ++ "`"
  | v => v.description

/-- Where a value came from. -/
def origin : SettingTree → Option String
  | scalar origin _ | list origin _ | table origin _ => origin

/-- The refusal of a value as a scalar. -/
def unsuitable {α : Type} (v : SettingTree) (expected : String) : Except SettingError α :=
  .error (.unsuitable v.description expected none v.origin)

/-- The refusal of a value for its shape. -/
def misshapen {α : Type} (v : SettingTree) (expected : String) : Except SettingError α :=
  .error (.misshapen (.invalidType v.shapeDescription expected))

/-- Reads a text from any scalar. -/
def readString : Reader String
  | scalar _ (.text s) => .ok s
  | scalar _ (.boolean b) => .ok (toString b)
  | scalar _ (.integer n) => .ok (toString n)
  | scalar _ (.float x) => .ok (x.toText .plain)
  | v => v.unsuitable "a string"

/-- Reads a truth value from a word in any case, or from a number that is not zero. -/
def readTruth : Reader Bool
  | scalar _ (.boolean b) => .ok b
  | scalar _ (.integer n) => .ok (n ≠ 0)
  | scalar _ (.float x) => .ok (!x.isZero)
  | scalar origin (.text s) =>
    let word := lowerCase s
    if word ∈ ["1", "true", "on", "yes"] then .ok true
    else if word ∈ ["0", "false", "off", "no"] then .ok false
    else (scalar origin (.text word)).unsuitable "a boolean"
  | v => v.unsuitable "a boolean"

/-- Reads a natural number of 64 bits; a float is rounded, a half away from zero. -/
def readNatural : Reader Nat
  | scalar origin (.integer n) =>
    if 0 ≤ n then .ok n.toNat
    else (scalar origin (.integer n)).unsuitable "an unsigned 64 bit or less integer"
  | scalar _ (.boolean b) => .ok b.toNat
  | scalar _ (.float x) => .ok (x.roundToNat (2 ^ 64 - 1))
  | scalar origin (.text s) =>
    let word := lowerCase s
    if word ∈ ["true", "on", "yes"] then .ok 1
    else if word ∈ ["false", "off", "no"] then .ok 0
    else
      match readNatBelow (2 ^ 64) s.toList with
      | some n => .ok n
      | none => (scalar origin (.text s)).unsuitable "an integer"
  | v => v.unsuitable "an integer"

/-- Reads a natural number of so many bits. -/
def readWord (bits : Nat) : Reader Nat := fun v => do
  let n ← readNatural v
  if n < 2 ^ bits then return n
  .error (.unsuitable ("64-bit unsigned integer `" ++ toString n ++ "`")
    ("an unsigned " ++ toString bits ++ " bit integer") none none)

/-- Reads a value or its absence. -/
def readOption {α : Type} (read : Reader α) : Reader (Option α)
  | scalar _ .nothing => .ok none
  | v => (read v).map some

/-- Reads the items of a list from the one at `index`. -/
def readItems {α : Type} (read : Reader α) : (index : Nat) → List SettingTree →
    Except SettingError (List α)
  | _, [] => .ok []
  | index, v :: rest => do
    let a ← (read v).mapError (RecordError.atItem index)
    return a :: (← readItems read (index + 1) rest)

/-- Reads a list of values of one type. -/
def readList {α : Type} (read : Reader α) : Reader (List α)
  | list _ items => readItems read 0 items
  | v => v.misshapen "a sequence"

/-- Reads a table whose members are of one type. -/
def readDictionary {α : Type} (read : Reader α) : Reader (List (String × α))
  | table _ ms => ms.mapM fun (name, v) => do
    return (name, ← (read v).mapError (RecordError.atMember name))
  | v => v.misshapen "a map"

/-- Reads a record from a table, or from a list that may go on after the fields. -/
def readRecord {α : Type} (kind : String) (fields : Fields SettingTree SettingError α) : Reader α
  | table _ ms => fields.readMembers ms
  | list _ items => do
    let (a, _) ← fields.ofItems (fields.expectation ("struct " ++ kind)) items
    return a
  | v => v.misshapen ("struct " ++ kind)

/-- The readers of settings. -/
def format : Format SettingTree SettingError where
  string := readString
  truth := readTruth
  word := readWord
  optional := readOption
  list := readList
  dictionary := readDictionary
  record := readRecord

end SettingTree

end ScalpBot
