import ScalpBot.Json.Reader
import ScalpBot.Binary64.Text
import ScalpBot.Text.Quoted
import ScalpBot.Record

/-!
# Decoding JSON values

A `DecodeError` says why a value does not fit the type that is read from it. `Json.format` reads the
values of all basic types; a record is read from an object or from an array of its fields, and an
array must not hold more than the fields.
-/

namespace ScalpBot

/-- Why a value does not fit a type. -/
inductive DecodeError where
  /-- A value of another type. -/
  | invalidType (found expected : String)
  /-- A value of the right type that is out of the question. -/
  | invalidValue (found expected : String)
  /-- An array of the wrong length. -/
  | invalidLength (count : Nat) (expected : String)
  /-- A field without a value. -/
  | missingField (name : String)
  /-- A name that is none of the alternatives. -/
  | unknownVariant (name expected : String)
  /-- None of the alternatives of a type fits. -/
  | noVariant (type : String)
  /-- A text that is no instant. -/
  | other (text : String)
deriving DecidableEq, Repr

namespace DecodeError

/-- The wording of a mismatch. -/
def message : DecodeError → String
  | invalidType found expected => "invalid type: " ++ found ++ ", expected " ++ expected
  | invalidValue found expected => "invalid value: " ++ found ++ ", expected " ++ expected
  | invalidLength count expected =>
    "invalid length " ++ toString count ++ ", expected " ++ expected
  | missingField name => "missing field `" ++ name ++ "`"
  | unknownVariant name expected => "unknown variant `" ++ name ++ "`, expected " ++ expected
  | noVariant type => "data did not match any variant of untagged enum " ++ type
  | other text => text

instance : RecordError DecodeError where
  missingField := missingField
  invalidLength := invalidLength

end DecodeError

/-- Why a text gives no value of a type. -/
inductive JsonError where
  /-- The text is no JSON. What is wrong with it is not told. -/
  | malformed
  /-- The text is JSON but its value does not fit. -/
  | mismatch (cause : DecodeError)
deriving DecidableEq, Repr

/-- The wording of a failed reading. -/
def JsonError.message : JsonError → String
  | malformed => "<malformed>"
  | mismatch cause => cause.message

namespace Json

/-- How diagnostics name a value. -/
def description : Json → String
  | null => "null"
  | bool b => "boolean `" ++ toString b ++ "`"
  | number (.integer n) => "integer `" ++ toString n ++ "`"
  | number (.float x) => "floating point `" ++ x.toText .json ++ "`"
  | string s => "string " ++ quoted s
  | array _ => "sequence"
  | object _ => "map"

/-- What a decoder makes of a value. -/
abbrev Decoder (α : Type) := Json → Except DecodeError α

/-- The refusal of a value of the wrong type. -/
def mismatch {α : Type} (v : Json) (expected : String) : Except DecodeError α :=
  .error (.invalidType v.description expected)

/-- Reads a text. -/
def decodeString : Decoder String
  | string s => .ok s
  | v => v.mismatch "a string"

/-- Reads a truth value. -/
def decodeBool : Decoder Bool
  | bool b => .ok b
  | v => v.mismatch "a boolean"

/-- Reads a natural number of so many bits. -/
def decodeWord (bits : Nat) : Decoder Nat
  | number (.integer n) =>
    if 0 ≤ n && n < 2 ^ bits then .ok n.toNat
    else .error (.invalidValue (number (.integer n)).description ("u" ++ toString bits))
  | v => v.mismatch ("u" ++ toString bits)

/-- Reads a value or `null`. -/
def decodeOption {α : Type} (decode : Decoder α) : Decoder (Option α)
  | null => .ok none
  | v => (decode v).map some

/-- Reads an array of values of one type. -/
def decodeList {α : Type} (decode : Decoder α) : Decoder (List α)
  | array items => items.mapM decode
  | v => v.mismatch "a sequence"

/-- Reads an object whose members are of one type. -/
def decodeDictionary {α : Type} (decode : Decoder α) : Decoder (List (String × α))
  | object members => members.mapM fun (name, v) => (decode v).map (name, ·)
  | v => v.mismatch "a map"

/-- Reads a record from an array that holds its fields and nothing else. -/
def decodeItems {α : Type} (kind : String) (fields : Fields Json DecodeError α)
    (items : List Json) : Except DecodeError α := do
  let (a, rest) ← fields.ofItems (fields.expectation kind) items
  if rest.isEmpty then return a
  .error (.invalidLength items.length "fewer elements in array")

/-- Reads a record from an object or an array. -/
def decodeRecord {α : Type} (name : String) (fields : Fields Json DecodeError α) : Decoder α
  | object members => fields.readMembers members
  | array items => decodeItems ("struct " ++ name) fields items
  | v => v.mismatch ("struct " ++ name)

/-- The readers of JSON values. -/
def format : Format Json DecodeError where
  string := decodeString
  truth := decodeBool
  word := decodeWord
  optional := decodeOption
  list := decodeList
  dictionary := decodeDictionary
  record := decodeRecord

/-- Reads a text as a value of a type. -/
def decodeText {α : Type} (decode : Decoder α) (text : String) : Except JsonError α :=
  match parse text with
  | none => .error .malformed
  | some v =>
    match decode v with
    | .ok a => .ok a
    | .error cause => .error (.mismatch cause)

end Json

end ScalpBot
