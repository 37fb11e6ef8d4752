import ScalpBot.Binary64.Basic

/-!
# TOML values

A TOML document is a table of values. The document fixes the order of its entries and a key is there
once. Dates and times are kept as their normal text.
-/

namespace ScalpBot

/-- A value of a TOML document. -/
inductive Toml where
  | string (value : String)
  /-- From `-2 ^ 63` to `2 ^ 63 - 1`. -/
  | integer (value : Int)
  | float (value : Binary64)
  | boolean (value : Bool)
  /-- A date, a time, or both, as text. -/
  | datetime (text : String)
  | array (items : List Toml)
  | table (entries : List (String × Toml))

namespace Toml

/-- A reader takes characters off the front of the text. -/
abbrev Reader := StateT (List Char) Option

namespace Reader

/-- Takes one character that passes the test. -/
def one (test : Char → Bool) : Reader Char := fun cs =>
  match cs with
  | c :: rest => if test c then some (c, rest) else none
  | [] => none

/-- Takes exactly the character `c`. -/
def char (c : Char) : Reader Unit := do let _ ← one (· = c)

/-- Takes exactly these characters. -/
def word : List Char → Reader Unit
  | [] => pure ()
  | c :: rest => do
    char c
    word rest

/-- Takes the characters in front that pass the test. -/
def many (test : Char → Bool) : Reader (List Char) := fun cs =>
  some (cs.takeWhile test, cs.dropWhile test)

/-- As `many`, and there must be one. -/
def atLeastOne (test : Char → Bool) : Reader (List Char) := do
  let cs ← many test
  if cs.isEmpty then failure else return cs

/-- The next character, which stays. -/
def peek : Reader (Option Char) := fun cs => some (cs.head?, cs)

end Reader

end Toml

end ScalpBot
