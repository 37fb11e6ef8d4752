import ScalpBot.Json.Basic
import ScalpBot.Binary64.Text

/-!
# Writing JSON

`Json.toText` writes a value in its compact form: no blanks, members in key order, and only those
characters of a string escaped that must be.
-/

namespace ScalpBot

/-- The text of a number. -/
def JsonNumber.toText : JsonNumber → String
  | .integer n => toString n
  | .float x => x.toText .json

namespace Json

/-- A control character as `\u` and four digits. -/
def controlEscape (c : Char) : List Char :=
  let digits := Nat.toDigits 16 c.toNat
  '\\' :: 'u' :: (List.replicate (4 - digits.length) '0' ++ digits)

/-- The form of one character in a string. -/
def stringChar (c : Char) : List Char :=
  match c with
  | '"' => ['\\', '"']
  | '\\' => ['\\', '\\']
  | '\x08' => ['\\', 'b']
  | '\x0c' => ['\\', 'f']
  | '\n' => ['\\', 'n']
  | '\r' => ['\\', 'r']
  | '\t' => ['\\', 't']
  | _ => if c.toNat < 0x20 then controlEscape c else [c]

/-- A string between its quotes. -/
def stringChars (s : String) : List Char := '"' :: s.toList.flatMap stringChar ++ ['"']

mutual

/-- The characters of a value. -/
def toChars : Json → List Char
  | .null => ['n', 'u', 'l', 'l']
  | .bool true => ['t', 'r', 'u', 'e']
  | .bool false => ['f', 'a', 'l', 's', 'e']
  | .number n => n.toText.toList
  | .string s => stringChars s
  | .array items => '[' :: itemChars true items ++ [']']
  | .object members => '\x7b' :: memberChars true members ++ ['\x7d']

/-- The items of an array, separated by commas. -/
def itemChars (first : Bool) : List Json → List Char
  | [] => []
  | v :: rest => (if first then [] else [',']) ++ v.toChars ++ itemChars false rest

/-- The members of an object, separated by commas. -/
def memberChars (first : Bool) : List (String × Json) → List Char
  | [] => []
  | (k, v) :: rest =>
    (if first then [] else [',']) ++ stringChars k ++ ':' :: v.toChars ++ memberChars false rest

end

/-- The text of a value. -/
def toText (v : Json) : String := String.ofList v.toChars

end Json

end ScalpBot
