import ScalpBot.Toml.Basic
import ScalpBot.Binary64.Text
import ScalpBot.Time.Calendar
import ScalpBot.Text.Digits

/-!
# Scalar values of a TOML document

Strings in four forms, integers to four bases, floats, and dates and times.
-/

namespace ScalpBot.Toml

open Reader

/-! ## Characters -/

/-- A blank within a line. -/
def isSpace (c : Char) : Bool := c = ' ' || c = '\t'

/-- A character that a line can hold: no control but the tab. -/
def isText (c : Char) : Bool := c = '\t' || (0x20 ≤ c.toNat && c.toNat ≠ 0x7F)

/-- A line end: a line feed, alone or after a carriage return. -/
def newline : Reader Unit := char '\n' <|> word ['\r', '\n']

/-- The value of a digit in a base of at most sixteen. -/
def digitOf? (base : Nat) (c : Char) : Option Nat :=
  let value :=
    if c.isDigit then c.toNat - '0'.toNat
    else if 'a' ≤ c && c ≤ 'f' then c.toNat - 'a'.toNat + 10
    else if 'A' ≤ c && c ≤ 'F' then c.toNat - 'A'.toNat + 10
    else base
  if value < base then some value else none

/-! ## Strings -/

/-- `count` hexadecimal digits as a character, which must not be half of a pair. -/
def codePoint (count : Nat) : Reader Char := fun cs =>
  let digits := (cs.take count).map (digitOf? 16)
  if digits.length < count then none
  else
    match digits.mapM id with
    | none => none
    | some values =>
      let code := values.foldl (fun n d => n * 16 + d) 0
      if code.isValidChar then some (Char.ofNat code, cs.drop count) else none

/-- An escape after its backslash. -/
def escape : Reader Char := do
  match ← one fun _ => true with
  | 'b' => return '\x08'
  | 't' => return '\t'
  | 'n' => return '\n'
  | 'f' => return '\x0c'
  | 'r' => return '\r'
  | '"' => return '"'
  | '\\' => return '\\'
  | 'u' => codePoint 4
  | 'U' => codePoint 8
  | _ => failure

/-- A string of one line after its opening quote, with escapes or without. -/
def lineString (quote : Char) (escapes : Bool) : (fuel : Nat) → (read : List Char) → Reader String
  | 0, _ => failure
  | fuel + 1, read => do
    let c ← one isText
    if c = quote then return String.ofList read.reverse
    else if c = '\\' && escapes then lineString quote escapes fuel ((← escape) :: read)
    else lineString quote escapes fuel (c :: read)

/-- Skips blanks and line ends. -/
def skipLines : Reader Unit := fun cs =>
  let rec skip : List Char → List Char
    | '\r' :: '\n' :: rest => skip rest
    | c :: rest => if isSpace c || c = '\n' then skip rest else c :: rest
    | [] => []
  some ((), skip cs)

/-- A string of several lines after its opening quotes. Up to two quotes stand for themselves, also
before the three that close it. A backslash at the end of a line joins it to the next text. -/
def blockString (quote : Char) (escapes : Bool) : (fuel : Nat) → (read : List Char) → Reader String
  | 0, _ => failure
  | fuel + 1, read => do
    match ← optional newline with
    | some _ => blockString quote escapes fuel ('\n' :: read)
    | none =>
      let quotes ← many (· = quote)
      if 3 ≤ quotes.length then
        let kept := min (quotes.length - 3) 2
        modify (List.replicate (quotes.length - 3 - kept) quote ++ ·)
        return String.ofList (List.replicate kept quote ++ read).reverse
      else if 0 < quotes.length then blockString quote escapes fuel (quotes ++ read)
      else
        let c ← one isText
        if c = '\\' && escapes then
          let joined ← optional do
            let _ ← many isSpace
            newline
            skipLines
          match joined with
          | some _ => blockString quote escapes fuel read
          | none => blockString quote escapes fuel ((← escape) :: read)
        else blockString quote escapes fuel (c :: read)

/-- A string in one of its forms. -/
def quotedString (quote : Char) (escapes : Bool) : Reader String := do
  let fuel := (← get).length + 1
  let block ← optional (word [quote, quote, quote])
  match block with
  | some _ =>
    let _ ← optional newline
    blockString quote escapes fuel []
  | none =>
    char quote
    lineString quote escapes fuel []

/-- A string of one line in quotes. -/
def quotedLine (quote : Char) (escapes : Bool) : Reader String := do
  char quote
  lineString quote escapes ((← get).length + 1) []

/-! ## Numbers -/

/-- Digits with single underscores between them, without the underscores. -/
def digitGroups (isDigit : Char → Bool) : Reader (List Char) := fun cs =>
  let rec more : List Char → List Char × List Char
    | '_' :: c :: rest =>
      if isDigit c then
        let (ds, rest) := more rest
        (c :: ds, rest)
      else ([], '_' :: c :: rest)
    | c :: rest =>
      if isDigit c then
        let (ds, rest) := more rest
        (c :: ds, rest)
      else ([], c :: rest)
    | [] => ([], [])
  match cs with
  | c :: rest =>
    if isDigit c then
      let (ds, rest) := more rest
      some (c :: ds, rest)
    else none
  | [] => none

/-- The digits of a whole number: `0`, or digits that do not begin with it. -/
def wholeDigits : Reader (List Char) := do
  match ← peek with
  | some '0' =>
    char '0'
    return ['0']
  | _ => digitGroups Char.isDigit

/-- A sign: whether it is a minus. -/
def sign : Reader Bool := do
  match ← peek with
  | some '-' =>
    char '-'
    return true
  | some '+' =>
    char '+'
    return false
  | _ => return false

/-- An integer of 64 bits. -/
def fitted (n : Int) : Reader Toml :=
  if -2 ^ 63 ≤ n && n < 2 ^ 63 then return .integer n else failure

/-- An integer after the mark of its base. -/
def basedInteger (mark : Char) (base : Nat) : Reader Toml := do
  word ['0', mark]
  let digits ← digitGroups fun c => (digitOf? base c).isSome
  fitted (digits.foldl (fun n c => n * base + (digitOf? base c).getD 0) 0 : Nat)

/-- A decimal integer. -/
def decimalInteger : Reader Toml := do
  let negative ← sign
  let n := digitsValue (← wholeDigits)
  fitted (if negative then -(n : Int) else n)

/-- An integer. -/
def integerValue : Reader Toml :=
  basedInteger 'x' 16 <|> basedInteger 'o' 8 <|> basedInteger 'b' 2 <|> decimalInteger

/-- The exponent of a float with its mark. -/
def exponentPart : Reader (List Char) := do
  let _ ← one fun c => c = 'e' || c = 'E'
  let negative ← sign
  let digits ← digitGroups Char.isDigit
  return 'e' :: (if negative then ['-'] else []) ++ digits

/-- The fraction of a float with its point. -/
def fractionPart : Reader (List Char) := do
  char '.'
  return '.' :: (← digitGroups Char.isDigit)

/-- A float that has a fraction, an exponent, or both, and is not too large. -/
def numericFloat : Reader Toml := do
  let negative ← sign
  let whole ← wholeDigits
  let fraction ← optional fractionPart
  let exponent ← optional exponentPart
  if fraction.isNone && exponent.isNone then failure
  let text := (if negative then ['-'] else []) ++ whole ++ fraction.getD [] ++ exponent.getD []
  match Binary64.parse (String.ofList text) with
  | some (.infinite false) => failure
  | some x => return .float x
  | none => failure

/-- An infinity or what is not a number, with a sign or without. -/
def specialFloat : Reader Toml := do
  let negative ← sign
  (do word ['i', 'n', 'f']
      return .float (.infinite negative))
    <|> (do word ['n', 'a', 'n']
            return .float .nan)

/-! ## Dates and times -/

/-- So many digits that write a number within bounds. -/
def fixedDigits (count low high : Nat) : Reader Nat := fun cs =>
  let digits := cs.take count
  if digits.length = count && digits.all Char.isDigit then
    let n := digitsValue digits
    if low ≤ n && n ≤ high then some (n, cs.drop count) else none
  else none

/-- A date of the calendar in its normal text. -/
def fullDate : Reader (List Char) := do
  let year ← fixedDigits 4 0 9999
  char '-'
  let month ← fixedDigits 2 1 12
  char '-'
  let day ← fixedDigits 2 1 (daysInMonth year month)
  return zeroPadded 4 year ++ '-' :: zeroPadded 2 month ++ '-' :: zeroPadded 2 day

/-- A fraction of a second in at most nine digits, without zeros at its end. -/
def secondFraction : Reader (List Char) := do
  char '.'
  let digits := (← atLeastOne Char.isDigit).take 9
  let kept := (digits.reverse.dropWhile (· = '0')).reverse
  return if kept.isEmpty then [] else '.' :: kept

/-- A time of day in its normal text. -/
def timeOfDay : Reader (List Char) := do
  let hour ← fixedDigits 2 0 23
  char ':'
  let minute ← fixedDigits 2 0 59
  char ':'
  let second ← fixedDigits 2 0 60
  let fraction ← optional secondFraction
  return zeroPadded 2 hour ++ ':' :: zeroPadded 2 minute ++ ':' :: zeroPadded 2 second
    ++ fraction.getD []

/-- An offset from UTC in its normal text. -/
def offset : Reader (List Char) := do
  match ← one fun _ => true with
  | 'Z' | 'z' => return ['Z']
  | '+' => return '+' :: (← hoursAndMinutes)
  | '-' =>
    let text ← hoursAndMinutes
    return (if text = "00:00".toList then '+' else '-') :: text
  | _ => failure
where
  /-- Hours and minutes. -/
  hoursAndMinutes : Reader (List Char) := do
    let hours ← fixedDigits 2 0 23
    char ':'
    let minutes ← fixedDigits 2 0 59
    return zeroPadded 2 hours ++ ':' :: zeroPadded 2 minutes

/-- The time that follows a date, with its offset. -/
def timeAfterDate : Reader (List Char) := do
  let _ ← one fun c => c = 'T' || c = 't' || c = ' '
  let time ← timeOfDay
  let zone ← optional offset
  return 'T' :: time ++ zone.getD []

/-- A date, a time, or both. -/
def datetimeValue : Reader Toml :=
  (do let date ← fullDate
      let time ← optional timeAfterDate
      return .datetime (String.ofList (date ++ time.getD [])))
    <|> (do return .datetime (String.ofList (← timeOfDay)))

/-! ## Scalars -/

/-- A scalar value. -/
def scalar : Reader Toml := do
  match ← peek with
  | some '"' => return .string (← quotedString '"' true)
  | some '\'' => return .string (← quotedString '\'' false)
  | some 't' =>
    word ['t', 'r', 'u', 'e']
    return .boolean true
  | some 'f' =>
    word ['f', 'a', 'l', 's', 'e']
    return .boolean false
  | _ => datetimeValue <|> numericFloat <|> specialFloat <|> integerValue

end ScalpBot.Toml
