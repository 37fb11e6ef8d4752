import ScalpBot.Time.Calendar
import ScalpBot.Text.Blank
import ScalpBot.Text.Digits

/-!
# The text of an instant

`Instant.toText` writes `YYYY-MM-DDTHH:MM:SSZ` in UTC, with 0, 3, 6 or 9 digits of the second's fraction,
the fewest that lose nothing. `Instant.parse` reads the same form with any offset in the place of `Z` and
with blanks between its parts; `Instant.parsePlain` reads `YYYY-MM-DD HH:MM:SS` with an optional fraction
as a time in UTC. Both keep nine digits of a fraction and drop the others.
-/

namespace ScalpBot

/-- Why a text is no instant. -/
inductive TimeError where
  /-- The text ends too early. -/
  | tooShort
  /-- A character where another is due. -/
  | unexpected
  /-- A field or the whole lies outside its range. -/
  | outOfRange
  /-- The offset moves the time out of the calendar. -/
  | impossible
  /-- Text after the end. -/
  | trailing
deriving DecidableEq, Repr

/-- The wording of the cause. -/
def TimeError.message : TimeError → String
  | .tooShort => "premature end of input"
  | .unexpected => "input contains invalid characters"
  | .outOfRange => "input is out of range"
  | .impossible => "no possible date and time matching input"
  | .trailing => "trailing input"

namespace Instant

/-! ## Writing -/

/-- A year: four digits, and a sign where four do not do. -/
def yearChars (year : Int) : List Char :=
  if year < 0 then '-' :: zeroPadded 4 year.natAbs
  else if 9999 < year then '+' :: zeroPadded 4 year.natAbs
  else zeroPadded 4 year.natAbs

/-- The fraction of a second: nothing, or a point and 3, 6 or 9 digits. -/
def fractionChars (nanoseconds : Nat) : List Char :=
  if nanoseconds = 0 then []
  else if nanoseconds % 1000000 = 0 then '.' :: zeroPadded 3 (nanoseconds / 1000000)
  else if nanoseconds % 1000 = 0 then '.' :: zeroPadded 6 (nanoseconds / 1000)
  else '.' :: zeroPadded 9 nanoseconds

/-- The characters of an instant: the date, `T`, the time and `Z`. -/
def toChars (t : Instant) : List Char :=
  let date := Date.ofDayNumber (t.seconds / 86400)
  let ofDay := (t.seconds % 86400).toNat
  let leap := 1000000000 ≤ t.nanoseconds
  let second := ofDay % 60 + (if leap then 1 else 0)
  let nanoseconds := if leap then t.nanoseconds - 1000000000 else t.nanoseconds
  yearChars date.year ++ '-' :: zeroPadded 2 date.month ++ '-' :: zeroPadded 2 date.day
    ++ 'T' :: zeroPadded 2 (ofDay / 3600) ++ ':' :: zeroPadded 2 (ofDay / 60 % 60)
    ++ ':' :: zeroPadded 2 second ++ fractionChars nanoseconds ++ ['Z']

/-- The text of an instant. -/
def toText (t : Instant) : String := String.ofList t.toChars

/-! ## Reading -/

/-- A reader takes characters off the front of the text. -/
abbrev Reader := StateT (List Char) (Except TimeError)

/-- Skips blanks. -/
def skipBlanks : Reader Unit := modify dropBlanks

/-- Takes exactly the character `c`. -/
def literal (c : Char) : Reader Unit := fun cs =>
  match cs with
  | [] => .error .tooShort
  | d :: rest => if d = c then .ok ((), rest) else .error .unexpected

/-- Takes the digits in front, at most `most` of them and at least one, as a number below
`2 ^ 63`. -/
def digits (most : Option Nat) : Reader Nat := fun cs =>
  let all := cs.takeWhile Char.isDigit
  let taken := match most with
    | some n => all.take n
    | none => all
  if cs.isEmpty then .error .tooShort
  else if taken.isEmpty then .error .unexpected
  else
    let n := digitsValue taken
    if n < 2 ^ 63 then .ok (n, cs.drop taken.length) else .error .outOfRange

/-- Fails unless the field lies between its bounds. -/
def within (low high : Nat) (n : Nat) : Reader Nat := fun cs =>
  if low ≤ n && n ≤ high then .ok (n, cs) else .error .outOfRange

/-- A field of one or two digits after blanks. -/
def twoDigits (low high : Nat) : Reader Nat := do
  skipBlanks
  within low high (← digits (some 2))

/-- A year after blanks: four digits at most, or any number of them after a sign. -/
def year : Reader Int := do
  skipBlanks
  let y : Int ← (do
    match ← get with
    | '-' :: rest => set rest; return -(← digits none : Nat)
    | '+' :: rest => set rest; return (← digits none : Nat)
    | _ => return (← digits (some 4) : Nat))
  if -2147483648 ≤ y && y ≤ 2147483647 then return y else throw .outOfRange

/-- A fraction of a second in nanoseconds, or none. -/
def fraction : Reader Nat := do
  match ← get with
  | '.' :: rest =>
    set rest
    let kept := (rest.takeWhile Char.isDigit).take 9
    let n ← digits (some 9)
    modify (·.dropWhile Char.isDigit)
    return n * 10 ^ (9 - kept.length)
  | _ => return 0

/-- The fields of a date and a time of day. -/
structure Fields where
  date : Date
  hour : Nat
  minute : Nat
  second : Nat
  nanoseconds : Nat

/-- The instant with these fields in UTC. Second 60 is a leap second. -/
def ofFields (f : Fields) : Except TimeError Instant :=
  if f.date.isValid then
    let second := min f.second 59
    let nanoseconds := if f.second = 60 then f.nanoseconds + 1000000000 else f.nanoseconds
    .ok ⟨f.date.dayNumber * 86400 + f.hour * 3600 + f.minute * 60 + second, nanoseconds⟩
  else .error .outOfRange

/-- Reads `YYYY-MM-DD`; `gap` stands before each hyphen. -/
def date (gap : Reader Unit) : Reader Date := do
  let y ← year
  gap; literal '-'
  let m ← twoDigits 1 12
  gap; literal '-'
  let d ← twoDigits 1 31
  return ⟨y, m, d⟩

/-- Reads `HH:MM:SS` and a fraction; `gap` stands before each colon. -/
def timeOfDay (gap : Reader Unit) (d : Date) : Reader Fields := do
  let h ← twoDigits 0 23
  gap; literal ':'
  let m ← twoDigits 0 59
  gap; literal ':'
  let s ← twoDigits 0 60
  let n ← fraction
  return ⟨d, h, m, s, n⟩

/-- Reads `YYYY-MM-DD HH:MM:SS` as a time in UTC. -/
def parsePlain (text : String) : Except TimeError Instant := do
  let reader : Reader Fields := do
    let d ← date (pure ())
    skipBlanks
    timeOfDay (pure ()) d
  let (fields, rest) ← reader text.toList
  if rest.isEmpty then ofFields fields else .error .trailing

/-- The number of bytes of a text in UTF-8. -/
def byteCount (cs : List Char) : Nat := (String.ofList cs).utf8ByteSize

/-- Two digits of an offset; the first is at most `9` of any kind. -/
def offsetDigits : Reader (Char × Char) := fun cs =>
  if byteCount cs < 2 then .error .tooShort
  else
    match cs with
    | a :: b :: rest =>
      if a.isDigit && b.isDigit then .ok ((a, b), rest) else .error .unexpected
    | _ => .error .unexpected

/-- The number that two digits write. -/
def twoDigitValue (p : Char × Char) : Nat := digitsValue [p.1, p.2]

/-- Reads an offset from UTC in seconds: `Z`, or a sign, two digits of hours and two of minutes
with any colons and blanks between them. -/
def offset : Reader Int := do
  match ← get with
  | [] => throw .tooShort
  | 'Z' :: rest | 'z' :: rest => set rest; return 0
  | sign :: rest =>
    if sign = '+' || sign = '-' || sign = '−' then
      set rest
      let hours ← offsetDigits
      modify (·.dropWhile fun c => c = ':' || isBlank c)
      let minutes ← offsetDigits
      if 59 < twoDigitValue minutes then throw .outOfRange
      let seconds : Int := twoDigitValue hours * 3600 + twoDigitValue minutes * 60
      return if sign = '+' then seconds else -seconds
    else throw .unexpected

/-- Reads an offset, which may also be spelled `UTC`. -/
def offsetOrName : Reader Int := do
  match ← get with
  | a :: b :: c :: rest =>
    if a.toUpper = 'U' && b.toUpper = 'T' && c.toUpper = 'C' then
      set rest
      return 0
    else offset
  | _ => offset

/-- Reads a date, a time and an offset, and moves the time to UTC. -/
def parse (text : String) : Except TimeError Instant := do
  let reader : Reader (Fields × Int) := do
    let d ← date skipBlanks
    match ← get with
    | [] => throw .tooShort
    | c :: rest => if c = 'T' || c = 't' || c = ' ' then set rest else throw .unexpected
    let fields ← timeOfDay skipBlanks d
    skipBlanks
    return (fields, ← offsetOrName)
  let ((fields, seconds), rest) ← reader text.toList
  if !(dropBlanks rest).isEmpty then throw .trailing
  let naive ← ofFields fields
  if !(-86400 < seconds && seconds < 86400) then throw .outOfRange
  let moved := naive.seconds - seconds
  if minSeconds ≤ moved && moved ≤ maxSeconds then
    return ⟨moved, naive.nanoseconds⟩
  else throw .impossible

end Instant

end ScalpBot
