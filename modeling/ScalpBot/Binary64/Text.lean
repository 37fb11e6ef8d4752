import ScalpBot.Binary64.Shortest
import ScalpBot.Text.Digits

/-!
# The text of a binary number

A `FloatStyle` collects the decisions of a format: where positional notation ends, whether a whole
number keeps `.0`, and how an exponent is signed. `Binary64.toText` writes the shortest digits in a
style; `Binary64.parse` reads a numeral and rounds it correctly.
-/

namespace ScalpBot

/-- How numbers are laid out. -/
structure FloatStyle where
  /-- A number whose leading digit stands at `10 ^ k` is positional for `k` from here … -/
  firstPositional : Option Int
  /-- … and below here. -/
  lastPositional : Option Int
  /-- A whole number ends in `.0`. -/
  keepsPoint : Bool
  /-- A positive exponent has a `+`. -/
  signsExponent : Bool

/-- JSON: positional from `0.00001` and below `1e+16`; a float always shows a point or an
exponent. -/
def FloatStyle.json : FloatStyle := ⟨some (-5), some 16, true, true⟩

/-- Settings: always positional, and no point on whole numbers. -/
def FloatStyle.plain : FloatStyle := ⟨none, none, false, false⟩

/-- Diagnostics: always positional, with a point. -/
def FloatStyle.pointed : FloatStyle := ⟨none, none, true, false⟩

/-- Whether a leading digit at `10 ^ lead` is written positionally. -/
def FloatStyle.positional (style : FloatStyle) (lead : Int) : Bool :=
  (match style.firstPositional with | some k => k ≤ lead | none => true)
    && (match style.lastPositional with | some k => lead < k | none => true)

namespace Binary64

/-- `digits * 10 ^ power` without an exponent. -/
def positionalChars (keepsPoint : Bool) (digits : List Char) (power : Int) : List Char :=
  if 0 ≤ power then
    digits ++ List.replicate power.toNat '0' ++ (if keepsPoint then ['.', '0'] else [])
  else
    let places := (-power).toNat
    let padded := List.replicate (places + 1 - digits.length) '0' ++ digits
    padded.take (padded.length - places) ++ '.' :: padded.drop (padded.length - places)

/-- `digits * 10 ^ power` with an exponent. -/
def exponentChars (signsExponent : Bool) (digits : List Char) (lead : Int) : List Char :=
  let mantissa := match digits with
    | [] => []
    | [d] => [d]
    | d :: rest => d :: '.' :: rest
  let sign := if lead < 0 then ['-'] else if signsExponent then ['+'] else []
  mantissa ++ 'e' :: sign ++ Nat.toDigits 10 lead.natAbs

/-- The characters of a number in a style. -/
def toChars (style : FloatStyle) : Binary64 → List Char
  | .nan => "NaN".toList
  | .infinite negative => if negative then "-inf".toList else "inf".toList
  | .finite negative significand exponent =>
    let sign := if negative then ['-'] else []
    if significand = 0 then sign ++ '0' :: (if style.keepsPoint then ['.', '0'] else [])
    else
      let (n, power) := shortest significand exponent
      let digits := Nat.toDigits 10 n
      let lead := power + digits.length - 1
      sign ++
        (if style.positional lead then positionalChars style.keepsPoint digits power
        else exponentChars style.signsExponent digits lead)

/-- The text of a number in a style. -/
def toText (style : FloatStyle) (x : Binary64) : String := String.ofList (x.toChars style)

/-! ## Reading -/

/-- The digits in front, and what follows them. -/
def spanDigits (cs : List Char) : List Char × List Char := cs.span Char.isDigit

/-- An exponent: a mark, perhaps a sign, and digits to the end of the text. -/
def readExponent : List Char → Option Int
  | [] => some 0
  | c :: rest =>
    if c = 'e' || c = 'E' then
      let (negative, digits) := match rest with
        | '-' :: ds => (true, ds)
        | '+' :: ds => (false, ds)
        | _ => (false, rest)
      if digits.isEmpty || !digits.all Char.isDigit then none
      else some (if negative then -(digitsValue digits : Int) else digitsValue digits)
    else none

/-- The nearest number to `digits * 10 ^ exponent`. Numbers far outside the range are decided
without computing the power. -/
def ofDigits (negative : Bool) (digits : List Char) (exponent : Int) : Binary64 :=
  let n := digitsValue digits
  let size : Int := (Nat.toDigits 10 n).length + exponent
  if n = 0 then zero negative
  else if 400 < size then .infinite negative
  else if size < -400 then zero negative
  else ofScientific negative n exponent

/-- Reads an unsigned numeral with a digit before or after the point. -/
def readUnsigned (negative : Bool) (cs : List Char) : Option Binary64 :=
  let (whole, rest) := spanDigits cs
  let (places, rest) := match rest with
    | '.' :: rest => spanDigits rest
    | _ => ([], rest)
  if whole.isEmpty && places.isEmpty then none
  else
    match readExponent rest with
    | none => none
    | some exponent => some (ofDigits negative (whole ++ places) (exponent - places.length))

/-- Reads a number: a sign, then a numeral or the name of infinity or of no number in any case. -/
def parse (text : String) : Option Binary64 :=
  let (negative, cs) := match text.toList with
    | '-' :: rest => (true, rest)
    | '+' :: rest => (false, rest)
    | cs => (false, cs)
  let name := String.ofList (cs.map Char.toLower)
  if name = "inf" || name = "infinity" then some (.infinite negative)
  else if name = "nan" then some .nan
  else readUnsigned negative cs

end Binary64

end ScalpBot
