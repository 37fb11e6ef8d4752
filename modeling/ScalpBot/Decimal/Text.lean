import ScalpBot.Decimal.Arithmetic
import ScalpBot.Text.Digits

/-!
# The text of a decimal

`Decimal.toText` writes a decimal with all its places and never with an exponent. `Decimal.parse`
reads that form and a little more: a leading `+`, underscores after the first digit, a point with
digits on one side only, and scientific notation with an integer exponent.

Digits after the point that do not fit, because there are more than 28 or because the coefficient
is full, are rounded away on the first of them: five and above goes up. Digits before the point
that do not fit are refused.
-/

namespace ScalpBot

namespace Decimal

/-- Why a text is no decimal. -/
inductive ParseError where
  /-- Nothing to read. -/
  | empty
  /-- A sign or a point without a digit. -/
  | noDigits
  /-- A second point. -/
  | twoPoints
  /-- An underscore before the first digit. -/
  | leadingSeparator
  /-- A character no numeral has. -/
  | unknownCharacter
  /-- The whole part is larger than every decimal. -/
  | tooManyDigits
  /-- Rounding up the largest whole number leaves no decimal. -/
  | roundsPastLargest
  /-- An exponent that is no integer of 32 bits. -/
  | exponentMalformed
  /-- An exponent of more than 28 places. -/
  | tooManyPlaces (places : Nat)
  /-- An exponent that makes the number larger than every decimal. -/
  | tooLarge
deriving DecidableEq, Repr

/-- The wording of a refusal. -/
def ParseError.message : ParseError → String
  | .empty => "Invalid decimal: empty"
  | .noDigits => "Invalid decimal: no digits found"
  | .twoPoints => "Invalid decimal: two decimal points"
  | .leadingSeparator => "Invalid decimal: must start lead with a number"
  | .unknownCharacter => "Invalid decimal: unknown character"
  | .tooManyDigits => "Invalid decimal: overflow from too many digits"
  | .roundsPastLargest => "Invalid decimal: overflow from mantissa after rounding"
  | .exponentMalformed => "Failed to parse"
  | .tooManyPlaces places =>
    "Scale exceeds the maximum precision allowed: " ++ toString places ++ " > 28"
  | .tooLarge => "Number exceeds maximum value that can be represented."

/-! ## Writing -/

/-- The characters of `a`: sign, whole part, and after a point exactly `a.scale` digits. -/
def toChars (a : Decimal) : List Char :=
  let digits := zeroPadded (a.scale + 1) a.coefficient.natAbs
  let whole := digits.take (digits.length - a.scale)
  let places := digits.drop (digits.length - a.scale)
  (if a.coefficient < 0 then ['-'] else []) ++ whole
    ++ (if a.scale = 0 then [] else '.' :: places)

/-- The text of `a`. -/
def toText (a : Decimal) : String := String.ofList a.toChars

/-! ## Reading -/

/-- What has been read of a numeral. -/
structure Numeral where
  /-- The digits so far. -/
  coefficient : Nat := 0
  /-- How many of them stand after the point. -/
  places : Nat := 0
  /-- Whether the point has been read. -/
  point : Bool := false
  /-- Whether a digit has been read. -/
  digits : Bool := false

/-- The cause for which a character that continues no numeral is refused. -/
def refuse (c : Char) : ParseError :=
  if c = '.' then .twoPoints
  else if c = '_' then .leadingSeparator
  else .unknownCharacter

/-- After the last digit kept there may be further digits and underscores. -/
def checkDropped : List Char → Except ParseError Unit
  | [] => .ok ()
  | c :: rest => if c.isDigit || c = '_' then checkDropped rest else .error (refuse c)

/-- The coefficient and places after `dropped`, the first digit that did not fit. -/
def roundDropped (n : Numeral) (dropped : Nat) : Except ParseError (Nat × Nat) :=
  if dropped < 5 then .ok (n.coefficient, n.places)
  else if n.coefficient + 1 ≤ maxCoefficient then .ok (n.coefficient + 1, n.places)
  else if n.places = 0 then .error .roundsPastLargest
  else .ok ((n.coefficient + 5) / 10, n.places - 1)

/-- Reads the digits of a numeral from left to right. -/
def readDigits (n : Numeral) : List Char → Except ParseError (Nat × Nat)
  | [] => if n.digits then .ok (n.coefficient, n.places) else .error .noDigits
  | c :: rest =>
    if c.isDigit then
      let extended := n.coefficient * 10 + digitValue c
      if maxCoefficient < extended || (n.point && n.places == maxScale) then
        if n.point then do
          checkDropped rest
          roundDropped n (digitValue c)
        else .error .tooManyDigits
      else
        readDigits
          { n with
            coefficient := extended
            places := if n.point then n.places + 1 else n.places
            digits := true } rest
    else if c = '.' && !n.point then readDigits { n with point := true } rest
    else if c = '_' && n.digits then readDigits n rest
    else .error (refuse c)

/-- Reads a numeral without an exponent. -/
def parsePlain (cs : List Char) : Except ParseError Decimal := do
  let (negative, body) ← match cs with
    | [] => .error .empty
    | '-' :: rest => .ok (true, rest)
    | '+' :: rest => .ok (false, rest)
    | _ => .ok (false, cs)
  let (coefficient, places) ← readDigits {} body
  match ofParts? (if negative then -(coefficient : Int) else coefficient) places with
  | some a => .ok a
  | none => .error .tooLarge

/-- `a` divided by `10 ^ exponent`: the point moves left. -/
def movePointLeft (a : Decimal) (exponent : Nat) : Except ParseError Decimal :=
  if maxScale < exponent then .error (.tooManyPlaces exponent)
  else
    let kept := a.roundTo .awayFromZero (maxScale - exponent) (Nat.sub_le _ _)
    let fitted := if maxScale < a.scale + exponent then kept else a
    match ofParts? fitted.coefficient (fitted.scale + exponent) with
    | some b => .ok b
    | none => .error (.tooManyPlaces exponent)

/-- `a` multiplied by `10 ^ exponent`: the point moves right. -/
def movePointRight (a : Decimal) (exponent : Nat) : Except ParseError Decimal :=
  if exponent ≤ a.scale then
    .ok ⟨a.coefficient, a.scale - exponent, a.coefficient_le,
      Nat.le_trans (Nat.sub_le _ _) a.scale_le⟩
  else if maxScale < exponent then .error (.tooManyPlaces exponent)
  else
    match ofParts? (a.coefficient * 10 ^ (exponent - a.scale)) 0 with
    | some b => .ok b
    | none => .error .tooLarge

/-- Whether `c` separates the digits from an exponent. -/
def isExponentMark (c : Char) : Bool := c = 'e' || c = 'E'

/-- Reads a numeral with an exponent. -/
def parseScientific (cs : List Char) : Except ParseError Decimal := do
  let a ← parsePlain (cs.takeWhile (!isExponentMark ·))
  let exponent := (cs.dropWhile (!isExponentMark ·)).drop 1
  let (left, digits) := match exponent with
    | '-' :: rest => (true, rest)
    | _ => (false, exponent)
  match readNatBelow (2 ^ 32) digits with
  | none => .error .exponentMalformed
  | some n => if left then a.movePointLeft n else a.movePointRight n

/-- Reads a decimal. -/
def parse (text : String) : Except ParseError Decimal :=
  match parsePlain text.toList with
  | .ok a => .ok a
  | .error cause =>
    if text.toList.any isExponentMark then parseScientific text.toList else .error cause

end Decimal

end ScalpBot
