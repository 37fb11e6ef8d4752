import ScalpBot.Decimal.Rounding

/-!
# Binary floating point

Numbers in text formats are stored in 64 bits: a sign, 53 binary digits and an exponent. A
`Binary64` states its value exactly as `significand * 2 ^ exponent`, and `ofRatio` rounds any ratio
to the nearest such value, ties to even. Products and quotients are the rounded exact ones.
-/

namespace ScalpBot

/-- A number in 64 bits. A finite one has the value `significand * 2 ^ exponent`; its significand is
at least `2 ^ 52` unless its exponent is the least, `-1074`. -/
inductive Binary64 where
  | finite (negative : Bool) (significand : Nat) (exponent : Int)
  | infinite (negative : Bool)
  | nan
deriving DecidableEq, Repr

namespace Binary64

/-- The least exponent. -/
def minExponent : Int := -1074

/-- The greatest exponent. -/
def maxExponent : Int := 971

/-- Zero. -/
def zero (negative : Bool) : Binary64 := .finite negative 0 minExponent

/-- `n / (d * 2 ^ e)` as a fraction. -/
def scaled (n d : Nat) (e : Int) : Nat × Nat :=
  if 0 ≤ e then (n, d * 2 ^ e.toNat) else (n * 2 ^ (-e).toNat, d)

/-- The exponent at which `n / d` has 53 binary digits before the point, or the least exponent. -/
def exponentOf (n d : Nat) : Int :=
  let guess : Int := (Nat.log2 n : Int) - Nat.log2 d - 52
  let (a, b) := scaled n d guess
  max minExponent (if a < 2 ^ 52 * b then guess - 1 else guess)

/-- The number nearest to `n / d`. -/
def ofRatio (negative : Bool) (n d : Nat) : Binary64 :=
  if n = 0 then zero negative
  else
    let e := exponentOf n d
    let (a, b) := scaled n d e
    let m := roundDiv .toEven a b
    let (m, e) := if m = 2 ^ 53 then (2 ^ 52, e + 1) else (m, e)
    if maxExponent < e then .infinite negative else .finite negative m e

/-- The number nearest to `n`. -/
def ofNat (n : Nat) : Binary64 := ofRatio false n 1

/-- The magnitude of a finite number as a fraction. -/
def ratio (significand : Nat) (exponent : Int) : Nat × Nat :=
  if 0 ≤ exponent then (significand * 2 ^ exponent.toNat, 1)
  else (significand, 2 ^ (-exponent).toNat)

/-- The opposite number. -/
def neg : Binary64 → Binary64
  | .finite s m e => .finite (!s) m e
  | .infinite s => .infinite (!s)
  | .nan => .nan

/-- Whether the number is a zero of either sign. -/
def isZero : Binary64 → Bool
  | .finite _ m _ => m = 0
  | _ => false

/-- The nearest natural number, a half going up; a negative number counts as zero, one past
`limit` as `limit`, and no number at all as zero. -/
def roundToNat (limit : Nat) : Binary64 → Nat
  | .nan => 0
  | .infinite negative => if negative then 0 else limit
  | .finite negative m e =>
    if negative then 0
    else
      let (n, d) := ratio m e
      min limit (roundDiv .awayFromZero n d)

/-- The number nearest to `digits * 10 ^ exponent`. -/
def ofScientific (negative : Bool) (digits : Nat) (exponent : Int) : Binary64 :=
  if 0 ≤ exponent then ofRatio negative (digits * 10 ^ exponent.toNat) 1
  else ofRatio negative digits (10 ^ (-exponent).toNat)

/-- The product of two finite magnitudes, and nothing when it is too large. -/
def mulFinite : Binary64 → Binary64 → Option Binary64
  | .finite _ m e, .finite _ k f =>
    let (a, b) := ratio m e
    let (c, d) := ratio k f
    match ofRatio false (a * c) (b * d) with
    | .infinite _ => none
    | x => some x
  | _, _ => none

/-- The quotient of two finite magnitudes; the divisor is not zero. -/
def divFinite : Binary64 → Binary64 → Option Binary64
  | .finite _ m e, .finite _ k f =>
    let (a, b) := ratio m e
    let (c, d) := ratio k f
    match ofRatio false (a * d) (b * c) with
    | .infinite _ => none
    | x => some x
  | _, _ => none

end Binary64

end ScalpBot
