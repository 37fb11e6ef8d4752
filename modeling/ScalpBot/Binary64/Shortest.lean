import ScalpBot.Binary64.Basic

/-!
# The shortest digits of a binary number

Every finite number is written with the fewest decimal digits that read back as the same number;
of two such forms the nearer one is taken, and of two equally near ones the even one. The digits
come from exact arithmetic: the numbers that read back form an interval, and for 1, 2, … 17 digits
the two neighbours on that decimal grid are tried.
-/

namespace ScalpBot

namespace Binary64

/-- The reals that round to one number: everything between `low` and `high` over `denominator`,
with the ends when `closed`. -/
structure Interval where
  low : Nat
  value : Nat
  high : Nat
  denominator : Nat
  closed : Bool

/-- The interval of a positive number. Below a power of two the numbers lie twice as close. -/
def interval (significand : Nat) (exponent : Int) : Interval :=
  let narrow := significand = 2 ^ 52 && minExponent < exponent
  let (unit, denominator) := ratio 1 (exponent - 2)
  { low := (4 * significand - (if narrow then 1 else 2)) * unit
    value := 4 * significand * unit
    high := (4 * significand + 2) * unit
    denominator := denominator
    closed := significand % 2 = 0 }

/-- Whether `n * 10 ^ power` lies in the interval. -/
def Interval.holds (i : Interval) (n : Nat) (power : Int) : Bool :=
  let (a, b) := if 0 ≤ power then (n * 10 ^ power.toNat, 1) else (n, 10 ^ (-power).toNat)
  let x := a * i.denominator
  if i.closed then i.low * b ≤ x && x ≤ i.high * b else i.low * b < x && x < i.high * b

/-- The power of ten of the leading digit: `10 ^ k ≤ n / d < 10 ^ (k + 1)`, found upwards from a
lower bound. -/
def leadingPower (n d : Nat) : (steps : Nat) → Int → Int
  | 0, k => k
  | steps + 1, k =>
    let above := if 0 ≤ k + 1 then d * 10 ^ (k + 1).toNat ≤ n else d ≤ n * 10 ^ (-(k + 1)).toNat
    if above then leadingPower n d steps (k + 1) else k

/-- A lower bound, at most two too small, of the power of ten of the leading digit. -/
def leadingPowerBound (n d : Nat) : Int :=
  let binary : Int := (Nat.log2 n : Int) - Nat.log2 d - 1
  (binary * 30103 / 100000) - 1

/-- The better of the neighbours of the value on the grid of `10 ^ power`, when one reads back. -/
def Interval.onGrid? (i : Interval) (power : Int) : Option Nat :=
  let (a, b) := if 0 ≤ power then (i.value, i.denominator * 10 ^ power.toNat)
    else (i.value * 10 ^ (-power).toNat, i.denominator)
  let below := a / b
  let nearest := roundDiv .toEven a b
  let other := if nearest = below then below + 1 else below
  if 0 < nearest && i.holds nearest power then some nearest
  else if 0 < other && i.holds other power then some other
  else none

/-- Tries grids from coarse to fine. -/
def Interval.search (i : Interval) : (steps : Nat) → (power : Int) → Nat × Int
  | 0, power => (i.value * 10 ^ (-power).toNat / i.denominator, power)
  | steps + 1, power =>
    match i.onGrid? power with
    | some n => (n, power)
    | none => i.search steps (power - 1)

/-- Moves trailing zeros of `n` into the power of ten. -/
def stripZeros : (fuel : Nat) → Nat → Int → Nat × Int
  | 0, n, power => (n, power)
  | fuel + 1, n, power =>
    if n ≠ 0 && n % 10 = 0 then stripZeros fuel (n / 10) (power + 1) else (n, power)

/-- The shortest digits `(n, k)` of a positive finite number, meaning `n * 10 ^ k`. -/
def shortest (significand : Nat) (exponent : Int) : Nat × Int :=
  let i := interval significand exponent
  let lead := leadingPower i.value i.denominator 5 (leadingPowerBound i.value i.denominator)
  let (n, power) := i.search 17 lead
  stripZeros 18 n power

end Binary64

end ScalpBot
