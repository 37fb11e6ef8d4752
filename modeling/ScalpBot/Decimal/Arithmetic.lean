import ScalpBot.Decimal.Basic
import ScalpBot.Decimal.Rounding

/-!
# Decimal arithmetic

Sums, differences and products are exact as long as their digits fit into a decimal. A result with
too many digits loses places, as few as possible, and is rounded half to even at the last place
kept; a result whose whole part does not fit is an `Overflow`. A quotient is rounded the same way
and then gives up its trailing zeros, unless the division came out even at the places of its
operands.

Zero is neutral for `add` and `sub` in the written form too: the other operand keeps its places.
-/

namespace ScalpBot

/-- An operation whose result is larger than every decimal. -/
inductive Overflow where
  | addition
  | subtraction
  | multiplication
deriving DecidableEq, Repr

/-- The wording of an overflow. -/
def Overflow.message : Overflow → String
  | .addition => "Addition overflowed"
  | .subtraction => "Subtraction overflowed"
  | .multiplication => "Multiplication overflowed"

namespace Decimal

/-- The decimal nearest to `n / d` with the most places that leave room for its digits, at most
`places`. There is none when not even the nearest integer fits. -/
def nearest? (n : Int) (d : Nat) : (places : Nat) → Option Decimal
  | 0 => ofParts? (roundRatio .toEven n d) 0
  | places + 1 =>
    match ofParts? (roundRatio .toEven (n * 10 ^ (places + 1)) d) (places + 1) with
    | some a => some a
    | none => nearest? n d places

/-- A quotient that is no larger than its numerator fits. -/
theorem isSome_nearest? {n : Int} {d : Nat} (hd : 0 < d) (hn : n.natAbs ≤ maxCoefficient)
    (places : Nat) : (nearest? n d places).isSome = true := by
  induction places with
  | zero =>
    exact isSome_ofParts? (Nat.le_trans (natAbs_roundRatio_le .toEven n hd) hn) (by decide)
  | succ places ih =>
    unfold nearest?
    split
    · rfl
    · exact ih

/-- The sum before rounding, as a numerator over `10 ^ max a.scale b.scale`. -/
def sumNumerator (a b : Decimal) : Int :=
  a.coefficient * 10 ^ (max a.scale b.scale - a.scale)
    + b.coefficient * 10 ^ (max a.scale b.scale - b.scale)

/-- The sum, or nothing when it does not fit. -/
def sum? (a b : Decimal) : Option Decimal :=
  if a.isZero then some b
  else if b.isZero then some a
  else nearest? (sumNumerator a b) (10 ^ max a.scale b.scale) (max a.scale b.scale)

/-- Sum. -/
def add (a b : Decimal) : Except Overflow Decimal :=
  match sum? a b with
  | some c => .ok c
  | none => .error .addition

/-- Difference. -/
def sub (a b : Decimal) : Except Overflow Decimal :=
  match sum? a b.neg with
  | some c => .ok c
  | none => .error .subtraction

/-- Product. -/
def mul (a b : Decimal) : Except Overflow Decimal :=
  if a.isZero || b.isZero then .ok zero
  else
    match nearest? (a.coefficient * b.coefficient) (10 ^ (a.scale + b.scale))
        (min (a.scale + b.scale) maxScale) with
    | some c => .ok c
    | none => .error .multiplication

/-- The same value without trailing zeros after the point. -/
def trimZeros (coefficient : Int) : (scale : Nat) → Int × Nat
  | 0 => (coefficient, 0)
  | scale + 1 =>
    if coefficient % 10 = 0 then trimZeros (coefficient / 10) scale else (coefficient, scale + 1)

theorem natAbs_trimZeros_le (c : Int) (s : Nat) : (trimZeros c s).1.natAbs ≤ c.natAbs := by
  induction s generalizing c with
  | zero => exact Nat.le_refl _
  | succ s ih =>
    unfold trimZeros
    split
    · exact Nat.le_trans (ih (c / 10)) (by omega)
    · exact Nat.le_refl _

theorem trimZeros_scale_le (c : Int) (s : Nat) : (trimZeros c s).2 ≤ s := by
  induction s generalizing c with
  | zero => exact Nat.le_refl _
  | succ s ih =>
    unfold trimZeros
    split
    · exact Nat.le_succ_of_le (ih (c / 10))
    · exact Nat.le_refl _

/-- The same value without trailing zeros after the point. -/
def trim (a : Decimal) : Decimal :=
  ⟨(trimZeros a.coefficient a.scale).1, (trimZeros a.coefficient a.scale).2,
    Nat.le_trans (natAbs_trimZeros_le _ _) a.coefficient_le,
    Nat.le_trans (trimZeros_scale_le _ _) a.scale_le⟩

/-- Quotient. Nothing for a zero divisor, and nothing when the quotient does not fit. -/
def div? (a b : Decimal) : Option Decimal :=
  if b.isZero then none
  else if a.isZero then some zero
  else if b.coefficient ∣ a.coefficient ∧ b.scale ≤ a.scale then
    ofParts? (a.coefficient / b.coefficient) (a.scale - b.scale)
  else
    (nearest? (a.coefficient * b.coefficient.sign * 10 ^ b.scale)
      (b.coefficient.natAbs * 10 ^ a.scale) maxScale).map trim

theorem isSome_div?_hundred (a : Decimal) : (a.div? hundred).isSome = true := by
  have ha := a.coefficient_le
  have hs := a.scale_le
  unfold div?
  split
  · contradiction
  · split
    · rfl
    · split
      · have hd : (a.coefficient / 100).natAbs ≤ maxCoefficient := by omega
        exact isSome_ofParts? hd hs
      · rw [Option.isSome_map]
        apply isSome_nearest?
        · exact Nat.mul_pos (by decide) (Nat.pow_pos (by decide))
        · have hsign : Int.sign 100 = 1 := rfl
          simpa [hundred, hsign] using ha

/-- A hundredth. -/
def percent (a : Decimal) : Decimal := (a.div? hundred).get (isSome_div?_hundred a)

/-- `a` rounded to at most `places` places. -/
def roundTo (tie : Tie) (places : Nat) (hp : places ≤ maxScale) (a : Decimal) : Decimal :=
  if a.isZero then ⟨0, places, zero.coefficient_le, hp⟩
  else if a.scale ≤ places then a
  else
    ⟨roundRatio tie a.coefficient (10 ^ (a.scale - places)), places,
      Nat.le_trans (natAbs_roundRatio_le _ _ (Nat.pow_pos (by decide))) a.coefficient_le, hp⟩

/-- `a` with more zeros after the point: up to `count` of them, as long as the digits fit. -/
def padZeros (a : Decimal) : (count : Nat) → Decimal
  | 0 => a
  | count + 1 =>
    match ofParts? (a.coefficient * 10) (a.scale + 1) with
    | some b => padZeros b count
    | none => a

/-- `a` at exactly `places` places; fewer only where its size leaves no room for them. -/
def toPlaces (tie : Tie) (places : Nat) (hp : places ≤ maxScale) (a : Decimal) : Decimal :=
  let rounded := a.roundTo tie places hp
  rounded.padZeros (places - rounded.scale)

end Decimal

end ScalpBot
