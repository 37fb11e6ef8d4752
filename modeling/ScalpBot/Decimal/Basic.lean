import ScalpBot.Power

/-!
# Decimals

Prices, quantities and fee rates are decimals. A `Decimal` is a signed coefficient of at most 96
bits over a power of ten with at most 28 places. It keeps the places it was written with, so `1.5`
and `1.50` are two decimals of one value: `=` compares the written form, `Decimal.compare` the value.
-/

namespace ScalpBot

/-- The largest coefficient: 96 one bits. -/
abbrev Decimal.maxCoefficient : Nat := 79228162514264337593543950335

/-- The most places after the point. -/
abbrev Decimal.maxScale : Nat := 28

/-- The decimal `coefficient / 10 ^ scale`. Zero carries no sign. -/
structure Decimal where
  /-- All digits as one integer. -/
  coefficient : Int
  /-- How many of the digits stand after the point. -/
  scale : Nat
  coefficient_le : coefficient.natAbs ≤ Decimal.maxCoefficient := by decide
  scale_le : scale ≤ Decimal.maxScale := by decide
deriving DecidableEq

namespace Decimal

/-- The decimal of these parts, where it exists. -/
def ofParts? (coefficient : Int) (scale : Nat) : Option Decimal :=
  if h : coefficient.natAbs ≤ maxCoefficient ∧ scale ≤ maxScale then
    some ⟨coefficient, scale, h.1, h.2⟩
  else none

theorem ofParts?_eq_some_iff {c : Int} {s : Nat} {d : Decimal} :
    ofParts? c s = some d ↔ d.coefficient = c ∧ d.scale = s := by
  unfold ofParts?
  split
  · rename_i h
    constructor
    · intro e
      cases e
      exact ⟨rfl, rfl⟩
    · rintro ⟨rfl, rfl⟩
      rfl
  · rename_i h
    constructor
    · intro e
      cases e
    · rintro ⟨rfl, rfl⟩
      exact absurd ⟨d.coefficient_le, d.scale_le⟩ h

theorem isSome_ofParts? {c : Int} {s : Nat} (hc : c.natAbs ≤ maxCoefficient) (hs : s ≤ maxScale) :
    (ofParts? c s).isSome = true := by
  rw [ofParts?, dif_pos ⟨hc, hs⟩]
  rfl

/-- The written form `0`. -/
def zero : Decimal := ⟨0, 0, by decide, by decide⟩

/-- The written form `1`. -/
def one : Decimal := ⟨1, 0, by decide, by decide⟩

/-- The written form `100`. -/
def hundred : Decimal := ⟨100, 0, by decide, by decide⟩

instance : Inhabited Decimal := ⟨zero⟩

/-- Zero in any written form. -/
def isZero (a : Decimal) : Bool := a.coefficient == 0

/-- The same places, the opposite sign. -/
def neg (a : Decimal) : Decimal :=
  ⟨-a.coefficient, a.scale, by simpa using a.coefficient_le, a.scale_le⟩

/-- The order of the values, found on the common denominator. -/
def compare (a b : Decimal) : Ordering :=
  Ord.compare (a.coefficient * 10 ^ b.scale) (b.coefficient * 10 ^ a.scale)

/-- Greater than zero. -/
def isPositive (a : Decimal) : Bool := 0 < a.coefficient

end Decimal

end ScalpBot
