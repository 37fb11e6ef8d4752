import ScalpBot.Power

/-!
# Random identifiers

A `Uuid` is a number of 128 bits. `Uuid.ofRandom` makes one of random bits: six of them are set to say
that the others are random. Its text has 32 digits to the base 16 in five groups.
-/

namespace ScalpBot

/-- An identifier of 128 bits. -/
structure Uuid where
  value : BitVec 128
deriving DecidableEq

namespace Uuid

/-- The identifier of random bits: version 4, variant 1. -/
def ofRandom (bits : BitVec 128) : Uuid :=
  let cleared := bits &&& ~~~(0xF000#128 <<< 64) &&& ~~~(0xC000#128 <<< 48)
  ⟨cleared ||| (0x4000#128 <<< 64) ||| (0x8000#128 <<< 48)⟩

/-- The digit of a number below 16. -/
def digit (n : Nat) : Char := (Nat.digitChar n)

/-- The digit at a place, counted from the first of 32. -/
def digitAt (u : Uuid) (place : Nat) : Char := digit (u.value.toNat / 16 ^ (31 - place) % 16)

/-- The digits from one place up to another. -/
def digits (u : Uuid) (first past : Nat) : List Char :=
  (List.range' first (past - first)).map u.digitAt

/-- The text of an identifier: groups of 8, 4, 4, 4 and 12 digits with hyphens between them. -/
def toText (u : Uuid) : String :=
  String.ofList (u.digits 0 8 ++ '-' :: u.digits 8 12 ++ '-' :: u.digits 12 16
    ++ '-' :: u.digits 16 20 ++ '-' :: u.digits 20 32)

end Uuid

end ScalpBot
