import ScalpBot.Power

/-!
# Rounding a quotient

`roundDiv tie n d` is the natural number nearest to `n / d`; a `Tie` says where an exact half goes.
Signed quotients are rounded by magnitude, so every rule is symmetric about zero.
-/

namespace ScalpBot

/-- Where an exact half goes. -/
inductive Tie where
  /-- To the even neighbour. -/
  | toEven
  /-- To the neighbour nearer to zero. -/
  | towardZero
  /-- To the neighbour farther from zero. -/
  | awayFromZero
deriving DecidableEq, Repr

/-- Whether a half above `quotient` goes up to the next number. -/
def Tie.goesUp (tie : Tie) (quotient : Nat) : Bool :=
  match tie with
  | .toEven => quotient % 2 == 1
  | .towardZero => false
  | .awayFromZero => true

/-- The natural number nearest to `n / d`. -/
def roundDiv (tie : Tie) (n d : Nat) : Nat :=
  if 2 * (n % d) < d then n / d
  else if d < 2 * (n % d) then n / d + 1
  else if tie.goesUp (n / d) then n / d + 1
  else n / d

/-- The result is one of the two neighbours of the quotient. -/
theorem roundDiv_eq_or (tie : Tie) (n d : Nat) :
    roundDiv tie n d = n / d ∨ roundDiv tie n d = n / d + 1 ∧ d ≤ 2 * (n % d) := by
  unfold roundDiv
  split
  · exact .inl rfl
  · split
    · exact .inr ⟨rfl, by omega⟩
    · split
      · exact .inr ⟨rfl, by omega⟩
      · exact .inl rfl

/-- Dividing by a positive number never makes a number larger. -/
theorem roundDiv_le (tie : Tie) (n : Nat) {d : Nat} (hd : 0 < d) : roundDiv tie n d ≤ n := by
  rcases roundDiv_eq_or tie n d with h | ⟨h, hr⟩
  · rw [h]
    exact Nat.div_le_self n d
  · rw [h]
    have hn := Nat.div_add_mod n d
    have hpos : 0 < n % d := by omega
    have hlt := Nat.mod_lt n hd
    have hmul : n / d ≤ d * (n / d) := Nat.le_mul_of_pos_left _ hd
    omega

/-- The integer nearest to `n / d`, by magnitude. -/
def roundRatio (tie : Tie) (n : Int) (d : Nat) : Int :=
  n.sign * roundDiv tie n.natAbs d

theorem natAbs_roundRatio_le (tie : Tie) (n : Int) {d : Nat} (hd : 0 < d) :
    (roundRatio tie n d).natAbs ≤ n.natAbs := by
  unfold roundRatio
  rw [Int.natAbs_mul, Int.natAbs_natCast]
  have hsign : n.sign.natAbs ≤ 1 := by
    rw [Int.natAbs_sign]
    split <;> omega
  calc n.sign.natAbs * roundDiv tie n.natAbs d
      ≤ 1 * roundDiv tie n.natAbs d := Nat.mul_le_mul_right _ hsign
    _ = roundDiv tie n.natAbs d := Nat.one_mul _
    _ ≤ n.natAbs := roundDiv_le tie _ hd

end ScalpBot
