import ScalpBot.Proofs.Binary64.Nearest

/-!
# Decimals of few digits are found again

A decimal of at most fifteen digits is further from the next one of its kind than the interval of a
binary number is wide. So of all decimals on its grid it is the only one that reads back as the number
to which it is rounded, and no coarser grid has another. The search for the shortest digits goes from
coarse grids to fine ones, and ends with this very decimal: `Nearest.shortest_spec`.
-/

namespace ScalpBot

namespace Binary64

/-! ## The leading digit -/

variable {n d : ℕ}

/-- A power of ten is compared with a fraction by cross products. -/
theorem le_ratio_iff (hd : 0 < d) (k : ℤ) :
    (if 0 ≤ k then d * 10 ^ k.toNat ≤ n else d ≤ n * 10 ^ (-k).toNat) ↔ (10 : ℚ) ^ k ≤ n / d := by
  have hd' : (0 : ℚ) < d := by exact_mod_cast hd
  rw [le_div_iff₀ hd']
  split
  · rename_i hk
    obtain ⟨j, rfl⟩ := Int.eq_ofNat_of_zero_le hk
    rw [Int.toNat_natCast, zpow_natCast, mul_comm d]
    exact_mod_cast Iff.rfl
  · rename_i hk
    obtain ⟨j, rfl⟩ := Int.exists_eq_neg_ofNat (by omega : k ≤ 0)
    rw [Int.neg_neg, Int.toNat_natCast, zpow_neg, zpow_natCast, inv_mul_le_iff₀ (by positivity), mul_comm]
    exact_mod_cast Iff.rfl

/-- **The leading digit is found** from a lower bound of its place that is not too low. -/
theorem leadingPower_spec (hd : 0 < d) {steps : ℕ} {k : ℤ} (hlow : (10 : ℚ) ^ k ≤ n / d)
    (hhigh : (n / d : ℚ) < 10 ^ (k + 1 + steps)) :
    (10 : ℚ) ^ leadingPower n d steps k ≤ n / d ∧
      (n / d : ℚ) < 10 ^ (leadingPower n d steps k + 1) := by
  induction steps generalizing k with
  | zero =>
    rw [Nat.cast_zero, add_zero] at hhigh
    exact ⟨hlow, hhigh⟩
  | succ steps ih =>
    rw [leadingPower]
    have hiff := le_ratio_iff (n := n) hd (k + 1)
    by_cases habove : (10 : ℚ) ^ (k + 1) ≤ n / d
    · rw [if_pos (by simpa using hiff.mpr habove)]
      refine ih habove ?_
      convert hhigh using 2
      push_cast
      ring
    · rw [if_neg (by simpa using mt hiff.mp habove)]
      exact ⟨hlow, not_le.mp habove⟩

/-- How the powers of two from `2 ^ -64` to `2 ^ 64` compare with the powers of ten that are guessed
for them, all taken times `2 ^ 64` and `10 ^ 30`. -/
theorem guess_table : ∀ k : ℕ, k < 129 →
    10 ^ (((k : ℤ) - 64) * 30103 / 100000 + 29).toNat * 2 ^ 64 ≤ 2 ^ k * 10 ^ 30 ∧
    2 ^ (k + 2) * 10 ^ 30 ≤ 10 ^ ((((k : ℤ) - 64) * 30103 / 100000 + 29).toNat + 6) * 2 ^ 64 := by
  decide +kernel

/-- The power of ten that is guessed for a power of two is no higher, and less than six places lower
than what is four times as much. -/
theorem guess_spec {b : ℤ} (hlow : -64 ≤ b) (hhigh : b ≤ 64) :
    (10 : ℚ) ^ (b * 30103 / 100000 - 1) ≤ 2 ^ b ∧
      (2 : ℚ) ^ (b + 2) ≤ 10 ^ (b * 30103 / 100000 - 1 + 1 + (5 : ℕ)) := by
  obtain ⟨k, hk⟩ := Int.eq_ofNat_of_zero_le (by omega : 0 ≤ b + 64)
  obtain rfl : b = k - 64 := by omega
  obtain ⟨hbelow, habove⟩ := guess_table k (by omega)
  obtain ⟨j, hj⟩ := Int.eq_ofNat_of_zero_le (by omega : 0 ≤ ((k : ℤ) - 64) * 30103 / 100000 + 29)
  have hguess : ((k : ℤ) - 64) * 30103 / 100000 - 1 = j - 30 := by omega
  have hguess' : ((k : ℤ) - 64) * 30103 / 100000 - 1 + 1 + (5 : ℕ) = (j + 6 : ℕ) - 30 := by omega
  have hpower : (k : ℤ) - 64 + 2 = (k + 2 : ℕ) - 64 := by omega
  rw [hj, Int.toNat_natCast] at hbelow habove
  rw [hguess', hguess, hpower]
  simp only [zpow_sub₀ (two_ne_zero' ℚ), zpow_sub₀ (show (10 : ℚ) ≠ 0 by norm_num), zpow_natCast,
    zpow_ofNat]
  constructor
  · rw [div_le_div_iff₀ (by positivity) (by positivity)]
    exact_mod_cast hbelow
  · rw [div_le_div_iff₀ (by positivity) (by positivity)]
    exact_mod_cast habove

/-- **The place of the leading digit is found** for a fraction of moderate size. -/
theorem leadingPower_of_bound (hn : 0 < n) (hd : 0 < d) (hlow : (2 : ℚ) ^ (-60 : ℤ) ≤ n / d)
    (hhigh : (n / d : ℚ) ≤ 2 ^ (60 : ℤ)) :
    (10 : ℚ) ^ leadingPower n d 5 (leadingPowerBound n d) ≤ n / d ∧
      (n / d : ℚ) < 10 ^ (leadingPower n d 5 (leadingPowerBound n d) + 1) := by
  obtain ⟨habove, hbelow⟩ := ratio_mem_of_log2 hn hd
  have hbound : leadingPowerBound n d =
      ((Nat.log2 n : ℤ) - Nat.log2 d - 1) * 30103 / 100000 - 1 := rfl
  have hsmall := (zpow_lt_zpow_iff_right₀ one_lt_two).mp (habove.trans_le hhigh)
  have hlarge := (zpow_lt_zpow_iff_right₀ one_lt_two).mp (hlow.trans_lt hbelow)
  obtain ⟨hten, htwo⟩ :=
    guess_spec (by omega : -64 ≤ (Nat.log2 n : ℤ) - Nat.log2 d - 1) (by omega)
  rw [hbound]
  refine leadingPower_spec hd (hten.trans habove.le) ?_
  have hnext : (Nat.log2 n : ℤ) - Nat.log2 d + 1 = (Nat.log2 n : ℤ) - Nat.log2 d - 1 + 2 := by omega
  rw [hnext] at hbelow
  exact hbelow.trans_le htwo

/-! ## One grid -/

/-- The value of an interval over a power of ten, as a fraction. -/
def Interval.fraction (i : Interval) (power : ℤ) : ℕ × ℕ :=
  if 0 ≤ power then (i.value, i.denominator * 10 ^ power.toNat)
  else (i.value * 10 ^ (-power).toNat, i.denominator)

variable {i : Interval} {power : ℤ} {k : ℕ}

theorem Interval.fraction_spec (hden : 0 < i.denominator) (power : ℤ) :
    0 < (i.fraction power).2 ∧
      ((i.fraction power).1 / (i.fraction power).2 : ℚ) = i.value / i.denominator / 10 ^ power := by
  rw [fraction]
  split
  · rename_i hpower
    obtain ⟨j, rfl⟩ := Int.eq_ofNat_of_zero_le hpower
    refine ⟨Nat.mul_pos hden (Nat.pow_pos (by omega)), ?_⟩
    push_cast
    simp [div_div]
  · rename_i hpower
    obtain ⟨j, rfl⟩ := Int.exists_eq_neg_ofNat (by omega : power ≤ 0)
    refine ⟨hden, ?_⟩
    push_cast
    simp [mul_div_right_comm]

/-- The two neighbours of the value on a grid, the nearer one first. -/
def Interval.neighbours (i : Interval) (power : ℤ) : ℕ × ℕ :=
  let nearest := roundDiv .toEven (i.fraction power).1 (i.fraction power).2
  let below := (i.fraction power).1 / (i.fraction power).2
  (nearest, if nearest = below then below + 1 else below)

theorem Interval.onGrid?_eq (i : Interval) (power : ℤ) : i.onGrid? power =
    if 0 < (i.neighbours power).1 && i.holds (i.neighbours power).1 power then
      some (i.neighbours power).1
    else if 0 < (i.neighbours power).2 && i.holds (i.neighbours power).2 power then
      some (i.neighbours power).2
    else none := rfl

/-- The integers less than one away from a quotient are its floor and the next. -/
theorem eq_div_or_eq_succ {a b : ℕ} (hb : 0 < b) (hless : k * b < a + b) (hmore : a < (k + 1) * b) :
    k = a / b ∨ k = a / b + 1 := by
  have hlow : a / b < k + 1 := Nat.div_lt_of_lt_mul (by rwa [mul_comm])
  have hhigh : k < a / b + 2 := by
    refine Nat.lt_of_mul_lt_mul_right (a := b) (hless.trans ?_)
    have hdiv := Nat.div_add_mod a b
    have hmod := Nat.mod_lt a hb
    rw [add_mul, mul_comm (a / b)]
    omega
  omega

/-- A multiple that is less than a unit of the grid away is one of the neighbours. -/
theorem Interval.eq_neighbour (hden : 0 < i.denominator)
    (hnear : |(k * 10 ^ power : ℚ) - i.value / i.denominator| < 10 ^ power) :
    k = (i.neighbours power).1 ∨ k = (i.neighbours power).2 := by
  obtain ⟨hb, hvalue⟩ := i.fraction_spec hden power
  generalize hfraction : i.fraction power = fraction at hb hvalue
  obtain ⟨a, b⟩ := fraction
  dsimp only at hb hvalue
  have hb' : (0 : ℚ) < b := by exact_mod_cast hb
  have hunit : (0 : ℚ) < 10 ^ power := zpow_pos (by norm_num) power
  have hclose : |(k : ℚ) - a / b| < 1 := by
    rw [hvalue, sub_div' hunit.ne', abs_div, abs_of_pos hunit, div_lt_one hunit]
    exact hnear
  obtain ⟨hbelow, habove⟩ := abs_lt.mp hclose
  have hless : k * b < a + b := by
    have hless' : (k : ℚ) < (a + b) / b := by
      rw [add_div, div_self hb'.ne']
      linarith
    exact_mod_cast (lt_div_iff₀ hb').mp hless'
  have hmore : a < (k + 1) * b := by
    have hmore' : (a : ℚ) / b < (k + 1 : ℕ) := by
      push_cast
      linarith
    exact_mod_cast (div_lt_iff₀ hb').mp hmore'
  have hfloor := eq_div_or_eq_succ hb hless hmore
  rw [neighbours, hfraction]
  dsimp only
  rcases roundDiv_eq_or .toEven a b with hnearest | ⟨hnearest, -⟩
  · rw [hnearest, if_pos rfl]
    exact hfloor
  · rw [hnearest, if_neg (by omega)]
    exact hfloor.symm

/-- What is found on a grid lies in the interval. -/
theorem Interval.contains_of_onGrid? (h : i.onGrid? power = some k) :
    i.Contains (k * 10 ^ power) := by
  rw [← i.holds_iff]
  rw [onGrid?_eq] at h
  split at h
  · rename_i hnearest
    obtain rfl := Option.some.inj h
    exact (Bool.and_eq_true_iff.mp hnearest).2
  · split at h
    · rename_i hother
      obtain rfl := Option.some.inj h
      exact (Bool.and_eq_true_iff.mp hother).2
    · cases h

/-- **A neighbour of the value on a grid is found**, if it lies in the interval. -/
theorem Interval.isSome_onGrid? (hden : 0 < i.denominator) (hk : 0 < k)
    (hcontains : i.Contains (k * 10 ^ power))
    (hnear : |(k * 10 ^ power : ℚ) - i.value / i.denominator| < 10 ^ power) :
    (i.onGrid? power).isSome = true := by
  rw [← i.holds_iff] at hcontains
  have hchecks : (decide (0 < k) && i.holds k power) = true := by
    rw [decide_eq_true hk, hcontains]
    rfl
  rw [onGrid?_eq]
  rcases Interval.eq_neighbour hden hnear with rfl | rfl
  · rw [if_pos hchecks]
    rfl
  · rw [if_pos hchecks]
    split <;> rfl

/-! ## The search -/

/-- **The search ends on a hit.**  Where all that lies in the interval, on the grid of `10 ^ goal` and on
coarser ones, is one number, and there is a hit on this grid, the search comes to the number. -/
theorem Interval.search_spec {x : ℚ} {goal : ℤ} (steps : ℕ)
    (hunique : ∀ (k : ℕ) (power : ℤ), goal ≤ power → i.Contains (k * 10 ^ power) →
      (k * 10 ^ power : ℚ) = x)
    (hhit : (i.onGrid? goal).isSome = true) (hgoal : goal ≤ power) (hsteps : power < goal + steps) :
    ((i.search steps power).1 * 10 ^ (i.search steps power).2 : ℚ) = x ∧
      goal ≤ (i.search steps power).2 := by
  induction steps generalizing power with
  | zero => omega
  | succ steps ih =>
    cases hgrid : i.onGrid? power with
    | some k =>
      simp only [search, hgrid]
      exact ⟨hunique k power hgoal (contains_of_onGrid? hgrid), hgoal⟩
    | none =>
      simp only [search, hgrid]
      have hne : power ≠ goal := by
        rintro rfl
        rw [hgrid] at hhit
        cases hhit
      push_cast at hsteps
      exact ih (by omega) (by omega)

/-- Trailing zeros are moved into the power, so the number stays the same. -/
theorem stripZeros_spec (fuel n : ℕ) (power : ℤ) :
    ((stripZeros fuel n power).1 * 10 ^ (stripZeros fuel n power).2 : ℚ) = n * 10 ^ power ∧
      power ≤ (stripZeros fuel n power).2 := by
  induction fuel generalizing n power with
  | zero => exact ⟨rfl, le_rfl⟩
  | succ fuel ih =>
    rw [stripZeros]
    split
    · rename_i hzeros
      rw [Bool.and_eq_true, decide_eq_true_eq, decide_eq_true_eq] at hzeros
      obtain ⟨hvalue, hpower⟩ := ih (n / 10) (power + 1)
      obtain ⟨k, rfl⟩ := Nat.dvd_of_mod_eq_zero hzeros.2
      rw [Nat.mul_div_cancel_left k (by omega)] at hvalue hpower ⊢
      refine ⟨hvalue.trans ?_, by omega⟩
      rw [zpow_add_one₀ (by norm_num)]
      push_cast
      ring
    · exact ⟨rfl, le_rfl⟩

/-! ## Decimals of few digits -/

theorem denominator_interval_pos (m : ℕ) (e : ℤ) : 0 < (interval m e).denominator :=
  denominator_ratio_pos 1 (e - 2)

/-- The value of the interval of a number is the number. -/
theorem value_interval (m : ℕ) (e : ℤ) :
    ((interval m e).value : ℚ) / (interval m e).denominator = m * 2 ^ e := by
  have hunit := ratio_value 1 (e - 2)
  rw [Nat.cast_one, one_mul, zpow_sub₀ two_ne_zero] at hunit
  have hvalue : (interval m e).value = 4 * m * (ratio 1 (e - 2)).1 := rfl
  have hdenominator : (interval m e).denominator = (ratio 1 (e - 2)).2 := rfl
  rw [hvalue, hdenominator]
  push_cast
  rw [mul_div_assoc, hunit]
  ring

theorem value_interval_pos {m : ℕ} (hm : 0 < m) (e : ℤ) : 0 < (interval m e).value := by
  refine Nat.pos_of_ne_zero fun hzero => ?_
  have hvalue := value_interval m e
  have hm' : (0 : ℚ) < m := by exact_mod_cast hm
  rw [hzero, Nat.cast_zero, zero_div] at hvalue
  exact absurd hvalue (mul_pos hm' (zpow_pos two_pos e)).ne

/-- The bound of decimals that have few digits: fifteen at most. -/
abbrev fewDigits : ℕ := 10 ^ 15

variable {x : ℚ} {m digits : ℕ} {e goal lead : ℤ}

/-- A multiple of few digits of a power of ten. -/
structure FewDigits (x : ℚ) (digits : ℕ) (power : ℤ) : Prop where
  value : x = digits * 10 ^ power
  pos : 0 < digits
  lt : digits < fewDigits

theorem ten_zpow_pos (power : ℤ) : (0 : ℚ) < 10 ^ power := zpow_pos (by norm_num) power

/-- A multiple of a coarser unit is one of a finer unit. -/
theorem exists_finer (k : ℕ) (hgoal : goal ≤ power) :
    ∃ j : ℕ, (k * 10 ^ power : ℚ) = (k * 10 ^ j : ℕ) * 10 ^ goal := by
  obtain ⟨j, hj⟩ := Int.eq_ofNat_of_zero_le (sub_nonneg.mpr hgoal)
  refine ⟨j, ?_⟩
  rw [← sub_add_cancel power goal, hj, zpow_add₀ (by norm_num), zpow_natCast]
  push_cast
  ring

/-- A number has no more digits as a multiple of a coarser unit. -/
theorem FewDigits.of_coarser (h : FewDigits x digits goal) (hgoal : goal ≤ power)
    (hk : (k * 10 ^ power : ℚ) = x) : FewDigits x k power := by
  obtain ⟨j, hj⟩ := exists_finer k hgoal
  rw [hk, h.value] at hj
  have hdigits : digits = k * 10 ^ j := by
    exact_mod_cast mul_right_cancel₀ (ten_zpow_pos goal).ne' hj
  have hpos : 0 < k := Nat.pos_of_mul_pos_right (hdigits ▸ h.pos)
  refine ⟨hk.symm, hpos, lt_of_le_of_lt ?_ h.lt⟩
  rw [hdigits]
  exact Nat.le_mul_of_pos_right k (Nat.pow_pos (by omega))

/-- **A step is smaller than the unit of a decimal of few digits.** -/
theorem Nearest.step_lt_unit (h : Nearest x m e) (hx : FewDigits x digits goal) :
    (2 : ℚ) ^ e < 10 ^ goal := by
  have hstep := h.step_lt
  have hunit := ten_zpow_pos goal
  have hdigits : (digits : ℚ) < 10 ^ 15 := by exact_mod_cast hx.lt
  have hbound : x < 10 ^ 15 * 10 ^ goal := hx.value ▸ mul_lt_mul_of_pos_right hdigits hunit
  linarith

/-- **The only one of its kind.**  In the interval of the number to which a decimal of few digits is
rounded there is no other multiple of its unit. -/
theorem Nearest.eq_of_contains (h : Nearest x m e) (hx : FewDigits x digits goal)
    (hgoal : goal ≤ power) (hk : (interval m e).Contains (k * 10 ^ power)) :
    (k * 10 ^ power : ℚ) = x := by
  have hunit := ten_zpow_pos goal
  have hclose := (hk.near_of_contains h.contains h.significand_pos).trans_lt (h.step_lt_unit hx)
  obtain ⟨j, hj⟩ := exists_finer k hgoal
  rw [hj, hx.value, ← sub_mul, abs_mul, abs_of_pos hunit] at hclose
  have hone : |((k * 10 ^ j : ℕ) : ℚ) - digits| < 1 :=
    lt_of_mul_lt_mul_right (hclose.trans_eq (one_mul _).symm) hunit.le
  have hdiff : |((k * 10 ^ j : ℕ) : ℤ) - digits| < 1 := by exact_mod_cast hone
  have heq : ((k * 10 ^ j : ℕ) : ℤ) = digits := sub_eq_zero.mp (Int.abs_lt_one_iff.mp hdiff)
  rw [hj, hx.value]
  congr 1
  exact_mod_cast heq

/-- On the grid of its unit a decimal of few digits is found. -/
theorem Nearest.isSome_onGrid? (h : Nearest x m e) (hx : FewDigits x digits goal) :
    ((interval m e).onGrid? goal).isSome = true := by
  have hcontains : (interval m e).Contains (digits * 10 ^ goal) := hx.value ▸ h.contains
  refine Interval.isSome_onGrid? (denominator_interval_pos m e) hx.pos hcontains ?_
  rw [value_interval, ← hx.value]
  exact (h.contains.near_of_contains (contains_self h.significand_pos) h.significand_pos).trans_lt
    (h.step_lt_unit hx)

/-- What is rounded, and the number to which it is rounded, are of one size. -/
theorem Nearest.half_lt (h : Nearest x m e) : x / 2 < m * 2 ^ e ∧ (m * 2 ^ e : ℚ) < 2 * x := by
  have hstep := h.step_lt
  have hpos : (0 : ℚ) < 2 ^ e := zpow_pos two_pos e
  obtain ⟨hbelow, habove⟩ := abs_le.mp (h.contains.near h.significand_pos)
  constructor <;> linarith

/-- A decimal of few digits is less than the power of ten with so many zeros more. -/
theorem FewDigits.lt_zpow (h : FewDigits x digits goal) : x < 10 ^ (goal + 15) := by
  have hdigits : (digits : ℚ) < 10 ^ (15 : ℤ) := by exact_mod_cast h.lt
  rw [h.value, zpow_add₀ (by norm_num), mul_comm]
  exact mul_lt_mul_of_pos_left hdigits (ten_zpow_pos goal)

theorem FewDigits.zpow_le (h : FewDigits x digits goal) : (10 : ℚ) ^ goal ≤ x := by
  have hdigits : (1 : ℚ) ≤ digits := by exact_mod_cast h.pos
  rw [h.value]
  exact le_mul_of_one_le_left (ten_zpow_pos goal).le hdigits

/-- A decimal of few digits and places is a multiple of few digits of a unit that is no coarser than
the leading digit, and not much finer. -/
theorem Nearest.exists_grid (h : Nearest x m e) {places : ℕ} (hplaces : places ≤ 15)
    (hx : FewDigits x digits (-places)) (hlow : (10 : ℚ) ^ lead ≤ m * 2 ^ e)
    (hhigh : (m * 2 ^ e : ℚ) < 10 ^ (lead + 1)) :
    ∃ digits' goal, FewDigits x digits' goal ∧ goal ≤ lead ∧ lead < goal + 17 ∧ -16 ≤ goal := by
  obtain ⟨hhalf, htwice⟩ := h.half_lt
  have hten : (1 : ℚ) < 10 := by norm_num
  rcases le_or_gt (-(places : ℤ)) lead with hle | hlt
  · have hsize : (10 : ℚ) ^ lead < 10 ^ (-(places : ℤ) + 15 + 1) := by
      rw [zpow_add_one₀ (by norm_num)]
      have hless := hx.lt_zpow
      linarith
    have hlead := (zpow_lt_zpow_iff_right₀ hten).mp hsize
    exact ⟨digits, -places, hx, hle, by omega, by omega⟩
  · -- the number lies just below a power of ten, and the decimal is this power
    obtain ⟨j, hj⟩ := exists_finer digits hlt.le
    rw [← hx.value] at hj
    have hpos : 0 < digits * 10 ^ j := Nat.mul_pos hx.pos (Nat.pow_pos (by omega))
    have hfew : digits * 10 ^ j < fewDigits := by
      have hsize : ((digits * 10 ^ j : ℕ) : ℚ) * 10 ^ lead < 20 * 10 ^ lead := by
        rw [zpow_add_one₀ (by norm_num)] at hhigh
        linarith
      have hless : ((digits * 10 ^ j : ℕ) : ℚ) < (20 : ℕ) := by
        exact_mod_cast lt_of_mul_lt_mul_right hsize (ten_zpow_pos lead).le
      have htwenty : digits * 10 ^ j < 20 := by exact_mod_cast hless
      exact htwenty.trans (by norm_num)
    have hleast : (10 : ℚ) ^ (-(places : ℤ) - 1) < 10 ^ (lead + 1) := by
      have hmore := hx.zpow_le
      rw [zpow_sub_one₀ (by norm_num)]
      linarith
    have hlead := (zpow_lt_zpow_iff_right₀ hten).mp hleast
    exact ⟨_, lead, ⟨hj, hpos, hfew⟩, le_rfl, by omega, by omega⟩

/-- The search starts at the place of the leading digit. -/
theorem exists_lead {m : ℕ} {e : ℤ} (hm : 0 < m) (hlow : (2 : ℚ) ^ (-60 : ℤ) ≤ m * 2 ^ e)
    (hhigh : (m * 2 ^ e : ℚ) ≤ 2 ^ (60 : ℤ)) :
    ∃ lead, (10 : ℚ) ^ lead ≤ m * 2 ^ e ∧ (m * 2 ^ e : ℚ) < 10 ^ (lead + 1) ∧
      shortest m e = stripZeros 18 ((interval m e).search 17 lead).1
        ((interval m e).search 17 lead).2 := by
  rw [← value_interval] at hlow hhigh ⊢
  obtain ⟨hlead, hnext⟩ := leadingPower_of_bound (value_interval_pos hm e)
    (denominator_interval_pos m e) hlow hhigh
  exact ⟨_, hlead, hnext, rfl⟩

/-- **A decimal of few digits is found again**: the shortest digits of the number to which it is
rounded write the decimal. -/
theorem Nearest.shortest_spec (h : Nearest x m e) {places : ℕ} (hplaces : places ≤ 15)
    (hx : FewDigits x digits (-places)) :
    FewDigits x (shortest m e).1 (shortest m e).2 ∧ -16 ≤ (shortest m e).2 := by
  obtain ⟨hhalf, htwice⟩ := h.half_lt
  have hleast : (10 : ℚ) ^ (-15 : ℤ) ≤ x :=
    (zpow_le_zpow_right₀ (by norm_num) (by omega)).trans hx.zpow_le
  have hmost : x < 10 ^ (15 : ℤ) :=
    hx.lt_zpow.trans_le (zpow_le_zpow_right₀ (by norm_num) (by omega))
  norm_num at hleast hmost
  obtain ⟨lead, hlow, hhigh, hshortest⟩ := exists_lead (e := e) h.significand_pos
    (by norm_num; linarith) (by norm_num; linarith)
  obtain ⟨digits', goal, hfew, hgoal, hsteps, hgoal16⟩ := h.exists_grid hplaces hx hlow hhigh
  obtain ⟨hfound, hpower⟩ := Interval.search_spec 17
    (fun _ _ hle hk => h.eq_of_contains hfew hle hk) (h.isSome_onGrid? hfew) hgoal
    (by exact_mod_cast hsteps)
  obtain ⟨hstripped, hcoarser⟩ := stripZeros_spec 18 ((interval m e).search 17 lead).1
    ((interval m e).search 17 lead).2
  rw [hshortest]
  exact ⟨hfew.of_coarser (hpower.trans hcoarser) (hstripped.trans hfound), by omega⟩

end Binary64

end ScalpBot
