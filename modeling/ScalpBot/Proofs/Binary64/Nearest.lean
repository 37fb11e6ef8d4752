import ScalpBot.Binary64.Shortest
import ScalpBot.Proofs.Decimal.Rounded

/-!
# The nearest binary number

`Interval.Contains` says in rational numbers what lies in an interval, and `contains_interval_iff` what
lies in the interval of a number: up to half a step around it, less below a power of two, and the ends
only where the number is even. `Nearest x m e` says that `m * 2 ^ e` is a number of full precision with
`x` in its interval. A ratio of moderate size is rounded to a number that is nearest to it
(`exists_ofRatio`), and an integer of at most 52 bits is not rounded at all (`exists_ofNat`), so that a
quotient of two such integers is rounded once (`exists_divFinite`).
-/

namespace ScalpBot

namespace Binary64

/-! ## Fractions -/

theorem denominator_ratio_pos (m : ℕ) (e : ℤ) : 0 < (ratio m e).2 := by
  rw [ratio]
  split
  · exact Nat.one_pos
  · exact Nat.two_pow_pos _

/-- The fraction of a magnitude has its value. -/
theorem ratio_value (m : ℕ) (e : ℤ) : ((ratio m e).1 : ℚ) / (ratio m e).2 = m * 2 ^ e := by
  rw [ratio]
  split
  · rename_i he
    obtain ⟨k, rfl⟩ := Int.eq_ofNat_of_zero_le he
    push_cast
    simp
  · rename_i he
    obtain ⟨k, rfl⟩ := Int.exists_eq_neg_ofNat (by omega : e ≤ 0)
    push_cast
    simp [div_eq_mul_inv]

variable {n d : ℕ}

theorem denominator_scaled_pos (hd : 0 < d) (e : ℤ) : 0 < (scaled n d e).2 := by
  rw [scaled]
  split
  · exact Nat.mul_pos hd (Nat.two_pow_pos _)
  · exact hd

theorem scaled_value (n d : ℕ) (e : ℤ) :
    ((scaled n d e).1 : ℚ) / (scaled n d e).2 = n / d / 2 ^ e := by
  rw [scaled]
  split
  · rename_i he
    obtain ⟨k, rfl⟩ := Int.eq_ofNat_of_zero_le he
    push_cast
    simp [div_div]
  · rename_i he
    obtain ⟨k, rfl⟩ := Int.exists_eq_neg_ofNat (by omega : e ≤ 0)
    push_cast
    simp [mul_div_right_comm]

/-! ## The exponent -/

/-- The binary logarithms of its parts tell the size of a ratio up to a factor of four. -/
theorem ratio_mem_of_log2 (hn : 0 < n) (hd : 0 < d) :
    (2 : ℚ) ^ ((Nat.log2 n : ℤ) - Nat.log2 d - 1) < n / d ∧
      (n / d : ℚ) < 2 ^ ((Nat.log2 n : ℤ) - Nat.log2 d + 1) := by
  have hd' : (0 : ℚ) < d := by exact_mod_cast hd
  have two_ne : (2 : ℚ) ≠ 0 := two_ne_zero
  obtain ⟨hnlow, hnhigh⟩ := (Nat.log2_eq_iff hn.ne').mp rfl
  obtain ⟨hdlow, hdhigh⟩ := (Nat.log2_eq_iff hd.ne').mp rfl
  have hnlow' : (2 : ℚ) ^ Nat.log2 n ≤ n := by exact_mod_cast hnlow
  have hnhigh' : (n : ℚ) < 2 ^ (Nat.log2 n + 1) := by exact_mod_cast hnhigh
  have hdlow' : (2 : ℚ) ^ Nat.log2 d ≤ d := by exact_mod_cast hdlow
  have hdhigh' : (d : ℚ) < 2 ^ (Nat.log2 d + 1) := by exact_mod_cast hdhigh
  constructor
  · rw [lt_div_iff₀ hd', sub_sub, zpow_sub₀ two_ne, ← Nat.cast_succ, zpow_natCast, zpow_natCast,
      div_mul_eq_mul_div, div_lt_iff₀ (by positivity)]
    exact mul_lt_mul' hnlow' hdhigh' hd'.le (by exact_mod_cast hn)
  · rw [div_lt_iff₀ hd', sub_add_eq_add_sub, zpow_sub₀ two_ne, ← Nat.cast_succ, zpow_natCast,
      zpow_natCast, div_mul_eq_mul_div, lt_div_iff₀ (by positivity)]
    exact mul_lt_mul hnhigh' hdlow' (by positivity) (by positivity)

/-- The exponent that the binary logarithms suggest. It is right, or one too large. -/
def exponentGuess (n d : ℕ) : ℤ := (Nat.log2 n : ℤ) - Nat.log2 d - 52

theorem exponentOf_eq (n d : ℕ) : exponentOf n d = max minExponent
    (if (scaled n d (exponentGuess n d)).1 < 2 ^ 52 * (scaled n d (exponentGuess n d)).2 then
      exponentGuess n d - 1 else exponentGuess n d) := rfl

theorem scaled_lt_iff (hd : 0 < d) (e : ℤ) :
    (scaled n d e).1 < 2 ^ 52 * (scaled n d e).2 ↔ (n / d : ℚ) / 2 ^ e < 2 ^ 52 := by
  have hpos : (0 : ℚ) < (scaled n d e).2 := by exact_mod_cast denominator_scaled_pos hd e
  rw [← scaled_value, div_lt_iff₀ hpos]
  exact_mod_cast Iff.rfl

/-- At the suggested exponent a ratio has 52 or 53 binary digits before the point. -/
theorem exponentGuess_spec (hn : 0 < n) (hd : 0 < d) :
    2 ^ 51 < (n / d : ℚ) / 2 ^ exponentGuess n d ∧ (n / d : ℚ) / 2 ^ exponentGuess n d < 2 ^ 53 := by
  obtain ⟨habove, hbelow⟩ := ratio_mem_of_log2 hn hd
  have hpow : 0 < (2 : ℚ) ^ exponentGuess n d := zpow_pos two_pos _
  have hlow : (Nat.log2 n : ℤ) - Nat.log2 d - 1 = (51 : ℕ) + exponentGuess n d := by
    rw [exponentGuess]
    omega
  have hhigh : (Nat.log2 n : ℤ) - Nat.log2 d + 1 = (53 : ℕ) + exponentGuess n d := by
    rw [exponentGuess]
    omega
  rw [hlow, zpow_add₀ two_ne_zero, zpow_natCast, ← lt_div_iff₀ hpow] at habove
  rw [hhigh, zpow_add₀ two_ne_zero, zpow_natCast, ← div_lt_iff₀ hpow] at hbelow
  exact ⟨habove, hbelow⟩

/-- **The exponent of a ratio** leaves 53 binary digits before the point. -/
theorem exponentOf_spec (hn : 0 < n) (hd : 0 < d) (hlow : (2 : ℚ) ^ (-1000 : ℤ) ≤ n / d) :
    minExponent < exponentOf n d ∧
      (2 : ℚ) ^ 52 ≤ n / d / 2 ^ exponentOf n d ∧ (n / d : ℚ) / 2 ^ exponentOf n d < 2 ^ 53 := by
  obtain ⟨habove, hbelow⟩ := exponentGuess_spec hn hd
  have hsize : (-1000 : ℤ) < (Nat.log2 n : ℤ) - Nat.log2 d + 1 :=
    (zpow_lt_zpow_iff_right₀ one_lt_two).mp (hlow.trans_lt (ratio_mem_of_log2 hn hd).2)
  have hguess : exponentGuess n d = (Nat.log2 n : ℤ) - Nat.log2 d - 52 := rfl
  have hmin : minExponent = -1074 := rfl
  have hsmall := scaled_lt_iff (n := n) hd (exponentGuess n d)
  rw [exponentOf_eq]
  split
  · rename_i hless
    have hhalf := hsmall.mp hless
    rw [max_eq_right (by omega), zpow_sub_one₀ two_ne_zero, ← div_div, div_inv_eq_mul]
    exact ⟨by omega, by linarith, by linarith⟩
  · rename_i hless
    rw [max_eq_right (by omega)]
    exact ⟨by omega, not_lt.mp (mt hsmall.mpr hless), hbelow⟩

/-! ## Intervals -/

/-- A number lies in an interval, at an end of it only if the interval is closed. -/
structure Interval.Contains (i : Interval) (x : ℚ) : Prop where
  low : (i.low : ℚ) ≤ x * i.denominator
  high : x * i.denominator ≤ i.high
  inside : i.closed = false → (i.low : ℚ) < x * i.denominator ∧ x * i.denominator < i.high

variable {i : Interval} {x : ℚ} {a b : ℕ}

/-- A fraction is compared with the ends by cross products. -/
theorem Interval.contains_div_iff (hb : 0 < b) :
    i.Contains (a / b) ↔ i.low * b ≤ a * i.denominator ∧ a * i.denominator ≤ i.high * b ∧
      (i.closed = false → i.low * b < a * i.denominator ∧ a * i.denominator < i.high * b) := by
  have hb' : (0 : ℚ) < b := by exact_mod_cast hb
  have hvalue : (a / b : ℚ) * i.denominator = (a * i.denominator : ℕ) / b := by
    push_cast
    ring
  have hiff : i.Contains (a / b) ↔ (i.low : ℚ) ≤ a / b * i.denominator ∧
      a / b * i.denominator ≤ (i.high : ℚ) ∧
      (i.closed = false → (i.low : ℚ) < a / b * i.denominator ∧
        a / b * i.denominator < (i.high : ℚ)) :=
    ⟨fun h => ⟨h.low, h.high, h.inside⟩, fun ⟨hlow, hhigh, hinside⟩ => ⟨hlow, hhigh, hinside⟩⟩
  rw [hiff, hvalue, le_div_iff₀ hb', div_le_iff₀ hb', lt_div_iff₀ hb', div_lt_iff₀ hb']
  exact_mod_cast Iff.rfl

/-- **What `holds` checks** is whether the decimal lies in the interval. -/
theorem Interval.holds_iff (i : Interval) (n : ℕ) (power : ℤ) :
    i.holds n power = true ↔ i.Contains (n * 10 ^ power) := by
  have hcheck : ∀ a b : ℕ, ((if i.closed then
        i.low * b ≤ a * i.denominator && a * i.denominator ≤ i.high * b
      else i.low * b < a * i.denominator && a * i.denominator < i.high * b) = true ↔
        i.low * b ≤ a * i.denominator ∧ a * i.denominator ≤ i.high * b ∧
        (i.closed = false → i.low * b < a * i.denominator ∧ a * i.denominator < i.high * b)) := by
    intro a b
    cases i.closed with
    | true => simp
    | false =>
      simp only [Bool.false_eq_true, if_false, Bool.and_eq_true, decide_eq_true_eq, true_imp_iff]
      exact ⟨fun h => ⟨h.1.le, h.2.le, h⟩, fun h => h.2.2⟩
  by_cases hpower : 0 ≤ power
  · obtain ⟨k, rfl⟩ := Int.eq_ofNat_of_zero_le hpower
    have hvalue : (n * 10 ^ (k : ℤ) : ℚ) = (n * 10 ^ k : ℕ) / (1 : ℕ) := by
      push_cast
      simp
    rw [hvalue, contains_div_iff Nat.one_pos, ← hcheck, holds, if_pos hpower]
    rfl
  · obtain ⟨k, rfl⟩ := Int.exists_eq_neg_ofNat (by omega : power ≤ 0)
    have hvalue : (n * 10 ^ (-k : ℤ) : ℚ) = (n : ℕ) / (10 ^ k : ℕ) := by
      push_cast
      simp [div_eq_mul_inv]
    rw [hvalue, contains_div_iff (Nat.pow_pos (by omega)), ← hcheck, holds, if_neg hpower]
    simp only [Int.neg_neg, Int.toNat_natCast]

/-- How far the interval of a number reaches down, in quarters of a step. -/
def lowQuarters (m : ℕ) (e : ℤ) : ℕ := if m = 2 ^ 52 && minExponent < e then 1 else 2

theorem contains_interval_iff {m : ℕ} {e : ℤ} {x : ℚ} (hm : 0 < m) :
    (interval m e).Contains x ↔
      (4 * m - lowQuarters m e) * 2 ^ (e - 2) ≤ x ∧ x ≤ (4 * m + 2) * (2 : ℚ) ^ (e - 2) ∧
      (m % 2 = 1 → (4 * m - lowQuarters m e) * 2 ^ (e - 2) < x ∧
        x < (4 * m + 2) * (2 : ℚ) ^ (e - 2)) := by
  have hden : (0 : ℚ) < (ratio 1 (e - 2)).2 := by exact_mod_cast denominator_ratio_pos 1 (e - 2)
  have hunit := ratio_value 1 (e - 2)
  rw [Nat.cast_one, one_mul] at hunit
  have hquarters : lowQuarters m e ≤ 4 * m := by
    rw [lowQuarters]
    split <;> omega
  have hlow : ((interval m e).low : ℚ) =
      (4 * m - lowQuarters m e) * 2 ^ (e - 2) * (ratio 1 (e - 2)).2 := by
    have hdef : (interval m e).low = (4 * m - lowQuarters m e) * (ratio 1 (e - 2)).1 := rfl
    rw [hdef, ← hunit]
    push_cast [hquarters]
    field_simp
  have hhigh : ((interval m e).high : ℚ) = (4 * m + 2) * 2 ^ (e - 2) * (ratio 1 (e - 2)).2 := by
    have hdef : (interval m e).high = (4 * m + 2) * (ratio 1 (e - 2)).1 := rfl
    rw [hdef, ← hunit]
    push_cast
    field_simp
  have hclosed : (interval m e).closed = false ↔ m % 2 = 1 := by
    have hdef : (interval m e).closed = decide (m % 2 = 0) := rfl
    rw [hdef, decide_eq_false_iff_not]
    omega
  have hiff : (interval m e).Contains x ↔
      ((interval m e).low : ℚ) ≤ x * (ratio 1 (e - 2)).2 ∧
      x * (ratio 1 (e - 2)).2 ≤ ((interval m e).high : ℚ) ∧
      (m % 2 = 1 → ((interval m e).low : ℚ) < x * (ratio 1 (e - 2)).2 ∧
        x * (ratio 1 (e - 2)).2 < ((interval m e).high : ℚ)) :=
    ⟨fun h => ⟨h.low, h.high, fun hodd => h.inside (hclosed.mpr hodd)⟩,
      fun ⟨hlow, hhigh, hinside⟩ => ⟨hlow, hhigh, fun hopen => hinside (hclosed.mp hopen)⟩⟩
  rw [hiff, hlow, hhigh, mul_le_mul_iff_left₀ hden, mul_le_mul_iff_left₀ hden,
    mul_lt_mul_iff_left₀ hden, mul_lt_mul_iff_left₀ hden]

/-! ## Rounding to the nearest -/

/-- `m * 2 ^ e` is a number of full precision that is nearest to `x`. -/
structure Nearest (x : ℚ) (m : ℕ) (e : ℤ) : Prop where
  le_significand : 2 ^ 52 ≤ m
  significand_lt : m < 2 ^ 53
  contains : (interval m e).Contains x

/-- A quotient that is rounded to even is at most a half away, and less from an odd number. -/
theorem roundDiv_toEven_near (hd : 0 < d) :
    |(roundDiv .toEven n d : ℚ) - n / d| ≤ 1 / 2 ∧
      (roundDiv .toEven n d % 2 = 1 → |(roundDiv .toEven n d : ℚ) - n / d| < 1 / 2) := by
  have hd' : (0 : ℚ) < d := by exact_mod_cast hd
  have hnear := two_mul_abs_roundDiv_sub_le .toEven n hd
  have hdist : |(roundDiv .toEven n d : ℚ) - n / d| =
      (|(d : ℤ) * roundDiv .toEven n d - n| : ℤ) / d := by
    rw [sub_div' hd'.ne', abs_div, abs_of_pos hd', mul_comm]
    push_cast
    rfl
  rw [hdist, div_le_div_iff₀ hd' two_pos, div_lt_div_iff₀ hd' two_pos, one_mul, mul_comm]
  refine ⟨by exact_mod_cast hnear, fun hodd => ?_⟩
  have hne : 2 * |(d : ℤ) * roundDiv .toEven n d - n| ≠ d := by
    intro hhalf
    rw [Int.abs_eq_natAbs] at hhalf
    obtain ⟨-, hround⟩ := roundDiv_of_half hd (by exact_mod_cast hhalf)
    rcases Nat.mod_two_eq_zero_or_one (n / d) with hq | hq <;>
      rw [hround] at hodd <;> simp [Tie.goesUp, hq, Nat.add_mod] at hodd
  exact_mod_cast lt_of_le_of_ne hnear hne

/-- The number of steps to which so many steps are rounded is nearest to them. -/
theorem nearest_of_near {y : ℚ} {m : ℕ} (e : ℤ) (hlow : 2 ^ 52 ≤ y) (hm : m < 2 ^ 53)
    (hnear : |(m : ℚ) - y| ≤ 1 / 2) (hodd : m % 2 = 1 → |(m : ℚ) - y| < 1 / 2) :
    Nearest (y * 2 ^ e) m e := by
  obtain ⟨hbelow, habove⟩ := abs_le.mp hnear
  have hlow' : 2 ^ 52 ≤ m := by
    have hless : (2 ^ 52 : ℚ) < (m + 1 : ℕ) := by
      push_cast
      linarith
    exact Nat.lt_succ_iff.mp (by exact_mod_cast hless)
  refine ⟨hlow', hm, (contains_interval_iff (by omega)).mpr ?_⟩
  have hquarter : (0 : ℚ) < 2 ^ (e - 2) := zpow_pos two_pos _
  have hsteps : y * (2 : ℚ) ^ e = 4 * y * 2 ^ (e - 2) := by
    rw [zpow_sub₀ two_ne_zero]
    ring
  rw [hsteps, mul_le_mul_iff_left₀ hquarter, mul_le_mul_iff_left₀ hquarter,
    mul_lt_mul_iff_left₀ hquarter, mul_lt_mul_iff_left₀ hquarter]
  refine ⟨?_, by linarith, fun hm => ?_⟩
  · rw [lowQuarters]
    split
    · rename_i hpower
      simp only [Bool.and_eq_true, decide_eq_true_eq] at hpower
      rw [hpower.1]
      push_cast
      linarith
    · push_cast
      linarith
  · obtain ⟨hbelow, habove⟩ := abs_lt.mp (hodd hm)
    have hne : m ≠ 2 ^ 52 := by
      rintro rfl
      simp at hm
    have htwo : lowQuarters m e = 2 := by
      rw [lowQuarters, decide_eq_false hne]
      rfl
    rw [htwo]
    push_cast
    constructor <;> linarith

/-- What is rounded up to the next power of two is rounded to its first number. -/
theorem nearest_of_carry {y : ℚ} {e : ℤ} (hmin : minExponent < e) (hlow : 2 ^ 53 - 1 / 2 ≤ y)
    (hhigh : y < 2 ^ 53) : Nearest (y * 2 ^ e) (2 ^ 52) (e + 1) := by
  refine ⟨le_rfl, by norm_num, (contains_interval_iff (by norm_num)).mpr ?_⟩
  have hquarter : (0 : ℚ) < 2 ^ (e + 1 - 2) := zpow_pos two_pos _
  have hsteps : y * (2 : ℚ) ^ e = 2 * y * 2 ^ (e + 1 - 2) := by
    rw [zpow_sub₀ two_ne_zero, zpow_add_one₀ two_ne_zero]
    ring
  have hone : lowQuarters (2 ^ 52) (e + 1) = 1 := by
    rw [lowQuarters, decide_eq_true rfl, decide_eq_true (by omega : minExponent < e + 1)]
    rfl
  rw [hsteps, mul_le_mul_iff_left₀ hquarter, mul_le_mul_iff_left₀ hquarter, hone]
  push_cast
  exact ⟨by linarith, by linarith, fun hodd => absurd hodd (by norm_num)⟩

/-- The steps to which a ratio is rounded make its number, if their exponent is not too large. -/
theorem ofRatio_eq (negative : Bool) {m : ℕ} {e : ℤ} (hn : 0 < n) (he : exponentOf n d = e)
    (hm : roundDiv .toEven (scaled n d e).1 (scaled n d e).2 = m) (hmax : e + 1 ≤ maxExponent) :
    ofRatio negative n d =
      if m = 2 ^ 53 then .finite negative (2 ^ 52) (e + 1) else .finite negative m e := by
  subst he hm
  simp only [ofRatio, if_neg hn.ne']
  split
  · rw [if_neg (by omega)]
  · rw [if_neg (by omega)]

/-- **A ratio of moderate size is rounded to a number that is nearest to it.** -/
theorem exists_ofRatio (negative : Bool) (hn : 0 < n) (hd : 0 < d)
    (hlow : (2 : ℚ) ^ (-1000 : ℤ) ≤ n / d) (hhigh : (n / d : ℚ) ≤ 2 ^ 900) :
    ∃ m e, ofRatio negative n d = .finite negative m e ∧ Nearest (n / d) m e := by
  obtain ⟨hmin, hge, hlt⟩ := exponentOf_spec hn hd hlow
  generalize he : exponentOf n d = e at hmin hge hlt
  generalize hm : roundDiv .toEven (scaled n d e).1 (scaled n d e).2 = m
  obtain ⟨hnear, hodd⟩ := roundDiv_toEven_near (n := (scaled n d e).1) (denominator_scaled_pos hd e)
  rw [scaled_value, hm] at hnear hodd
  obtain ⟨hbelow, habove⟩ := abs_le.mp hnear
  have hexact : (n / d : ℚ) = n / d / 2 ^ e * 2 ^ e := by
    rw [div_mul_cancel₀ _ (zpow_pos two_pos e).ne']
  have hmax : e + 1 ≤ maxExponent := by
    have hbound : (2 : ℚ) ^ ((52 : ℕ) + e) ≤ 2 ^ ((900 : ℕ) : ℤ) := by
      rw [zpow_add₀ two_ne_zero, zpow_natCast, zpow_natCast]
      exact ((le_div_iff₀ (zpow_pos two_pos e)).mp hge).trans hhigh
    have hexponents := (zpow_le_zpow_iff_right₀ one_lt_two).mp hbound
    have hmaxExponent : maxExponent = 971 := rfl
    omega
  have hround := ofRatio_eq negative hn he hm hmax
  by_cases hcarry : m = 2 ^ 53
  · rw [if_pos hcarry] at hround
    refine ⟨2 ^ 52, e + 1, hround, ?_⟩
    rw [hexact]
    refine nearest_of_carry hmin ?_ hlt
    rw [hcarry] at habove
    push_cast at habove
    linarith
  · rw [if_neg hcarry] at hround
    refine ⟨m, e, hround, ?_⟩
    rw [hexact]
    refine nearest_of_near e hge ?_ hnear hodd
    have hless : (m : ℚ) < (2 ^ 53 + 1 : ℕ) := by
      push_cast
      linarith
    have hle : m < 2 ^ 53 + 1 := by exact_mod_cast hless
    omega

/-! ## What a nearest number is near to -/

section

variable {m : ℕ} {e : ℤ} {y : ℚ}

/-- The interval of a number reaches at most half a step away. -/
theorem Interval.Contains.near (hx : (interval m e).Contains x) (hm : 0 < m) :
    |x - m * 2 ^ e| ≤ 2 ^ e / 2 := by
  obtain ⟨hlow, hhigh, -⟩ := (contains_interval_iff hm).mp hx
  have hquarter : (0 : ℚ) < 2 ^ (e - 2) := zpow_pos two_pos _
  have hstep : (2 : ℚ) ^ e = 4 * 2 ^ (e - 2) := by
    rw [zpow_sub₀ two_ne_zero]
    ring
  have htwo : (lowQuarters m e : ℚ) ≤ 2 := by
    rw [lowQuarters]
    split <;> norm_num
  have hreach : (4 * m - 2 : ℚ) * 2 ^ (e - 2) ≤ (4 * m - lowQuarters m e) * 2 ^ (e - 2) :=
    mul_le_mul_of_nonneg_right (by linarith) hquarter.le
  rw [hstep, abs_le]
  constructor <;> linarith

/-- Two numbers in an interval are at most a step apart. -/
theorem Interval.Contains.near_of_contains (hx : (interval m e).Contains x)
    (hy : (interval m e).Contains y) (hm : 0 < m) : |x - y| ≤ 2 ^ e := by
  have hxm := hx.near hm
  have hym := hy.near hm
  calc |x - y| ≤ |x - m * 2 ^ e| + |m * 2 ^ e - y| := abs_sub_le ..
    _ ≤ 2 ^ e / 2 + 2 ^ e / 2 := by
      rw [abs_sub_comm _ y]
      exact add_le_add hxm hym
    _ = 2 ^ e := add_halves _

/-- A number lies in its own interval. -/
theorem contains_self (hm : 0 < m) : (interval m e).Contains (m * 2 ^ e) := by
  have hquarter : (0 : ℚ) < 2 ^ (e - 2) := zpow_pos two_pos _
  have hstep : (m * 2 ^ e : ℚ) = 4 * m * 2 ^ (e - 2) := by
    rw [zpow_sub₀ two_ne_zero]
    ring
  have hone : (1 : ℚ) ≤ lowQuarters m e := by
    rw [lowQuarters]
    split <;> norm_num
  rw [contains_interval_iff hm, hstep, mul_le_mul_iff_left₀ hquarter, mul_le_mul_iff_left₀ hquarter,
    mul_lt_mul_iff_left₀ hquarter, mul_lt_mul_iff_left₀ hquarter]
  exact ⟨by linarith, by linarith, fun _ => ⟨by linarith, by linarith⟩⟩

theorem Nearest.significand_pos (h : Nearest x m e) : 0 < m :=
  Nat.lt_of_lt_of_le (by norm_num) h.le_significand

/-- A step is small beside what is rounded. -/
theorem Nearest.step_lt (h : Nearest x m e) : 2 ^ 51 * (2 : ℚ) ^ e < x := by
  have hstep : (0 : ℚ) < 2 ^ e := zpow_pos two_pos e
  have hm : (2 ^ 52 : ℚ) ≤ m := by exact_mod_cast h.le_significand
  obtain ⟨hbelow, -⟩ := abs_le.mp (h.contains.near h.significand_pos)
  have hnumber := mul_le_mul_of_nonneg_right hm hstep.le
  linarith

/-- The ratio of two integers of at most 52 bits is of moderate size. -/
theorem moderate_div (hn : 0 < n) (hd : 0 < d) (hnbits : n < 2 ^ 52) (hdbits : d < 2 ^ 52) :
    (2 : ℚ) ^ (-1000 : ℤ) ≤ n / d ∧ (n / d : ℚ) ≤ 2 ^ 900 := by
  have hnone : (1 : ℚ) ≤ n := by exact_mod_cast hn
  have hdone : (1 : ℚ) ≤ d := by exact_mod_cast hd
  have hnbits' : (n : ℚ) ≤ 2 ^ 52 := by exact_mod_cast hnbits.le
  have hdbits' : (d : ℚ) ≤ 2 ^ 52 := by exact_mod_cast hdbits.le
  constructor
  · calc (2 : ℚ) ^ (-1000 : ℤ) ≤ 2 ^ (-52 : ℤ) := zpow_le_zpow_right₀ one_le_two (by omega)
      _ = 1 / 2 ^ 52 := by norm_num
      _ ≤ n / d := div_le_div₀ (by positivity) hnone (by positivity) hdbits'
  · calc (n / d : ℚ) ≤ n := div_le_self (by positivity) hdone
      _ ≤ 2 ^ 52 := hnbits'
      _ ≤ 2 ^ 900 := pow_le_pow_right₀ one_le_two (by omega)

/-- **An integer of at most 52 bits is not rounded.** -/
theorem exists_ofNat (hn : 0 < n) (hbits : n < 2 ^ 52) :
    ∃ m e, ofNat n = .finite false m e ∧ (m * 2 ^ e : ℚ) = n := by
  have hbits' : (n : ℚ) < 2 ^ 52 := by exact_mod_cast hbits
  have hdiv : ((n : ℚ) / (1 : ℕ)) = n := by rw [Nat.cast_one, div_one]
  obtain ⟨hlow, hhigh⟩ := moderate_div hn Nat.one_pos hbits (by norm_num)
  obtain ⟨m, e, hround, hnearest⟩ := exists_ofRatio false hn Nat.one_pos hlow hhigh
  rw [hdiv] at hnearest
  refine ⟨m, e, hround, ?_⟩
  have he : e ≤ 0 := by
    have hless : (2 : ℚ) ^ (51 + e) < 2 ^ (52 : ℤ) := by
      rw [zpow_add₀ two_ne_zero]
      exact hnearest.step_lt.trans (by exact_mod_cast hbits')
    have hexponents := (zpow_lt_zpow_iff_right₀ one_lt_two).mp hless
    omega
  -- in steps the integer is an integer, too, and at most a half away
  obtain ⟨k, rfl⟩ := Int.exists_eq_neg_ofNat he
  have hpow : (0 : ℚ) < 2 ^ k := by positivity
  have hclose := hnearest.contains.near hnearest.significand_pos
  rw [zpow_neg, zpow_natCast, ← div_eq_mul_inv] at hclose ⊢
  rw [sub_div' hpow.ne', abs_div, abs_of_pos hpow, div_le_iff₀ hpow, div_mul_eq_mul_div,
    inv_mul_cancel₀ hpow.ne'] at hclose
  have hdist : |(n * 2 ^ k : ℤ) - m| < 1 := by
    have hhalf : |((n * 2 ^ k - m : ℤ) : ℚ)| < (1 : ℤ) := by
      push_cast
      exact hclose.trans_lt (by norm_num)
    exact_mod_cast hhalf
  have heq : (n * 2 ^ k : ℤ) = m := sub_eq_zero.mp (Int.abs_lt_one_iff.mp hdist)
  rw [div_eq_iff hpow.ne']
  exact_mod_cast heq.symm

/-! ## Quotients -/

/-- A quotient of magnitudes is that of their fractions, rounded once. -/
theorem divFinite_eq {m k : ℕ} {e f : ℤ} {q : ℕ} {g : ℤ}
    (h : ofRatio false ((ratio m e).1 * (ratio k f).2) ((ratio m e).2 * (ratio k f).1) =
      .finite false q g) :
    divFinite (.finite false m e) (.finite false k f) = some (.finite false q g) := by
  simp only [divFinite, h]

/-- The fractions of two magnitudes have the quotient of the magnitudes. -/
theorem ratio_div_ratio (m k : ℕ) (e f : ℤ) :
    (((ratio m e).1 * (ratio k f).2 : ℕ) : ℚ) / ((ratio m e).2 * (ratio k f).1 : ℕ) =
      (m * 2 ^ e) / (k * 2 ^ f) := by
  rw [← ratio_value, ← ratio_value, div_div_div_eq]
  push_cast
  rfl

/-- **The quotient of two integers of at most 52 bits** is nearest to their ratio. -/
theorem exists_divFinite (hn : 0 < n) (hd : 0 < d) (hnbits : n < 2 ^ 52) (hdbits : d < 2 ^ 52) :
    ∃ m e, divFinite (ofNat n) (ofNat d) = some (.finite false m e) ∧ Nearest (n / d) m e := by
  obtain ⟨m, e, hround, hvalue⟩ := exists_ofNat hn hnbits
  obtain ⟨k, f, hround', hvalue'⟩ := exists_ofNat hd hdbits
  have hratio := ratio_div_ratio m k e f
  rw [hvalue, hvalue'] at hratio
  -- neither part of the quotient is zero, since its value is none
  have hpos : (0 : ℚ) < n / d := div_pos (by exact_mod_cast hn) (by exact_mod_cast hd)
  have hparts : 0 < (ratio m e).1 * (ratio k f).2 ∧ 0 < (ratio m e).2 * (ratio k f).1 := by
    refine ⟨Nat.pos_of_ne_zero fun hzero => ?_, Nat.pos_of_ne_zero fun hzero => ?_⟩ <;>
      simp [← hratio, hzero] at hpos
  obtain ⟨hlow, hhigh⟩ := moderate_div hn hd hnbits hdbits
  obtain ⟨q, g, hquotient, hnearest⟩ := exists_ofRatio false hparts.1 hparts.2
    (hlow.trans_eq hratio.symm) (hratio.trans_le hhigh)
  rw [hround, hround']
  exact ⟨q, g, divFinite_eq hquotient, hratio ▸ hnearest⟩

end

end Binary64

end ScalpBot
