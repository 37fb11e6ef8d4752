import ScalpBot.Proofs.Decimal.Value
import ScalpBot.Proofs.Result

/-!
# When a result leaves the range

Rounding a quotient passes a number as soon as the quotient passes the middle to the next one, or meets
it and the half goes up (`lt_roundDiv_iff`). So a result is larger than every decimal exactly where it
lies at least half a unit beyond the largest coefficient, whatever its places: `Decimal.TooLarge`.

Sums, differences and products overflow in this case and in no other (`Decimal.add_eq_error_iff`,
`Decimal.sub_eq_error_iff`, `Decimal.mul_eq_error_iff`), and so does a quotient by anything but zero
(`Decimal.div?_eq_none_iff`). A sum of many terms is taken term by term (`Decimal.addAll`), so it
overflows where one of the sums on the way does.
-/

namespace ScalpBot

/-- **Where a rounded quotient passes a number.** -/
theorem lt_roundDiv_iff (tie : Tie) (n k : ℕ) {d : ℕ} (hd : 0 < d) :
    k < roundDiv tie n d ↔
      (2 * k + 1) * d < 2 * n ∨ (2 * k + 1) * d = 2 * n ∧ tie.goesUp k = true := by
  have hround := roundDiv_eq_or tie n d
  have hmod := Nat.mod_lt n hd
  have hn := Nat.div_add_mod n d
  rcases lt_trichotomy k (n / d) with hlt | rfl | hgt
  · -- the quotient has reached `k + 1`
    have hmul : d * (k + 1) ≤ d * (n / d) := Nat.mul_le_mul_left d hlt
    have hexpand : (2 * k + 1) * d + d = 2 * (d * (k + 1)) := by ring
    exact iff_of_true (by omega) (.inl (by omega))
  · have hexpand : (2 * (n / d) + 1) * d = 2 * (d * (n / d)) + d := by ring
    rw [hexpand, roundDiv]
    split
    · exact iff_of_false (Nat.lt_irrefl _) (by omega)
    · split
      · exact iff_of_true (Nat.lt_succ_self _) (.inl (by omega))
      · split
        · exact iff_of_true (Nat.lt_succ_self _) (.inr ⟨by omega, ‹_›⟩)
        · refine iff_of_false (Nat.lt_irrefl _) ?_
          rintro (h | ⟨-, hup⟩)
          · omega
          · contradiction
  · -- it has not
    have hmul : d * (n / d + 1) ≤ d * k := Nat.mul_le_mul_left d hgt
    have hsucc : d * (n / d + 1) = d * (n / d) + d := by ring
    have hexpand : (2 * k + 1) * d = 2 * (d * k) + d := by ring
    exact iff_of_false (by omega) (by omega)

theorem natAbs_roundRatio (tie : Tie) (n : ℤ) {d : ℕ} (hd : 0 < d) :
    (roundRatio tie n d).natAbs = roundDiv tie n.natAbs d := by
  rw [roundRatio, Int.natAbs_mul, Int.natAbs_natCast, Int.natAbs_sign]
  split
  · rename_i hzero
    have hround := roundDiv_le tie 0 hd
    rw [hzero, Int.natAbs_zero]
    omega
  · exact one_mul _

namespace Decimal

variable {a b c : Decimal} {n : ℤ} {d places : ℕ}

/-! ## The range -/

/-- Whether a number is so large that no decimal is nearest to it: from half a unit beyond the largest
coefficient on. -/
def TooLarge (x : ℚ) : Prop := maxCoefficient + 1 / 2 ≤ |x|

theorem abs_value_le (a : Decimal) : |a.value| ≤ maxCoefficient := by
  have hcoefficient : |(a.coefficient : ℚ)| ≤ maxCoefficient := by
    rw [← Int.cast_abs, Int.abs_eq_natAbs]
    exact_mod_cast a.coefficient_le
  have hpow : (1 : ℚ) ≤ 10 ^ a.scale := one_le_pow₀ (by norm_num)
  rw [value, abs_div, abs_of_pos (by positivity : (0 : ℚ) < 10 ^ a.scale)]
  exact (div_le_self (abs_nonneg _) hpow).trans hcoefficient

theorem not_tooLarge_of_le {x : ℚ} (h : |x| ≤ maxCoefficient) : ¬ TooLarge x :=
  (h.trans_lt (lt_add_of_pos_right _ (by norm_num))).not_ge

theorem not_tooLarge_value (a : Decimal) : ¬ TooLarge a.value := not_tooLarge_of_le a.abs_value_le

/-- A decimal of at least that many places has the coefficient of a rounded quotient, unless the
coefficient is too large. -/
theorem ofParts?_roundRatio_eq_none_iff (n : ℤ) (hd : 0 < d) (hplaces : places ≤ maxScale) :
    ofParts? (roundRatio .toEven n d) places = none ↔
      (2 * maxCoefficient + 1) * d ≤ 2 * n.natAbs := by
  have hodd : Tie.toEven.goesUp maxCoefficient = true := by decide
  have hlt := lt_roundDiv_iff .toEven n.natAbs maxCoefficient hd
  rw [hodd, ← natAbs_roundRatio .toEven n hd] at hlt
  rw [ofParts?, dite_eq_right_iff]
  simp [hplaces, hlt]
  omega

/-- **A quotient has a nearest decimal unless it is too large**, however many places are asked for. -/
theorem nearest?_eq_none_iff (n : ℤ) (hd : 0 < d) (hplaces : places ≤ maxScale) :
    nearest? n d places = none ↔ (2 * maxCoefficient + 1) * d ≤ 2 * n.natAbs := by
  induction places with
  | zero => exact ofParts?_roundRatio_eq_none_iff n hd hplaces
  | succ places ih =>
    have hparts := ofParts?_roundRatio_eq_none_iff (n * 10 ^ (places + 1)) hd hplaces
    have hmore : n.natAbs ≤ (n * 10 ^ (places + 1)).natAbs := by
      rw [Int.natAbs_mul]
      exact Nat.le_mul_of_pos_right _ (by positivity)
    rw [nearest?]
    cases h : ofParts? (roundRatio .toEven (n * 10 ^ (places + 1)) d) (places + 1) with
    | some a =>
      rw [h] at hparts
      have hfits := mt hparts.mpr (by simp)
      exact iff_of_false (by simp) (by omega)
    | none => exact ih (Nat.le_of_succ_le hplaces)

theorem tooLarge_div_iff (n : ℤ) (hd : 0 < d) :
    TooLarge (n / d) ↔ (2 * maxCoefficient + 1) * d ≤ 2 * n.natAbs := by
  have hd' : (0 : ℚ) < d := by exact_mod_cast hd
  have habs : |(n : ℚ)| = n.natAbs := by rw [Nat.cast_natAbs, Int.cast_abs]
  have hcast : (2 * maxCoefficient + 1) * d ≤ 2 * n.natAbs ↔
      (2 * (maxCoefficient : ℚ) + 1) * d ≤ 2 * n.natAbs := by norm_cast
  rw [TooLarge, abs_div, abs_of_pos hd', le_div_iff₀ hd', habs, hcast]
  generalize (maxCoefficient : ℚ) = m
  constructor <;> intro h <;> linarith

/-! ## Operations that overflow -/

theorem sum?_eq_none_iff : sum? a b = none ↔ TooLarge (a.value + b.value) := by
  rw [sum?]
  split
  · rename_i hzero
    rw [value_eq_zero_iff.mpr hzero, zero_add]
    exact iff_of_false (by simp) b.not_tooLarge_value
  · split
    · rename_i hzero
      rw [value_eq_zero_iff.mpr hzero, add_zero]
      exact iff_of_false (by simp) a.not_tooLarge_value
    · have hscale : max a.scale b.scale ≤ maxScale := Nat.max_le.mpr ⟨a.scale_le, b.scale_le⟩
      have hpow : 0 < 10 ^ max a.scale b.scale := by positivity
      have hvalue : a.value + b.value =
          (sumNumerator a b : ℚ) / (10 ^ max a.scale b.scale : ℕ) := by
        rw [sumNumerator_eq]
        push_cast
        rw [mul_div_cancel_right₀ _ (by positivity)]
      rw [hvalue, tooLarge_div_iff _ hpow, nearest?_eq_none_iff _ hpow hscale]

/-- **A sum overflows where it is too large, and only there.** -/
theorem add_eq_error_iff {cause : Overflow} :
    a.add b = .error cause ↔ cause = .addition ∧ TooLarge (a.value + b.value) := by
  rw [← sum?_eq_none_iff, add]
  cases sum? a b <;> simp [eq_comm]

theorem value_neg (a : Decimal) : a.neg.value = -a.value := by
  rw [value, value, neg]
  push_cast
  exact neg_div ..

/-- **A difference overflows where it is too large, and only there.** -/
theorem sub_eq_error_iff {cause : Overflow} :
    a.sub b = .error cause ↔ cause = .subtraction ∧ TooLarge (a.value - b.value) := by
  rw [sub_eq_add_neg, ← value_neg, ← sum?_eq_none_iff, sub]
  cases sum? a b.neg <;> simp [eq_comm]

/-- **A product overflows where it is too large, and only there.** -/
theorem mul_eq_error_iff {cause : Overflow} :
    a.mul b = .error cause ↔ cause = .multiplication ∧ TooLarge (a.value * b.value) := by
  rw [mul]
  split
  · rename_i hzero
    have hvalue : a.value * b.value = 0 := by
      rw [mul_eq_zero, value_eq_zero_iff, value_eq_zero_iff]
      simpa using hzero
    rw [hvalue, ← value_zero]
    exact iff_of_false (by simp) fun h => zero.not_tooLarge_value h.2
  · have hpow : 0 < 10 ^ (a.scale + b.scale) := by positivity
    rw [value_mul_value, tooLarge_div_iff _ hpow,
      ← nearest?_eq_none_iff _ hpow (Nat.min_le_right (a.scale + b.scale) maxScale)]
    cases nearest? (a.coefficient * b.coefficient) (10 ^ (a.scale + b.scale))
      (min (a.scale + b.scale) maxScale) <;> simp [eq_comm]

theorem coefficient_ne_zero (hb : b.isZero = false) : b.coefficient ≠ 0 := by
  simpa [isZero] using hb

/-- A quotient of the coefficients that comes out even, at the places that are left. -/
theorem value_of_even (hb : b.isZero = false) (heven : b.coefficient ∣ a.coefficient ∧ b.scale ≤ a.scale)
    (hc : c.coefficient = a.coefficient / b.coefficient ∧ c.scale = a.scale - b.scale) :
    c.value = a.value / b.value := by
  have hb' : b.value ≠ 0 := by rw [Ne, value_eq_zero_iff, hb]; exact Bool.false_ne_true
  have hproduct : b.coefficient * c.coefficient = a.coefficient := by
    rw [hc.1, Int.mul_ediv_cancel' heven.1]
  have hplaces : b.scale + c.scale = a.scale := by omega
  rw [eq_div_iff hb', mul_comm, value_mul_value, hproduct, hplaces, value]
  push_cast
  rfl

theorem value_div_value (hb : b.isZero = false) :
    a.value / b.value = (a.coefficient * b.coefficient.sign * 10 ^ b.scale : ℤ) /
      (b.coefficient.natAbs * 10 ^ a.scale : ℕ) := by
  have hb' : (b.coefficient : ℚ) ≠ 0 := by exact_mod_cast coefficient_ne_zero hb
  have hsign : (b.coefficient.sign : ℚ) ≠ 0 := by
    exact_mod_cast mt Int.sign_eq_zero_iff_zero.mp (coefficient_ne_zero hb)
  have habs : (b.coefficient.natAbs : ℚ) = b.coefficient.sign * b.coefficient := by
    rw [← Int.cast_mul, Int.sign_mul_self, Int.cast_natCast]
  rw [value, value]
  push_cast
  rw [habs]
  field_simp

/-- **A quotient is missing where it is too large, and only there.** -/
theorem div?_eq_none_iff (hb : b.isZero = false) :
    a.div? b = none ↔ TooLarge (a.value / b.value) := by
  rw [div?, hb, if_neg Bool.false_ne_true]
  split
  · rename_i hzero
    rw [value_eq_zero_iff.mpr hzero, zero_div, ← value_zero]
    exact iff_of_false (by simp) zero.not_tooLarge_value
  · split
    · -- the division comes out even, and the quotient is no larger than its numerator
      rename_i heven
      have hcoefficient := (Int.natAbs_ediv_le_natAbs a.coefficient b.coefficient).trans
        a.coefficient_le
      have hsome := isSome_ofParts? hcoefficient ((Nat.sub_le _ b.scale).trans a.scale_le)
      obtain ⟨c, hc⟩ := Option.isSome_iff_exists.mp hsome
      rw [hc, ← value_of_even hb heven (ofParts?_eq_some_iff.mp hc)]
      exact iff_of_false (by simp) c.not_tooLarge_value
    · have hd : 0 < b.coefficient.natAbs * 10 ^ a.scale :=
        Nat.mul_pos (Int.natAbs_pos.mpr (coefficient_ne_zero hb)) (by positivity)
      rw [Option.map_eq_none_iff, nearest?_eq_none_iff _ hd (Nat.le_refl _), value_div_value hb,
        tooLarge_div_iff _ hd]

/-! ## Sums of many terms -/

/-- A decimal with others added to it in turn. -/
def addAll (start : Decimal) (terms : List Decimal) : Except Overflow Decimal :=
  terms.foldlM add start

/-- Whether one of the sums on the way is too large. -/
def LeavesRange (start : Decimal) : (terms : List Decimal) → Prop
  | [] => False
  | next :: rest =>
    TooLarge (start.value + next.value) ∨ ∃ sum, start.add next = .ok sum ∧ LeavesRange sum rest

theorem addAll_cons (start next : Decimal) (rest : List Decimal) :
    addAll start (next :: rest) = start.add next >>= fun sum => addAll sum rest :=
  List.foldlM_cons

/-- **A sum of many terms overflows where one on the way is too large, and only there.** -/
theorem addAll_eq_error_iff {start : Decimal} {terms : List Decimal} {cause : Overflow} :
    addAll start terms = .error cause ↔ cause = .addition ∧ LeavesRange start terms := by
  induction terms generalizing start with
  | nil => exact iff_of_false nofun fun h => h.2
  | cons next rest ih =>
    rw [addAll_cons, bind_eq_error_iff, add_eq_error_iff, LeavesRange, and_or_left]
    simp only [ih, and_left_comm, exists_and_left]

/-- **What sums keep, a sum of many terms keeps.** -/
theorem addAll_preserves {p : Decimal → Prop} {start : Decimal} {terms : List Decimal}
    (hadd : ∀ {a b sum}, a.add b = .ok sum → p a → p b → p sum) (h : addAll start terms = .ok c)
    (hstart : p start) (hterms : ∀ a ∈ terms, p a) : p c := by
  induction terms generalizing start with
  | nil =>
    cases h
    exact hstart
  | cons next rest ih =>
    obtain ⟨hnext, hrest⟩ := List.forall_mem_cons.mp hterms
    rw [addAll_cons] at h
    obtain ⟨sum, hsum, h⟩ := bind_eq_ok_iff.mp h
    exact ih h (hadd hsum hstart hnext) hrest

theorem scale_addAll_le {start : Decimal} {terms : List Decimal} (h : addAll start terms = .ok c)
    (hstart : start.scale ≤ places) (hterms : ∀ a ∈ terms, a.scale ≤ places) :
    c.scale ≤ places :=
  addAll_preserves (fun hsum ha hb => (scale_add_le hsum).trans (Nat.max_le.mpr ⟨ha, hb⟩)) h hstart hterms

theorem not_leavesRange_of_addAll {start : Decimal} {terms : List Decimal}
    (h : addAll start terms = .ok c) : ¬ LeavesRange start terms := fun hleaves => by
  cases h.symm.trans (addAll_eq_error_iff.mpr ⟨rfl, hleaves⟩)

/-- Terms that are not negative and small together have an exact sum. -/
theorem addAll_of_le_seven (start : Decimal) (terms : List Decimal) (hstart : 0 ≤ start.value)
    (hterms : ∀ a ∈ terms, 0 ≤ a.value) (hsmall : start.value + (terms.map value).sum ≤ 7) :
    ∃ c, addAll start terms = .ok c ∧ c.value = start.value + (terms.map value).sum := by
  induction terms generalizing start with
  | nil => exact ⟨start, rfl, by simp⟩
  | cons next rest ih =>
    obtain ⟨hnext, hrest⟩ := List.forall_mem_cons.mp hterms
    rw [List.map_cons, List.sum_cons, ← add_assoc] at hsmall ⊢
    have hsum : 0 ≤ (rest.map value).sum := List.sum_nonneg (by simpa using hrest)
    have hle : |start.value + next.value| ≤ maxCoefficient := by
      rw [abs_of_nonneg (by linarith)]
      exact le_trans (by linarith) (by norm_num : (7 : ℚ) ≤ maxCoefficient)
    rw [addAll_cons]
    cases hadd : start.add next with
    | error cause => exact absurd (add_eq_error_iff.mp hadd).2 (not_tooLarge_of_le hle)
    | ok c =>
      have hvalue := value_add_of_le_seven hadd hstart hnext (by linarith)
      rw [← hvalue] at hsmall ⊢
      exact ih c (by linarith) hrest hsmall

end Decimal

end ScalpBot
