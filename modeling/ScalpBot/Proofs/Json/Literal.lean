import ScalpBot.Proofs.Binary64.Text
import ScalpBot.Proofs.Json.Number

/-!
# Plain numbers without quotes

A number in plain notation may stand in a text as a JSON number. It is then an integer or, with a point,
a float that is nearest to it; and where it has few digits, the number is written with digits that are
read as the same decimal again (`PlainNumeral.exists_parse_number`).
-/

namespace ScalpBot

/-! ## The float of few digits -/

namespace Binary64

/-- Nothing divided by any number. -/
theorem divFinite_zero {k : ℕ} (hk : 0 < k) (hbits : k < 2 ^ 52) :
    divFinite (ofNat 0) (ofNat k) = some (zero false) := by
  obtain ⟨m, e, hround, -⟩ := exists_ofNat hk hbits
  have hzero : ofNat 0 = .finite false 0 minExponent := rfl
  have hnone : (ratio 0 minExponent).1 * (ratio m e).2 = 0 := Nat.zero_mul _
  rw [hround, hzero]
  refine divFinite_eq ?_
  rw [hnone]
  rfl

end Binary64

namespace JsonNumber

open Binary64

variable {digits places : ℕ}

theorem ofParts_eq (hplaces : 0 < places) (hfew : places ≤ 15) :
    ofParts false digits (-places) =
      (divFinite (ofNat digits) (ofNat (10 ^ places))).map .float := by
  have hsmall : (-(places : ℤ)).natAbs ≤ 308 := by omega
  have hnegative : ¬ (0 : ℤ) ≤ -places := by omega
  rw [ofParts, scaleFloat, if_pos hsmall, if_neg hnegative, Int.neg_neg, Int.toNat_natCast]
  rfl

/-- **A float of few digits is written as they are**: its text is read as the decimal of the digits. -/
theorem exists_parse_ofParts (hdigits : digits < fewDigits) (hplaces : 0 < places)
    (hfew : places ≤ 15) : ∃ n a, ofParts false digits (-places) = some n ∧
      Decimal.parse (trimmed n.toText) = .ok a ∧ a.value = digits / 10 ^ places := by
  have hpow : 10 ^ places < 2 ^ 52 :=
    (Nat.pow_le_pow_right (by omega) hfew).trans_lt (by norm_num)
  have hpos : 0 < 10 ^ places := Nat.pow_pos (by omega)
  rw [ofParts_eq hplaces hfew]
  rcases Nat.eq_zero_or_pos digits with rfl | hnonzero
  · rw [divFinite_zero hpos hpow]
    obtain ⟨a, hparse, hvalue⟩ : ∃ a, Decimal.parse (trimmed "0.0") = .ok a ∧ a.value = 0 :=
      ⟨⟨0, 1, Nat.zero_le _, by decide⟩, by decide +kernel, by simp [Decimal.value]⟩
    refine ⟨.float (zero false), a, rfl, hparse, ?_⟩
    rw [hvalue, Nat.cast_zero, zero_div]
  · obtain ⟨m, e, hdiv, hnearest⟩ := exists_divFinite hnonzero hpos
      (hdigits.trans (by norm_num)) hpow
    have hvalue : ((digits : ℚ) / (10 ^ places : ℕ)) = digits * 10 ^ (-(places : ℤ)) := by
      rw [zpow_neg, zpow_natCast, ← div_eq_mul_inv]
      push_cast
      rfl
    have hx : FewDigits (digits / (10 ^ places : ℕ)) digits (-places) := ⟨hvalue, hnonzero, hdigits⟩
    obtain ⟨hshortest, hpower⟩ := hnearest.shortest_spec hfew hx
    have hsmall : (digits / (10 ^ places : ℕ) : ℚ) < 10 ^ 15 := by
      refine (div_le_self (Nat.cast_nonneg _) (by exact_mod_cast hpos)).trans_lt ?_
      exact_mod_cast hdigits
    obtain ⟨a, hparse, ha⟩ := exists_parse_toText hnearest.significand_pos.ne' hshortest hpower hsmall
    refine ⟨.float (.finite false m e), a, congrArg (Option.map JsonNumber.float) hdiv, hparse, ?_⟩
    rw [ha]
    push_cast
    rfl

end JsonNumber

namespace PlainNumeral

open JsonNumber

variable {p : PlainNumeral}

/-! ## The numeral as a JSON number -/

/-- What stands behind the whole part begins with no digit. -/
theorem noDigit_tail (p : PlainNumeral) : NoDigit p.tail := by
  intro c rest htail
  rw [tail] at htail
  split at htail
  · cases htail
  · obtain ⟨rfl, -⟩ := List.cons.inj htail
    rfl

/-- The digits before the point are all taken. -/
theorem takeDigits_chars (hfew : p.digits ≤ maxDigits) :
    takeDigits 0 0 0 p.chars = (digitsValue p.whole, p.whole.length, 0, p.tail) := by
  have hwhole : Nat.ofDigitChars 10 p.whole 0 ≤ maxDigits := by
    refine le_trans (Decimal.le_ofDigitChars p.fraction _) ?_
    rwa [← Nat.ofDigitChars_append]
  have hchars : p.chars = p.whole ++ p.tail := rfl
  rw [hchars, takeDigits_append p.noDigit_tail,
    takeDigits_digits (fun c => isDigit_of_mem_whole) hwhole, Nat.zero_add]
  rfl

/-- What is read of a numeral is its whole part and then what follows. -/
theorem readUnsigned_chars {r : JsonNumber × List Char} (hfew : p.digits ≤ maxDigits)
    (h : readUnsigned false p.chars = some r) :
    finishWhole false (digitsValue p.whole) 0 p.tail = some r := by
  have htake := takeDigits_chars hfew
  obtain ⟨c, ds, hwhole⟩ := List.exists_cons_of_ne_nil p.whole_ne_nil
  have hc : c.isDigit = true := isDigit_of_mem_whole (hwhole ▸ List.mem_cons_self)
  have hchars : p.chars = c :: (ds ++ p.tail) := by
    rw [← List.cons_append, ← hwhole]
    rfl
  rw [hchars] at h htake
  by_cases hzero : c = '0'
  · -- a zero in front stands alone
    subst hzero
    cases ds with
    | nil =>
      rw [hwhole]
      cases htail : p.tail with
      | nil =>
        rw [htail] at h
        exact h
      | cons d rest =>
        rw [List.nil_append, htail, readUnsigned] at h
        simp only [p.noDigit_tail d rest htail, Bool.false_eq_true, if_false] at h
        exact h
    | cons d ds =>
      have hd : d.isDigit = true := isDigit_of_mem_whole (p := p) (by simp [hwhole])
      rw [List.cons_append, readUnsigned] at h
      simp only [hd, if_true] at h
      cases h
  · rw [readUnsigned.eq_def] at h
    split at h
    · rename_i hcons
      exact absurd (List.cons.inj hcons).1 hzero
    · rename_i hcons
      obtain ⟨rfl, -⟩ := List.cons.inj hcons
      rw [if_pos hc, htake] at h
      exact h
    · rename_i hcons
      cases hcons

/-- The digits behind a point make a float of all the digits. -/
theorem finishWhole_tail (hfew : p.digits ≤ maxDigits) (hfraction : p.fraction ≠ []) :
    finishWhole false (digitsValue p.whole) 0 p.tail =
      (ofParts false p.digits (-p.places)).map (·, []) := by
  have hdigits : p.digits = Nat.ofDigitChars 10 p.fraction (digitsValue p.whole) :=
    Nat.ofDigitChars_append ..
  have htake : takeDigits (digitsValue p.whole) 0 0 p.fraction =
      (Nat.ofDigitChars 10 p.fraction (digitsValue p.whole), 0 + p.fraction.length, 0, []) :=
    takeDigits_digits (fun _ => isDigit_of_mem_fraction) (hdigits ▸ hfew)
  have hkept : p.fraction.length ≠ 0 := mt List.length_eq_zero_iff.mp hfraction
  have hexponent : ((0 : ℕ) : ℤ) - p.fraction.length = -p.places := zero_sub _
  rw [tail, if_neg hfraction, finishWhole]
  simp only [htake, Nat.zero_add, hkept, decide_false, Bool.false_and, Bool.false_eq_true, if_false]
  rw [finishFloat_of_ne _ _ _ (fun c rest hnil => by cases hnil), hexponent, hdigits]

/-- The integer that is written without a point. -/
def ofNat (n : ℕ) : PlainNumeral where
  whole := Nat.toDigits 10 n
  fraction := []
  whole_ne_nil := Nat.toDigits_ne_nil
  isDigit _ hc := isDigit_of_mem_digits (List.append_nil (Nat.toDigits 10 n) ▸ hc)

theorem text_ofNat (n : ℕ) : (ofNat n).text = (JsonNumber.integer n).toText := by
  rw [← String.toList_inj, text, String.toList_ofList]
  exact (List.append_nil _).trans (toList_toString_natCast n).symm

theorem digits_ofNat (n : ℕ) : (ofNat n).digits = n := by
  have hdigits : (ofNat n).digits = digitsValue (Nat.toDigits 10 n ++ []) := rfl
  rw [hdigits, List.append_nil, digitsValue_toDigits]

/-- What follows the whole part completes a number that is written as the numeral is. -/
theorem exists_parse_of_finishWhole {r : JsonNumber × List Char} (hfew : p.digits < Binary64.fewDigits)
    (hplaces : p.places ≤ 15) (h : finishWhole false (digitsValue p.whole) 0 p.tail = some r) :
    ∃ a, Decimal.parse (trimmed r.1.toText) = .ok a ∧ a.value = p.value := by
  by_cases hfraction : p.fraction = []
  · -- an integer
    rw [tail, if_pos hfraction] at h
    obtain rfl := Option.some.inj h
    have hdigits : digitsValue p.whole = p.digits := by
      rw [digits, hfraction, List.append_nil]
    have hfits : (ofNat p.digits).Fits :=
      ⟨(digits_ofNat _).trans_le (Binary64.le_maxCoefficient hfew), Nat.zero_le _⟩
    obtain ⟨a, hparse, hvalue⟩ := exists_parse_text hfits
    refine ⟨a, ?_, ?_⟩
    · rw [hdigits, ← text_ofNat]
      exact hparse
    · rw [hvalue, value, value, digits_ofNat, places, places, hfraction]
      rfl
  · -- a float
    have hmax : p.digits ≤ maxDigits := hfew.le.trans (by decide)
    have hpoint : 0 < p.places := List.length_pos_iff.mpr hfraction
    obtain ⟨n, a, hparts, hparse, hvalue⟩ := exists_parse_ofParts hfew hpoint hplaces
    rw [finishWhole_tail hmax hfraction, hparts] at h
    obtain rfl := Option.some.inj h
    exact ⟨a, hparse, hvalue⟩

/-- A numeral that is JSON is a number without a sign. -/
theorem exists_readUnsigned_of_parse {v : Json} (h : Json.parse p.text = some v) :
    ∃ r, readUnsigned false p.chars = some r ∧ v = .number r.1 := by
  obtain ⟨c, rest, hchars, hc⟩ := p.exists_chars_eq_cons
  have hskip : Json.skipSpace p.chars = c :: rest := by
    rw [hchars, Json.skipSpace_cons (Json.isSpace_eq_false_of_isDigit hc)]
  rw [Json.parse, text, String.toList_ofList, Json.readValue_digit hskip hc, ← hchars] at h
  cases hread : readUnsigned false p.chars with
  | none =>
    rw [hread] at h
    cases h
  | some r =>
    simp only [hread, Option.map_some] at h
    split at h
    · exact ⟨r, rfl, (Option.some.inj h).symm⟩
    · cases h

/-- **A number of few digits is read, as JSON, as a number that is written as it is**: its text is
read as the same decimal. -/
theorem exists_parse_number {v : Json} (hfew : p.digits < Binary64.fewDigits)
    (hplaces : p.places ≤ 15) (h : Json.parse p.text = some v) :
    ∃ n a, v = .number n ∧ Decimal.parse (trimmed n.toText) = .ok a ∧ a.value = p.value := by
  obtain ⟨r, hread, rfl⟩ := exists_readUnsigned_of_parse h
  have hfinish := readUnsigned_chars (hfew.le.trans (by decide)) hread
  obtain ⟨a, hparse, hvalue⟩ := exists_parse_of_finishWhole hfew hplaces hfinish
  exact ⟨r.1, a, rfl, hparse, hvalue⟩

end PlainNumeral

end ScalpBot
