import ScalpBot.Binary64.Text
import ScalpBot.Proofs.Binary64.Shortest
import ScalpBot.Proofs.Decimal.Text

/-!
# The text of a binary number as a decimal

A binary number is written with its shortest digits, in plain notation or with an exponent. Either way
the text is read as the decimal that the digits write (`Binary64.exists_parse_toText`). So a decimal of few
digits that is rounded to a binary number and written again is read as it was.
-/

namespace ScalpBot

/-! ## Values of numerals -/

namespace PlainNumeral

/-- The number that is written. -/
def value (p : PlainNumeral) : ℚ := p.digits / 10 ^ p.places

variable {p : PlainNumeral}

theorem value_toDecimal (h : p.Fits) : (p.toDecimal h).value = p.value := by
  rw [Decimal.value, toDecimal, value]
  push_cast
  rfl

theorem value_nonneg (p : PlainNumeral) : 0 ≤ p.value := by
  rw [value]
  positivity

theorem isBlank_of_mem {c : Char} (h : c ∈ p.chars) : isBlank c = false := by
  rcases mem_chars h with rfl | hdigit
  · rfl
  · exact isBlank_of_isDigit hdigit

/-- There is nothing to trim of a numeral. -/
theorem trimmed_text (p : PlainNumeral) : trimmed p.text = p.text := by
  refine trimmed_eq_self fun c hc => isBlank_of_mem (p := p) ?_
  rwa [text, String.toList_ofList] at hc

/-- **A numeral reads as the number that it writes.** -/
theorem exists_parse_text (h : p.Fits) :
    ∃ a, Decimal.parse (trimmed p.text) = .ok a ∧ a.value = p.value :=
  ⟨_, (congrArg Decimal.parse p.trimmed_text).trans (parse_text h), value_toDecimal h⟩

/-! ## An exponent behind a numeral -/

/-- The text of the numeral with an exponent that divides by a power of ten. -/
def withExponent (p : PlainNumeral) (k : ℕ) : String :=
  String.ofList (p.chars ++ 'e' :: '-' :: Nat.toDigits 10 k)

theorem trimmed_withExponent (p : PlainNumeral) (k : ℕ) :
    trimmed (p.withExponent k) = p.withExponent k := by
  refine trimmed_eq_self fun c hc => ?_
  rw [withExponent, String.toList_ofList, List.mem_append, List.mem_cons, List.mem_cons] at hc
  rcases hc with hchars | rfl | rfl | hdigit
  · exact isBlank_of_mem hchars
  · rfl
  · rfl
  · exact isBlank_of_isDigit (isDigit_of_mem_digits hdigit)

theorem isExponentMark_of_mem {c : Char} (h : c ∈ p.chars) : Decimal.isExponentMark c = false := by
  rcases mem_chars h with rfl | hdigit
  · rfl
  · have he : c ≠ 'e' := by
      rintro rfl
      cases hdigit
    have hE : c ≠ 'E' := by
      rintro rfl
      cases hdigit
    simp [Decimal.isExponentMark, he, hE]

/-- The mark of an exponent is none of a numeral's characters. -/
theorem parsePlain_withExponent (h : p.Fits) (rest : List Char) :
    Decimal.parsePlain (p.chars ++ 'e' :: rest) = .error .unknownCharacter := by
  have hread := readDigits_append h ('e' :: rest)
  have hmark : Decimal.readDigits p.read ('e' :: rest) = .error .unknownCharacter := rfl
  obtain ⟨c, tail, hchars, hc⟩ := p.exists_chars_eq_cons
  rw [hmark, hchars] at hread
  rw [hchars]
  exact Decimal.parsePlain_digit_error hc hread

theorem takeWhile_mark (p : PlainNumeral) (rest : List Char) :
    (p.chars ++ 'e' :: rest).takeWhile (!Decimal.isExponentMark ·) = p.chars := by
  rw [List.takeWhile_append_of_pos fun c hc => by rw [isExponentMark_of_mem hc]; rfl]
  simp [Decimal.isExponentMark]

theorem dropWhile_mark (p : PlainNumeral) (rest : List Char) :
    (p.chars ++ 'e' :: rest).dropWhile (!Decimal.isExponentMark ·) = 'e' :: rest := by
  rw [List.dropWhile_append_of_pos fun c hc => by rw [isExponentMark_of_mem hc]; rfl]
  simp [Decimal.isExponentMark]

end PlainNumeral

namespace Decimal

/-- The point of a decimal moves left where there is room for the places. -/
theorem value_movePointLeft {a : Decimal} {k : ℕ} (h : a.scale + k ≤ maxScale) :
    ∃ b, a.movePointLeft k = .ok b ∧ b.value = a.value / 10 ^ k := by
  obtain ⟨b, hb⟩ := Option.isSome_iff_exists.mp (isSome_ofParts? a.coefficient_le h)
  obtain ⟨hcoefficient, hscale⟩ := ofParts?_eq_some_iff.mp hb
  refine ⟨b, ?_, ?_⟩
  · rw [movePointLeft, if_neg (by omega)]
    simp only [if_neg (by omega : ¬ maxScale < a.scale + k), hb]
  · rw [value, value, hcoefficient, hscale, pow_add, div_div]

end Decimal

/-- **A numeral with an exponent reads as the number divided by the power of ten.** -/
theorem PlainNumeral.exists_parse_withExponent {p : PlainNumeral} {k : ℕ} (h : p.Fits)
    (hk : p.places + k ≤ Decimal.maxScale) :
    ∃ a, Decimal.parse (trimmed (p.withExponent k)) = .ok a ∧ a.value = p.value / 10 ^ k := by
  obtain ⟨a, hmove, hvalue⟩ := Decimal.value_movePointLeft (a := p.toDecimal h) hk
  refine ⟨a, ?_, hvalue.trans (by rw [value_toDecimal])⟩
  have hany : (p.chars ++ 'e' :: '-' :: Nat.toDigits 10 k).any Decimal.isExponentMark = true := by
    simp [Decimal.isExponentMark]
  have hmax : Decimal.maxScale = 28 := rfl
  rw [trimmed_withExponent, Decimal.parse, withExponent, String.toList_ofList,
    parsePlain_withExponent h]
  simp only [hany, if_true]
  rw [Decimal.parseScientific, takeWhile_mark, dropWhile_mark, parsePlain_chars h]
  refine bind_eq_ok_iff.mpr ⟨_, rfl, ?_⟩
  simp only [List.drop_one, List.tail_cons, readNatBelow_toDigits (by omega : k < 2 ^ 32), if_true, hmove]

namespace Binary64

/-! ## The two layouts -/

variable {n : ℕ} {power : ℤ}

theorem le_maxCoefficient (hn : n < fewDigits) : n ≤ Decimal.maxCoefficient :=
  hn.le.trans (by decide)

theorem le_maxScale {k : ℕ} (hk : k ≤ 16) : k ≤ Decimal.maxScale := hk.trans (by decide)

/-- Zeros behind the digits and a place of zero. -/
def wholeNumeral (n k : ℕ) : PlainNumeral where
  whole := Nat.toDigits 10 n ++ List.replicate k '0'
  fraction := ['0']
  whole_ne_nil := List.append_ne_nil_of_left_ne_nil Nat.toDigits_ne_nil _
  isDigit c hc := by
    simp only [List.append_assoc, List.mem_append, List.mem_replicate, List.mem_singleton] at hc
    rcases hc with hdigit | ⟨-, rfl⟩ | rfl
    · exact isDigit_of_mem_digits hdigit
    · rfl
    · rfl

theorem digits_wholeNumeral (n k : ℕ) : (wholeNumeral n k).digits = n * 10 ^ k * 10 := by
  have hdigits : (wholeNumeral n k).digits =
      Nat.ofDigitChars 10 (Nat.toDigits 10 n ++ List.replicate k '0' ++ ['0']) 0 := rfl
  have hn : Nat.ofDigitChars 10 (Nat.toDigits 10 n) 0 = n := digitsValue_toDigits n
  rw [hdigits, Nat.ofDigitChars_append, Nat.ofDigitChars_append, hn, Nat.ofDigitChars_replicate_zero]
  simp [Nat.ofDigitChars_cons, mul_comm]

/-- **A number without an exponent is in plain notation.** -/
theorem exists_positional (hpower : -16 ≤ power) (hsmall : (n * 10 ^ power : ℚ) < 10 ^ 15)
    (hn : n < fewDigits) :
    ∃ p : PlainNumeral, positionalChars true (Nat.toDigits 10 n) power = p.chars ∧ p.Fits ∧
      p.value = n * 10 ^ power := by
  by_cases hsign : 0 ≤ power
  · obtain ⟨k, rfl⟩ := Int.eq_ofNat_of_zero_le hsign
    rw [zpow_natCast] at hsmall ⊢
    have hsmall' : n * 10 ^ k < 10 ^ 15 := by exact_mod_cast hsmall
    refine ⟨wholeNumeral n k, ?_, ⟨?_, ?_⟩, ?_⟩
    · rw [positionalChars, if_pos hsign]
      rfl
    · rw [digits_wholeNumeral]
      have hmax : Decimal.maxCoefficient = 79228162514264337593543950335 := rfl
      omega
    · exact Nat.one_le_of_lt (by decide : 0 < 28)
    · rw [PlainNumeral.value, digits_wholeNumeral]
      have hone : (wholeNumeral n k).places = 1 := rfl
      rw [hone]
      push_cast
      ring
  · obtain ⟨k, rfl⟩ := Int.exists_eq_neg_ofNat (by omega : power ≤ 0)
    -- the digits are padded and parted as those of a decimal are
    let a : Decimal := ⟨n, k, le_maxCoefficient hn, le_maxScale (by omega)⟩
    refine ⟨a.numeral, ?_, a.fits_numeral, ?_⟩
    · have hplaces : a.numeral.fraction ≠ [] := mt a.placeChars_eq_nil_iff.mp (by omega : k ≠ 0)
      rw [positionalChars, if_neg hsign, PlainNumeral.chars, PlainNumeral.tail, if_neg hplaces]
      simp only [Int.neg_neg, Int.toNat_natCast]
      rfl
    · rw [PlainNumeral.value, a.digits_numeral, a.places_numeral, zpow_neg, zpow_natCast,
        div_eq_mul_inv]
      rfl

/-- **A number with an exponent** is a numeral that is divided by a power of ten, if its leading digit
stands behind the point. -/
theorem exists_exponent (hpower : -16 ≤ power) (hfew : n < fewDigits)
    (hlead : power + (Nat.toDigits 10 n).length - 1 < 0) :
    ∃ (p : PlainNumeral) (k : ℕ),
      exponentChars true (Nat.toDigits 10 n) (power + (Nat.toDigits 10 n).length - 1) =
        p.chars ++ 'e' :: '-' :: Nat.toDigits 10 k ∧
      p.Fits ∧ p.places + k ≤ Decimal.maxScale ∧ p.value / 10 ^ k = n * 10 ^ power := by
  obtain ⟨d, rest, hdigits⟩ := List.exists_cons_of_ne_nil (Nat.toDigits_ne_nil (b := 10) (n := n))
  have hlength : (Nat.toDigits 10 n).length = rest.length + 1 := by rw [hdigits, List.length_cons]
  obtain ⟨k, hk⟩ := Int.exists_eq_neg_ofNat hlead.le
  let p : PlainNumeral := ⟨[d], rest, List.cons_ne_nil _ _, fun c hc =>
    isDigit_of_mem_digits (n := n) (hdigits ▸ hc)⟩
  have hvalue : p.digits = n := (congrArg digitsValue hdigits).symm.trans (digitsValue_toDigits n)
  have hplaces : p.places = rest.length := rfl
  have hmax : Decimal.maxScale = 28 := rfl
  refine ⟨p, k, ?_, ⟨hvalue ▸ le_maxCoefficient hfew, by omega⟩, by omega, ?_⟩
  · rw [exponentChars.eq_def, if_pos hlead, hk, hdigits, Int.natAbs_neg, Int.natAbs_natCast]
    cases rest with
    | nil => rfl
    | cons d' rest =>
      show d :: '.' :: d' :: rest ++ ['e', '-'] ++ Nat.toDigits 10 k = _
      rw [PlainNumeral.chars, PlainNumeral.tail, if_neg (List.cons_ne_nil d' rest), List.append_assoc]
      rfl
  · have hsum : power = -((rest.length + k : ℕ) : ℤ) := by
      push_cast
      omega
    rw [PlainNumeral.value, hvalue, hplaces, div_div, ← pow_add, hsum, zpow_neg, zpow_natCast,
      div_eq_mul_inv]

/-! ## Written and read -/

variable {x : ℚ} {m : ℕ} {e : ℤ}

/-- The leading digit of a number below a power of ten stands at a lower power. -/
theorem lead_lt (hn : 0 < n) (hsmall : (n * 10 ^ power : ℚ) < 10 ^ 15) :
    power + (Nat.toDigits 10 n).length - 1 < 15 := by
  obtain ⟨d, rest, hdigits⟩ := List.exists_cons_of_ne_nil (Nat.toDigits_ne_nil (b := 10) (n := n))
  have hlength : (Nat.toDigits 10 n).length = rest.length + 1 := by rw [hdigits, List.length_cons]
  have hleast : 10 ^ rest.length ≤ n := by
    rcases Nat.eq_zero_or_pos rest.length with hzero | hpos
    · rw [hzero]
      exact hn
    · by_contra hless
      have hshort := (Nat.length_toDigits_le_iff (by omega : 1 < 10) hpos).mpr (not_le.mp hless)
      omega
  have hleast' : (10 : ℚ) ^ rest.length ≤ n := by exact_mod_cast hleast
  have hbound : (10 : ℚ) ^ ((rest.length : ℤ) + power) < 10 ^ (15 : ℤ) := by
    rw [zpow_add₀ (by norm_num), zpow_natCast]
    refine (mul_le_mul_of_nonneg_right hleast' (ten_zpow_pos power).le).trans_lt ?_
    exact_mod_cast hsmall
  have hexponents := (zpow_lt_zpow_iff_right₀ (by norm_num : (1 : ℚ) < 10)).mp hbound
  omega

/-- **A binary number is read as the decimal that its digits write.** -/
theorem exists_parse_toText (hm : m ≠ 0) (hx : FewDigits x (shortest m e).1 (shortest m e).2)
    (hpower : -16 ≤ (shortest m e).2) (hsmall : x < 10 ^ 15) :
    ∃ a, Decimal.parse (trimmed ((Binary64.finite false m e).toText .json)) = .ok a ∧ a.value = x := by
  generalize hshortest : shortest m e = found at hx hpower
  obtain ⟨n, power⟩ := found
  dsimp only at hx hpower
  have htext : (Binary64.finite false m e).toText .json = String.ofList
      (if FloatStyle.json.positional (power + (Nat.toDigits 10 n).length - 1) then
        positionalChars true (Nat.toDigits 10 n) power
      else exponentChars true (Nat.toDigits 10 n) (power + (Nat.toDigits 10 n).length - 1)) := by
    rw [toText, toChars, if_neg hm, hshortest]
    rfl
  have hsmall' := hx.value ▸ hsmall
  rw [htext]
  split
  · obtain ⟨p, hchars, hfits, hvalue⟩ := exists_positional hpower hsmall' hx.lt
    rw [hchars, hx.value, ← hvalue]
    exact PlainNumeral.exists_parse_text hfits
  · rename_i hscientific
    have hlead : power + (Nat.toDigits 10 n).length - 1 < 0 := by
      have hless := lead_lt hx.pos hsmall'
      have hpositional : ∀ lead, FloatStyle.json.positional lead =
          (decide (-5 ≤ lead) && decide (lead < 16)) := fun _ => rfl
      rw [hpositional, Bool.and_eq_true, decide_eq_true_eq, decide_eq_true_eq] at hscientific
      omega
    obtain ⟨p, k, hchars, hfits, hplaces, hvalue⟩ := exists_exponent hpower hx.lt hlead
    rw [hchars, hx.value, ← hvalue]
    exact PlainNumeral.exists_parse_withExponent hfits hplaces

end Binary64

end ScalpBot
