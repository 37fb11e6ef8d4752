import ScalpBot.Decimal.Text
import ScalpBot.Proofs.Result
import ScalpBot.Proofs.Text.Digits

/-!
# A decimal is read back

A `PlainNumeral` is a number as one writes it by hand: digits, and perhaps a point with digits behind it.
It is read as the decimal of its digits and places where a decimal has room for them
(`PlainNumeral.parse_text`). Nothing is rounded on the way, since the digits that are read so far never
exceed all of them (`Decimal.readDigits_append`).

The text of a decimal is such a numeral, perhaps with a minus in front, and it is read as this decimal,
with all its places: `Decimal.parse_toText`.
-/

namespace ScalpBot

namespace Decimal

/-! ## Reading digits -/

/-- More digits do not make a number smaller. -/
theorem le_ofDigitChars (ds : List Char) (init : Nat) : init ≤ Nat.ofDigitChars 10 ds init := by
  rw [Nat.ofDigitChars_eq_ofDigitChars_zero]
  have hpos : 0 < 10 ^ ds.length := Nat.pow_pos (by omega)
  exact Nat.le_trans (Nat.le_mul_of_pos_left init hpos) (Nat.le_add_right _ _)

/-- A numeral with more digits behind it. -/
def Numeral.append (n : Numeral) (ds : List Char) : Numeral where
  coefficient := Nat.ofDigitChars 10 ds n.coefficient
  places := if n.point then n.places + ds.length else n.places
  point := n.point
  digits := n.digits || !ds.isEmpty

/-- **Digits that fit are all kept.** -/
theorem readDigits_append {n : Numeral} {ds : List Char} (hdigits : ∀ c ∈ ds, c.isDigit = true)
    (hfits : Nat.ofDigitChars 10 ds n.coefficient ≤ maxCoefficient)
    (hplaces : n.point = true → n.places + ds.length ≤ maxScale) (rest : List Char) :
    readDigits n (ds ++ rest) = readDigits (n.append ds) rest := by
  induction ds generalizing n with
  | nil =>
    obtain ⟨coefficient, places, point, digits⟩ := n
    simp [Numeral.append]
  | cons c ds ih =>
    obtain ⟨hc, hds⟩ := List.forall_mem_cons.mp hdigits
    rw [Nat.ofDigitChars_cons] at hfits
    rw [List.length_cons] at hplaces
    have hextended : n.coefficient * 10 + digitValue c ≤ maxCoefficient := by
      rw [digitValue, Nat.mul_comm]
      exact Nat.le_trans (le_ofDigitChars ds _) hfits
    have hkept : ¬ (decide (maxCoefficient < n.coefficient * 10 + digitValue c) ||
        (n.point && n.places == maxScale)) = true := by
      rw [Bool.or_eq_true, decide_eq_true_eq, Bool.and_eq_true, beq_iff_eq]
      rintro (hlarge | ⟨hpoint, hfull⟩)
      · exact absurd hextended (Nat.not_le.mpr hlarge)
      · have hroom := hplaces hpoint
        omega
    rw [List.cons_append, readDigits, if_pos hc, if_neg hkept, ih hds]
    · -- the same numeral, digit by digit or all at once
      congr 1
      obtain ⟨coefficient, places, point, digits⟩ := n
      cases point <;> simp [Numeral.append, digitValue, Nat.ofDigitChars_cons, Nat.mul_comm coefficient,
        Nat.add_assoc, Nat.add_comm 1]
    · rw [digitValue, Nat.mul_comm]
      exact hfits
    · intro hpoint
      have hroom := hplaces hpoint
      simp only [show n.point = true from hpoint, if_true]
      omega

/-! ## Signs -/

variable {a : Decimal} {body : List Char}

/-- A numeral behind a minus sign. -/
theorem parsePlain_minus (h : readDigits {} body = .ok (a.coefficient.natAbs, a.scale))
    (hnegative : a.coefficient < 0) : parsePlain ('-' :: body) = .ok a := by
  have hvalue : -(a.coefficient.natAbs : Int) = a.coefficient := by omega
  have hmade := ofParts?_eq_some_iff.mpr ⟨hvalue.symm, rfl⟩
  refine bind_eq_ok_iff.mpr ⟨(true, body), rfl, bind_eq_ok_iff.mpr ⟨_, h, ?_⟩⟩
  simp only [if_true, hmade]

/-- A numeral that begins with a digit has no sign, so its digits are read at once. -/
theorem exists_parsePlain_digit {c : Char} (hc : c.isDigit = true) (body : List Char) :
    ∃ finish, parsePlain (c :: body) = readDigits {} (c :: body) >>= finish ∧
      ∀ {n places : Nat} {a : Decimal}, ofParts? n places = some a → finish (n, places) = .ok a := by
  unfold parsePlain
  split
  · rename_i heq
    cases heq
  · rename_i heq
    obtain ⟨rfl, -⟩ := List.cons.inj heq
    cases hc
  · rename_i heq
    obtain ⟨rfl, -⟩ := List.cons.inj heq
    cases hc
  · refine ⟨_, rfl, fun hmade => ?_⟩
    simp only [Bool.false_eq_true, if_false, hmade]

theorem parsePlain_digit {c : Char} (hc : c.isDigit = true)
    (h : readDigits {} (c :: body) = .ok (a.coefficient.natAbs, a.scale))
    (hnonneg : 0 ≤ a.coefficient) : parsePlain (c :: body) = .ok a := by
  have hvalue : (a.coefficient.natAbs : Int) = a.coefficient := by omega
  obtain ⟨finish, hparse, hfinish⟩ := exists_parsePlain_digit hc body
  rw [hparse, h]
  exact hfinish (ofParts?_eq_some_iff.mpr ⟨hvalue.symm, rfl⟩)

theorem parsePlain_digit_error {c : Char} {cause : ParseError} (hc : c.isDigit = true)
    (h : readDigits {} (c :: body) = .error cause) : parsePlain (c :: body) = .error cause := by
  obtain ⟨finish, hparse, -⟩ := exists_parsePlain_digit hc body
  rw [hparse, h]
  rfl

end Decimal

/-! ## Plain notation -/

/-- Digits, and perhaps a point with digits behind it. -/
structure PlainNumeral where
  /-- The digits before the point. -/
  whole : List Char
  /-- The digits behind the point; without any there is no point. -/
  fraction : List Char
  whole_ne_nil : whole ≠ []
  isDigit : ∀ c ∈ whole ++ fraction, c.isDigit = true

namespace PlainNumeral

variable (p : PlainNumeral)

/-- The point and the digits behind it. -/
def tail : List Char := if p.fraction = [] then [] else '.' :: p.fraction

/-- The characters of the numeral. -/
def chars : List Char := p.whole ++ p.tail

/-- The text of the numeral. -/
def text : String := String.ofList p.chars

/-- All its digits as one number. -/
def digits : Nat := digitsValue (p.whole ++ p.fraction)

/-- How many of its digits stand behind the point. -/
def places : Nat := p.fraction.length

/-- A decimal has room for the digits and places. -/
structure Fits : Prop where
  digits_le : p.digits ≤ Decimal.maxCoefficient
  places_le : p.places ≤ Decimal.maxScale

/-- The decimal that is written. -/
def toDecimal (h : p.Fits) : Decimal := ⟨p.digits, p.places, h.digits_le, h.places_le⟩

variable {p}

theorem isDigit_of_mem_whole {c : Char} (h : c ∈ p.whole) : c.isDigit = true :=
  p.isDigit c (List.mem_append_left _ h)

theorem isDigit_of_mem_fraction {c : Char} (h : c ∈ p.fraction) : c.isDigit = true :=
  p.isDigit c (List.mem_append_right _ h)

theorem mem_chars {c : Char} (h : c ∈ p.chars) : c = '.' ∨ c.isDigit = true := by
  rcases List.mem_append.mp h with hwhole | htail
  · exact .inr (isDigit_of_mem_whole hwhole)
  · rw [tail] at htail
    split at htail
    · cases htail
    · rcases List.mem_cons.mp htail with rfl | hfraction
      · exact .inl rfl
      · exact .inr (isDigit_of_mem_fraction hfraction)

/-- A numeral begins with a digit. -/
theorem exists_chars_eq_cons (p : PlainNumeral) :
    ∃ c rest, p.chars = c :: rest ∧ c.isDigit = true := by
  obtain ⟨c, rest, hwhole⟩ := List.exists_cons_of_ne_nil p.whole_ne_nil
  have hchars : p.chars = c :: (rest ++ p.tail) := by rw [chars, hwhole, List.cons_append]
  exact ⟨c, _, hchars, isDigit_of_mem_whole (hwhole ▸ List.mem_cons_self)⟩

/-- What has been read at the end of the numeral. -/
def read (p : PlainNumeral) : Decimal.Numeral where
  coefficient := p.digits
  places := p.places
  point := p.fraction ≠ []
  digits := true

/-- **A numeral is read digit by digit**, whatever stands behind it. -/
theorem readDigits_append (h : p.Fits) (rest : List Char) :
    Decimal.readDigits {} (p.chars ++ rest) = Decimal.readDigits p.read rest := by
  have hdigits : Nat.ofDigitChars 10 p.fraction (Nat.ofDigitChars 10 p.whole 0) ≤
      Decimal.maxCoefficient := by
    rw [← Nat.ofDigitChars_append]
    exact h.digits_le
  have hwhole : Nat.ofDigitChars 10 p.whole 0 ≤ Decimal.maxCoefficient :=
    Nat.le_trans (Decimal.le_ofDigitChars p.fraction _) hdigits
  have hread : p.whole.isEmpty = false := List.isEmpty_eq_false_iff.mpr p.whole_ne_nil
  rw [chars, List.append_assoc,
    Decimal.readDigits_append (fun c => isDigit_of_mem_whole) hwhole (by simp), tail]
  split
  · rename_i hfraction
    simp [Decimal.Numeral.append, read, digits, places, digitsValue, hfraction, hread]
  · rename_i hfraction
    have hpoint : ('.' : Char).isDigit = false := by decide
    rw [List.cons_append, Decimal.readDigits]
    simp only [hpoint, Bool.false_eq_true, if_false, Decimal.Numeral.append, Bool.not_false,
      Bool.and_true, decide_true, if_true]
    have hplaces : 0 + p.fraction.length ≤ Decimal.maxScale := by
      rw [Nat.zero_add]
      exact h.places_le
    refine (Decimal.readDigits_append (fun c => isDigit_of_mem_fraction) hdigits
      (fun _ => hplaces) rest).trans ?_
    simp [Decimal.Numeral.append, read, digits, places, digitsValue, hfraction, hread,
      Nat.ofDigitChars_append]

theorem readDigits_chars (h : p.Fits) :
    Decimal.readDigits {} p.chars = .ok (p.digits, p.places) := by
  rw [← List.append_nil p.chars, readDigits_append h]
  rfl

theorem parsePlain_chars (h : p.Fits) : Decimal.parsePlain p.chars = .ok (p.toDecimal h) := by
  have hread := readDigits_chars h
  obtain ⟨c, rest, hchars, hc⟩ := p.exists_chars_eq_cons
  rw [hchars] at hread ⊢
  exact Decimal.parsePlain_digit hc hread (Int.natCast_nonneg _)

/-- **A number in plain notation is read as the decimal of its digits and places.** -/
theorem parse_text (h : p.Fits) : Decimal.parse p.text = .ok (p.toDecimal h) := by
  rw [Decimal.parse, text, String.toList_ofList, parsePlain_chars h]

end PlainNumeral

namespace Decimal

/-! ## The text of a decimal -/

/-- The digits of a decimal: whole part and places. -/
def digitChars (a : Decimal) : List Char := zeroPadded (a.scale + 1) a.coefficient.natAbs

/-- The digits before the point. -/
def wholeChars (a : Decimal) : List Char := a.digitChars.take (a.digitChars.length - a.scale)

/-- The digits behind the point. -/
def placeChars (a : Decimal) : List Char := a.digitChars.drop (a.digitChars.length - a.scale)

theorem scale_lt_length (a : Decimal) : a.scale < a.digitChars.length :=
  width_le_length_zeroPadded (a.scale + 1) _

theorem wholeChars_ne_nil (a : Decimal) : a.wholeChars ≠ [] := by
  have hlength := a.scale_lt_length
  rw [wholeChars, ← List.length_pos_iff, List.length_take]
  omega

theorem length_placeChars (a : Decimal) : a.placeChars.length = a.scale := by
  have hlength := a.scale_lt_length
  rw [placeChars, List.length_drop]
  omega

theorem placeChars_eq_nil_iff (a : Decimal) : a.placeChars = [] ↔ a.scale = 0 := by
  rw [← List.length_eq_zero_iff, length_placeChars]

theorem wholeChars_append_placeChars (a : Decimal) :
    a.wholeChars ++ a.placeChars = a.digitChars :=
  List.take_append_drop ..

/-- The magnitude of a decimal in plain notation. -/
def numeral (a : Decimal) : PlainNumeral where
  whole := a.wholeChars
  fraction := a.placeChars
  whole_ne_nil := a.wholeChars_ne_nil
  isDigit _ hc := isDigit_of_mem_zeroPadded (a.wholeChars_append_placeChars ▸ hc)

theorem digits_numeral (a : Decimal) : a.numeral.digits = a.coefficient.natAbs := by
  have hdigits : a.numeral.digits = digitsValue (a.wholeChars ++ a.placeChars) := rfl
  rw [hdigits, wholeChars_append_placeChars]
  exact digitsValue_zeroPadded _ _

theorem places_numeral (a : Decimal) : a.numeral.places = a.scale := a.length_placeChars

theorem fits_numeral (a : Decimal) : a.numeral.Fits :=
  ⟨a.digits_numeral ▸ a.coefficient_le, a.places_numeral ▸ a.scale_le⟩

/-- The text of a decimal is its magnitude in plain notation, behind a minus if it is negative. -/
theorem toChars_eq (a : Decimal) :
    a.toChars = (if a.coefficient < 0 then ['-'] else []) ++ a.numeral.chars := by
  have hchars : a.numeral.chars =
      a.wholeChars ++ (if a.scale = 0 then [] else '.' :: a.placeChars) := by
    simp only [← placeChars_eq_nil_iff]
    rfl
  rw [hchars, ← List.append_assoc]
  rfl

/-- A decimal is written with digits, and perhaps a minus and a point. -/
theorem mem_toChars {a : Decimal} {c : Char} (h : c ∈ a.toChars) :
    c = '-' ∨ c = '.' ∨ c.isDigit = true := by
  rw [toChars_eq] at h
  rcases List.mem_append.mp h with hsign | hnumeral
  · split at hsign
    · exact .inl (List.mem_singleton.mp hsign)
    · cases hsign
  · exact .inr (PlainNumeral.mem_chars hnumeral)

theorem parsePlain_toChars (a : Decimal) : parsePlain a.toChars = .ok a := by
  have hread := PlainNumeral.readDigits_chars a.fits_numeral
  rw [digits_numeral, places_numeral] at hread
  rw [toChars_eq]
  by_cases hnegative : a.coefficient < 0
  · rw [if_pos hnegative]
    exact parsePlain_minus hread hnegative
  · rw [if_neg hnegative]
    obtain ⟨c, rest, hchars, hc⟩ := a.numeral.exists_chars_eq_cons
    rw [hchars] at hread ⊢
    exact parsePlain_digit hc hread (by omega)

/-- **A decimal is read back.** -/
theorem parse_toText (a : Decimal) : parse a.toText = .ok a := by
  rw [parse, toText, String.toList_ofList, parsePlain_toChars]

end Decimal

end ScalpBot
