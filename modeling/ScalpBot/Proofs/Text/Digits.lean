import ScalpBot.Text.Blank
import ScalpBot.Text.Digits

/-!
# Digits that are written and read

A number that is padded with zeros keeps its value (`digitsValue_zeroPadded`), and it has the width that
was asked for where it fits (`length_zeroPadded`). The text of an integer is its digits, perhaps with a
minus in front, and a number of so many bits is read from its digits (`readNatBelow_toDigits`). A digit is
no blank, and a text without blanks is not trimmed (`trimmed_eq_self`).
-/

namespace ScalpBot

variable {width n : Nat}

/-! ## The digits of a number -/

theorem isDigit_of_mem_digits {n : Nat} {c : Char} (h : c ∈ Nat.toDigits 10 n) : c.isDigit = true :=
  Nat.isDigit_of_mem_toDigits (by omega) (by omega) h

theorem isDigit_of_toDigits {n : Nat} {c : Char} {rest : List Char}
    (h : Nat.toDigits 10 n = c :: rest) : c.isDigit = true :=
  isDigit_of_mem_digits (h ▸ List.mem_cons_self)

theorem digitsValue_toDigits (n : Nat) : digitsValue (Nat.toDigits 10 n) = n :=
  Nat.ofDigitChars_toDigits (by omega) (by omega)

theorem toNat_lt_of_isDigit {c : Char} (h : c.isDigit = true) : c.toNat < 'A'.toNat := by
  simp only [Char.isDigit, Bool.and_eq_true, decide_eq_true_eq] at h
  have hhigh : c.toNat ≤ 57 := h.2
  have hsmall : 'A'.toNat = 65 := rfl
  omega

/-! ## Padding with zeros -/

theorem isDigit_of_mem_zeroPadded {c : Char} (h : c ∈ zeroPadded width n) : c.isDigit = true := by
  rw [zeroPadded, List.mem_append, List.mem_replicate] at h
  rcases h with ⟨-, rfl⟩ | h
  · rfl
  · exact isDigit_of_mem_digits h

theorem digitsValue_zeroPadded (width n : Nat) : digitsValue (zeroPadded width n) = n := by
  rw [digitsValue, zeroPadded, Nat.ofDigitChars_append, Nat.ofDigitChars_replicate_zero, Nat.mul_zero,
    ← digitsValue, digitsValue_toDigits]

theorem width_le_length_zeroPadded (width n : Nat) : width ≤ (zeroPadded width n).length := by
  rw [zeroPadded, List.length_append, List.length_replicate]
  omega

/-- A number that fits has the width that was asked for. -/
theorem length_zeroPadded (hwidth : 0 < width) (hn : n < 10 ^ width) :
    (zeroPadded width n).length = width := by
  have hfits := (Nat.length_toDigits_le_iff (by omega : 1 < 10) hwidth).mpr hn
  rw [zeroPadded, List.length_append, List.length_replicate]
  omega

theorem zeroPadded_ne_nil (width n : Nat) : zeroPadded width n ≠ [] := by
  simp [zeroPadded, Nat.toDigits_ne_nil]

theorem digitValue_lt {c : Char} (h : c.isDigit = true) : digitValue c < 10 := by
  simp only [Char.isDigit, Bool.and_eq_true, decide_eq_true_eq] at h
  have hhigh : c.toNat ≤ 57 := h.2
  have hzero : '0'.toNat = 48 := rfl
  rw [digitValue, hzero]
  omega

/-- Digits write a number below the power of ten with so many zeros. -/
theorem digitsValue_lt {ds : List Char} (h : ∀ c ∈ ds, c.isDigit = true) :
    digitsValue ds < 10 ^ ds.length := by
  induction ds with
  | nil => simp [digitsValue]
  | cons c ds ih =>
    obtain ⟨hc, hds⟩ := List.forall_mem_cons.mp h
    have hdigit := digitValue_lt hc
    have hrest := ih hds
    rw [digitsValue, Nat.ofDigitChars_cons, Nat.ofDigitChars_eq_ofDigitChars_zero, List.length_cons,
      Nat.pow_succ, Nat.mul_zero, Nat.zero_add, ← digitValue]
    have hless : 10 ^ ds.length * digitValue c ≤ 10 ^ ds.length * 9 :=
      Nat.mul_le_mul_left _ (by omega)
    rw [digitsValue] at hrest
    omega

/-! ## Blanks -/

theorem isBlank_of_isDigit {c : Char} (h : c.isDigit = true) : isBlank c = false := by
  simp only [Char.isDigit, Bool.and_eq_true, decide_eq_true_eq] at h
  have hlow : 48 ≤ c.toNat := h.1
  have hhigh : c.toNat ≤ 57 := h.2
  simp only [isBlank, Bool.or_eq_false_iff, Bool.and_eq_false_iff, decide_eq_false_iff_not]
  omega

/-- There is nothing to trim of a text without blanks. -/
theorem trimmed_eq_self {text : String} (h : ∀ c ∈ text.toList, isBlank c = false) :
    trimmed text = text := by
  have hdrop : ∀ cs : List Char, (∀ c ∈ cs, isBlank c = false) → dropBlanks cs = cs := by
    intro cs hcs
    cases cs with
    | nil => rfl
    | cons c cs => rw [dropBlanks, List.dropWhile_cons_of_neg (by simp [hcs c List.mem_cons_self])]
  have hreverse : ∀ c ∈ text.toList.reverse, isBlank c = false := fun c hc =>
    h c (List.mem_reverse.mp hc)
  rw [trimmed, trimBlanks, hdrop _ h, hdrop _ hreverse, List.reverse_reverse, String.ofList_toList]

/-! ## The text of an integer -/

theorem toList_toString_natCast (n : Nat) : (toString (n : Int)).toList = Nat.toDigits 10 n := by
  have hrepr : toString (n : Int) = n.repr := rfl
  rw [hrepr, Nat.repr_eq_ofList_toDigits, String.toList_ofList]

theorem toString_natCast_inj {m n : Nat} (h : toString (m : Int) = toString (n : Int)) : m = n := by
  have hdigits := congrArg String.toList h
  rw [toList_toString_natCast, toList_toString_natCast] at hdigits
  rw [← digitsValue_toDigits m, hdigits, digitsValue_toDigits]

theorem toList_toString_neg_succ (n : Nat) :
    (toString (-(n + 1 : Nat) : Int)).toList = '-' :: Nat.toDigits 10 (n + 1) := by
  have hrepr : toString (-(n + 1 : Nat) : Int) = "-" ++ (n + 1).repr := rfl
  rw [hrepr, Nat.repr_eq_ofList_toDigits, String.toList_append]
  simp only [String.toList_ofList, String.reduceToList, List.cons_append, List.nil_append]

/-- The text of an integer begins with a minus or a digit. -/
theorem exists_toList_toString (n : Int) :
    ∃ c rest, (toString n).toList = c :: rest ∧ (c = '-' ∨ c.isDigit = true) := by
  rcases Int.eq_nat_or_neg n with ⟨m, rfl | rfl⟩
  · obtain ⟨c, rest, hcons⟩ := List.exists_cons_of_ne_nil (Nat.toDigits_ne_nil (b := 10) (n := m))
    exact ⟨c, rest, (toList_toString_natCast m).trans hcons, .inr (isDigit_of_toDigits hcons)⟩
  · cases m with
    | zero => exact ⟨'0', [], rfl, .inr rfl⟩
    | succ m => exact ⟨'-', _, toList_toString_neg_succ m, .inl rfl⟩

/-! ## Reading a number of so many bits -/

theorem exists_readNatBelow (bound : Nat) (cs : List Char) : ∃ digits, readNatBelow bound cs =
    if digits.isEmpty || !digits.all Char.isDigit then none
    else if digitsValue digits < bound then some (digitsValue digits) else none := by
  rw [readNatBelow.eq_def]
  exact ⟨_, rfl⟩

theorem lt_of_readNatBelow {bound n : Nat} {cs : List Char} (h : readNatBelow bound cs = some n) :
    n < bound := by
  obtain ⟨digits, hdigits⟩ := exists_readNatBelow bound cs
  rw [hdigits] at h
  split at h
  · cases h
  · split at h
    · rename_i hlt
      exact Option.some.inj h ▸ hlt
    · cases h

/-- Digits are read as the number that they write. -/
theorem readNatBelow_toDigits {n bound : Nat} (h : n < bound) :
    readNatBelow bound (Nat.toDigits 10 n) = some n := by
  have hall : (Nat.toDigits 10 n).all Char.isDigit = true :=
    List.all_eq_true.mpr fun _ => isDigit_of_mem_digits
  have hempty : (Nat.toDigits 10 n).isEmpty = false :=
    List.isEmpty_eq_false_iff.mpr Nat.toDigits_ne_nil
  rw [readNatBelow]
  · simp only [hempty, hall, digitsValue_toDigits, if_pos h, Bool.not_true, Bool.or_false,
      Bool.false_eq_true, if_false]
  · intro rest hplus
    exact absurd (isDigit_of_toDigits hplus) (by decide)

end ScalpBot
