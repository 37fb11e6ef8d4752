import Mathlib.Data.List.TakeDrop
import ScalpBot.Json.Reader
import ScalpBot.Json.Writer
import ScalpBot.Proofs.Text.Digits

/-!
# Numbers that are read back

`JsonNumber.ReadBack`: the text of a number is read as this number. An integer of 64 bits is
(`JsonNumber.readBack_of_inRange`); of a float it depends on its digits.

A number ends where no more of it can follow, so what is read of its text is read also where a comma or a
closing bracket stands behind it (`JsonNumber.readUnsigned_append`).
-/

namespace ScalpBot

namespace JsonNumber

/-- **A number is read back**: its text is read as this number, up to the end. -/
def ReadBack (n : JsonNumber) : Prop := Json.readValue 1 1 n.toText.toList = some (.number n, [])

instance (n : JsonNumber) : Decidable n.ReadBack :=
  decidable_of_iff ((Json.readValue 1 1 n.toText.toList).bind
    (fun | (.number m, []) => some m | _ => none) = some n) <| by
    rw [ReadBack]
    cases Json.readValue 1 1 n.toText.toList with
    | none => simp
    | some read =>
      obtain ⟨v, rest⟩ := read
      cases v <;> cases rest <;> simp

/-- Whether a number is kept in binary: it has a point or an exponent, or more than 64 bits. -/
def isFloat : JsonNumber → Bool
  | .integer _ => false
  | .float _ => true

/-- The integers that are kept with all their digits. -/
def InRange : JsonNumber → Prop
  | .integer n => -2 ^ 63 ≤ n ∧ n < 2 ^ 64
  | .float _ => True

/-! ## The end of a number -/

/-- No digit stands here. -/
def NoDigit (rest : List Char) : Prop := ∀ c tail, rest = c :: tail → c.isDigit = false

/-- No more of a number can stand here. -/
def Stops (rest : List Char) : Prop :=
  ∀ c tail, rest = c :: tail → c.isDigit = false ∧ c ≠ '.' ∧ c ≠ 'e' ∧ c ≠ 'E'

/-- The sign of an exponent, and what follows it. -/
def exponentSign (cs : List Char) : Bool × List Char :=
  match cs with
  | '-' :: rest => (true, rest)
  | '+' :: rest => (false, rest)
  | _ => (false, cs)

theorem readExponent_eq (cs : List Char) : readExponent cs =
    let (digits, rest) := (exponentSign cs).2.span Char.isDigit
    if digits.isEmpty then none
    else
      let n := min (digitsValue digits) (2 ^ 31)
      some (if (exponentSign cs).1 then -(n : Int) else n, rest) := rfl

/-- Digits are taken up to the first character that is none. -/
theorem takeDigits_append {cs rest : List Char} (hrest : NoDigit rest) (digits kept dropped : Nat) :
    takeDigits digits kept dropped (cs ++ rest) =
      let r := takeDigits digits kept dropped cs
      (r.1, r.2.1, r.2.2.1, r.2.2.2 ++ rest) := by
  induction cs generalizing digits kept dropped with
  | nil =>
    cases rest with
    | nil => rfl
    | cons c tail =>
      simp only [List.nil_append, takeDigits, hrest c tail rfl, Bool.false_eq_true, if_false]
  | cons c cs ih =>
    rw [List.cons_append, takeDigits, takeDigits]
    split
    · split
      · exact ih ..
      · exact ih ..
    · rfl

theorem Stops.noDigit {rest : List Char} (hrest : Stops rest) : NoDigit rest :=
  fun c tail h => (hrest c tail h).1

section Append

variable {cs after rest : List Char} (hrest : Stops rest)
include hrest

theorem span_append : (cs ++ rest).span Char.isDigit =
    ((cs.span Char.isDigit).1, (cs.span Char.isDigit).2 ++ rest) := by
  simp only [List.span_eq_takeWhile_dropWhile]
  induction cs with
  | nil =>
    cases rest with
    | nil => rfl
    | cons c tail =>
      obtain ⟨hdigit, -⟩ := hrest c tail rfl
      simp [hdigit]
  | cons c cs ih =>
    obtain ⟨htaken, hleft⟩ := Prod.mk.inj ih
    rw [List.cons_append, List.takeWhile_cons, List.dropWhile_cons, List.takeWhile_cons,
      List.dropWhile_cons]
    split
    · rw [htaken, hleft]
    · rfl

omit hrest in
theorem exponentSign_append (hne : cs ≠ []) :
    exponentSign (cs ++ rest) = ((exponentSign cs).1, (exponentSign cs).2 ++ rest) := by
  cases cs with
  | nil => exact absurd rfl hne
  | cons c cs =>
    by_cases hminus : c = '-'
    · subst hminus
      rfl
    · by_cases hplus : c = '+'
      · subst hplus
        rfl
      · simp [exponentSign, hminus, hplus]

theorem readExponent_append {e : Int} (h : readExponent cs = some (e, after)) :
    readExponent (cs ++ rest) = some (e, after ++ rest) := by
  have hne : cs ≠ [] := by
    rintro rfl
    cases h
  rw [readExponent_eq] at h ⊢
  simp only [exponentSign_append hne, span_append hrest] at h ⊢
  split at h
  · cases h
  · rename_i hdigits
    obtain ⟨rfl, rfl⟩ := Prod.mk.inj (Option.some.inj h)
    rw [if_neg hdigits]

omit hrest in
theorem map_append {o : Option JsonNumber} {n : JsonNumber} (h : o.map (·, cs) = some (n, after)) :
    o.map (·, cs ++ rest) = some (n, after ++ rest) := by
  obtain ⟨m, rfl, hm⟩ := Option.map_eq_some_iff.mp h
  obtain ⟨rfl, rfl⟩ := Prod.mk.inj hm
  rfl

omit hrest in
theorem finishFloat_of_ne (negative : Bool) (digits : Nat) (exponent : Int)
    (hcs : ∀ c tail, cs = c :: tail → c ≠ 'e' ∧ c ≠ 'E') :
    finishFloat negative digits exponent cs = (ofParts negative digits exponent).map (·, cs) := by
  rw [finishFloat.eq_def]
  split
  · exact absurd rfl (hcs _ _ rfl).1
  · exact absurd rfl (hcs _ _ rfl).2
  · rfl

theorem finishFloat_append {negative : Bool} {digits : Nat} {exponent : Int} {n : JsonNumber}
    (h : finishFloat negative digits exponent cs = some (n, after)) :
    finishFloat negative digits exponent (cs ++ rest) = some (n, after ++ rest) := by
  rw [finishFloat.eq_def] at h
  split at h
  · split at h
    · rename_i hexponent
      simp only [List.cons_append, finishFloat, readExponent_append hrest hexponent]
      exact map_append h
    · cases h
  · split at h
    · rename_i hexponent
      simp only [List.cons_append, finishFloat, readExponent_append hrest hexponent]
      exact map_append h
    · cases h
  · -- there is no exponent, and what stands behind begins none
    rename_i he hE
    rw [finishFloat_of_ne]
    · exact map_append h
    · intro c tail hcs
      cases cs with
      | nil =>
        obtain ⟨-, -, hmarks⟩ := hrest c tail hcs
        exact hmarks
      | cons d ds =>
        obtain ⟨rfl, -⟩ := List.cons.inj hcs
        exact ⟨fun h => he ds (h ▸ rfl), fun h => hE ds (h ▸ rfl)⟩

omit hrest in
theorem finishWhole_of_ne (negative : Bool) (digits dropped : Nat)
    (hcs : ∀ c tail, cs = c :: tail → c ≠ '.' ∧ c ≠ 'e' ∧ c ≠ 'E') :
    finishWhole negative digits dropped cs =
      if dropped ≠ 0 then finishFloat negative digits dropped cs
      else if !negative then some (.integer digits, cs)
      else if 0 < digits && digits ≤ 2 ^ 63 then some (.integer (-digits), cs)
      else finishFloat true digits 0 cs := by
  rw [finishWhole.eq_def]
  split
  · exact absurd rfl (hcs _ _ rfl).1
  · exact absurd rfl (hcs _ _ rfl).2.1
  · exact absurd rfl (hcs _ _ rfl).2.2
  · rfl

theorem finishWhole_append {negative : Bool} {digits dropped : Nat} {n : JsonNumber}
    (h : finishWhole negative digits dropped cs = some (n, after)) :
    finishWhole negative digits dropped (cs ++ rest) = some (n, after ++ rest) := by
  rw [finishWhole.eq_def] at h
  split at h
  · simp only [List.cons_append, finishWhole, takeDigits_append hrest.noDigit] at h ⊢
    split at h
    · cases h
    · rename_i hplaces
      rw [if_neg hplaces]
      exact finishFloat_append hrest h
  · exact finishFloat_append hrest h
  · exact finishFloat_append hrest h
  · rename_i hpoint he hE
    rw [finishWhole_of_ne]
    · split at h
      · rename_i hdropped
        rw [if_pos hdropped]
        exact finishFloat_append hrest h
      · rename_i hdropped
        rw [if_neg hdropped]
        split at h
        · rename_i hpositive
          obtain ⟨rfl, rfl⟩ := Prod.mk.inj (Option.some.inj h)
          rw [if_pos hpositive]
        · rename_i hnegative
          rw [if_neg hnegative]
          split at h
          · rename_i hfits
            obtain ⟨rfl, rfl⟩ := Prod.mk.inj (Option.some.inj h)
            rw [if_pos hfits]
          · rename_i hlarge
            rw [if_neg hlarge]
            exact finishFloat_append hrest h
    · intro c tail hcs
      cases cs with
      | nil => exact (hrest c tail hcs).2
      | cons d ds =>
        obtain ⟨rfl, -⟩ := List.cons.inj hcs
        exact ⟨fun h => hpoint ds (h ▸ rfl), fun h => he ds (h ▸ rfl), fun h => hE ds (h ▸ rfl)⟩

theorem readUnsigned_append {negative : Bool} {n : JsonNumber}
    (h : readUnsigned negative cs = some (n, after)) :
    readUnsigned negative (cs ++ rest) = some (n, after ++ rest) := by
  rw [readUnsigned.eq_def] at h
  split at h
  · -- a zero stands alone
    rename_i ds
    cases ds with
    | nil =>
      cases rest with
      | nil => exact (List.append_nil after).symm ▸ h
      | cons c tail =>
        have hdigit := (hrest c tail rfl).1
        simp only [List.cons_append, List.nil_append, readUnsigned, hdigit, Bool.false_eq_true, if_false]
        exact finishWhole_append hrest h
    | cons d ds =>
      simp only [List.cons_append, readUnsigned] at h ⊢
      split at h
      · cases h
      · rename_i hdigit
        rw [if_neg hdigit]
        exact finishWhole_append hrest h
  · rename_i c ds hzero
    split at h
    · rename_i hdigit
      rw [readUnsigned.eq_def]
      split
      · rename_i hcons
        obtain ⟨rfl, -⟩ := List.cons.inj hcons
        exact absurd rfl hzero
      · rename_i hcons
        obtain ⟨rfl, -⟩ := List.cons.inj hcons
        rw [if_pos hdigit]
        simp only [takeDigits_append hrest.noDigit]
        exact finishWhole_append hrest h
      · rename_i hcons
        cases hcons
    · cases h
  · cases h

end Append

/-! ## Integers -/

/-- Digits are taken while they fit. -/
theorem takeDigits_digits {ds : List Char} (h : ∀ c ∈ ds, c.isDigit = true) {digits kept : Nat}
    (hfits : Nat.ofDigitChars 10 ds digits ≤ maxDigits) :
    takeDigits digits kept 0 ds = (Nat.ofDigitChars 10 ds digits, kept + ds.length, 0, []) := by
  induction ds generalizing digits kept with
  | nil => rfl
  | cons c ds ih =>
    obtain ⟨hc, hds⟩ := List.forall_mem_cons.mp h
    rw [Nat.ofDigitChars_cons, Nat.mul_comm 10 digits, ← digitValue] at hfits ⊢
    -- the digits that follow only make the number greater
    have hnext : digits * 10 + digitValue c ≤ maxDigits := by
      rw [Nat.ofDigitChars_eq_ofDigitChars_zero] at hfits
      have hpow : 1 ≤ 10 ^ ds.length := Nat.one_le_pow _ _ (by omega)
      calc digits * 10 + digitValue c
          ≤ 10 ^ ds.length * (digits * 10 + digitValue c) := Nat.le_mul_of_pos_left _ hpow
        _ ≤ maxDigits := by omega
    have hkept : (decide (0 = 0) && decide (digits * 10 + digitValue c ≤ maxDigits)) = true := by
      simp only [hnext, decide_true, Bool.and_self]
    rw [takeDigits, if_pos hc, if_pos hkept, ih hds hfits, List.length_cons, Nat.add_right_comm,
      Nat.add_assoc]

/-- Only zero is written with a zero in front. -/
theorem toDigits_eq_zero_cons {n : Nat} {ds : List Char} (h : Nat.toDigits 10 n = '0' :: ds) :
    n = 0 ∧ ds = [] := by
  have hvalue : Nat.ofDigitChars 10 ds 0 = n := by
    rw [← digitsValue_toDigits n, h, digitsValue, Nat.ofDigitChars_cons]
    rfl
  cases ds with
  | nil => exact ⟨hvalue.symm, rfl⟩
  | cons d ds =>
    -- the value fits into one digit less
    exfalso
    have hdigits : ∀ c ∈ d :: ds, c.isDigit = true := fun c hc =>
      isDigit_of_mem_digits (h ▸ List.mem_cons_of_mem _ hc)
    have hless := digitsValue_lt hdigits
    rw [digitsValue, hvalue] at hless
    have hlength := (Nat.length_toDigits_le_iff (by omega) (by simp)).mpr hless
    rw [h, List.length_cons] at hlength
    omega

theorem readUnsigned_toDigits {n : Nat} (hn : n < 2 ^ 64) (negative : Bool) :
    readUnsigned negative (Nat.toDigits 10 n) = finishWhole negative n 0 [] := by
  have hdigits : ∀ c ∈ Nat.toDigits 10 n, c.isDigit = true := fun _ => isDigit_of_mem_digits
  have hvalue : Nat.ofDigitChars 10 (Nat.toDigits 10 n) 0 = n := digitsValue_toDigits n
  rw [readUnsigned.eq_def]
  split
  · rename_i ds hzero
    obtain ⟨rfl, rfl⟩ := toDigits_eq_zero_cons hzero
    rfl
  · rename_i c ds hzero hcons
    rw [if_pos (hdigits c (hcons ▸ List.mem_cons_self)),
      takeDigits_digits hdigits (by rw [hvalue, maxDigits]; omega), hvalue]
  · rename_i hnil
    exact absurd hnil Nat.toDigits_ne_nil

theorem exists_digit_of_readUnsigned {negative : Bool} {cs : List Char} {r : JsonNumber × List Char}
    (h : readUnsigned negative cs = some r) : ∃ c tail, cs = c :: tail ∧ c.isDigit = true := by
  rw [readUnsigned.eq_def] at h
  split at h
  · exact ⟨_, _, rfl, rfl⟩
  · split at h
    · exact ⟨_, _, rfl, ‹_›⟩
    · cases h
  · cases h

/-! ## What is read -/

theorem inRange_of_finishFloat {negative : Bool} {digits : Nat} {exponent : Int} {cs rest : List Char}
    {n : JsonNumber} (h : finishFloat negative digits exponent cs = some (n, rest)) : n.InRange := by
  have hparts : ∀ {e cs}, (ofParts negative digits e).map (·, cs) = some (n, rest) → n.InRange := by
    intro e cs h
    obtain ⟨m, hm, hn⟩ := Option.map_eq_some_iff.mp h
    obtain ⟨x, -, rfl⟩ := Option.map_eq_some_iff.mp hm
    cases hn
    trivial
  rw [finishFloat.eq_def] at h
  split at h
  · split at h
    · exact hparts h
    · cases h
  · split at h
    · exact hparts h
    · cases h
  · exact hparts h

/-- No more digits are taken than fit. -/
theorem takeDigits_le {digits : Nat} (hdigits : digits ≤ maxDigits) (kept dropped : Nat)
    (cs : List Char) : (takeDigits digits kept dropped cs).1 ≤ maxDigits := by
  induction cs generalizing digits kept dropped with
  | nil => exact hdigits
  | cons c cs ih =>
    rw [takeDigits]
    split
    · split
      · rename_i hfits
        simp only [Bool.and_eq_true, decide_eq_true_eq] at hfits
        exact ih hfits.2 ..
      · exact ih hdigits ..
    · exact hdigits

theorem inRange_of_finishWhole {negative : Bool} {digits dropped : Nat} {cs rest : List Char}
    {n : JsonNumber} (hdigits : digits ≤ maxDigits)
    (h : finishWhole negative digits dropped cs = some (n, rest)) : n.InRange := by
  have hmax : maxDigits = 2 ^ 64 - 1 := rfl
  rw [finishWhole.eq_def] at h
  split at h
  · simp only at h
    split at h
    · cases h
    · exact inRange_of_finishFloat h
  · exact inRange_of_finishFloat h
  · exact inRange_of_finishFloat h
  · split at h
    · exact inRange_of_finishFloat h
    · split at h
      · cases h
        constructor <;> omega
      · split at h
        · rename_i hfits
          simp only [Bool.and_eq_true, decide_eq_true_eq] at hfits
          cases h
          constructor <;> omega
        · exact inRange_of_finishFloat h

/-- An integer that was read fits into 64 bits. -/
theorem inRange_of_readUnsigned {negative : Bool} {cs rest : List Char} {n : JsonNumber}
    (h : readUnsigned negative cs = some (n, rest)) : n.InRange := by
  rw [readUnsigned.eq_def] at h
  split at h
  · split at h
    · split at h
      · cases h
      · exact inRange_of_finishWhole (Nat.zero_le _) h
    · exact inRange_of_finishWhole (Nat.zero_le _) h
  · rename_i c tail _
    split at h
    · have hle := takeDigits_le (Nat.zero_le maxDigits) 0 0 (c :: tail)
      generalize takeDigits 0 0 0 (c :: tail) = taken at h hle
      exact inRange_of_finishWhole hle h
    · cases h
  · cases h

end JsonNumber

namespace Json

variable {fuel depth : Nat} {cs rest tail : List Char} {c : Char}

theorem skipSpace_cons (hc : isSpace c = false) : skipSpace (c :: tail) = c :: tail := by
  rw [skipSpace, List.dropWhile_cons, hc]
  rfl

theorem isSpace_eq_false_of_isDigit (h : c.isDigit = true) : isSpace c = false := by
  simp only [isSpace, Bool.or_eq_false_iff, decide_eq_false_iff_not]
  refine ⟨⟨⟨?_, ?_⟩, ?_⟩, ?_⟩ <;>
    · rintro rfl
      cases h

/-- What stands behind a text does not change the space in front. -/
theorem skipSpace_append (hcs : skipSpace cs = c :: tail) :
    skipSpace (cs ++ rest) = c :: (tail ++ rest) := by
  rw [skipSpace] at hcs ⊢
  rw [List.dropWhile_append, hcs]
  rfl

/-- A digit begins a number. -/
theorem readValue_digit (hcs : skipSpace cs = c :: tail) (hc : c.isDigit = true) :
    readValue (fuel + 1) depth cs =
      (JsonNumber.readUnsigned false (c :: tail)).map fun (n, rest) => (.number n, rest) := by
  rw [readValue.eq_def]
  simp only [hcs]
  split
  all_goals first
    | rfl
    | (rename_i hcons; obtain ⟨rfl, -⟩ := List.cons.inj hcons; cases hc)

theorem readValue_minus (hcs : skipSpace cs = '-' :: tail) :
    readValue (fuel + 1) depth cs =
      (JsonNumber.readUnsigned true tail).map fun (n, rest) => (.number n, rest) := by
  rw [readValue.eq_def]
  simp only [hcs]

/-- What is read as a number begins with a digit or a minus sign. -/
theorem begins_of_readValue {n : JsonNumber} (h : readValue 1 1 cs = some (.number n, rest)) :
    (∃ tail, skipSpace cs = '-' :: tail) ∨ ∃ c tail, skipSpace cs = c :: tail ∧ c.isDigit = true := by
  rw [readValue.eq_def] at h
  simp only at h
  split at h
  case h_5 => exact .inl ⟨_, ‹_›⟩
  case h_8 =>
    obtain ⟨_, hread, -⟩ := Option.map_eq_some_iff.mp h
    exact .inr (JsonNumber.exists_digit_of_readUnsigned hread)
  all_goals simp at h

end Json

namespace JsonNumber

theorem readBack_of_inRange {n : Int} (h : (integer n).InRange) : (integer n).ReadBack := by
  obtain ⟨hlow, hhigh⟩ := h
  rw [ReadBack]
  cases n with
  | ofNat n =>
    have htext : (integer (Int.ofNat n)).toText.toList = Nat.toDigits 10 n := toList_toString_natCast n
    obtain ⟨c, tail, hdigits⟩ := List.exists_cons_of_ne_nil (Nat.toDigits_ne_nil (b := 10) (n := n))
    have hc : c.isDigit = true := isDigit_of_toDigits hdigits
    have hskip : Json.skipSpace (Nat.toDigits 10 n) = c :: tail := by
      rw [hdigits, Json.skipSpace_cons (Json.isSpace_eq_false_of_isDigit hc)]
    have hn : n < 2 ^ 64 := by
      simp only [Int.ofNat_eq_natCast] at hhigh
      omega
    rw [htext, Json.readValue_digit hskip hc, ← hdigits, readUnsigned_toDigits hn]
    rfl
  | negSucc m =>
    have htext : (integer (Int.negSucc m)).toText.toList = '-' :: Nat.toDigits 10 (m + 1) :=
      toList_toString_neg_succ m
    have hsmall : m + 1 ≤ 2 ^ 63 := by omega
    rw [htext, Json.readValue_minus (Json.skipSpace_cons (by decide)), readUnsigned_toDigits (by omega)]
    have hfits : (decide (0 < m + 1) && decide (m + 1 ≤ 2 ^ 63)) = true := by simp [hsmall]
    have hwhole : finishWhole true (m + 1) 0 [] =
        if decide (0 < m + 1) && decide (m + 1 ≤ 2 ^ 63) then some (.integer (-(m + 1 : Nat)), [])
        else finishFloat true (m + 1) 0 [] := rfl
    rw [hwhole, if_pos hfits]
    rfl

/-- The text of a number that is read back is read in full, whatever depth is left, and what stands
behind is left over. -/
theorem ReadBack.readValue_append {n : JsonNumber} {rest : List Char} (h : n.ReadBack)
    (hrest : Stops rest) (fuel depth : Nat) :
    Json.readValue (fuel + 1) depth (n.toText.toList ++ rest) = some (.number n, rest) := by
  rw [ReadBack] at h
  rcases Json.begins_of_readValue h with ⟨tail, hcs⟩ | ⟨c, tail, hcs, hc⟩
  · rw [Json.readValue_minus hcs] at h
    obtain ⟨⟨m, after⟩, hread, hm⟩ := Option.map_eq_some_iff.mp h
    cases hm
    rw [Json.readValue_minus (Json.skipSpace_append hcs), readUnsigned_append hrest hread]
    rfl
  · rw [Json.readValue_digit hcs hc] at h
    obtain ⟨⟨m, after⟩, hread, hm⟩ := Option.map_eq_some_iff.mp h
    cases hm
    rw [Json.readValue_digit (Json.skipSpace_append hcs) hc, ← List.cons_append,
      readUnsigned_append hrest hread]
    rfl

end JsonNumber

end ScalpBot
