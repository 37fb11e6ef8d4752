import ScalpBot.Proofs.Result
import ScalpBot.Proofs.Text.Digits
import ScalpBot.Proofs.Time.Calendar
import ScalpBot.Time.Text

/-!
# An instant is read back

`Instant.parse_toText`: the text of an instant is read as this instant, if it stands in the calendar and a
leap second follows second 59 (`Instant.InCalendar`). Every instant that was read is one of these
(`Instant.inCalendar_of_parse`), whatever its offset was.
-/

namespace ScalpBot

namespace Instant

/-- **An instant of the calendar.** -/
structure InCalendar (t : Instant) : Prop where
  seconds : minSeconds ≤ t.seconds ∧ t.seconds ≤ maxSeconds
  nanoseconds : t.nanoseconds < 2000000000
  /-- Only the last second of a minute can be followed by a leap second. -/
  leap : 1000000000 ≤ t.nanoseconds → t.seconds % 60 = 59

variable {α β : Type}

/-! ## Readers in steps -/

theorem bind_apply_eq_ok_iff {r : Reader α} {f : α → Reader β} {cs rest : List Char} {b : β} :
    (r >>= f) cs = .ok (b, rest) ↔ ∃ a middle, r cs = .ok (a, middle) ∧ f a middle = .ok (b, rest) := by
  have hbind : (r >>= f) cs = r cs >>= fun x => f x.1 x.2 := rfl
  rw [hbind, bind_eq_ok_iff, Prod.exists]

/-- Whether all that a reader gives has a property. -/
def Yields (r : Reader α) (P : α → Prop) : Prop := ∀ cs rest a, r cs = .ok (a, rest) → P a

variable {P : α → Prop} {Q : β → Prop}

theorem yields_any (r : Reader α) : Yields r fun _ => True := fun _ _ _ _ => trivial

theorem yields_pure {a : α} (h : P a) : Yields (pure a) P := by
  rintro cs rest a' hread
  cases hread
  exact h

theorem yields_throw (e : TimeError) : Yields (throw e : Reader α) P := by
  rintro cs rest a hread
  cases hread

/-- What two readers give in a row, from what the first one gives. -/
theorem Yields.bind {r : Reader α} {f : α → Reader β} (hr : Yields r P)
    (hf : ∀ a, P a → Yields (f a) Q) : Yields (r >>= f) Q := by
  intro cs rest b hread
  obtain ⟨a, middle, ha, hb⟩ := bind_apply_eq_ok_iff.mp hread
  exact hf a (hr _ _ a ha) _ _ b hb

/-- A reader that does not look at what was read before. -/
theorem yields_after {r : Reader α} {f : α → Reader β} (hf : ∀ a, Yields (f a) Q) :
    Yields (r >>= f) Q := (yields_any r).bind fun a _ => hf a

theorem yields_ite {c : Prop} [Decidable c] {r r' : Reader α} (h : Yields r P) (h' : Yields r' P) :
    Yields (if c then r else r') P := by
  split
  · exact h
  · exact h'

/-! ## What is read -/

theorem yields_within (low high n : Nat) : Yields (within low high n) (· ≤ high) := by
  intro cs rest a hread
  rw [within] at hread
  split at hread
  · rename_i hin
    cases hread
    simp only [Bool.and_eq_true, decide_eq_true_eq] at hin
    exact hin.2
  · cases hread

theorem yields_twoDigits (low high : Nat) : Yields (twoDigits low high) (· ≤ high) :=
  yields_after fun _ => yields_after fun n => yields_within low high n

/-- What is read of a row of digits. -/
theorem eq_of_digits {most : Nat} {cs rest : List Char} {n : Nat}
    (h : digits (some most) cs = .ok (n, rest)) :
    n = digitsValue ((cs.takeWhile Char.isDigit).take most) := by
  simp only [digits] at h
  split at h
  · cases h
  · split at h
    · cases h
    · split at h
      · cases h
        rfl
      · cases h

/-- A fraction is less than a second. -/
theorem yields_fraction : Yields fraction (· < 1000000000) := by
  refine yields_after fun cs => ?_
  split
  · rename_i rest
    intro start final a hread
    obtain ⟨_, _, ⟨⟩, hread⟩ := bind_apply_eq_ok_iff.mp hread
    obtain ⟨n, middle, hdigits, hread⟩ := bind_apply_eq_ok_iff.mp hread
    obtain ⟨_, last, _, ⟨⟩⟩ := bind_apply_eq_ok_iff.mp hread
    rw [eq_of_digits hdigits]
    have hkept : ((rest.takeWhile Char.isDigit).take 9).length ≤ 9 := List.length_take_le ..
    have hall : ∀ c ∈ (rest.takeWhile Char.isDigit).take 9, c.isDigit = true := fun c hc =>
      List.all_eq_true.mp List.all_takeWhile c (List.mem_of_mem_take hc)
    generalize (rest.takeWhile Char.isDigit).take 9 = kept at hkept hall
    calc digitsValue kept * 10 ^ (9 - kept.length)
        < 10 ^ kept.length * 10 ^ (9 - kept.length) :=
          Nat.mul_lt_mul_of_pos_right (digitsValue_lt hall) (Nat.pow_pos (by omega))
      _ = 1000000000 := by rw [← Nat.pow_add, Nat.add_sub_cancel' hkept]
  · exact yields_pure (by omega)

/-- What the fields of a time of day are. -/
structure Fields.InRange (f : Fields) : Prop where
  hour : f.hour ≤ 23
  minute : f.minute ≤ 59
  second : f.second ≤ 60
  nanoseconds : f.nanoseconds < 1000000000

theorem yields_timeOfDay (gap : Reader Unit) (d : Date) : Yields (timeOfDay gap d) Fields.InRange := by
  refine (yields_twoDigits 0 23).bind fun h hh => yields_after fun _ => yields_after fun _ => ?_
  refine (yields_twoDigits 0 59).bind fun m hm => yields_after fun _ => yields_after fun _ => ?_
  refine (yields_twoDigits 0 60).bind fun s hs => yields_fraction.bind fun n hn => ?_
  exact yields_pure ⟨hh, hm, hs, hn⟩

/-- An offset is a number of minutes. -/
theorem yields_offset : Yields offset fun seconds => seconds % 60 = 0 := by
  refine yields_after fun cs => ?_
  split
  · exact yields_throw _
  · exact yields_after fun _ => yields_pure rfl
  · exact yields_after fun _ => yields_pure rfl
  · split
    · refine yields_after fun _ => yields_after fun hours => yields_after fun _ =>
        yields_after fun minutes => ?_
      refine yields_ite (yields_after fun _ => ?_) ?_ <;>
        exact yields_pure (by split <;> omega)
    · exact yields_throw _

theorem yields_offsetOrName : Yields offsetOrName fun seconds => seconds % 60 = 0 := by
  refine yields_after fun cs => ?_
  split
  · split
    · exact yields_after fun _ => yields_pure rfl
    · exact yields_offset
  · exact yields_offset

/-- A check that is passed. -/
theorem guard_eq_ok_iff {ε : Type} {c : Prop} [Decidable c] {e : ε} {f : Unit → Except ε β} {b : β} :
    (if c then throw e >>= f else f ()) = .ok b ↔ ¬ c ∧ f () = .ok b := by
  by_cases hc : c
  · rw [if_pos hc]
    exact ⟨fun h => (nomatch h), fun h => absurd hc h.1⟩
  · rw [if_neg hc]
    exact ⟨fun h => ⟨hc, h⟩, fun h => h.2⟩

theorem ofFields_eq_ok_iff {f : Fields} {t : Instant} :
    ofFields f = .ok t ↔ f.date.isValid = true ∧
      t = ⟨f.date.dayNumber * 86400 + f.hour * 3600 + f.minute * 60 + (min f.second 59 : Nat),
        if f.second = 60 then f.nanoseconds + 1000000000 else f.nanoseconds⟩ := by
  rw [ofFields]
  split
  · rename_i hvalid
    simp only [Except.ok.injEq, hvalid, true_and, eq_comm]
  · rename_i hvalid
    exact ⟨fun h => (nomatch h), fun h => absurd h.1 hvalid⟩

/-- **What was read stands in the calendar.** -/
theorem inCalendar_of_parse {text : String} {t : Instant} (h : parse text = .ok t) : t.InCalendar := by
  obtain ⟨⟨⟨fields, seconds⟩, rest⟩, hread, h⟩ := (bind_eq_ok_iff ..).mp h
  have hbody : ∀ d, Yields (timeOfDay skipBlanks d >>= fun f => skipBlanks >>= fun _ =>
      offsetOrName >>= fun s => pure (f, s)) fun p => p.1.InRange ∧ p.2 % 60 = 0 := fun d =>
    (yields_timeOfDay _ d).bind fun f hf => yields_after fun _ =>
      yields_offsetOrName.bind fun s hs => yields_pure ⟨hf, hs⟩
  have hfields : fields.InRange ∧ seconds % 60 = 0 := by
    refine yields_after (Q := fun p => p.1.InRange ∧ p.2 % 60 = 0) (fun d => ?_) _ _ _ hread
    refine yields_after fun cs => ?_
    split
    · exact yields_after fun _ => hbody d
    · exact yields_ite (yields_after fun _ => hbody d) (yields_after fun _ => hbody d)
  obtain ⟨-, h⟩ := guard_eq_ok_iff.mp h
  obtain ⟨naive, hnaive, h⟩ := bind_eq_ok_iff.mp h
  obtain ⟨-, h⟩ := guard_eq_ok_iff.mp h
  obtain ⟨-, rfl⟩ := ofFields_eq_ok_iff.mp hnaive
  obtain ⟨⟨-, -, hsecond, hnanoseconds⟩, hoffset⟩ := hfields
  simp only at h
  split at h
  · rename_i hin
    cases h
    simp only [Bool.and_eq_true, decide_eq_true_eq] at hin
    refine ⟨hin, ?_, ?_⟩
    · show ite .. < _
      split <;> omega
    · show _ ≤ ite .. → (_ - seconds) % 60 = 59
      split <;> omega
  · cases h

/-! ## Reading what was written -/

/-- A reader goes on where the one before it stopped. -/
theorem bind_apply {r : Reader α} {f : α → Reader β} {cs middle : List Char} {a : α}
    (h : r cs = .ok (a, middle)) : (r >>= f) cs = f a middle := by
  have hbind : (r >>= f) cs = r cs >>= fun x => f x.1 x.2 := rfl
  rw [hbind, h]
  rfl

theorem skipBlanks_cons {c : Char} {rest : List Char} (h : isBlank c = false) :
    skipBlanks (c :: rest) = .ok ((), c :: rest) := by
  have hdrop : dropBlanks (c :: rest) = c :: rest := by
    rw [dropBlanks, List.dropWhile_cons, h]
    rfl
  have hskip : skipBlanks (c :: rest) = .ok ((), dropBlanks (c :: rest)) := rfl
  rw [hskip, hdrop]

theorem literal_cons (c : Char) (rest : List Char) : literal c (c :: rest) = .ok ((), rest) := by
  rw [literal]
  simp only [if_true]

section Digits

variable {ds rest : List Char}

theorem skipBlanks_digits (hne : ds ≠ []) (h : ∀ c ∈ ds, c.isDigit = true) :
    skipBlanks (ds ++ rest) = .ok ((), ds ++ rest) := by
  cases ds with
  | nil => exact absurd rfl hne
  | cons c ds => exact skipBlanks_cons (isBlank_of_isDigit (h c List.mem_cons_self))

/-- So many digits are read as were asked for. -/
theorem digits_some (h : ∀ c ∈ ds, c.isDigit = true) (hne : ds ≠ []) (hvalue : digitsValue ds < 2 ^ 63)
    (rest : List Char) : digits (some ds.length) (ds ++ rest) = .ok (digitsValue ds, rest) := by
  have hfull : (ds ++ rest).isEmpty = false := by simp [hne]
  have htaken : ds.isEmpty = false := by simp [hne]
  simp only [digits, List.takeWhile_append_of_pos h, List.take_left', hfull, htaken, if_pos hvalue,
    List.drop_left', Bool.false_eq_true, if_false]

/-- Digits are read up to a character that is none, where no fewer were asked for. -/
theorem digits_stop {most : Option Nat} {c : Char} (h : ∀ c ∈ ds, c.isDigit = true) (hne : ds ≠ [])
    (hmost : ∀ n, most = some n → ds.length ≤ n) (hc : c.isDigit = false)
    (hvalue : digitsValue ds < 2 ^ 63) :
    digits most (ds ++ c :: rest) = .ok (digitsValue ds, c :: rest) := by
  have hfull : (ds ++ c :: rest).isEmpty = false := by simp
  have htaken : ds.isEmpty = false := by simp [hne]
  have hstop : (c :: rest).takeWhile Char.isDigit = [] := by rw [List.takeWhile_cons, hc]; rfl
  cases most with
  | none =>
    simp only [digits, List.takeWhile_append_of_pos h, hstop, List.append_nil, hfull, htaken,
      if_pos hvalue, List.drop_left', Bool.false_eq_true, if_false]
  | some n =>
    simp only [digits, List.takeWhile_append_of_pos h, hstop, List.append_nil,
      List.take_of_length_le (hmost n rfl), hfull, htaken, if_pos hvalue, List.drop_left',
      Bool.false_eq_true, if_false]

end Digits

variable {rest : List Char}

theorem twoDigits_zeroPadded {low high n : Nat} (hlow : low ≤ n) (hhigh : n ≤ high) (hfits : n < 100) :
    twoDigits low high (zeroPadded 2 n ++ rest) = .ok (n, rest) := by
  have hdigits : digits (some 2) (zeroPadded 2 n ++ rest) = .ok (n, rest) := by
    have hvalue : digitsValue (zeroPadded 2 n) < 2 ^ 63 := by
      rw [digitsValue_zeroPadded]
      omega
    have hread := digits_some (fun _ => isDigit_of_mem_zeroPadded) (zeroPadded_ne_nil 2 n) hvalue rest
    rwa [length_zeroPadded (by omega) hfits, digitsValue_zeroPadded] at hread
  rw [twoDigits,
    bind_apply (skipBlanks_digits (zeroPadded_ne_nil 2 n) fun _ => isDigit_of_mem_zeroPadded),
    bind_apply hdigits, within, if_pos]
  simp only [hlow, hhigh, decide_true, Bool.and_self]

theorem skipBlanks_yearChars (y : Int) :
    skipBlanks (yearChars y ++ rest) = .ok ((), yearChars y ++ rest) := by
  rw [yearChars]
  split
  · exact skipBlanks_cons (by decide)
  · split
    · exact skipBlanks_cons (by decide)
    · exact skipBlanks_digits (zeroPadded_ne_nil 4 _) fun _ => isDigit_of_mem_zeroPadded

/-- A padded number does not begin with a sign. -/
theorem zeroPadded_append_ne {width n : Nat} {c : Char} {rest' : List Char} (hc : c.isDigit = false) :
    zeroPadded width n ++ rest ≠ c :: rest' := by
  intro h
  obtain ⟨d, ds, hds⟩ := List.exists_cons_of_ne_nil (zeroPadded_ne_nil width n)
  have hd : d.isDigit = true := isDigit_of_mem_zeroPadded (hds ▸ List.mem_cons_self)
  rw [hds, List.cons_append, List.cons.injEq] at h
  rw [h.1, hc] at hd
  cases hd

theorem year_yearChars {y : Int} (hlow : minYear ≤ y) (hhigh : y ≤ maxYear) :
    year (yearChars y ++ '-' :: rest) = .ok (y, '-' :: rest) := by
  have hmin : minYear = -262143 := rfl
  have hmax : maxYear = 262142 := rfl
  have hisDigit : ∀ c ∈ zeroPadded 4 y.natAbs, c.isDigit = true := fun _ => isDigit_of_mem_zeroPadded
  have hvalue : digitsValue (zeroPadded 4 y.natAbs) < 2 ^ 63 := by
    rw [digitsValue_zeroPadded]
    omega
  have hsigned : digits none (zeroPadded 4 y.natAbs ++ '-' :: rest) = .ok (y.natAbs, '-' :: rest) := by
    refine (digits_stop hisDigit (zeroPadded_ne_nil 4 _) (fun _ hnone => by cases hnone) (by decide)
      hvalue).trans ?_
    rw [digitsValue_zeroPadded]
  rw [year, bind_apply (skipBlanks_yearChars y)]
  refine bind_apply_eq_ok_iff.mpr ⟨y, '-' :: rest, ?_, ?_⟩
  · refine bind_apply_eq_ok_iff.mpr ⟨_, _, rfl, ?_⟩
    rw [yearChars]
    split
    · refine bind_apply_eq_ok_iff.mpr ⟨_, _, rfl, bind_apply_eq_ok_iff.mpr ⟨_, _, hsigned, ?_⟩⟩
      exact congrArg (fun z => Except.ok (z, '-' :: rest)) (by omega : -(y.natAbs : Int) = y)
    · split
      · refine bind_apply_eq_ok_iff.mpr ⟨_, _, rfl, bind_apply_eq_ok_iff.mpr ⟨_, _, hsigned, ?_⟩⟩
        exact congrArg (fun z => Except.ok (z, '-' :: rest)) (by omega : (y.natAbs : Int) = y)
      · -- without a sign the four digits end the year
        have hfour : digits (some 4) (zeroPadded 4 y.natAbs ++ '-' :: rest) =
            .ok (y.natAbs, '-' :: rest) := by
          have hread := digits_some hisDigit (zeroPadded_ne_nil 4 _) hvalue ('-' :: rest)
          rwa [length_zeroPadded (by omega) (by omega), digitsValue_zeroPadded] at hread
        have hsign : ∀ c rest', c.isDigit = false → zeroPadded 4 y.natAbs ++ '-' :: rest ≠ c :: rest' :=
          fun _ _ => zeroPadded_append_ne
        generalize zeroPadded 4 y.natAbs ++ '-' :: rest = cs at hfour hsign
        split
        · exact absurd rfl (hsign _ _ (by decide))
        · exact absurd rfl (hsign _ _ (by decide))
        · refine bind_apply_eq_ok_iff.mpr ⟨_, _, hfour, ?_⟩
          exact congrArg (fun z => Except.ok (z, '-' :: rest)) (by omega : (y.natAbs : Int) = y)
  · rw [if_pos]
    · rfl
    · simp only [Bool.and_eq_true, decide_eq_true_eq]
      omega

/-- A fraction that is written with `width` digits is read in full. -/
theorem fraction_zeroPadded {width n : Nat} (hwidth : 0 < width) (hmost : width ≤ 9)
    (hn : n < 10 ^ width) :
    fraction ('.' :: zeroPadded width n ++ 'Z' :: rest) = .ok (n * 10 ^ (9 - width), 'Z' :: rest) := by
  have hisDigit : ∀ c ∈ zeroPadded width n, c.isDigit = true := fun _ => isDigit_of_mem_zeroPadded
  have hlength := length_zeroPadded hwidth hn
  have hall : (zeroPadded width n ++ 'Z' :: rest).takeWhile Char.isDigit = zeroPadded width n := by
    rw [List.takeWhile_append_of_pos hisDigit, List.takeWhile_cons, if_neg (by decide), List.append_nil]
  have hread : digits (some 9) (zeroPadded width n ++ 'Z' :: rest) = .ok (n, 'Z' :: rest) := by
    have hpow : 10 ^ width ≤ 10 ^ 9 := Nat.pow_le_pow_right (by omega) hmost
    have hvalue : digitsValue (zeroPadded width n) < 2 ^ 63 := by
      rw [digitsValue_zeroPadded]
      omega
    refine (digits_stop hisDigit (zeroPadded_ne_nil width n) (fun m hm => ?_) (by decide) hvalue).trans ?_
    · cases hm
      omega
    · rw [digitsValue_zeroPadded]
  rw [List.cons_append]
  refine bind_apply_eq_ok_iff.mpr ⟨_, _, rfl, bind_apply_eq_ok_iff.mpr ⟨_, _, rfl, ?_⟩⟩
  refine bind_apply_eq_ok_iff.mpr ⟨_, _, hread, bind_apply_eq_ok_iff.mpr ⟨_, 'Z' :: rest, rfl, ?_⟩⟩
  rw [hall, List.take_of_length_le (by omega), hlength]
  rfl

theorem fraction_fractionChars {n : Nat} (hn : n < 1000000000) :
    fraction (fractionChars n ++ 'Z' :: rest) = .ok (n, 'Z' :: rest) := by
  rw [fractionChars]
  split
  · rename_i hzero
    rw [hzero]
    rfl
  · split
    · rw [fraction_zeroPadded (by omega) (by omega) (by omega)]
      congr
      omega
    · split
      · rw [fraction_zeroPadded (by omega) (by omega) (by omega)]
        congr
        omega
      · rw [fraction_zeroPadded (by omega) (by omega) (by omega)]
        congr
        omega

theorem date_toChars {d : Date} (h : d.isValid = true) :
    date skipBlanks (yearChars d.year ++ '-' :: (zeroPadded 2 d.month ++ '-' ::
      (zeroPadded 2 d.day ++ rest))) = .ok (d, rest) := by
  simp only [Date.isValid, Bool.and_eq_true, decide_eq_true_eq] at h
  obtain ⟨⟨⟨⟨⟨hlow, hhigh⟩, hmonth⟩, hmonth'⟩, hday⟩, hday'⟩ := h
  have hhyphen : isBlank '-' = false := by decide
  have hlength : daysInMonth d.year d.month ≤ 31 := by
    rw [daysInMonth]
    split
    · split <;> omega
    · split <;> omega
  rw [date, bind_apply (year_yearChars hlow hhigh), bind_apply (skipBlanks_cons hhyphen),
    bind_apply (literal_cons ..), bind_apply (twoDigits_zeroPadded hmonth hmonth' (by omega)),
    bind_apply (skipBlanks_cons hhyphen), bind_apply (literal_cons ..),
    bind_apply (twoDigits_zeroPadded hday (by omega) (by omega))]
  rfl

theorem timeOfDay_toChars {f : Fields} (h : f.InRange) :
    timeOfDay skipBlanks f.date (zeroPadded 2 f.hour ++ ':' :: (zeroPadded 2 f.minute ++ ':' ::
      (zeroPadded 2 f.second ++ (fractionChars f.nanoseconds ++ 'Z' :: rest)))) =
        .ok (f, 'Z' :: rest) := by
  obtain ⟨hhour, hminute, hsecond, hnanoseconds⟩ := h
  have hcolon : isBlank ':' = false := by decide
  rw [timeOfDay, bind_apply (twoDigits_zeroPadded (Nat.zero_le _) hhour (by omega)),
    bind_apply (skipBlanks_cons hcolon), bind_apply (literal_cons ..),
    bind_apply (twoDigits_zeroPadded (Nat.zero_le _) hminute (by omega)),
    bind_apply (skipBlanks_cons hcolon), bind_apply (literal_cons ..),
    bind_apply (twoDigits_zeroPadded (Nat.zero_le _) hsecond (by omega)),
    bind_apply (fraction_fractionChars hnanoseconds)]
  rfl

/-- The fields of an instant. -/
def fieldsOf (t : Instant) : Fields where
  date := Date.ofDayNumber (t.seconds / 86400)
  hour := (t.seconds % 86400).toNat / 3600
  minute := (t.seconds % 86400).toNat / 60 % 60
  second := (t.seconds % 86400).toNat % 60 + (if 1000000000 ≤ t.nanoseconds then 1 else 0)
  nanoseconds := if 1000000000 ≤ t.nanoseconds then t.nanoseconds - 1000000000 else t.nanoseconds

theorem inRange_fieldsOf {t : Instant} (h : t.InCalendar) : t.fieldsOf.InRange := by
  have hnanoseconds := h.nanoseconds
  constructor
  · show (t.seconds % 86400).toNat / 3600 ≤ 23
    omega
  · show (t.seconds % 86400).toNat / 60 % 60 ≤ 59
    omega
  · show (t.seconds % 86400).toNat % 60 + ite .. ≤ 60
    split <;> omega
  · show ite .. < _
    split <;> omega

theorem isValid_fieldsOf {t : Instant} (h : t.InCalendar) : t.fieldsOf.date.isValid = true := by
  obtain ⟨⟨hlow, hhigh⟩, -, -⟩ := h
  rw [minSeconds] at hlow
  rw [maxSeconds] at hhigh
  exact Date.isValid_ofDayNumber (by omega) (by omega)

theorem ofFields_fieldsOf {t : Instant} (h : t.InCalendar) : ofFields t.fieldsOf = .ok t := by
  refine ofFields_eq_ok_iff.mpr ⟨isValid_fieldsOf h, ?_⟩
  obtain ⟨-, hnanoseconds, hleap⟩ := h
  simp only [fieldsOf, Date.dayNumber_ofDayNumber]
  obtain ⟨seconds, nanoseconds⟩ := t
  simp only at hnanoseconds hleap ⊢
  by_cases hlate : 1000000000 ≤ nanoseconds
  · have hlast := hleap hlate
    simp only [if_pos hlate]
    rw [if_pos (by omega)]
    congr 1 <;> omega
  · simp only [if_neg hlate]
    rw [if_neg (by omega)]
    congr 1
    omega

/-- **The text of an instant is read as this instant.** -/
theorem parse_toText {t : Instant} (h : t.InCalendar) : parse t.toText = .ok t := by
  have hchars : t.toText.toList = yearChars t.fieldsOf.date.year ++ '-' ::
      (zeroPadded 2 t.fieldsOf.date.month ++ '-' :: (zeroPadded 2 t.fieldsOf.date.day ++ 'T' ::
      (zeroPadded 2 t.fieldsOf.hour ++ ':' :: (zeroPadded 2 t.fieldsOf.minute ++ ':' ::
      (zeroPadded 2 t.fieldsOf.second ++ (fractionChars t.fieldsOf.nanoseconds ++ ['Z'])))))) := by
    simp only [toText, String.toList_ofList, toChars, fieldsOf, List.append_assoc, List.cons_append]
  have hin := h.seconds
  refine bind_eq_ok_iff.mpr ⟨((t.fieldsOf, 0), []), ?_, guard_eq_ok_iff.mpr ⟨by decide, ?_⟩⟩
  · rw [hchars, bind_apply (date_toChars (isValid_fieldsOf h))]
    refine bind_apply_eq_ok_iff.mpr ⟨_, _, rfl, bind_apply_eq_ok_iff.mpr ⟨_, _, rfl, ?_⟩⟩
    refine (bind_apply (timeOfDay_toChars (inRange_fieldsOf h))).trans ?_
    rw [bind_apply (skipBlanks_cons (by decide : isBlank 'Z' = false))]
    rfl
  · refine bind_eq_ok_iff.mpr ⟨t, ofFields_fieldsOf h, guard_eq_ok_iff.mpr ⟨by decide, ?_⟩⟩
    simp only [Int.sub_zero, hin.1, hin.2, decide_true, Bool.and_self, if_true]
    rfl

end Instant

end ScalpBot
