import ScalpBot.Proofs.Text.Digits
import ScalpBot.Settings.Load
import ScalpBot.Text.Blank

/-!
# What becomes of the text of a variable

The value of a variable is taken for a truth value or a number where it can be, and a setting that is a
text is written anew from it: `Environment.textOf` is what arrives. It is the text of the variable for the
texts that are `Verbatim` and for no other (`Environment.textOf_eq_iff`): truth values and integers in
their own spelling, other numbers in the spelling that settings give them, and what is neither.
-/

namespace ScalpBot

namespace Environment

/-- **An integer of 64 bits is read from its text.** -/
theorem integer?_toString {n : Int} (hlow : -2 ^ 63 ≤ n) (hhigh : n < 2 ^ 63) :
    integer? (toString n) = some n := by
  rcases Int.eq_nat_or_neg n with ⟨m, rfl | rfl⟩
  · have htext := toList_toString_natCast m
    rw [integer?, htext]
    split
    · rename_i rest hminus
      exact absurd (isDigit_of_toDigits hminus) (by decide)
    · rw [readNatBelow_toDigits (by omega)]
      rfl
  · cases m with
    | zero => rfl
    | succ m =>
      have htext := toList_toString_neg_succ m
      rw [integer?, htext]
      obtain ⟨c, rest, hcons⟩ := List.exists_cons_of_ne_nil (Nat.toDigits_ne_nil (b := 10) (n := m + 1))
      have hplus : (Nat.toDigits 10 (m + 1)).head? ≠ some '+' := by
        rw [hcons, List.head?_cons]
        intro heq
        exact absurd (Option.some.inj heq ▸ isDigit_of_toDigits hcons) (by decide)
      simp only [if_neg hplus]
      rw [readNatBelow_toDigits (by omega)]
      rfl

/-- What is read as an integer has 64 bits. -/
theorem range_of_integer? {text : String} {n : Int} (h : integer? text = some n) :
    -2 ^ 63 ≤ n ∧ n < 2 ^ 63 := by
  rw [integer?] at h
  split at h
  · split at h
    · cases h
    · obtain ⟨_, hread, rfl⟩ := Option.map_eq_some_iff.mp h
      obtain ⟨m, hm, hcast⟩ := Option.bind_eq_some_iff.mp hread
      have hlt := lt_of_readNatBelow hm
      obtain rfl := Option.some.inj hcast
      omega
  · obtain ⟨m, hm, rfl⟩ := Option.map_eq_some_iff.mp h
    have hlt := lt_of_readNatBelow hm
    simp only [Int.ofNat_eq_natCast]
    omega

/-! ## What arrives -/

/-- The text that a setting has from the text of a variable. -/
def textOf (text : String) : String :=
  match scalarOf text with
  | .nothing => ""
  | .boolean b => toString b
  | .integer n => toString n
  | .float x => x.toText .plain
  | .text s => s

/-- The text is no word for a truth value, in whatever letters. -/
def NoTruth (text : String) : Prop := lowerCase text ≠ "true" ∧ lowerCase text ≠ "false"

/-- **Texts that arrive as they are.** -/
inductive Verbatim : String → Prop
  /-- `true` and `false`, in these letters. -/
  | truth (b : Bool) : Verbatim (toString b)
  /-- An integer of 64 bits: a minus or nothing, and its digits without a zero in front. -/
  | integer {n : Int} (low : -2 ^ 63 ≤ n) (high : n < 2 ^ 63) : Verbatim (toString n)
  /-- Any other number, in the shortest digits that tell it, without an exponent. -/
  | float {text : String} {x : Binary64} (word : NoTruth text)
      (noInteger : integer? text = none) (number : Binary64.parse text = some x)
      (same : x.toText .plain = text) : Verbatim text
  /-- What is read neither as a truth value nor as a number. -/
  | text {text : String} (word : NoTruth text)
      (noInteger : integer? text = none) (noNumber : Binary64.parse text = none) : Verbatim text

variable {text : String}

theorem textOf_integer (hword : NoTruth text) {n : Int} (hn : integer? text = some n) :
    textOf text = toString n := by
  rw [textOf, scalarOf]
  simp only [if_neg hword.1, if_neg hword.2, hn]

theorem textOf_float (hword : NoTruth text) (hnone : integer? text = none) {x : Binary64}
    (hx : Binary64.parse text = some x) : textOf text = x.toText .plain := by
  rw [textOf, scalarOf]
  simp only [if_neg hword.1, if_neg hword.2, hnone, hx]

theorem textOf_text (hword : NoTruth text) (hnone : integer? text = none)
    (hnone' : Binary64.parse text = none) : textOf text = text := by
  rw [textOf, scalarOf]
  simp only [if_neg hword.1, if_neg hword.2, hnone, hnone']

/-- What a variable is taken for, and what arrives of it. -/
theorem textOf_cases (text : String) :
    (∃ b : Bool, textOf text = toString b) ∨
    NoTruth text ∧
      ((∃ n, integer? text = some n ∧ textOf text = toString n) ∨
        integer? text = none ∧
          ((∃ x, Binary64.parse text = some x ∧ textOf text = x.toText .plain) ∨
            Binary64.parse text = none ∧ textOf text = text)) := by
  by_cases htrue : lowerCase text = "true"
  · refine .inl ⟨true, ?_⟩
    rw [textOf, scalarOf]
    simp only [if_pos htrue]
  by_cases hfalse : lowerCase text = "false"
  · refine .inl ⟨false, ?_⟩
    rw [textOf, scalarOf]
    simp only [if_neg htrue, if_pos hfalse]
  have hword : NoTruth text := ⟨htrue, hfalse⟩
  refine .inr ⟨hword, ?_⟩
  cases hinteger : integer? text with
  | some n => exact .inl ⟨n, rfl, textOf_integer hword hinteger⟩
  | none =>
    refine .inr ⟨rfl, ?_⟩
    cases hnumber : Binary64.parse text with
    | some x => exact .inl ⟨x, rfl, textOf_float hword hinteger hnumber⟩
    | none => exact .inr ⟨rfl, textOf_text hword hinteger hnumber⟩

/-- A text that begins before the letters is no truth value. -/
theorem noTruth_of_lt {c : Char} {rest : List Char} (htext : text.toList = c :: rest)
    (hc : c.toNat < 'A'.toNat) : NoTruth text := by
  have hsmall : 'A'.toNat = 65 := rfl
  have hlower : c.toLower = c := by
    apply dif_neg
    intro h
    have hle : 'A'.toNat ≤ c.toNat := h.1
    omega
  have hhead : (lowerCase text).toList.head? = some c := by
    rw [lowerCase, String.toList_ofList, htext, lowerChars, lowerChar, if_pos (by omega), hlower]
    rfl
  constructor <;> intro heq <;> rw [heq] at hhead <;> cases Option.some.inj hhead <;>
    exact absurd hc (by decide)

theorem noTruth_toString (n : Int) : NoTruth (toString n) := by
  obtain ⟨c, rest, htext, rfl | hdigit⟩ := exists_toList_toString n
  · exact noTruth_of_lt htext (by decide)
  · exact noTruth_of_lt htext (toNat_lt_of_isDigit hdigit)

/-- **A text arrives as it is where it is verbatim**, and nowhere else. -/
theorem textOf_eq_iff : textOf text = text ↔ Verbatim text := by
  constructor
  · intro h
    rcases textOf_cases text with ⟨b, htext⟩ | ⟨hword, ⟨n, hn, htext⟩ | ⟨hnone, hrest⟩⟩
    · rw [← h, htext]
      exact .truth b
    · obtain ⟨hlow, hhigh⟩ := range_of_integer? hn
      rw [← h, htext]
      exact .integer hlow hhigh
    · rcases hrest with ⟨x, hx, htext⟩ | ⟨hnone', -⟩
      · exact .float hword hnone hx (htext.symm.trans h)
      · exact .text hword hnone hnone'
  · intro h
    cases h with
    | truth b => cases b <;> decide +kernel
    | @integer n low high => exact textOf_integer (noTruth_toString n) (integer?_toString low high)
    | float word noInteger number same => exact (textOf_float word noInteger number).trans same
    | text word noInteger noNumber => exact textOf_text word noInteger noNumber

example : textOf "1e3" = "1000" := by decide +kernel

theorem readString_scalarOf (origin : Option String) (text : String) :
    SettingTree.readString (.scalar origin (scalarOf text)) = .ok (textOf text) := by
  rw [textOf]
  cases hscalar : scalarOf text with
  | nothing =>
    -- no text is taken for no value
    exfalso
    simp only [scalarOf] at hscalar
    repeat' split at hscalar
    all_goals cases hscalar
  | boolean b => rfl
  | integer n => rfl
  | float x => rfl
  | text s => rfl

/-! ## Something arrives -/

theorem exists_not_blank_positional (n : Nat) (power : Int) :
    ∃ c ∈ Binary64.positionalChars false (Nat.toDigits 10 n) power, isBlank c = false := by
  rw [Binary64.positionalChars]
  split
  · obtain ⟨c, rest, hcons⟩ := List.exists_cons_of_ne_nil (Nat.toDigits_ne_nil (b := 10) (n := n))
    refine ⟨c, ?_, isBlank_of_isDigit (isDigit_of_toDigits hcons)⟩
    rw [hcons]
    simp
  · exact ⟨'.', by simp, by decide⟩

/-- The text of a number is not blank. -/
theorem exists_not_blank_toText (x : Binary64) :
    ∃ c ∈ (x.toText .plain).toList, isBlank c = false := by
  rw [Binary64.toText, String.toList_ofList]
  cases x with
  | nan => exact ⟨'N', by decide, by decide⟩
  | infinite negative => cases negative <;> exact ⟨'i', by decide, by decide⟩
  | finite negative significand exponent =>
    rw [Binary64.toChars]
    by_cases hzero : significand = 0
    · refine ⟨'0', ?_, by decide⟩
      rw [if_pos hzero]
      simp
    · obtain ⟨c, hc, hblank⟩ := exists_not_blank_positional
        (Binary64.shortest significand exponent).1 (Binary64.shortest significand exponent).2
      refine ⟨c, ?_, hblank⟩
      rw [if_neg hzero]
      exact List.mem_append_right _ hc

/-- **A text that is not blank arrives as one that is not.** -/
theorem textOf_eq_or_not_blank (text : String) :
    textOf text = text ∨ ∃ c ∈ (textOf text).toList, isBlank c = false := by
  rcases textOf_cases text with ⟨b, htext⟩ | ⟨-, ⟨n, -, htext⟩ | ⟨-, hrest⟩⟩
  · rw [htext]
    cases b with
    | false => exact .inr ⟨'f', by decide, by decide⟩
    | true => exact .inr ⟨'t', by decide, by decide⟩
  · obtain ⟨c, rest, hcons, hc⟩ := exists_toList_toString n
    rw [htext, hcons]
    refine .inr ⟨c, List.mem_cons_self, ?_⟩
    rcases hc with rfl | hdigit
    · decide
    · exact isBlank_of_isDigit hdigit
  · rcases hrest with ⟨x, -, htext⟩ | ⟨-, htext⟩
    · rw [htext]
      exact .inr (exists_not_blank_toText x)
    · exact .inl htext

end Environment

end ScalpBot
