import Mathlib.Data.List.Basic
import ScalpBot.Text.Uuid

/-!
# The form of identifiers

`Uuid.HasForm` says of a text that it has the form of an identifier: groups of 8, 4, 4, 4 and 12 digits to
the base 16, in lower case, with hyphens between them. The text of every identifier has this form
(`Uuid.hasForm_toText`). Behind its last hyphen a text of this form has 12 digits, and all before it is 23
characters long (`Uuid.HasForm.exists_last`).
-/

namespace ScalpBot.Uuid

/-- Whether a character is a digit of an identifier. -/
def IsDigit (c : Char) : Prop := ∃ n < 16, c = digit n

/-- Whether a text has the form of an identifier. -/
structure HasForm (text : String) : Prop where
  groups : (text.toList.splitOn '-').map List.length = [8, 4, 4, 4, 12]
  digits : ∀ group ∈ text.toList.splitOn '-', ∀ c ∈ group, IsDigit c

theorem IsDigit.ne_hyphen {c : Char} (h : IsDigit c) : c ≠ '-' := by
  obtain ⟨n, hn, rfl⟩ := h
  have hall : ∀ n < 16, digit n ≠ '-' := by decide
  exact hall n hn

theorem isDigit_of_mem_digits {u : Uuid} {first past : Nat} {c : Char}
    (h : c ∈ u.digits first past) : IsDigit c := by
  obtain ⟨place, -, rfl⟩ := List.mem_map.mp h
  exact ⟨_, Nat.mod_lt _ (by decide), rfl⟩

theorem length_digits (u : Uuid) (first past : Nat) : (u.digits first past).length = past - first := by
  rw [digits, List.length_map, List.length_range']

/-- The groups of the digits. -/
def groups (u : Uuid) : List (List Char) :=
  [u.digits 0 8, u.digits 8 12, u.digits 12 16, u.digits 16 20, u.digits 20 32]

theorem isDigit_of_mem_groups {u : Uuid} {group : List Char} {c : Char} (h : group ∈ u.groups)
    (hc : c ∈ group) : IsDigit c := by
  simp only [groups, List.mem_cons, List.not_mem_nil, or_false] at h
  rcases h with rfl | rfl | rfl | rfl | rfl <;> exact isDigit_of_mem_digits hc

theorem splitOn_toText (u : Uuid) : u.toText.toList.splitOn '-' = u.groups := by
  have hjoined : u.toText.toList = ['-'].intercalate u.groups := by simp [toText, groups]
  have hnone : ∀ group ∈ u.groups, '-' ∉ group := fun group hgroup hmem =>
    (isDigit_of_mem_groups hgroup hmem).ne_hyphen rfl
  rw [hjoined, List.splitOn_intercalate '-' hnone (by simp [groups])]

/-- **The text of an identifier has its form.** -/
theorem hasForm_toText (u : Uuid) : HasForm u.toText where
  groups := by
    rw [splitOn_toText]
    simp only [Uuid.groups, List.map_cons, List.map_nil, length_digits]
  digits group hgroup c hc := by
    rw [splitOn_toText] at hgroup
    exact isDigit_of_mem_groups hgroup hc

/-- **Where the last group of an identifier is.** -/
theorem HasForm.exists_last {text : String} (h : HasForm text) : ∃ front last,
    text.toList = front ++ '-' :: last ∧ front.length = 23 ∧ last.length = 12 ∧ '-' ∉ last := by
  have hgroups := h.groups
  obtain ⟨a, b, c, d, e, hsplit, ha, hb, hc, hd, he⟩ : ∃ a b c d e,
      text.toList.splitOn '-' = [a, b, c, d, e] ∧ a.length = 8 ∧ b.length = 4 ∧ c.length = 4 ∧
        d.length = 4 ∧ e.length = 12 := by
    simp only [List.map_eq_cons_iff, List.map_eq_nil_iff] at hgroups
    obtain ⟨a, _, hsplit, ha, b, _, rfl, hb, c, _, rfl, hc, d, _, rfl, hd, e, _, rfl, he, rfl⟩ :=
      hgroups
    exact ⟨a, b, c, d, e, hsplit, ha, hb, hc, hd, he⟩
  have htext : ['-'].intercalate (text.toList.splitOn '-') = text.toList := List.intercalate_splitOn _
  rw [hsplit] at htext
  refine ⟨a ++ '-' :: b ++ '-' :: c ++ '-' :: d, e, ?_, ?_, he, fun hmem => ?_⟩
  · rw [← htext]
    simp
  · simp [ha, hb, hc, hd]
  · exact (h.digits e (by simp [hsplit]) _ hmem).ne_hyphen rfl

end ScalpBot.Uuid
