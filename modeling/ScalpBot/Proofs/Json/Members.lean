import Mathlib.Data.List.Sort
import ScalpBot.Json.Reader

/-!
# The members of an object

An object that was read from a text has its members in the order of their keys, and a key only once
(`Json.ordered_of_parse`), whatever the text repeats. So looking up a key finds the one member that has
it (`Json.lookup_eq_some_iff_mem`).
-/

namespace ScalpBot.Json

variable {α : Type}

/-! ## Order -/

/-- The members stand in the order of their keys, and no key stands twice. -/
def Ordered (members : List (String × α)) : Prop := members.Pairwise fun a b => a.1 < b.1

theorem mem_of_mem_insertMember {key : String} {value : α} {members : List (String × α)}
    {m : String × α} (h : m ∈ insertMember key value members) : m = (key, value) ∨ m ∈ members := by
  induction members with
  | nil => exact .inl (List.mem_singleton.mp h)
  | cons head rest ih =>
    rw [insertMember] at h
    split at h
    · exact List.mem_cons.mp h
    · split at h
      · exact (List.mem_cons.mp h).imp_right (List.mem_cons_of_mem _)
      · rcases List.mem_cons.mp h with rfl | h
        · exact .inr List.mem_cons_self
        · exact (ih h).imp_right (List.mem_cons_of_mem _)

/-- Adding a member keeps the order. -/
theorem ordered_insertMember {members : List (String × α)} (h : Ordered members) (key : String)
    (value : α) : Ordered (insertMember key value members) := by
  induction members with
  | nil => exact List.pairwise_singleton ..
  | cons head rest ih =>
    obtain ⟨hhead, hrest⟩ := List.pairwise_cons.mp h
    rw [insertMember]
    split
    · rename_i hlt
      refine List.pairwise_cons.mpr ⟨fun m hm => ?_, h⟩
      rcases List.mem_cons.mp hm with rfl | hm
      · exact hlt
      · exact String.lt_trans hlt (hhead m hm)
    · rename_i hnlt
      split
      · rename_i heq
        exact List.pairwise_cons.mpr ⟨fun m hm => heq ▸ hhead m hm, hrest⟩
      · rename_i hne
        refine List.pairwise_cons.mpr ⟨fun m hm => ?_, ih hrest⟩
        rcases mem_of_mem_insertMember hm with rfl | hm
        · -- the key is neither before the first one nor the same
          exact Decidable.byContradiction fun hnot =>
            hne (String.le_antisymm (String.not_lt.mp hnot) (String.not_lt.mp hnlt))
        · exact hhead m hm

theorem ordered_foldl_insertMember {acc : List (String × α)} (h : Ordered acc)
    (members : List (String × α)) :
    Ordered (members.foldl (fun acc m => insertMember m.1 m.2 acc) acc) := by
  induction members generalizing acc with
  | nil => exact h
  | cons m members ih => exact ih (ordered_insertMember h m.1 m.2)

/-! ## Looking up a key -/

/-- The member that is found is the one with the key. -/
theorem lookup_eq_some_iff_mem {members : List (String × α)} (h : Ordered members) {key : String}
    {value : α} : members.lookup key = some value ↔ (key, value) ∈ members := by
  induction members with
  | nil => simp
  | cons head rest ih =>
    obtain ⟨hhead, hrest⟩ := List.pairwise_cons.mp h
    obtain ⟨k, v⟩ := head
    rw [List.lookup_cons]
    split
    · rename_i hkey
      obtain rfl := eq_of_beq hkey
      -- no other member has the key
      have hout : (key, value) ∉ rest := fun hm =>
        String.lt_irrefl key (hhead (key, value) hm)
      simp [hout, eq_comm]
    · rename_i hkey
      simp [ih hrest, ne_of_beq_false hkey]

/-! ## Adding members -/

section Adding

variable {key : String} {value : α} {m : String × α} {acc members : List (String × α)}

theorem mem_insertMember_self : (key, value) ∈ insertMember key value acc := by
  induction acc with
  | nil => exact List.mem_cons_self
  | cons head acc ih =>
    rw [insertMember]
    split
    · exact List.mem_cons_self
    · split
      · exact List.mem_cons_self
      · exact List.mem_cons_of_mem _ ih

/-- A member stays where one with another key is added. -/
theorem mem_insertMember_of_ne (hm : m ∈ acc) (hne : m.1 ≠ key) : m ∈ insertMember key value acc := by
  induction acc with
  | nil => cases hm
  | cons head acc ih =>
    rw [insertMember]
    split
    · exact List.mem_cons_of_mem _ hm
    · rcases List.mem_cons.mp hm with rfl | hm
      · split
        · rename_i heq
          exact absurd heq.symm hne
        · exact List.mem_cons_self
      · split
        · exact List.mem_cons_of_mem _ hm
        · exact List.mem_cons_of_mem _ (ih hm)

theorem mem_foldl_insertMember_of_notMem (hm : m ∈ acc) (hkeys : m.1 ∉ members.map (·.1)) :
    m ∈ members.foldl (fun acc m => insertMember m.1 m.2 acc) acc := by
  induction members generalizing acc with
  | nil => exact hm
  | cons head members ih =>
    rw [List.map_cons, List.mem_cons, not_or] at hkeys
    exact ih (mem_insertMember_of_ne hm hkeys.1) hkeys.2

/-- Members with different keys all stand in the object. -/
theorem mem_foldl_insertMember_of_nodup (hkeys : (members.map (·.1)).Nodup) (hm : m ∈ members) :
    m ∈ members.foldl (fun acc m => insertMember m.1 m.2 acc) acc := by
  induction members generalizing acc with
  | nil => cases hm
  | cons head members ih =>
    rw [List.map_cons, List.nodup_cons] at hkeys
    rw [List.foldl_cons]
    rcases List.mem_cons.mp hm with rfl | hm
    · exact mem_foldl_insertMember_of_notMem mem_insertMember_self hkeys.1
    · exact ih hkeys.2 hm

theorem mem_of_mem_foldl_insertMember
    (h : m ∈ members.foldl (fun acc m => insertMember m.1 m.2 acc) acc) : m ∈ acc ∨ m ∈ members := by
  induction members generalizing acc with
  | nil => exact .inl h
  | cons head members ih =>
    rcases ih h with h | h
    · rcases mem_of_mem_insertMember h with rfl | h
      · exact .inr List.mem_cons_self
      · exact .inl h
    · exact .inr (List.mem_cons_of_mem _ h)

/-- Members in order are told by which they are. -/
theorem Ordered.eq_of_mem_iff {l l' : List (String × α)} (h : Ordered l) (h' : Ordered l')
    (hmem : ∀ m, m ∈ l ↔ m ∈ l') : l = l' := by
  have : Std.Irrefl fun a b : String × α => a.1 < b.1 := ⟨fun a => String.lt_irrefl a.1⟩
  have : Std.Antisymm fun a b : String × α => a.1 < b.1 :=
    ⟨fun _ _ hlt hgt => absurd hgt (String.lt_asymm hlt)⟩
  exact List.Pairwise.eq_of_mem_iff h h' hmem

theorem Ordered.nodup_keys (h : Ordered members) : (members.map (·.1)).Nodup :=
  List.pairwise_map.mpr (List.Pairwise.imp (fun hlt => String.ne_of_lt hlt) h)

theorem lookup_cons (head : String × α) (rest : List (String × α)) (k : String) :
    (head :: rest).lookup k = if k = head.1 then some head.2 else rest.lookup k := by
  obtain ⟨key, value⟩ := head
  rw [List.lookup_cons]
  by_cases h : k = key
  · rw [if_pos h, beq_iff_eq.mpr h]
  · rw [if_neg h, beq_eq_false_iff_ne.mpr h]

/-- Taking out what is under one key leaves what is under all other keys. -/
theorem lookup_filter_ne {k : String} (hne : k ≠ key) (members : List (String × α)) :
    (members.filter (·.1 ≠ key)).lookup k = members.lookup k := by
  induction members with
  | nil => rfl
  | cons head rest ih =>
    rw [List.filter_cons, lookup_cons]
    by_cases hkey : head.1 = key
    · rw [if_neg (by simp [hkey]), ih, if_neg fun h => hne (h.trans hkey)]
    · rw [if_pos (by simp [hkey]), lookup_cons, ih]

/-- **Adding a member puts it under its key** and leaves what is under all other keys. -/
theorem lookup_insertMember (k : String) :
    (insertMember key value members).lookup k = if k = key then some value else members.lookup k := by
  induction members with
  | nil => rw [insertMember, lookup_cons]
  | cons head rest ih =>
    rw [insertMember]
    split
    · rw [lookup_cons]
    · split
      · rename_i heq
        rw [lookup_cons, lookup_cons]
        by_cases h : k = key
        · rw [if_pos h, if_pos h]
        · rw [if_neg h, if_neg h, if_neg (heq ▸ h)]
      · rename_i hne
        rw [lookup_cons, ih, lookup_cons]
        by_cases h : k = head.1
        · rw [if_pos h, if_pos h, if_neg fun hkey => hne (hkey.symm.trans h)]
        · rw [if_neg h, if_neg h]

end Adding

/-! ## Objects of a text -/

theorem exists_array_of_readItems {fuel depth : Nat} {read : List Json} {cs rest : List Char}
    {v : Json} (h : readItems fuel depth read cs = some (v, rest)) : ∃ items, v = .array items := by
  induction fuel generalizing read cs with
  | zero => simp [readItems] at h
  | succ fuel ih =>
    rw [readItems] at h
    split at h
    · cases h
    · split at h
      · exact ih h
      · cases h
        exact ⟨_, rfl⟩
      · cases h

theorem exists_ordered_of_readMembers {fuel depth : Nat} {read : List (String × Json)}
    {cs rest : List Char} {v : Json} (h : readMembers fuel depth read cs = some (v, rest)) :
    ∃ members, v = .object members ∧ Ordered members := by
  induction fuel generalizing read cs with
  | zero => simp [readMembers] at h
  | succ fuel ih =>
    simp only [readMembers] at h
    repeat' split at h
    -- what has been read goes on, or ends with the brace; all else is malformed
    all_goals first
      | exact ih h
      | cases h
    exact ⟨_, rfl, ordered_foldl_insertMember .nil _⟩

theorem ordered_of_readValue {fuel depth : Nat} {members : List (String × Json)}
    {cs rest : List Char} (h : readValue fuel depth cs = some (.object members, rest)) :
    Ordered members := by
  cases fuel with
  | zero => simp [readValue] at h
  | succ fuel =>
    rw [readValue] at h
    split at h
    case h_7 =>
      -- the text opens an object
      repeat' split at h
      · cases h
      · cases h
        exact .nil
      · obtain ⟨_, heq, hordered⟩ := exists_ordered_of_readMembers h
        exact Json.object.inj heq ▸ hordered
    case h_6 =>
      -- the text opens an array
      repeat' split at h
      · cases h
      · cases h
      · obtain ⟨_, heq⟩ := exists_array_of_readItems h
        cases heq
    all_goals simp at h

/-- **An object of a text has its members in order, each key once.** -/
theorem ordered_of_parse {text : String} {members : List (String × Json)}
    (h : parse text = some (.object members)) : Ordered members := by
  simp only [parse] at h
  split at h
  · rename_i v rest hread
    split at h
    · obtain rfl := Option.some.inj h
      exact ordered_of_readValue hread
    · cases h
  · cases h

end ScalpBot.Json
