import ScalpBot.Proofs.Settings.Paths

/-!
# What a document writes

A document is merged into a tree name by name, in lower case. Where no two names of a table differ in the
case of their letters only, and no name of the document itself is spelled like a path, the tree has at each
path what the document writes there (`SettingTree.at?_overlay_ofToml`). A table is there with its members,
anything else as it is written.
-/

namespace ScalpBot

namespace Toml

/-- The entries of a table; anything else has none. -/
def entries : Toml → List (String × Toml)
  | table es => es
  | _ => []

/-- The entry with this name in lower case. -/
def named? (es : List (String × Toml)) (key : String) : Option (String × Toml) :=
  es.find? fun e => lowerCase e.1 = key

/-- What is written at a path of names. -/
def at? : List String → Toml → Option Toml
  | [], v => some v
  | key :: rest, v => (named? v.entries key).bind fun e => at? rest e.2

mutual

/-- Whether no table has two names that differ in the case of their letters only. -/
def isClear : Toml → Bool
  | table es => decide (es.map fun e => lowerCase e.1).Nodup && entriesClear es
  | _ => true

/-- Whether this holds of all values of a table. -/
def entriesClear : List (String × Toml) → Bool
  | [] => true
  | (_, v) :: rest => v.isClear && entriesClear rest

end

/-- **A document that is written plainly**: no two names of a table differ in the case of their letters
only, and no name of the document itself is spelled like a path. -/
structure Plain (es : List (String × Toml)) : Prop where
  clear : (table es).isClear = true
  names : ∀ e ∈ es, SettingPath.ofText e.1 = .name e.1

instance (es : List (String × Toml)) : Decidable (Plain es) :=
  decidable_of_iff ((table es).isClear = true ∧ ∀ e ∈ es, SettingPath.ofText e.1 = .name e.1)
    ⟨fun ⟨h, h'⟩ => ⟨h, h'⟩, fun ⟨h, h'⟩ => ⟨h, h'⟩⟩

theorem entriesClear_iff {es : List (String × Toml)} :
    entriesClear es = true ↔ ∀ e ∈ es, e.2.isClear = true := by
  induction es with
  | nil => simp [entriesClear]
  | cons e es ih => rw [entriesClear, Bool.and_eq_true, ih, List.forall_mem_cons]

theorem isClear_table_iff {es : List (String × Toml)} : (table es).isClear = true ↔
    (es.map fun e => lowerCase e.1).Nodup ∧ ∀ e ∈ es, e.2.isClear = true := by
  rw [isClear, Bool.and_eq_true, decide_eq_true_iff, entriesClear_iff]

end Toml

namespace SettingTree

variable {origin : Option String} {v root target : SettingTree} {key : String}
  {es : List (String × Toml)}

/-- A value over what was there: the members of a table are put into the table that was there. -/
def putOver (v : SettingTree) (before? : Option SettingTree) : SettingTree :=
  match v with
  | .table _ ms => mergeAll ms (before?.getD emptyTable)
  | v => v

/-- What a written value is in a tree of its own. -/
def settled (origin : Option String) (v : Toml) : SettingTree := (ofToml origin v).putOver none

theorem lookup_merge (name : String) (v root : SettingTree) (key : String) :
    (merge name v root).members.lookup key =
      if key = lowerCase name then some (v.putOver (root.members.lookup (lowerCase name)))
      else root.members.lookup key := by
  cases v with
  | table origin ms => rw [merge, members_putMember, Json.lookup_insertMember, putOver]
  | scalar origin c =>
    rw [merge.eq_2, members_putMember, Json.lookup_insertMember]
    · rfl
    · intro _ _ heq
      cases heq
  | list origin items =>
    rw [merge.eq_2, members_putMember, Json.lookup_insertMember]
    · rfl
    · intro _ _ heq
      cases heq

/-- What is there under other names stays. -/
theorem lookup_mergeAll_of_ne (h : ∀ e ∈ es, lowerCase e.1 ≠ key) :
    (mergeAll (ofTomlEntries origin es) target).members.lookup key = target.members.lookup key := by
  induction es generalizing target with
  | nil => rw [ofTomlEntries, mergeAll]
  | cons e es ih =>
    obtain ⟨name, w⟩ := e
    obtain ⟨hname, hes⟩ := List.forall_mem_cons.mp h
    rw [ofTomlEntries, mergeAll, ih hes, lookup_merge, if_neg hname.symm]

/-- **Of names that differ, each has what is written under it.** -/
theorem lookup_mergeAll (hnodup : (es.map fun e => lowerCase e.1).Nodup)
    (htarget : target.members.lookup key = none) :
    (mergeAll (ofTomlEntries origin es) target).members.lookup key =
      (Toml.named? es key).map fun e => settled origin e.2 := by
  induction es generalizing target with
  | nil => rw [ofTomlEntries, mergeAll, htarget]; rfl
  | cons e es ih =>
    obtain ⟨name, w⟩ := e
    obtain ⟨hname, hes⟩ := List.nodup_cons.mp hnodup
    rw [ofTomlEntries, mergeAll, Toml.named?, List.find?_cons]
    by_cases hkey : lowerCase name = key
    · -- the names after it differ from it
      have hothers : ∀ e ∈ es, lowerCase e.1 ≠ key := fun e he heq =>
        hname (List.mem_map.mpr ⟨e, he, heq.trans hkey.symm⟩)
      rw [lookup_mergeAll_of_ne hothers, lookup_merge, if_pos hkey.symm, hkey, htarget]
      simp [settled]
    · have hmerged : (merge name (ofToml origin w) target).members.lookup key = none := by
        rw [lookup_merge, if_neg (Ne.symm hkey), htarget]
      rw [ih hes hmerged]
      simp [hkey, Toml.named?]

theorem settled_table (es : List (String × Toml)) :
    settled origin (.table es) = mergeAll (ofTomlEntries origin es) emptyTable := by
  rw [settled, ofToml, putOver]
  rfl

/-- **A written value has at each path what is written there.** -/
theorem at?_settled {v : Toml} (h : v.isClear = true) (path : List String) :
    (settled origin v).at? path = (v.at? path).map (settled origin) := by
  induction path generalizing v with
  | nil => rfl
  | cons key rest ih =>
    rw [at?_cons, Toml.at?]
    cases v with
    | table es =>
      obtain ⟨hnodup, hclear⟩ := Toml.isClear_table_iff.mp h
      rw [settled_table, lookup_mergeAll hnodup rfl, Toml.entries]
      cases hentry : Toml.named? es key with
      | none => rfl
      | some e => exact ih (hclear e (List.mem_of_find?_eq_some hentry))
    | _ => rfl

/-- **A document that is written plainly has at each path what is written there.** -/
theorem at?_overlay_ofToml (h : Toml.Plain es) (path : List String) :
    (overlay (ofTomlEntries origin es) emptyTable).at? path =
      ((Toml.table es).at? path).map (settled origin) := by
  have hmerge : overlay (ofTomlEntries origin es) emptyTable =
      mergeAll (ofTomlEntries origin es) emptyTable := by
    have hnames := h.names
    generalize emptyTable = root
    clear h
    induction es generalizing root with
    | nil => rw [ofTomlEntries, mergeAll]; rfl
    | cons e es ih =>
      obtain ⟨name, w⟩ := e
      obtain ⟨hname, hes⟩ := List.forall_mem_cons.mp hnames
      rw [ofTomlEntries, mergeAll, overlay_cons, ih hes]
      simp only [hname, set]
  rw [hmerge, ← settled_table, at?_settled h.clear]

end SettingTree

end ScalpBot
