import Mathlib.Data.List.Basic
import ScalpBot.Proofs.Json.Members
import ScalpBot.Settings.Tree

/-!
# Putting settings at their paths

A path of names leads through tables, and `SettingTree.at?` is what stands at its end. A scalar that is
set at a path stands there afterwards, and what stands at any other path is as it was, unless one of the
two paths goes on where the other ends (`SettingTree.at?_put_self`, `SettingTree.at?_put_of_apart`).
Nothing is asked of the tree for it: what stood in the way was no table, and had nothing at the other path.

A path is spelled with points (`SettingPath.ofText_spelled`), and `SettingTree.Tidy` says of a tree that
its tables have each name once, which all trees have that were put together (`SettingTree.tidy_overlay`).

Of scalars that are put over a tree at paths apart, each stands at its path whatever the order
(`SettingTree.at?_overlay_of_mem`), and one more changes nothing at a path apart
(`SettingTree.at?_overlay_insertMember`).
-/

namespace ScalpBot

/-! ## Spelling a path -/

namespace SettingPath

/-- The path of these names. -/
def ofNames : List String → SettingPath
  | [] => .name ""
  | first :: more => more.foldl .child (.name first)

/-- The names with points between them. -/
def spelled (names : List String) : String := ".".intercalate names

/-- A name that is read as one: characters of a name only, and in lower case. -/
structure PlainName (name : String) : Prop where
  nonempty : name ≠ ""
  chars : name.toList.all isNameChar = true
  lower : lowerCase name = name

theorem takeName_append {name : String} (h : PlainName name) {rest : List Char}
    (hrest : rest.head?.all (fun c => !isNameChar c) = true) :
    takeName (name.toList ++ rest) = some (name, rest) := by
  have hchars : ∀ c ∈ name.toList, isNameChar c = true := List.all_eq_true.mp h.chars
  have hstop : rest.takeWhile isNameChar = [] ∧ rest.dropWhile isNameChar = rest := by
    cases rest with
    | nil => exact ⟨rfl, rfl⟩
    | cons c rest => simp_all
  have hempty : name.toList.isEmpty = false := by
    rw [List.isEmpty_eq_false_iff, Ne, String.toList_eq_nil_iff]
    exact h.nonempty
  simp only [takeName, List.takeWhile_append_of_pos hchars, List.dropWhile_append_of_pos hchars, hstop,
    List.append_nil, hempty, String.ofList_toList, Bool.false_eq_true, if_false]

/-- The names that follow are read one after the other. -/
theorem more_spelled {names : List String} (h : ∀ name ∈ names, PlainName name) (path : SettingPath)
    {fuel : Nat} (hfuel : names.length ≤ fuel) :
    more fuel path (names.flatMap fun name => '.' :: name.toList) = some (names.foldl .child path) := by
  induction names generalizing path fuel with
  | nil => cases fuel <;> rfl
  | cons name names ih =>
    obtain ⟨hname, hnames⟩ := List.forall_mem_cons.mp h
    cases fuel with
    | zero => cases hfuel
    | succ fuel =>
      have hstop : (names.flatMap fun name => '.' :: name.toList).head?.all
          (fun c => !isNameChar c) = true := by
        cases names <;> rfl
      rw [List.flatMap_cons, List.cons_append, more, takeName_append hname hstop]
      exact ih hnames _ (Nat.le_of_succ_le_succ hfuel)

theorem toList_spelled (first : String) (more : List String) :
    (spelled (first :: more)).toList =
      first.toList ++ more.flatMap fun name => '.' :: name.toList := by
  rw [spelled, String.toList_intercalate]
  induction more generalizing first with
  | nil => simp [List.intercalate]
  | cons name more ih =>
    have hmore := ih name
    simp only [List.map_cons, List.flatMap_cons, List.cons_append] at hmore ⊢
    rw [← hmore]
    rfl

/-- The names in a path. -/
def names : SettingPath → List String
  | name key => [key]
  | child parent key => parent.names ++ [key]
  | item parent _ => parent.names

@[simp] theorem names_ofNames (first : String) (more : List String) :
    (ofNames (first :: more)).names = first :: more := by
  have hfoldl (parent : SettingPath) : (more.foldl child parent).names = parent.names ++ more := by
    induction more generalizing parent with
    | nil => exact (List.append_nil _).symm
    | cons key more ih => rw [List.foldl_cons, ih, names, List.append_assoc, List.singleton_append]
  exact hfoldl (.name first)

/-- **Names are read from their spelling.** -/
theorem ofText_spelled {first : String} {more : List String}
    (h : ∀ name ∈ first :: more, PlainName name) :
    ofText (spelled (first :: more)) = ofNames (first :: more) := by
  obtain ⟨hfirst, hmore⟩ := List.forall_mem_cons.mp h
  have hstop : (more.flatMap fun name => '.' :: name.toList).head?.all
      (fun c => !isNameChar c) = true := by
    cases more <;> rfl
  have hfuel : more.length ≤ (more.flatMap fun name => '.' :: name.toList).length := by
    clear h hmore hstop
    induction more with
    | nil => exact Nat.zero_le _
    | cons name more ih =>
      rw [List.flatMap_cons, List.length_append, List.length_cons, List.length_cons]
      omega
  simp only [ofText, toList_spelled, takeName_append hfirst hstop, more_spelled hmore _ hfuel,
    Option.getD_some, ofNames]

/-- Names that are read as such have a spelling of their own. -/
theorem spelled_injective {first first' : String} {more more' : List String}
    (h : ∀ name ∈ first :: more, PlainName name) (h' : ∀ name ∈ first' :: more', PlainName name)
    (heq : spelled (first :: more) = spelled (first' :: more')) : first :: more = first' :: more' := by
  have hnames := congrArg (fun text => (ofText text).names) heq
  simpa only [ofText_spelled h, ofText_spelled h', names_ofNames] using hnames

instance (name : String) : Decidable (PlainName name) :=
  decidable_of_iff (name ≠ "" ∧ name.toList.all isNameChar = true ∧ lowerCase name = name)
    ⟨fun ⟨h, h', h''⟩ => ⟨h, h', h''⟩, fun ⟨h, h', h''⟩ => ⟨h, h', h''⟩⟩

end SettingPath

namespace SettingTree

variable {v root : SettingTree} {key : String} {path other : List String}

/-! ## What stands at a path -/

/-- What stands at the end of a path of names, through one table after the other. -/
def at? : List String → SettingTree → Option SettingTree
  | [], v => some v
  | key :: rest, v => (v.members.lookup key).bind (at? rest)

theorem at?_cons (key : String) (rest : List String) :
    root.at? (key :: rest) = (root.members.lookup key).bind (at? rest) := rfl

theorem at?_append (path other : List String) (root : SettingTree) :
    root.at? (path ++ other) = (root.at? path).bind (at? other) := by
  induction path generalizing root with
  | nil => rfl
  | cons key path ih => simp only [List.cons_append, at?_cons, Option.bind_assoc, ih]

/-- A value without members has nothing at any path. -/
theorem at?_of_members (hmembers : v.members = []) (hpath : path ≠ []) : v.at? path = none := by
  cases path with
  | nil => exact absurd rfl hpath
  | cons key rest => rw [at?_cons, hmembers, List.lookup_nil, Option.bind_none]

@[simp] theorem members_asTable : v.asTable.members = v.members := by cases v <;> rfl

theorem members_putMember : (root.putMember key v).members = Json.insertMember key v root.members := by
  cases root <;> rfl

theorem putMember_asTable : root.asTable.putMember key v = root.putMember key v := by
  cases root <;> rfl

/-- Changes what stands at a path of names, and makes what is missing on the way. -/
def within (act : SettingTree → SettingTree) : List String → SettingTree → SettingTree
  | [], v => act v
  | key :: rest, v =>
    v.asTable.putMember key (within act rest ((v.members.lookup key).getD nothing))

/-- Puts a value at a path of names. -/
def put (v : SettingTree) : List String → SettingTree → SettingTree := within fun _ => v

theorem change_foldl_child (act : SettingTree → SettingTree) (names : List String)
    (parent : SettingPath) (root : SettingTree) :
    change act (names.foldl .child parent) root =
      change (within act (names.map lowerCase)) parent root := by
  induction names generalizing parent with
  | nil => rfl
  | cons name names ih =>
    rw [List.foldl_cons, ih]
    rfl

theorem within_append (act : SettingTree → SettingTree) (names more : List String)
    (root : SettingTree) : within act (names ++ more) root = within (within act more) names root := by
  induction names generalizing root with
  | nil => rfl
  | cons name names ih => rw [List.cons_append, within, within, ih]

theorem merge_scalar (key : String) (origin : Option String) (c : SettingScalar) (root : SettingTree) :
    merge key (.scalar origin c) root = put (.scalar origin c) [lowerCase key] root := by
  rw [merge, put, within, within, putMember_asTable]
  intro _ _ h
  cases h

/-- **A scalar is set by putting it at the path.** -/
theorem set_ofNames (origin : Option String) (c : SettingScalar) {names : List String}
    (hnames : names ≠ []) (root : SettingTree) :
    set (.ofNames names) (.scalar origin c) root = put (.scalar origin c) (names.map lowerCase) root := by
  cases names with
  | nil => exact absurd rfl hnames
  | cons first more =>
    rw [SettingPath.ofNames]
    rcases List.eq_nil_or_concat' more with rfl | ⟨init, last, rfl⟩
    · exact merge_scalar first origin c root
    · have hlast : merge last (.scalar origin c) = put (.scalar origin c) [lowerCase last] :=
        funext (merge_scalar last origin c)
      rw [List.foldl_append, List.foldl_cons, List.foldl_nil, set, change_foldl_child, hlast, change,
        put, List.map_cons, List.map_append, within, within_append]
      rfl

/-! ## Putting and finding -/

theorem lookup_put_cons (v root : SettingTree) (key k : String) (rest : List String) :
    (put v (key :: rest) root).members.lookup k =
      if k = key then some (put v rest ((root.members.lookup key).getD nothing))
      else root.members.lookup k := by
  rw [put, within, members_putMember, Json.lookup_insertMember, members_asTable]

theorem at?_put_cons (v root : SettingTree) (key k : String) (rest more : List String) :
    (put v (key :: rest) root).at? (k :: more) =
      if k = key then (put v rest ((root.members.lookup key).getD nothing)).at? more
      else root.at? (k :: more) := by
  rw [at?_cons, lookup_put_cons]
  by_cases h : k = key
  · rw [if_pos h, if_pos h, Option.bind_some]
  · rw [if_neg h, if_neg h, at?_cons]

/-- **What was put at a path stands there.** -/
theorem at?_put_self (v : SettingTree) (path : List String) (root : SettingTree) :
    (put v path root).at? path = some v := by
  induction path generalizing root with
  | nil => rfl
  | cons key rest ih => rw [at?_put_cons, if_pos rfl, ih]

/-- Paths of which neither goes on where the other ends. -/
def Apart (path other : List String) : Prop := ¬ path <+: other ∧ ¬ other <+: path

/-- **What stands at a path apart is as it was.** -/
theorem at?_put_of_apart (h : Apart path other) : (put v path root).at? other = root.at? other := by
  obtain ⟨hpath, hother⟩ := h
  induction path generalizing other root with
  | nil => exact absurd List.nil_prefix hpath
  | cons key rest ih =>
    cases other with
    | nil => exact absurd List.nil_prefix hother
    | cons k more =>
      rw [at?_put_cons]
      by_cases hkey : k = key
      · subst hkey
        rw [List.prefix_cons_inj] at hpath hother
        rw [if_pos rfl, ih hpath hother, at?_cons]
        -- where nothing was, nothing is at the rest of the path, which is not empty
        cases root.members.lookup k with
        | some w => rfl
        | none => exact at?_of_members rfl fun hmore => hother (hmore ▸ List.nil_prefix)
      · rw [if_neg hkey]

/-- On the way to what was put stand tables. -/
theorem at?_put_before (v root : SettingTree) (path : List String) (key : String)
    (rest : List String) :
    ∃ origin ms, (put v (path ++ key :: rest) root).at? path = some (.table origin ms) := by
  induction path generalizing root with
  | nil =>
    rw [List.nil_append, put, within]
    cases root <;> exact ⟨_, _, rfl⟩
  | cons k path ih =>
    rw [List.cons_append, at?_put_cons, if_pos rfl]
    exact ih _

/-- What stands at the beginning of the path of what was put depends on what stood there alone. -/
theorem at?_put_append (v root : SettingTree) (path rest : List String) :
    (put v (path ++ rest) root).at? path = some (put v rest ((root.at? path).getD nothing)) := by
  induction path generalizing root with
  | nil => rfl
  | cons key path ih =>
    rw [List.cons_append, at?_put_cons, if_pos rfl, ih, at?_cons]
    cases root.members.lookup key with
    | some w => rfl
    | none =>
      cases path with
      | nil => rfl
      | cons k path => rfl

/-! ## Tidy trees -/

/-- **A tidy tree** has tables that have each name once, in order, as far as they are reached through
tables. -/
inductive Tidy : SettingTree → Prop
  | scalar (origin : Option String) (value : SettingScalar) : Tidy (.scalar origin value)
  | list (origin : Option String) (items : List SettingTree) : Tidy (.list origin items)
  | table {origin : Option String} {ms : List (String × SettingTree)} (ordered : Json.Ordered ms)
      (members : ∀ m ∈ ms, Tidy m.2) : Tidy (.table origin ms)

theorem tidy_emptyTable : Tidy emptyTable := .table .nil fun _ h => by cases h

theorem Tidy.lookup (h : Tidy root) (key : String) : Tidy ((root.members.lookup key).getD nothing) := by
  cases h with
  | scalar => exact .scalar _ _
  | list => exact .scalar _ _
  | table ordered members =>
    rw [SettingTree.members]
    cases hlookup : List.lookup key _ with
    | none => exact .scalar _ _
    | some w => exact members _ ((Json.lookup_eq_some_iff_mem ordered).mp hlookup)

theorem Tidy.at? (h : Tidy root) (hv : root.at? path = some v) : Tidy v := by
  induction path generalizing root with
  | nil => exact Option.some.inj hv ▸ h
  | cons key path ih =>
    obtain ⟨w, hw, hv⟩ := Option.bind_eq_some_iff.mp hv
    have htidy := h.lookup key
    rw [hw] at htidy
    exact ih htidy hv

theorem Tidy.putMember (h : Tidy root) (key : String) (hv : Tidy v) : Tidy (root.putMember key v) := by
  have hsingle : Tidy (.table none [(key, v)]) :=
    .table (List.pairwise_singleton ..) fun m hm => by
      obtain rfl := List.mem_singleton.mp hm
      exact hv
  cases h with
  | scalar => exact hsingle
  | list => exact hsingle
  | table ordered members =>
    refine .table (Json.ordered_insertMember ordered key v) fun m hm => ?_
    rcases Json.mem_of_mem_insertMember hm with rfl | hm
    · exact hv
    · exact members m hm

theorem Tidy.asTable (h : Tidy root) : Tidy root.asTable := by
  cases h with
  | scalar => exact tidy_emptyTable
  | list => exact tidy_emptyTable
  | table ordered members => exact .table ordered members

mutual

theorem tidy_merge (key : String) : ∀ (v root : SettingTree), Tidy root → Tidy (merge key v root)
  | .scalar origin c, root, h => by
    rw [merge_scalar, put, within, within, putMember_asTable]
    exact h.putMember _ (.scalar origin c)
  | .list origin items, root, h => by
    rw [merge]
    · exact h.putMember _ (.list origin items)
    · intro _ _ heq
      cases heq
  | .table origin ms, root, h => by
    rw [merge]
    refine h.putMember _ (tidy_mergeAll ms _ ?_)
    cases hlookup : root.members.lookup (lowerCase key) with
    | none => exact tidy_emptyTable
    | some w => simpa [hlookup] using h.lookup (lowerCase key)

theorem tidy_mergeAll : ∀ (ms : List (String × SettingTree)) (target : SettingTree), Tidy target →
    Tidy (mergeAll ms target)
  | [], target, h => by
    rw [mergeAll]
    exact h
  | (key, v) :: rest, target, h => by
    rw [mergeAll]
    exact tidy_mergeAll rest _ (tidy_merge key v target h)

end

theorem tidy_change {act : SettingTree → SettingTree} (hact : ∀ v, Tidy v → Tidy (act v))
    (path : SettingPath) (h : Tidy root) : Tidy (change act path root) := by
  induction path generalizing act with
  | name key => exact h.asTable.putMember _ (hact _ (h.lookup _))
  | child parent key ih => exact ih fun v hv => hv.asTable.putMember _ (hact _ (hv.lookup _))
  | item parent index ih => exact ih fun v _ => .list _ _

theorem tidy_set (path : SettingPath) (v : SettingTree) (h : Tidy root) : Tidy (set path v root) := by
  cases path with
  | name key => exact tidy_merge key v root h
  | child parent key => exact tidy_change (fun w hw => tidy_merge key v w hw) parent h
  | item parent index => exact tidy_change (fun w _ => .list _ _) parent h

/-- **Trees that were put together are tidy.** -/
theorem tidy_overlay (settings : List (String × SettingTree)) (h : Tidy root) :
    Tidy (overlay settings root) := by
  induction settings generalizing root with
  | nil => exact h
  | cons p settings ih => exact ih (tidy_set _ p.2 h)

/-- A tree that settings were put into is a table if it was one. -/
def IsTable (v : SettingTree) : Prop := ∃ origin ms, v = .table origin ms

theorem isTable_putMember (root : SettingTree) (key : String) (v : SettingTree) :
    IsTable (root.putMember key v) := by
  cases root <;> exact ⟨_, _, rfl⟩

theorem isTable_change (act : SettingTree → SettingTree) (path : SettingPath) (root : SettingTree) :
    IsTable (change act path root) := by
  induction path generalizing act with
  | name key => exact isTable_putMember _ _ _
  | child parent key ih => exact ih _
  | item parent index ih => exact ih _

theorem isTable_merge (key : String) (v root : SettingTree) : IsTable (merge key v root) := by
  cases v with
  | table origin ms =>
    rw [merge]
    exact isTable_putMember _ _ _
  | _ =>
    rw [merge]
    · exact isTable_putMember _ _ _
    · intro _ _ heq
      cases heq

theorem isTable_set (path : SettingPath) (v root : SettingTree) : IsTable (set path v root) := by
  cases path with
  | name key => exact isTable_merge key v root
  | child parent key => exact isTable_change _ parent root
  | item parent index => exact isTable_change _ parent root

theorem isTable_overlay (settings : List (String × SettingTree)) (h : IsTable root) :
    IsTable (overlay settings root) := by
  induction settings generalizing root with
  | nil => exact h
  | cons p settings ih => exact ih (isTable_set _ p.2 root)

/-! ## Scalars over a tree -/

/-- A scalar that is to be set under the spelling of these names. -/
structure Spells (names : List String) (setting : String × SettingTree) : Prop where
  nonempty : names ≠ []
  plain : ∀ name ∈ names, SettingPath.PlainName name
  spelled : setting.1 = SettingPath.spelled names
  scalar : ∃ origin c, setting.2 = .scalar origin c

variable {names before : List String} {m : String × SettingTree}
  {settings : List (String × SettingTree)}

theorem Spells.set (h : Spells names m) (root : SettingTree) :
    SettingTree.set (.ofText m.1) m.2 root = put m.2 names root := by
  obtain ⟨origin, c, hscalar⟩ := h.scalar
  cases names with
  | nil => exact absurd rfl h.nonempty
  | cons first more =>
    have hlower : (first :: more).map lowerCase = first :: more :=
      (List.map_congr_left fun name hname => (h.plain name hname).lower).trans (List.map_id' _)
    rw [h.spelled, SettingPath.ofText_spelled h.plain, hscalar, set_ofNames _ _ h.nonempty, hlower]

theorem overlay_cons (m : String × SettingTree) (settings : List (String × SettingTree))
    (root : SettingTree) :
    overlay (m :: settings) root = overlay settings (SettingTree.set (.ofText m.1) m.2 root) := rfl

/-- Setting scalars at paths apart leaves what stands at a path. -/
theorem at?_overlay_of_apart (h : ∀ m ∈ settings, ∃ names, Spells names m ∧ Apart names other) :
    (overlay settings root).at? other = root.at? other := by
  induction settings generalizing root with
  | nil => rfl
  | cons m settings ih =>
    obtain ⟨⟨names, hm, hapart⟩, hsettings⟩ := List.forall_mem_cons.mp h
    rw [overlay_cons, ih hsettings, hm.set, at?_put_of_apart hapart]

/-- **Of scalars with paths apart, each stands at its path.** -/
theorem at?_overlay_of_mem (hm : m ∈ settings) (hpath : Spells path m)
    (hkeys : (settings.map (·.1)).Nodup)
    (h : ∀ m' ∈ settings, m'.1 ≠ m.1 → ∃ names, Spells names m' ∧ Apart names path) :
    (overlay settings root).at? path = some m.2 := by
  induction settings generalizing root with
  | nil => cases hm
  | cons head settings ih =>
    obtain ⟨hhead, hsettings⟩ := List.forall_mem_cons.mp h
    rw [List.map_cons, List.nodup_cons] at hkeys
    rw [overlay_cons]
    rcases List.mem_cons.mp hm with rfl | hm
    · -- it is set first, and the others are set at paths apart
      have hothers : ∀ m' ∈ settings, ∃ names, Spells names m' ∧ Apart names path := fun m' hm' =>
        hsettings m' hm' fun hkey => hkeys.1 (hkey ▸ List.mem_map_of_mem hm')
      rw [at?_overlay_of_apart hothers, hpath.set, at?_put_self]
    · exact ih hm hkeys.2 hsettings

/-- A table stays where all that is set is put into it, or apart. -/
theorem isTable_at?_overlay (hroot : ∃ v, root.at? before = some v ∧ IsTable v)
    (h : ∀ m ∈ settings, ∃ names, Spells names m ∧
      (Apart names before ∨ ∃ key rest, names = before ++ key :: rest)) :
    ∃ v, (overlay settings root).at? before = some v ∧ IsTable v := by
  induction settings generalizing root with
  | nil => exact hroot
  | cons m settings ih =>
    obtain ⟨⟨names, hm, hplace⟩, hsettings⟩ := List.forall_mem_cons.mp h
    rw [overlay_cons]
    refine ih ?_ hsettings
    rw [hm.set]
    rcases hplace with hapart | ⟨key, rest, rfl⟩
    · rw [at?_put_of_apart hapart]
      exact hroot
    · obtain ⟨origin, ms, hbefore⟩ := at?_put_before m.2 root before key rest
      exact ⟨_, hbefore, origin, ms, rfl⟩

/-- **And it is made where something is put into it.** -/
theorem isTable_at?_overlay_of_mem (hm : m ∈ settings) {key : String} {rest : List String}
    (hpath : Spells (before ++ key :: rest) m)
    (h : ∀ m ∈ settings, ∃ names, Spells names m ∧
      (Apart names before ∨ ∃ key rest, names = before ++ key :: rest)) :
    ∃ v, (overlay settings root).at? before = some v ∧ IsTable v := by
  induction settings generalizing root with
  | nil => cases hm
  | cons head settings ih =>
    obtain ⟨hhead, hsettings⟩ := List.forall_mem_cons.mp h
    rw [overlay_cons]
    rcases List.mem_cons.mp hm with rfl | hm
    · refine isTable_at?_overlay ?_ hsettings
      obtain ⟨origin, ms, hbefore⟩ := at?_put_before m.2 root before key rest
      exact ⟨_, hpath.set root ▸ hbefore, origin, ms, rfl⟩
    · exact ih hm hsettings

/-- Settings that are put at a path, behind it, or apart from it. -/
def Beside (settings : List (String × SettingTree)) (path : List String) : Prop :=
  ∀ m ∈ settings, ∃ names, Spells names m ∧ (Apart names path ∨ ∃ rest, names = path ++ rest)

theorem Beside.cons {head : String × SettingTree} (h : Beside (head :: settings) path) :
    Beside settings path := fun m hm => h m (List.mem_cons_of_mem _ hm)

/-- Then what stands at the path depends on what stood there alone. -/
theorem at?_overlay_congr {root' : SettingTree} (h : Beside settings path)
    (hroot : root.at? path = root'.at? path) :
    (overlay settings root).at? path = (overlay settings root').at? path := by
  induction settings generalizing root root' with
  | nil => exact hroot
  | cons m settings ih =>
    obtain ⟨names, hm, hplace⟩ := h m List.mem_cons_self
    rw [overlay_cons, overlay_cons, hm.set, hm.set]
    refine ih h.cons ?_
    rcases hplace with hapart | ⟨rest, rfl⟩
    · rw [at?_put_of_apart hapart, at?_put_of_apart hapart, hroot]
    · rw [at?_put_append, at?_put_append, hroot]

/-- **One more setting changes nothing at a path apart.** -/
theorem at?_overlay_insertMember (h : Beside settings path) (hnames : Spells names m)
    (hapart : Apart names path) (hkey : m.1 ∉ settings.map (·.1)) :
    (overlay (Json.insertMember m.1 m.2 settings) root).at? path =
      (overlay settings root).at? path := by
  have hset (root : SettingTree) : (set (.ofText m.1) m.2 root).at? path = root.at? path := by
    rw [hnames.set, at?_put_of_apart hapart]
  induction settings generalizing root with
  | nil => exact hset root
  | cons head settings ih =>
    rw [List.map_cons, List.mem_cons, not_or] at hkey
    rw [Json.insertMember]
    split
    · exact at?_overlay_congr h (hset root)
    · rw [if_neg hkey.1]
      exact ih h.cons hkey.2

end SettingTree

end ScalpBot
