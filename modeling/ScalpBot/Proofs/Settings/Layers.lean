import ScalpBot.Proofs.Settings.Leaves

/-!
# Settings in layers

A variable sets a leaf if its name spells the path of the leaf. Variables that name leaves, each another one
(`Environment.NamesLeaves`), put their values at paths that are apart from each other, so the order in
which they are put over the document makes no difference: what a leaf takes is the value of the variable
that sets it, else what the document has there, else its default (`Settings.Takes`,
`Settings.find_tree_eq_ok_iff`).

The tables must be there as well. A variable makes the table of its leaf, and puts it in the place of
anything that is no table; the settings can be read where no table and no leaf is missing
(`Settings.exists_read_tree_iff`).
-/

namespace ScalpBot

open SettingTree

/-! ## The paths of leaves -/

namespace Leaf

variable {σ : Type}

/-- The path to a leaf, spelled with points. -/
def spelled (x : Leaf σ) : String := SettingPath.spelled x.path

/-- A leaf that can be named: all names on its path are plain. -/
def Plain (x : Leaf σ) : Prop := ∀ name ∈ x.path, SettingPath.PlainName name

end Leaf

namespace Settings

variable {x y : Leaf Settings}

/-- **The path of a leaf that is not one of the strategy's own**: two plain names, and not those of the
table that holds the strategy's own. -/
def FixedPath (path : List String) : Prop :=
  (∀ name ∈ path, SettingPath.PlainName name) ∧ (SettingPath.spelled path).toList.count '.' = 1 ∧
    path.length = 2 ∧ path ≠ ["strategy", "config"]

instance (path : List String) : Decidable (FixedPath path) :=
  inferInstanceAs (Decidable (_ ∧ _ ∧ _ ∧ _))

theorem fixedPath_or_item (hx : IsLeaf x) :
    FixedPath x.path ∨ ∃ key, x.path = ["strategy", "config", key] := by
  cases hx with
  | exchange h =>
    have hfixed : ∀ x ∈ ExchangeSettings.leaves, FixedPath (x.under "exchange" exchange).path := by
      decide +kernel
    exact .inl (hfixed _ h)
  | market h =>
    have hfixed : ∀ x ∈ Market.leaves, FixedPath (x.under "market" market).path := by decide +kernel
    exact .inl (hfixed _ h)
  | strategy h =>
    have hfixed : ∀ x ∈ StrategySettings.leaves, FixedPath (x.under "strategy" strategy).path := by
      decide +kernel
    exact .inl (hfixed _ h)
  | item key => exact .inr ⟨key, rfl⟩
  | engine h =>
    have hfixed : ∀ x ∈ EngineSettings.leaves, FixedPath (x.under "engine" engine).path := by
      decide +kernel
    exact .inl (hfixed _ h)

theorem item_path_spelled (key : String) :
    (SettingPath.spelled ["strategy", "config", key]).toList = "strategy.config.".toList ++ key.toList := by
  have hfront : "strategy.config.".toList = "strategy".toList ++ ('.' :: "config".toList) ++ ['.'] := by
    decide
  rw [SettingPath.toList_spelled, hfront]
  simp only [List.flatMap_cons, List.flatMap_nil, List.append_nil, List.append_assoc,
    List.singleton_append]

/-- **Leaves with one spelling have one path.** -/
theorem path_eq_of_spelled (hx : IsLeaf x) (hy : IsLeaf y) (h : x.spelled = y.spelled) :
    x.path = y.path := by
  -- a fixed path has one point, and the path of an item two or more
  have hpoints {path : List String} {key : String} (hfixed : FixedPath path)
      (heq : SettingPath.spelled path = SettingPath.spelled ["strategy", "config", key]) : False := by
    have hcount := hfixed.2.1
    rw [heq, item_path_spelled, List.count_append] at hcount
    have htwo : "strategy.config.".toList.count '.' = 2 := by decide
    omega
  rw [Leaf.spelled, Leaf.spelled] at h
  rcases fixedPath_or_item hx with hfixed | ⟨key, hkey⟩ <;>
    rcases fixedPath_or_item hy with hfixed' | ⟨key', hkey'⟩
  · obtain ⟨hplain, -, hlength, -⟩ := hfixed
    obtain ⟨hplain', -, hlength', -⟩ := hfixed'
    cases hpath : x.path with
    | nil => simp [hpath] at hlength
    | cons first more =>
      cases hpath' : y.path with
      | nil => simp [hpath'] at hlength'
      | cons first' more' =>
        rw [hpath] at hplain h
        rw [hpath'] at hplain' h
        exact SettingPath.spelled_injective hplain hplain' h
  · exact (hpoints hfixed (hkey' ▸ h)).elim
  · exact (hpoints hfixed' (hkey ▸ h.symm)).elim
  · rw [hkey, hkey'] at h
    have htexts := congrArg String.toList h
    rw [item_path_spelled, item_path_spelled, List.append_cancel_left_eq, String.toList_inj] at htexts
    rw [hkey, hkey', htexts]

/-- **The paths of two leaves are apart.** -/
theorem apart_of_isLeaf (hx : IsLeaf x) (hy : IsLeaf y) (hne : x.path ≠ y.path) :
    Apart x.path y.path := by
  have hshort {path path' : List String} (hpath : FixedPath path)
      (hpath' : FixedPath path' ∨ ∃ key, path' = ["strategy", "config", key]) (hne : path ≠ path') :
      ¬ path <+: path' := by
    intro hle
    obtain ⟨-, -, hlength, hconfig⟩ := hpath
    rcases hpath' with ⟨-, -, hlength', -⟩ | ⟨key, rfl⟩
    · exact hne (hle.eq_of_length (hlength.trans hlength'.symm))
    · refine hconfig ?_
      rw [List.prefix_iff_eq_take.mp hle, hlength]
      rfl
  have hlong {path : List String} {key : String} (hpath : FixedPath path) :
      ¬ ["strategy", "config", key] <+: path := by
    intro hle
    have hlength := hle.length_le
    rw [hpath.2.2.1] at hlength
    simp at hlength
  have hitems {key key' : String} (hne : ["strategy", "config", key] ≠ ["strategy", "config", key']) :
      ¬ ["strategy", "config", key] <+: ["strategy", "config", key'] := fun hle =>
    hne (hle.eq_of_length rfl)
  rcases fixedPath_or_item hx with hfixed | ⟨key, hkey⟩ <;>
    rcases fixedPath_or_item hy with hfixed' | ⟨key', hkey'⟩
  · exact ⟨hshort hfixed (.inl hfixed') hne, hshort hfixed' (.inl hfixed) hne.symm⟩
  · exact ⟨hshort hfixed (.inr ⟨key', hkey'⟩) hne, hkey' ▸ hlong hfixed⟩
  · exact ⟨hkey ▸ hlong hfixed', hshort hfixed' (.inr ⟨key, hkey⟩) hne.symm⟩
  · rw [hkey, hkey'] at hne ⊢
    exact ⟨hitems hne, hitems hne.symm⟩

/-- **A path leads to one leaf.** -/
theorem eq_of_path (hx : IsLeaf x) (hy : IsLeaf y) (h : x.path = y.path) : x = y := by
  have hinj {σ : Type} {leaves : List (Leaf σ)} (hnodup : (leaves.map Leaf.path).Nodup)
      (table : String) (part : Settings → σ) {x y : Leaf σ} (hx : x ∈ leaves) (hy : y ∈ leaves)
      (h : (x.under table part).path = (y.under table part).path) :
      x.under table part = y.under table part :=
    congrArg (fun x => x.under table part) (List.inj_on_of_nodup_map hnodup hx hy (List.cons.inj h).2)
  have hname {x : Leaf StrategySettings} (hx : x ∈ StrategySettings.leaves) {key : String}
      (h : (x.under "strategy" strategy).path = ["strategy", "config", key]) : False := by
    have hlength := congrArg List.length h
    obtain rfl := List.mem_singleton.mp hx
    simp [Leaf.path, Leaf.under] at hlength
  cases hx with
  | exchange hx =>
    cases hy with
    | exchange hy => exact hinj (by decide +kernel) _ _ hx hy h
    | _ => exact absurd (List.cons.inj h).1 (by decide)
  | market hx =>
    cases hy with
    | market hy => exact hinj (by decide +kernel) _ _ hx hy h
    | _ => exact absurd (List.cons.inj h).1 (by decide)
  | strategy hx =>
    cases hy with
    | strategy hy => exact hinj (by decide +kernel) _ _ hx hy h
    | item key => exact (hname hx h).elim
    | _ => exact absurd (List.cons.inj h).1 (by decide)
  | item key =>
    cases hy with
    | item key' =>
      have hkey : key = key' := by simpa [Leaf.path, Leaf.under, StrategySettings.item] using h
      rw [hkey]
    | strategy hy => exact (hname hy h.symm).elim
    | _ => exact absurd (List.cons.inj h).1 (by decide)
  | engine hx =>
    cases hy with
    | engine hy => exact hinj (by decide +kernel) _ _ hx hy h
    | _ => exact absurd (List.cons.inj h).1 (by decide)

/-- The paths of the tables. -/
def tablePaths : List (List String) :=
  [["exchange"], ["market"], ["strategy"], ["strategy", "config"], ["engine"]]

/-- A leaf stands in a table, or apart from it. -/
theorem apart_or_within (hx : IsLeaf x) {table : List String} (htable : table ∈ tablePaths) :
    Apart x.path table ∨ ∃ key rest, x.path = table ++ key :: rest := by
  have hlength : table.length ≤ 2 := (by decide : ∀ table ∈ tablePaths, table.length ≤ 2) _ htable
  have hpath : ¬ x.path <+: table := by
    intro hle
    rcases fixedPath_or_item hx with ⟨-, -, htwo, hconfig⟩ | ⟨key, hkey⟩
    · have hnames : ∀ table ∈ tablePaths, table.length = 2 → table = ["strategy", "config"] := by decide
      have heq := hle.eq_of_length (le_antisymm hle.length_le (htwo ▸ hlength))
      exact hconfig (heq.trans (hnames _ htable (heq ▸ htwo)))
    · have hthree := hle.length_le
      rw [hkey, List.length_cons, List.length_cons, List.length_singleton] at hthree
      omega
  by_cases hle : table <+: x.path
  · obtain ⟨rest, hrest⟩ := hle
    cases rest with
    | cons key rest => exact .inr ⟨key, rest, hrest.symm⟩
    | nil => exact absurd ⟨[], by rw [List.append_nil, ← hrest, List.append_nil]⟩ hpath
  · exact .inl ⟨hpath, hle⟩

end Settings

/-! ## The environment over a document -/

namespace Environment

variable {vars : Variables} {entry : String × String} {m : String × SettingTree}
  {x y : Leaf Settings}

/-- The setting of a variable, if it has one. -/
def settingOf? (entry : String × String) : Option (String × SettingTree) :=
  (settingName? entry.1).map fun name => (name, .scalar (some origin) (scalarOf entry.2))

theorem settings_eq_foldl (vars : Variables) :
    settings vars = (vars.filterMap settingOf?).foldl (fun acc m => Json.insertMember m.1 m.2 acc) [] := by
  rw [List.foldl_filterMap, settings]
  congr 1
  funext acc entry
  rw [settingOf?]
  cases settingName? entry.1 <;> rfl

/-- A variable sets a leaf if the rest of its name spells the path. -/
def Sets (entry : String × String) (x : Leaf Settings) : Prop := settingName? entry.1 = some x.spelled

instance (entry : String × String) (x : Leaf Settings) : Decidable (Sets entry x) :=
  inferInstanceAs (Decidable (_ = _))

/-- **The variables name leaves**: each that sets something sets a leaf with a plain name, and no two set
the same. -/
structure NamesLeaves (vars : Variables) : Prop where
  leaf : ∀ entry ∈ vars, ∀ name, settingName? entry.1 = some name →
    ∃ x, Settings.IsLeaf x ∧ x.Plain ∧ name = x.spelled
  distinct : (vars.filterMap fun entry => settingName? entry.1).Nodup

theorem namesLeaves_nil : NamesLeaves [] where
  leaf _ h := by cases h
  distinct := .nil

theorem nodup_settings (vars : Variables) : ((settings vars).map (·.1)).Nodup := by
  rw [settings_eq_foldl]
  exact (Json.ordered_foldl_insertMember .nil _).nodup_keys

theorem mem_settings_iff (hvars : NamesLeaves vars) :
    m ∈ settings vars ↔ ∃ entry ∈ vars, settingOf? entry = some m := by
  have hkeys : ((vars.filterMap settingOf?).map (·.1)).Nodup := by
    have hnames : (vars.filterMap settingOf?).map (·.1) =
        vars.filterMap fun entry => settingName? entry.1 := by
      rw [List.map_filterMap]
      congr 1
      funext entry
      rw [settingOf?]
      cases settingName? entry.1 <;> rfl
    exact hnames ▸ hvars.distinct
  rw [settings_eq_foldl, ← List.mem_filterMap]
  exact ⟨fun h => (Json.mem_of_mem_foldl_insertMember h).resolve_left (List.not_mem_nil),
    Json.mem_foldl_insertMember_of_nodup hkeys⟩

/-- A variable that sets a leaf with a plain name sets a scalar at its path. -/
theorem Sets.spells (h : Sets entry x) (hx : Settings.IsLeaf x) (hplain : x.Plain) :
    Spells x.path (x.spelled, .scalar (some origin) (scalarOf entry.2)) where
  nonempty := by
    cases hx <;> exact List.cons_ne_nil _ _
  plain := hplain
  spelled := rfl
  scalar := ⟨_, _, rfl⟩

theorem Sets.settingOf (h : Sets entry x) :
    settingOf? entry = some (x.spelled, .scalar (some origin) (scalarOf entry.2)) := by
  rw [settingOf?, h, Option.map_some]

/-- Every setting of the environment is one of a leaf. -/
theorem exists_spells (hvars : NamesLeaves vars) (hm : m ∈ settings vars) :
    ∃ x entry, Settings.IsLeaf x ∧ entry ∈ vars ∧ Sets entry x ∧ m.1 = x.spelled ∧ Spells x.path m := by
  obtain ⟨entry, hentry, hsetting⟩ := (mem_settings_iff hvars).mp hm
  obtain ⟨name, hname, rfl⟩ := Option.map_eq_some_iff.mp hsetting
  obtain ⟨x, hx, hplain, rfl⟩ := hvars.leaf entry hentry name hname
  have hsets : Sets entry x := hname
  exact ⟨x, entry, hx, hentry, hsets, rfl, hsets.spells hx hplain⟩

end Environment

namespace Settings

variable {vars : Environment.Variables} {entry : String × String} {x : Leaf Settings}
  {entries : List (String × SettingTree)} {table : List String}

/-- A document as a tree. -/
def documentTree (entries : List (String × SettingTree)) : SettingTree := overlay entries emptyTable

theorem tidy_tree (entries : List (String × SettingTree)) (vars : Environment.Variables) :
    Tidy (tree entries vars) := tidy_overlay _ (tidy_overlay _ tidy_emptyTable)

theorem isTable_tree (entries : List (String × SettingTree)) (vars : Environment.Variables) :
    IsTable (tree entries vars) :=
  isTable_overlay _ (isTable_overlay _ ⟨none, [], rfl⟩)

/-- **A variable puts its value at its leaf**, whatever the document has there. -/
theorem at?_tree_of_sets (hvars : Environment.NamesLeaves vars) (hx : IsLeaf x) (hentry : entry ∈ vars)
    (hsets : Environment.Sets entry x) :
    (tree entries vars).at? x.path =
      some (.scalar (some Environment.origin) (Environment.scalarOf entry.2)) := by
  have hm := (Environment.mem_settings_iff hvars).mpr ⟨entry, hentry, hsets.settingOf⟩
  obtain ⟨y, hy, hplain, hspelled⟩ := hvars.leaf entry hentry _ hsets
  have hpath := path_eq_of_spelled hx hy hspelled
  have hplain' : x.Plain := by
    rw [Leaf.Plain, hpath]
    exact hplain
  have hspells := hsets.spells hx hplain'
  refine at?_overlay_of_mem hm hspells (Environment.nodup_settings vars) fun m' hm' hne => ?_
  obtain ⟨z, -, hz, -, -, hname, hspells'⟩ := Environment.exists_spells hvars hm'
  refine ⟨z.path, hspells', apart_of_isLeaf hz hx fun heq => hne ?_⟩
  rw [hname, Leaf.spelled, heq, Leaf.spelled]

/-- **A leaf that no variable sets is as in the document.** -/
theorem at?_tree_of_unset (hvars : Environment.NamesLeaves vars) (hx : IsLeaf x)
    (hunset : ∀ entry ∈ vars, ¬ Environment.Sets entry x) :
    (tree entries vars).at? x.path = (documentTree entries).at? x.path := by
  refine at?_overlay_of_apart fun m hm => ?_
  obtain ⟨y, entry, hy, hentry, hsets, -, hspells⟩ := Environment.exists_spells hvars hm
  refine ⟨y.path, hspells, apart_of_isLeaf hy hx fun heq => hunset entry hentry ?_⟩
  rw [Environment.Sets, hsets, Leaf.spelled, Leaf.spelled, heq]

/-- A variable sets a leaf in a table. -/
def SetsIn (vars : Environment.Variables) (table : List String) : Prop :=
  ∃ x, IsLeaf x ∧ table <+: x.tables ∧ ∃ entry ∈ vars, Environment.Sets entry x

/-- **There is a table**: in the document, or because a variable sets a leaf in it. -/
def Opened (document : SettingTree) (vars : Environment.Variables) (table : List String) : Prop :=
  (∃ v, document.at? table = some v ∧ IsTable v) ∨ SetsIn vars table

/-- Every setting of the environment stands in a table, or apart from it. -/
theorem apart_or_within_of_mem (hvars : Environment.NamesLeaves vars) (htable : table ∈ tablePaths)
    {m : String × SettingTree} (hm : m ∈ Environment.settings vars) :
    ∃ names, Spells names m ∧ (Apart names table ∨ ∃ key rest, names = table ++ key :: rest) := by
  obtain ⟨x, -, hx, -, -, -, hspells⟩ := Environment.exists_spells hvars hm
  exact ⟨x.path, hspells, apart_or_within hx htable⟩

theorem at?_tree_of_setsIn (entries : List (String × SettingTree))
    (hvars : Environment.NamesLeaves vars) (htable : table ∈ tablePaths) (h : SetsIn vars table) :
    ∃ v, (tree entries vars).at? table = some v ∧ IsTable v := by
  obtain ⟨x, hx, ⟨rest, hrest⟩, entry, hentry, hsets⟩ := h
  have hm := (Environment.mem_settings_iff hvars).mpr ⟨entry, hentry, hsets.settingOf⟩
  obtain ⟨y, -, hy, -, -, hname, hspells⟩ := Environment.exists_spells hvars hm
  have hpath : y.path = table ++ (rest ++ [x.field.name]) := by
    rw [← path_eq_of_spelled hx hy hname, Leaf.path, ← hrest, List.append_assoc]
  obtain ⟨key, more, hcons⟩ := List.exists_cons_of_ne_nil
    (List.append_ne_nil_of_right_ne_nil rest (List.cons_ne_nil x.field.name []))
  exact isTable_at?_overlay_of_mem hm (hcons ▸ hpath ▸ hspells) fun m hm =>
    apart_or_within_of_mem hvars htable hm

theorem at?_tree_of_not_setsIn (hvars : Environment.NamesLeaves vars) (htable : table ∈ tablePaths)
    (h : ¬ SetsIn vars table) :
    (tree entries vars).at? table = (documentTree entries).at? table := by
  refine at?_overlay_of_apart fun m hm => ?_
  obtain ⟨x, entry, hx, hentry, hsets, -, hspells⟩ := Environment.exists_spells hvars hm
  rcases apart_or_within hx htable with hapart | ⟨key, rest, hpath⟩
  · exact ⟨x.path, hspells, hapart⟩
  · -- the leaf would stand in the table
    have hle : table <+: x.tables ++ [x.field.name] := ⟨key :: rest, hpath.symm⟩
    rcases List.prefix_concat_iff.mp hle with heq | hle
    · have hlength := congrArg List.length hpath
      rw [Leaf.path, ← heq, List.length_append, List.length_cons] at hlength
      omega
    · exact absurd ⟨x, hx, hle, entry, hentry, hsets⟩ h

/-! ## What a leaf takes -/

/-- **What a leaf takes**: the value of the variable that sets it, else what the document has there, else
its default. -/
inductive Takes (x : Leaf Settings) (document : SettingTree) (vars : Environment.Variables) :
    x.Value → Prop
  | environment {entry : String × String} {a : x.Value} (mem : entry ∈ vars)
      (sets : Environment.Sets entry x)
      (read : x.field.read (.scalar (some Environment.origin) (Environment.scalarOf entry.2)) = .ok a) :
      Takes x document vars a
  | document {v : SettingTree} {a : x.Value} (unset : ∀ entry ∈ vars, ¬ Environment.Sets entry x)
      (found : document.at? x.path = some v) (read : x.field.read v = .ok a) : Takes x document vars a
  | default {a : x.Value} (unset : ∀ entry ∈ vars, ¬ Environment.Sets entry x)
      (missing : document.at? x.path = none) (absent : x.field.absent = some a) :
      Takes x document vars a

/-- **The tree has for each leaf what the leaf takes.** -/
theorem find_tree_eq_ok_iff (hvars : Environment.NamesLeaves vars) (hx : IsLeaf x) {a : x.Value} :
    x.find (fun path => (tree entries vars).at? path) = .ok a ↔
      Takes x (documentTree entries) vars a := by
  rw [Leaf.find_eq_ok_iff]
  constructor
  · intro h
    by_cases hset : ∃ entry ∈ vars, Environment.Sets entry x
    · obtain ⟨entry, hentry, hsets⟩ := hset
      rw [at?_tree_of_sets hvars hx hentry hsets] at h
      obtain ⟨v, hv, hread⟩ := h.resolve_right fun hnone => by cases hnone.1
      exact .environment hentry hsets (Option.some.inj hv ▸ hread)
    · have hunset : ∀ entry ∈ vars, ¬ Environment.Sets entry x := fun entry hentry hsets =>
        hset ⟨entry, hentry, hsets⟩
      rw [at?_tree_of_unset hvars hx hunset] at h
      rcases h with ⟨v, hv, hread⟩ | ⟨hnone, habsent⟩
      · exact .document hunset hv hread
      · exact .default hunset hnone habsent
  · intro h
    cases h with
    | environment mem sets read => exact .inl ⟨_, at?_tree_of_sets hvars hx mem sets, read⟩
    | document unset found read => exact .inl ⟨_, at?_tree_of_unset hvars hx unset ▸ found, read⟩
    | default unset missing absent => exact .inr ⟨at?_tree_of_unset hvars hx unset ▸ missing, absent⟩

/-- **Nothing is missing**: the tables are there and each leaf takes a value. The exchange and the market
cannot be left out. -/
structure Complete (document : SettingTree) (vars : Environment.Variables) : Prop where
  exchange : Opened document vars ["exchange"]
  market : Opened document vars ["market"]
  strategy : document.at? ["strategy"] = none ∨ Opened document vars ["strategy"]
  config : document.at? ["strategy", "config"] = none ∨ Opened document vars ["strategy", "config"]
  engine : document.at? ["engine"] = none ∨ Opened document vars ["engine"]
  leaves : ∀ x, IsLeaf x → ∃ a, Takes x document vars a

theorem exists_table_iff (hvars : Environment.NamesLeaves vars) (htable : table ∈ tablePaths) :
    (∃ v, (tree entries vars).at? table = some v ∧ IsTable v) ↔
      Opened (documentTree entries) vars table := by
  by_cases hset : SetsIn vars table
  · exact iff_of_true (at?_tree_of_setsIn entries hvars htable hset) (.inr hset)
  · rw [at?_tree_of_not_setsIn hvars htable hset]
    exact ⟨.inl, fun h => h.resolve_right hset⟩

theorem forall_table_iff (hvars : Environment.NamesLeaves vars) (htable : table ∈ tablePaths) :
    (∀ v, (tree entries vars).at? table = some v → IsTable v) ↔
      (documentTree entries).at? table = none ∨ Opened (documentTree entries) vars table := by
  by_cases hset : SetsIn vars table
  · refine iff_of_true (fun v hv => ?_) (.inr (.inr hset))
    obtain ⟨w, hw, htable⟩ := at?_tree_of_setsIn entries hvars htable hset
    rw [hv] at hw
    exact Option.some.inj hw ▸ htable
  · rw [at?_tree_of_not_setsIn hvars htable hset]
    cases hv : (documentTree entries).at? table with
    | none => simp
    | some v =>
      constructor
      · exact fun h => .inr (.inl ⟨v, hv, h v rfl⟩)
      · rintro (⟨⟨⟩⟩ | ⟨w, hw, htable⟩ | h)
        · intro u hu
          rw [hv] at hw
          rw [← Option.some.inj hu, Option.some.inj hw]
          exact htable
        · exact absurd h hset

/-- The sections of a document, if they are there, are not written as lists. -/
def NoLists (document : SettingTree) : Prop := ∀ name ∈ sectionNames, NoList document name

theorem legible_tree (hvars : Environment.NamesLeaves vars) (hlists : NoLists (documentTree entries)) :
    Legible (tree entries vars) := by
  refine ⟨tidy_tree entries vars, isTable_tree entries vars, fun name hname origin items hlist => ?_⟩
  have hpath : [name] ∈ tablePaths := (by decide : ∀ name ∈ sectionNames, [name] ∈ tablePaths) _ hname
  by_cases hset : SetsIn vars [name]
  · obtain ⟨v, hv, _, _, rfl⟩ := at?_tree_of_setsIn entries hvars hpath hset
    cases hlist.symm.trans hv
  · rw [at?_tree_of_not_setsIn hvars hpath hset] at hlist
    exact hlists name hname origin items hlist

/-- **The tree can be read where nothing is missing.** -/
theorem exists_read_tree_iff (hvars : Environment.NamesLeaves vars)
    (hlists : NoLists (documentTree entries)) :
    (∃ s, read format (tree entries vars) = .ok s) ↔ Complete (documentTree entries) vars := by
  rw [exists_read_iff (legible_tree hvars hlists)]
  constructor
  · rintro ⟨hshape, hleaves⟩
    exact {
      exchange := (exists_table_iff hvars (by decide)).mp hshape.exchange
      market := (exists_table_iff hvars (by decide)).mp hshape.market
      strategy := (forall_table_iff hvars (by decide)).mp hshape.strategy
      config := (forall_table_iff hvars (by decide)).mp hshape.config
      engine := (forall_table_iff hvars (by decide)).mp hshape.engine
      leaves := fun x hx =>
        (hleaves x hx).imp fun _ ha => (find_tree_eq_ok_iff hvars hx).mp ha }
  · intro h
    refine ⟨?_, fun x hx => (h.leaves x hx).imp fun _ ha => (find_tree_eq_ok_iff hvars hx).mpr ha⟩
    exact {
      exchange := (exists_table_iff hvars (by decide)).mpr h.exchange
      market := (exists_table_iff hvars (by decide)).mpr h.market
      strategy := (forall_table_iff hvars (by decide)).mpr h.strategy
      config := (forall_table_iff hvars (by decide)).mpr h.config
      engine := (forall_table_iff hvars (by decide)).mpr h.engine }

/-- A leaf takes one value. -/
theorem Takes.unique (hvars : Environment.NamesLeaves vars) (hx : IsLeaf x) {a b : x.Value}
    (ha : Takes x (documentTree entries) vars a) (hb : Takes x (documentTree entries) vars b) : a = b :=
  Except.ok.inj
    (((find_tree_eq_ok_iff hvars hx).mpr ha).symm.trans ((find_tree_eq_ok_iff hvars hx).mpr hb))

/-! ## One more variable -/

section Cons

variable {y : Leaf Settings} {document : SettingTree}

/-- Another variable names leaves with the others if it sets a leaf that none of them sets. -/
theorem namesLeaves_cons (hvars : Environment.NamesLeaves vars) (hy : IsLeaf y) (hplain : y.Plain)
    (hsets : Environment.Sets entry y) (hunset : ∀ entry ∈ vars, ¬ Environment.Sets entry y) :
    Environment.NamesLeaves (entry :: vars) where
  leaf := by
    intro e he name hname
    rcases List.mem_cons.mp he with rfl | he
    · exact ⟨y, hy, hplain, Option.some.inj (hname.symm.trans hsets)⟩
    · exact hvars.leaf e he name hname
  distinct := by
    have hname : Environment.settingName? entry.1 = some y.spelled := hsets
    rw [List.filterMap_cons, hname]
    refine List.nodup_cons.mpr ⟨fun hmem => ?_, hvars.distinct⟩
    obtain ⟨e, he, hname⟩ := List.mem_filterMap.mp hmem
    exact hunset e he hname

/-- The variable for one leaf does not set another. -/
theorem not_sets_of_ne (hx : IsLeaf x) (hy : IsLeaf y) (hsets : Environment.Sets entry y)
    (hne : x.path ≠ y.path) : ¬ Environment.Sets entry x := fun hsets' =>
  hne (path_eq_of_spelled hx hy (Option.some.inj (hsets'.symm.trans hsets)))

/-- **It changes nothing about the others.** -/
theorem takes_cons (hx : IsLeaf x) (hy : IsLeaf y) (hsets : Environment.Sets entry y)
    (hne : x.path ≠ y.path) {a : x.Value} (h : Takes x document vars a) :
    Takes x document (entry :: vars) a := by
  have hunset' (hunset : ∀ e ∈ vars, ¬ Environment.Sets e x) :
      ∀ e ∈ entry :: vars, ¬ Environment.Sets e x :=
    List.forall_mem_cons.mpr ⟨not_sets_of_ne hx hy hsets hne, hunset⟩
  cases h with
  | environment mem sets read => exact .environment (List.mem_cons_of_mem _ mem) sets read
  | document unset found read => exact .document (hunset' unset) found read
  | default unset missing absent => exact .default (hunset' unset) missing absent

theorem opened_cons {table : List String} (h : Opened document vars table) :
    Opened document (entry :: vars) table := by
  rcases h with h | ⟨x, hx, hle, e, he, hsets⟩
  · exact .inl h
  · exact .inr ⟨x, hx, hle, e, List.mem_cons_of_mem _ he, hsets⟩

/-- **And removes none**: if its text can be read, nothing is missing with it where nothing was missing
without. -/
theorem complete_cons (hy : IsLeaf y) (hsets : Environment.Sets entry y) {a : y.Value}
    (hread : y.field.read (.scalar (some Environment.origin) (Environment.scalarOf entry.2)) = .ok a)
    (h : Complete document vars) : Complete document (entry :: vars) where
  exchange := opened_cons h.exchange
  market := opened_cons h.market
  strategy := h.strategy.imp_right opened_cons
  config := h.config.imp_right opened_cons
  engine := h.engine.imp_right opened_cons
  leaves := by
    intro x hx
    by_cases hne : x.path = y.path
    · obtain rfl := eq_of_path hx hy hne
      exact ⟨a, .environment List.mem_cons_self hsets hread⟩
    · obtain ⟨b, hb⟩ := h.leaves x hx
      exact ⟨b, takes_cons hx hy hsets hne hb⟩

end Cons

end Settings

end ScalpBot
