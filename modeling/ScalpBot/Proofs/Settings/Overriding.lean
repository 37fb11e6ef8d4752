import ScalpBot.Proofs.Settings.Loading
import ScalpBot.Proofs.Settings.VariableText

/-!
# Texts from the environment

The key, the secret and the market's id are texts that the environment may give. A variable for one of them
changes nothing else, and the setting becomes what arrives of the text of the variable
(`Settings.overridden`). This is the text itself for an `Environment.Verbatim` text, and another text
for any other: a secret `007` is loaded as `7` (`Settings.secret_rewritten_sample`).

A section that is written as a list does not stay under a variable for a leaf in it. The settings are
refused then, because what the list had beside the leaf is missing.
-/

namespace ScalpBot

open SettingTree

/-! ## One value in the place of another -/

/-- `new` has `v` at a path, and what `old` has at each path apart from it that leads to a section or to a
leaf in one. -/
structure Replaces (path : List String) (v old new : SettingTree) : Prop where
  self : new.at? path = some v
  apart : ∀ other, other.length ≤ 2 → Apart path other → new.at? other = old.at? other

namespace SettingTree

variable {v w : SettingTree} {name key : String}

/-- What has something under a name is a table. -/
theorem isTable_of_at? (h : w.at? [key] = some v) : IsTable w := by
  cases w with
  | table origin ms => exact ⟨origin, ms, rfl⟩
  | scalar origin c => cases h
  | list origin items => cases h

theorem exists_table_of_at? {t : SettingTree} (h : t.at? [name, key] = some v) :
    ∃ w, t.at? [name] = some w ∧ IsTable w := by
  have hbind : (t.at? [name]).bind (at? [key]) = some v := at?_append [name] [key] t ▸ h
  obtain ⟨w, hw, hv⟩ := Option.bind_eq_some_iff.mp hbind
  exact ⟨w, hw, isTable_of_at? hv⟩

/-- Two paths of one length are apart if they differ. -/
theorem apart_of_length_eq {path other : List String} (hlength : path.length = other.length)
    (hne : path ≠ other) : Apart path other :=
  ⟨fun hle => hne (hle.eq_of_length hlength), fun hle => hne (hle.eq_of_length hlength.symm).symm⟩

end SettingTree

section Sections

variable {σ : Type} {kind name : String} {fs : Fields SettingTree SettingError σ}
  {leaves : List (Leaf σ)} {y : Leaf σ} {v old new : SettingTree} {s s' : σ}

/-- What a field comes to hangs on its own member. -/
theorem Field.find_congr {α : Type} {f : Field SettingTree SettingError α}
    {member? member?' : String → Option SettingTree} (h : member?' f.name = member? f.name) :
    f.find member?' = f.find member? := by
  rw [Field.find, Field.find, h]

theorem Leaf.find_congr {x : Leaf σ} (given given' : List String → Option SettingTree)
    (h : given' x.path = given x.path) : x.find given' = x.find given :=
  Field.find_congr h

/-- The leaves stand side by side, each under a name of its own, and there is nothing else. -/
structure Flat (leaves : List (Leaf σ)) : Prop where
  length : ∀ x ∈ leaves, x.path.length = 1
  nodup : (leaves.map Leaf.path).Nodup
  ext : ∀ s s' : σ, (∀ x ∈ leaves, x.get s = x.get s') → s = s'

/-- **A record is read as the one that has the values of its leaves.** -/
theorem Fields.HasLeaves.ofMembers_eq_ok_iff (h : fs.HasLeaves leaves) (hflat : Flat leaves)
    (given : List String → Option SettingTree) :
    fs.ofMembers (fun key => given [key]) = .ok s ↔ ∀ x ∈ leaves, x.find given = .ok (x.get s) := by
  constructor
  · exact h.find given s
  · intro hs
    obtain ⟨s', hs'⟩ := (h.exists_iff given).mpr fun x hx => ⟨_, hs x hx⟩
    -- what is read agrees with `s` in each leaf, and there is nothing but the leaves
    have heq : s' = s := hflat.ext s' s fun x hx =>
      Except.ok.inj ((h.find given s' hs' x hx).symm.trans (hs x hx))
    exact heq ▸ hs'

/-- A leaf of a section has what it had, if it is not the one that was replaced. -/
theorem Replaces.at?_of_ne (h : Replaces (name :: y.path) v old new) (hflat : Flat leaves)
    (hy : y ∈ leaves) {x : Leaf σ} (hx : x ∈ leaves) (hne : x.path ≠ y.path) :
    new.at? (name :: x.path) = old.at? (name :: x.path) := by
  have hlength := hflat.length x hx
  have hlength' := hflat.length y hy
  refine h.apart _ (by rw [List.length_cons, hlength]) (apart_of_length_eq ?_ fun heq => ?_)
  · rw [List.length_cons, List.length_cons, hlength, hlength']
  · exact hne (List.cons.inj heq).2.symm

theorem Replaces.exists_table (h : Replaces (name :: y.path) v old new) (hflat : Flat leaves)
    (hy : y ∈ leaves) : ∃ w, new.at? [name] = some w ∧ IsTable w := by
  obtain ⟨key, hkey⟩ := List.length_eq_one_iff.mp (hflat.length y hy)
  have hself := h.self
  rw [hkey] at hself
  exact exists_table_of_at? hself

theorem noList_of_table {t : SettingTree} (h : ∃ w, t.at? [name] = some w ∧ IsTable w) :
    NoList t name := by
  obtain ⟨_, hw, origin, ms, rfl⟩ := h
  intro _ _ hlist
  cases hw.symm.trans hlist

/-- **A section with another value for one leaf** is read as before but for this leaf. -/
theorem Replaces.find_section (h : Replaces (name :: y.path) v old new) (hfs : fs.HasLeaves leaves)
    (hflat : Flat leaves) (hy : y ∈ leaves) (hold : Tidy old) (hnew : Tidy new)
    (hlist : NoList old name) (hself : y.field.read v = .ok (y.get s'))
    (hothers : ∀ x ∈ leaves, x.path ≠ y.path → x.get s' = x.get s)
    (hs : (Field.required name (readRecord kind fs)).find (fun key => old.at? [key]) = .ok s) :
    (Field.required name (readRecord kind fs)).find (fun key => new.at? [key]) = .ok s' := by
  have htable := h.exists_table hflat hy
  obtain ⟨-, hmembers⟩ := (find_required_section_iff hfs.consistent hold hlist).mp hs
  have hleaves := (hfs.ofMembers_eq_ok_iff hflat fun path => old.at? (name :: path)).mp hmembers
  refine (find_required_section_iff hfs.consistent hnew (noList_of_table htable)).mpr ⟨htable, ?_⟩
  refine (hfs.ofMembers_eq_ok_iff hflat fun path => new.at? (name :: path)).mpr fun x hx => ?_
  by_cases hpath : x.path = y.path
  · obtain rfl := List.inj_on_of_nodup_map hflat.nodup hx hy hpath
    exact Leaf.find_eq_ok_iff.mpr (.inl ⟨v, h.self, hself⟩)
  · have hsame := Leaf.find_congr (fun path => old.at? (name :: path))
      (fun path => new.at? (name :: path)) (h.at?_of_ne hflat hy hx hpath)
    rw [hsame, hothers x hx hpath]
    exact hleaves x hx

/-- **Of a section that was a list, nothing else is left**: the other leaves have their defaults. -/
theorem Replaces.absent_of_list (h : Replaces (name :: y.path) v old new) (hfs : fs.HasLeaves leaves)
    (hflat : Flat leaves) (hy : y ∈ leaves) (hnew : Tidy new) (hlist : ¬ NoList old name)
    (hs' : (Field.required name (readRecord kind fs)).find (fun key => new.at? [key]) = .ok s')
    {x : Leaf σ} (hx : x ∈ leaves) (hne : x.path ≠ y.path) : x.field.absent = some (x.get s') := by
  have htable := h.exists_table hflat hy
  obtain ⟨-, hmembers⟩ :=
    (find_required_section_iff hfs.consistent hnew (noList_of_table htable)).mp hs'
  -- the variable left nothing of the list, and put nothing in the place of the leaf
  have hnone : new.at? (name :: x.path) = none := by
    have hexists : ∃ origin items, old.at? [name] = some (.list origin items) := by
      by_contra hnot
      exact hlist fun origin items heq => hnot ⟨origin, items, heq⟩
    obtain ⟨origin, items, hitems⟩ := hexists
    obtain ⟨key, hkey⟩ := List.length_eq_one_iff.mp (hflat.length x hx)
    rw [h.at?_of_ne hflat hy hx hne, hkey, ← List.singleton_append, at?_append, hitems]
    rfl
  have hfind := hfs.find (fun path => new.at? (name :: path)) s' hmembers x hx
  rcases Leaf.find_eq_ok_iff.mp hfind with ⟨w, hw, -⟩ | ⟨-, habsent⟩
  · cases hw.symm.trans hnone
  · exact habsent

/-- Sections that are not the replaced one are as before. -/
theorem Replaces.at?_singleton (h : Replaces (name :: y.path) v old new) (hflat : Flat leaves)
    (hy : y ∈ leaves) {key : String} (hne : key ≠ name) : new.at? [key] = old.at? [key] := by
  refine h.apart [key] (by simp) ⟨fun hle => ?_, fun hle => ?_⟩
  · have hlength := hle.length_le
    rw [List.length_cons, hflat.length y hy] at hlength
    exact absurd hlength (by simp)
  · exact hne (List.cons_prefix_cons.mp hle).1

end Sections

theorem ExchangeSettings.flat_leaves : Flat ExchangeSettings.leaves where
  length := by decide +kernel
  nodup := by decide +kernel
  ext s s' h := by
    simp only [ExchangeSettings.leaves, List.forall_mem_cons] at h
    obtain ⟨hname, hkey, hsecret, hurl, htimeout, hcodes, hmessages, hdryRun, -⟩ := h
    cases s
    cases s'
    exact (ExchangeSettings.mk.injEq ..).mpr
      ⟨hname, hkey, hsecret, hurl, htimeout, hcodes, hmessages, hdryRun⟩

theorem Market.flat_leaves : Flat Market.leaves where
  length := by decide +kernel
  nodup := by decide +kernel
  ext s s' h := by
    simp only [Market.leaves, List.forall_mem_cons] at h
    obtain ⟨hid, hname, hbase, hcounter, -⟩ := h
    cases s
    cases s'
    exact (Market.mk.injEq ..).mpr ⟨hid, hname, hbase, hcounter⟩

/-! ## The sections that must be given -/

namespace Settings

/-- A section without which there are no settings: a record of leaves side by side, and its place in the
settings. -/
structure RequiredSection (σ : Type) where
  name : String
  kind : String
  fields : Fields SettingTree SettingError σ
  leaves : List (Leaf σ)
  get : Settings → σ
  put : σ → Settings → Settings
  hasLeaves : fields.HasLeaves leaves
  flat : Flat leaves
  /-- Where settings are read, so is the section. -/
  find_get : ∀ {member? : String → Option SettingTree} {s : Settings},
    (Settings.fields format).ofMembers member? = .ok s →
      (Field.required name (readRecord kind fields)).find member? = .ok (get s)
  /-- With another section there and all else as before, the settings differ in the section only. -/
  ofMembers_put : ∀ {member? member?' : String → Option SettingTree} {s : Settings} {part : σ},
    (∀ key, key ≠ name → member?' key = member? key) →
      (Settings.fields format).ofMembers member? = .ok s →
      (Field.required name (readRecord kind fields)).find member?' = .ok part →
      (Settings.fields format).ofMembers member?' = .ok (put part s)

namespace RequiredSection

/-- The exchange's settings. -/
def exchange : RequiredSection ExchangeSettings where
  name := "exchange"
  kind := "ExchangeConfig"
  fields := ExchangeSettings.fields format
  leaves := ExchangeSettings.leaves
  get := Settings.exchange
  put part s := { s with exchange := part }
  hasLeaves := ExchangeSettings.hasLeaves
  flat := ExchangeSettings.flat_leaves
  find_get h := (ofMembers_eq_ok_iff.mp h).1
  ofMembers_put hsame h hpart := by
    obtain ⟨-, hmarket, hstrategy, hengine⟩ := ofMembers_eq_ok_iff.mp h
    exact ofMembers_eq_ok_iff.mpr ⟨hpart, (Field.find_congr (hsame _ (by decide))).trans hmarket,
      (Field.find_congr (hsame _ (by decide))).trans hstrategy,
      (Field.find_congr (hsame _ (by decide))).trans hengine⟩

/-- The market. -/
def market : RequiredSection Market where
  name := "market"
  kind := "Market"
  fields := Market.fields format
  leaves := Market.leaves
  get := Settings.market
  put part s := { s with market := part }
  hasLeaves := Market.hasLeaves
  flat := Market.flat_leaves
  find_get h := (ofMembers_eq_ok_iff.mp h).2.1
  ofMembers_put hsame h hpart := by
    obtain ⟨hexchange, -, hstrategy, hengine⟩ := ofMembers_eq_ok_iff.mp h
    exact ofMembers_eq_ok_iff.mpr ⟨(Field.find_congr (hsame _ (by decide))).trans hexchange, hpart,
      (Field.find_congr (hsame _ (by decide))).trans hstrategy,
      (Field.find_congr (hsame _ (by decide))).trans hengine⟩

variable {σ : Type} (sec : RequiredSection σ) {y : Leaf σ} {part : σ} {v : SettingTree} {s : Settings}
  {entries : List (String × SettingTree)} {vars vars' : Environment.Variables}

/-- **The settings with another value for one leaf of a section** are read as before but for this leaf. -/
theorem read_put
    (h : Replaces (sec.name :: y.path) v (Settings.tree entries vars) (Settings.tree entries vars'))
    (hy : y ∈ sec.leaves) (hlist : NoList (Settings.tree entries vars) sec.name)
    (hself : y.field.read v = .ok (y.get part))
    (hothers : ∀ x ∈ sec.leaves, x.path ≠ y.path → x.get part = x.get (sec.get s))
    (hs : Settings.read format (Settings.tree entries vars) = .ok s) :
    Settings.read format (Settings.tree entries vars') = .ok (sec.put part s) := by
  have hold := tidy_tree entries vars
  have hnew := tidy_tree entries vars'
  rw [read_table_eq_ok_iff hold (isTable_tree _ _)] at hs
  rw [read_table_eq_ok_iff hnew (isTable_tree _ _)]
  refine sec.ofMembers_put (fun key hne => h.at?_singleton sec.flat hy hne) hs ?_
  exact h.find_section sec.hasLeaves sec.flat hy hold hnew hlist hself hothers (sec.find_get hs)

/-- **Of a section that was a list, the settings have nothing else**: its other leaves have their
defaults. -/
theorem absent_of_list
    (h : Replaces (sec.name :: y.path) v (Settings.tree entries vars) (Settings.tree entries vars'))
    (hy : y ∈ sec.leaves) (hlist : ¬ NoList (Settings.tree entries vars) sec.name)
    (hs : Settings.read format (Settings.tree entries vars') = .ok s) {x : Leaf σ} (hx : x ∈ sec.leaves)
    (hne : x.path ≠ y.path) : x.field.absent = some (x.get (sec.get s)) := by
  have hnew := tidy_tree entries vars'
  rw [read_table_eq_ok_iff hnew (isTable_tree _ _)] at hs
  exact h.absent_of_list sec.hasLeaves sec.flat hy hnew hlist (sec.find_get hs) hx hne

end RequiredSection

end Settings

/-! ## One more variable -/

section Cons

variable {vars : Environment.Variables} {entry : String × String} {y : Leaf Settings}
  {path : List String}

/-- A variable for a leaf adds a setting of its own. -/
theorem Environment.settings_cons (hvars : NamesLeaves vars) (hy : Settings.IsLeaf y) (hplain : y.Plain)
    (hsets : Sets entry y) (hunset : ∀ e ∈ vars, ¬ Sets e y) :
    y.spelled ∉ (settings vars).map (·.1) ∧ settings (entry :: vars) =
      Json.insertMember y.spelled (.scalar (some origin) (scalarOf entry.2)) (settings vars) := by
  have hvars' := Settings.namesLeaves_cons hvars hy hplain hsets hunset
  have hkey : y.spelled ∉ (settings vars).map (·.1) := by
    intro hmem
    obtain ⟨m, hm, hname⟩ := List.mem_map.mp hmem
    obtain ⟨x, e, -, he, hsets', hx, -⟩ := exists_spells hvars hm
    exact hunset e he (hsets'.trans (congrArg some (hx.symm.trans hname)))
  have hordered (vars : Variables) : Json.Ordered (settings vars) := by
    rw [settings_eq_foldl]
    exact Json.ordered_foldl_insertMember .nil _
  -- both sides are in the order of their names, so they are told by their members
  refine ⟨hkey, (hordered _).eq_of_mem_iff (Json.ordered_insertMember (hordered vars) _ _) fun m => ?_⟩
  rw [mem_settings_iff hvars']
  constructor
  · rintro ⟨e, he, hsetting⟩
    rcases List.mem_cons.mp he with rfl | he
    · obtain rfl := Option.some.inj (hsets.settingOf.symm.trans hsetting)
      exact Json.mem_insertMember_self
    · have hm : m ∈ settings vars := (mem_settings_iff hvars).mpr ⟨e, he, hsetting⟩
      refine Json.mem_insertMember_of_ne hm fun heq => hkey ?_
      exact heq ▸ List.mem_map_of_mem hm
  · intro hm
    rcases Json.mem_of_mem_insertMember hm with rfl | hm
    · exact ⟨entry, List.mem_cons_self, hsets.settingOf⟩
    · obtain ⟨e, he, hsetting⟩ := (mem_settings_iff hvars).mp hm
      exact ⟨e, List.mem_cons_of_mem _ he, hsetting⟩

/-- No leaf stands above a short path. -/
theorem Environment.beside_settings (hvars : NamesLeaves vars) (hpath : path.length ≤ 2) :
    Beside (settings vars) path := by
  intro m hm
  obtain ⟨x, -, hx, -, -, -, hspells⟩ := exists_spells hvars hm
  refine ⟨x.path, hspells, ?_⟩
  have hlength : 2 ≤ x.path.length := by
    rcases Settings.fixedPath_or_item hx with ⟨-, -, htwo, -⟩ | ⟨key, hkey⟩
    · exact htwo.ge
    · simp [hkey]
  by_cases hle : path <+: x.path
  · obtain ⟨rest, hrest⟩ := hle
    exact .inr ⟨rest, hrest.symm⟩
  · -- the leaf is not above the path either: it is no shorter
    refine .inl ⟨fun hle' => hle ?_, hle⟩
    have heq := hle'.eq_of_length (le_antisymm hle'.length_le (hpath.trans hlength))
    exact ⟨[], by rw [List.append_nil, heq]⟩

/-- **A variable replaces the value of its leaf.** -/
theorem Settings.replaces_tree_cons (entries : List (String × SettingTree))
    (hvars : Environment.NamesLeaves vars) (hy : IsLeaf y) (hplain : y.Plain)
    (hsets : Environment.Sets entry y) (hunset : ∀ e ∈ vars, ¬ Environment.Sets e y) :
    Replaces y.path (.scalar (some Environment.origin) (Environment.scalarOf entry.2))
      (tree entries vars) (tree entries (entry :: vars)) where
  self := at?_tree_of_sets (namesLeaves_cons hvars hy hplain hsets hunset) hy List.mem_cons_self hsets
  apart other hother hapart := by
    obtain ⟨hkey, hsettings⟩ := Environment.settings_cons hvars hy hplain hsets hunset
    rw [tree, hsettings, tree]
    exact at?_overlay_insertMember (m := (y.spelled, _)) (Environment.beside_settings hvars hother)
      (hsets.spells hy hplain) hapart hkey

end Cons

/-! ## The texts -/

/-- A setting that is a text which the environment may give. -/
inductive TextSetting where
  | apiKey
  | apiSecret
  | marketId
deriving DecidableEq, Repr

namespace TextSetting

variable {v old new : SettingTree} {s : Settings} {text : String}

/-- The name of the variable that sets it. -/
def variableName : TextSetting → String
  | apiKey => "APP__EXCHANGE__API_KEY"
  | apiSecret => "APP__EXCHANGE__API_SECRET"
  | marketId => "APP__MARKET__ID"

/-- The section that it stands in. -/
def table : TextSetting → String
  | apiKey | apiSecret => "exchange"
  | marketId => "market"

def keyLeaf : Leaf ExchangeSettings :=
  ⟨[], .optional format "api_key" readString, fun s => s.apiKey⟩

def secretLeaf : Leaf ExchangeSettings :=
  ⟨[], .optional format "api_secret" readString, fun s => s.apiSecret⟩

def idLeaf : Leaf Market := ⟨[], .required "id" readString, fun s => s.id⟩

/-- Its leaf. -/
def leaf : TextSetting → Leaf Settings
  | apiKey => keyLeaf.under "exchange" Settings.exchange
  | apiSecret => secretLeaf.under "exchange" Settings.exchange
  | marketId => idLeaf.under "market" Settings.market

/-- The text in settings, if it is given. -/
def value (setting : TextSetting) (s : Settings) : Option String :=
  match setting with
  | apiKey => s.exchange.apiKey
  | apiSecret => s.exchange.apiSecret
  | marketId => some s.market.id

/-- The settings with another text. -/
def put (setting : TextSetting) (text : String) (s : Settings) : Settings :=
  match setting with
  | apiKey => { s with exchange := { s.exchange with apiKey := some text } }
  | apiSecret => { s with exchange := { s.exchange with apiSecret := some text } }
  | marketId => { s with market := { s.market with id := text } }

/-- The texts that it may have: a key and a secret that are not empty, and an id that is not blank. -/
def Admits (setting : TextSetting) (text : String) : Prop :=
  match setting with
  | apiKey | apiSecret => text ≠ ""
  | marketId => text.toList.all isBlank = false

theorem keyLeaf_mem : keyLeaf ∈ ExchangeSettings.leaves :=
  List.mem_cons_of_mem _ List.mem_cons_self

theorem secretLeaf_mem : secretLeaf ∈ ExchangeSettings.leaves :=
  List.mem_cons_of_mem _ (List.mem_cons_of_mem _ List.mem_cons_self)

theorem idLeaf_mem : idLeaf ∈ Market.leaves := List.mem_cons_self

theorem isLeaf_leaf (setting : TextSetting) : Settings.IsLeaf setting.leaf := by
  cases setting with
  | apiKey => exact .exchange keyLeaf_mem
  | apiSecret => exact .exchange secretLeaf_mem
  | marketId => exact .market idLeaf_mem

theorem plain_leaf (setting : TextSetting) : setting.leaf.Plain := by
  have hplain : ∀ name ∈ setting.leaf.path, SettingPath.PlainName name := by
    cases setting <;> decide +kernel
  exact hplain

theorem sets_leaf (setting : TextSetting) (text : String) :
    Environment.Sets (setting.variableName, text) setting.leaf := by
  show Environment.settingName? setting.variableName = some setting.leaf.spelled
  cases setting <;> decide +kernel

@[simp] theorem value_put (setting : TextSetting) (text : String) (s : Settings) :
    setting.value (setting.put text s) = some text := by
  cases setting <;> rfl

/-! ### Reading it -/

theorem readOption_of_readString (h : readString v = .ok text) :
    readOption readString v = .ok (some text) := by
  have hsome : readOption readString v = (readString v).map some := by
    cases v with
    | scalar origin c =>
      cases c with
      | nothing => cases h
      | _ => rfl
    | _ => rfl
  rw [hsome, h]
  rfl

variable {entries : List (String × SettingTree)} {vars vars' : Environment.Variables}

/-- **With another text in the tree, the settings are read with that text** and are the same otherwise. -/
theorem read_replaced (setting : TextSetting)
    (h : Replaces setting.leaf.path v (Settings.tree entries vars) (Settings.tree entries vars'))
    (htext : readString v = .ok text) (hlist : NoList (Settings.tree entries vars) setting.table)
    (hs : Settings.read format (Settings.tree entries vars) = .ok s) :
    Settings.read format (Settings.tree entries vars') = .ok (setting.put text s) := by
  cases setting with
  | apiKey =>
    refine Settings.RequiredSection.exchange.read_put (y := keyLeaf) h keyLeaf_mem hlist
      (readOption_of_readString htext) ?_ hs
    simp only [Settings.RequiredSection.exchange, ExchangeSettings.leaves, List.forall_mem_cons]
    exact ⟨fun _ => trivial, fun h => absurd rfl h, fun _ => trivial, fun _ => trivial, fun _ => trivial,
      fun _ => trivial, fun _ => trivial, fun _ => trivial, by simp⟩
  | apiSecret =>
    refine Settings.RequiredSection.exchange.read_put (y := secretLeaf) h secretLeaf_mem hlist
      (readOption_of_readString htext) ?_ hs
    simp only [Settings.RequiredSection.exchange, ExchangeSettings.leaves, List.forall_mem_cons]
    exact ⟨fun _ => trivial, fun _ => trivial, fun h => absurd rfl h, fun _ => trivial, fun _ => trivial,
      fun _ => trivial, fun _ => trivial, fun _ => trivial, by simp⟩
  | marketId =>
    refine Settings.RequiredSection.market.read_put (y := idLeaf) h idLeaf_mem hlist htext ?_ hs
    simp only [Settings.RequiredSection.market, Market.leaves, List.forall_mem_cons]
    exact ⟨fun h => absurd rfl h, fun _ => trivial, fun _ => trivial, fun _ => trivial, by simp⟩

/-- **Settings with another text pass as before**, if it is one that they may have. -/
theorem validate_put {setting : TextSetting} (h : s.validate = .ok s) (hadmits : setting.Admits text) :
    (setting.put text s).validate = .ok (setting.put text s) := by
  obtain ⟨-, hid, hinterval, hsome⟩ := Settings.validate_eq_ok_iff.mp h
  obtain ⟨credentials, hcredentials⟩ := Option.isSome_iff_exists.mp hsome
  obtain ⟨hkey, hsecret, hkey', hsecret'⟩ :=
    Bitstamp.Credentials.ofSettings_eq_some_iff.mp hcredentials
  rw [Settings.validate_eq_ok_iff]
  cases setting with
  | apiKey =>
    have hput : Bitstamp.Credentials.ofSettings (some text) s.exchange.apiSecret =
        some ⟨text, credentials.apiSecret⟩ :=
      Bitstamp.Credentials.ofSettings_eq_some_iff.mpr ⟨rfl, hsecret, hadmits, hsecret'⟩
    exact ⟨rfl, hid, hinterval, Option.isSome_of_eq_some hput⟩
  | apiSecret =>
    have hput : Bitstamp.Credentials.ofSettings s.exchange.apiKey (some text) =
        some ⟨credentials.apiKey, text⟩ :=
      Bitstamp.Credentials.ofSettings_eq_some_iff.mpr ⟨hkey, rfl, hkey', hadmits⟩
    exact ⟨rfl, hid, hinterval, Option.isSome_of_eq_some hput⟩
  | marketId => exact ⟨rfl, hadmits, hinterval, hsome⟩

/-- **Settings whose section was a list do not pass**, or cannot be read: the key is needed with the secret,
and the name of the market with its id. -/
theorem validate_ne_of_list (setting : TextSetting)
    (h : Replaces setting.leaf.path v (Settings.tree entries vars) (Settings.tree entries vars'))
    (hlist : ¬ NoList (Settings.tree entries vars) setting.table)
    (hs : Settings.read format (Settings.tree entries vars') = .ok s) : s.validate ≠ .ok s := by
  intro hvalid
  obtain ⟨-, -, -, hsome⟩ := Settings.validate_eq_ok_iff.mp hvalid
  obtain ⟨credentials, hcredentials⟩ := Option.isSome_iff_exists.mp hsome
  obtain ⟨hkey, hsecret, -, -⟩ := Bitstamp.Credentials.ofSettings_eq_some_iff.mp hcredentials
  -- in each case another leaf of the section would have its default, which the settings cannot have
  cases setting with
  | apiKey =>
    have habsent : some none = some s.exchange.apiSecret :=
      Settings.RequiredSection.exchange.absent_of_list (y := keyLeaf) h keyLeaf_mem hlist hs secretLeaf_mem
        (by decide)
    cases (Option.some.inj habsent).trans hsecret
  | apiSecret =>
    have habsent : some none = some s.exchange.apiKey :=
      Settings.RequiredSection.exchange.absent_of_list (y := secretLeaf) h secretLeaf_mem hlist hs keyLeaf_mem
        (by decide)
    cases (Option.some.inj habsent).trans hkey
  | marketId =>
    have habsent : none = some s.market.name :=
      Settings.RequiredSection.market.absent_of_list (y := idLeaf)
        (x := ⟨[], .required "name" readString, fun s => s.name⟩) h idLeaf_mem hlist hs
        (List.mem_cons_of_mem _ List.mem_cons_self) (by decide)
    cases habsent

/-- What arrives of a text that a setting may have is one that it may have. -/
theorem admits_textOf {setting : TextSetting} (h : setting.Admits text) :
    setting.Admits (Environment.textOf text) := by
  rcases Environment.textOf_eq_or_not_blank text with heq | ⟨c, hc, hblank⟩
  · exact heq.symm ▸ h
  · have hne : Environment.textOf text ≠ "" := by
      intro hempty
      rw [hempty] at hc
      cases hc
    cases setting with
    | apiKey => exact hne
    | apiSecret => exact hne
    | marketId => exact List.all_eq_false.mpr ⟨c, hc, by simp [hblank]⟩

end TextSetting

/-! ## Loading with another text -/

namespace Settings

variable {document? : Option SettingDocument} {entries : List (String × SettingTree)}
  {vars : Environment.Variables} {setting : TextSetting} {v w : String} {s : Settings}

/-- Settings are loaded where they can be read and pass. -/
theorem load_eq_ok_iff (h : documentEntries document? = .ok entries) (vars : Environment.Variables) :
    load document? vars = .ok s ↔ read format (tree entries vars) = .ok s ∧ s.validate = .ok s := by
  rw [load_of_documentEntries h, bind_eq_ok_iff]
  constructor
  · rintro ⟨s', hs', hvalid⟩
    have hvalid := mapError_eq_ok_iff.mp hvalid
    obtain ⟨rfl, -⟩ := validate_eq_ok_iff.mp hvalid
    exact ⟨mapError_eq_ok_iff.mp hs', hvalid⟩
  · rintro ⟨hs, hvalid⟩
    exact ⟨s, mapError_eq_ok_iff.mpr hs, mapError_eq_ok_iff.mpr hvalid⟩

/-- **A text from the environment**: what is loaded from a document under an environment and one more
variable, with the text `v`. -/
structure Overridden (setting : TextSetting) (document? : Option SettingDocument)
    (entries : List (String × SettingTree)) (vars : Environment.Variables) (v : String) : Prop where
  /-- The setting is the text of the variable if and only if the text is verbatim and the section is not
  written as a list. -/
  verbatim : ∀ s, load document? vars = .ok s →
    ((∃ s', load document? ((setting.variableName, v) :: vars) = .ok s' ∧ setting.value s' = some v) ↔
      Environment.Verbatim v ∧ NoList (tree entries vars) setting.table)
  /-- It is what arrives of the text, and all else is as without the variable. -/
  loaded : ∀ s, load document? vars = .ok s → NoList (tree entries vars) setting.table →
    load document? ((setting.variableName, v) :: vars) = .ok (setting.put (Environment.textOf v) s)
  /-- Over a list, nothing is loaded. -/
  refused : ∀ s, load document? vars = .ok s → ¬ NoList (tree entries vars) setting.table →
    ∃ cause, load document? ((setting.variableName, v) :: vars) = .error cause
  /-- A document that leaves the text to the environment is loaded with this one as with any other. -/
  supplied : ∀ w s, load document? ((setting.variableName, w) :: vars) = .ok s →
    load document? ((setting.variableName, v) :: vars) = .ok (setting.put (Environment.textOf v) s)

theorem load_replaced (hentries : documentEntries document? = .ok entries) {vars' : Environment.Variables}
    (h : Replaces setting.leaf.path (.scalar (some Environment.origin) (Environment.scalarOf v))
      (tree entries vars) (tree entries vars'))
    (hv : setting.Admits v) (hlist : NoList (tree entries vars) setting.table)
    (hs : load document? vars = .ok s) :
    load document? vars' = .ok (setting.put (Environment.textOf v) s) := by
  obtain ⟨hread, hvalid⟩ := (load_eq_ok_iff hentries vars).mp hs
  have hread' := setting.read_replaced h (Environment.readString_scalarOf _ v) hlist hread
  have hvalid' := TextSetting.validate_put hvalid (TextSetting.admits_textOf hv)
  exact (load_eq_ok_iff hentries vars').mpr ⟨hread', hvalid'⟩

theorem load_ne_of_list (hentries : documentEntries document? = .ok entries)
    {vars' : Environment.Variables} {value : SettingTree}
    (h : Replaces setting.leaf.path value (tree entries vars) (tree entries vars'))
    (hlist : ¬ NoList (tree entries vars) setting.table) :
    ∃ cause, load document? vars' = .error cause := by
  cases hload : load document? vars' with
  | error cause => exact ⟨cause, rfl⟩
  | ok s =>
    obtain ⟨hread, hvalid⟩ := (load_eq_ok_iff hentries vars').mp hload
    exact absurd hvalid (setting.validate_ne_of_list h hlist hread)

/-- **A text from the environment arrives as it is if it is verbatim.** -/
theorem overridden (hentries : documentEntries document? = .ok entries)
    (hvars : Environment.NamesLeaves vars)
    (hunset : ∀ e ∈ vars, ¬ Environment.Sets e setting.leaf) (hv : setting.Admits v) :
    Overridden setting document? entries vars v := by
  have hreplaces (w : String) := replaces_tree_cons entries hvars setting.isLeaf_leaf setting.plain_leaf
    (setting.sets_leaf w) hunset
  have hloaded (s : Settings) (hs : load document? vars = .ok s)
      (hlist : NoList (tree entries vars) setting.table) :
      load document? ((setting.variableName, v) :: vars) =
        .ok (setting.put (Environment.textOf v) s) := load_replaced hentries (hreplaces v) hv hlist hs
  have hrefused (hlist : ¬ NoList (tree entries vars) setting.table) :
      ∃ cause, load document? ((setting.variableName, v) :: vars) = .error cause :=
    load_ne_of_list hentries (hreplaces v) hlist
  refine ⟨fun s hs => ⟨?_, ?_⟩, hloaded, fun _ _ hlist => hrefused hlist, fun w s hs => ?_⟩
  · rintro ⟨s', hs', hvalue⟩
    have hlist : NoList (tree entries vars) setting.table := by
      by_contra hlist
      obtain ⟨cause, hcause⟩ := hrefused hlist
      cases hcause.symm.trans hs'
    obtain rfl := Except.ok.inj ((hloaded s hs hlist).symm.trans hs')
    rw [TextSetting.value_put] at hvalue
    exact ⟨Environment.textOf_eq_iff.mp (Option.some.inj hvalue), hlist⟩
  · rintro ⟨hverbatim, hlist⟩
    refine ⟨_, hloaded s hs hlist, ?_⟩
    rw [TextSetting.value_put, Environment.textOf_eq_iff.mpr hverbatim]
  · -- both trees are the one without the variable, but for the text
    have hboth : Replaces setting.leaf.path _ (tree entries ((setting.variableName, w) :: vars))
        (tree entries ((setting.variableName, v) :: vars)) :=
      ⟨(hreplaces v).self, fun other hother hapart =>
        ((hreplaces v).apart other hother hapart).trans ((hreplaces w).apart other hother hapart).symm⟩
    refine load_replaced hentries hboth hv (noList_of_table ?_) hs
    have hself := (hreplaces w).self
    cases setting <;> exact exists_table_of_at? hself

/-- A secret that is taken for neither a truth value nor a number. -/
theorem overridden_sample :
    ∃ entries s s', documentEntries (some shortSettings) = .ok entries ∧
      Environment.NamesLeaves [] ∧ TextSetting.apiSecret.Admits "k3y" ∧
      load (some shortSettings) [] = .ok s ∧ NoList (tree entries []) "exchange" ∧
      Environment.Verbatim "k3y" ∧
      load (some shortSettings) [("APP__EXCHANGE__API_SECRET", "k3y")] = .ok s' ∧
      s'.exchange.apiSecret = some "k3y" := by
  have hlist : (documentEntries (some shortSettings)).toOption.any
      (fun entries => decide (NoList (tree entries []) "exchange")) = true := by decide +kernel
  have hloaded : (load (some shortSettings) []).toOption.any (fun _ => true) = true := by decide +kernel
  have hverbatim : Environment.Verbatim "k3y" :=
    .text ⟨by decide +kernel, by decide +kernel⟩ (by decide +kernel) (by decide +kernel)
  obtain ⟨entries, hentries, hlist⟩ := exists_eq_ok_of_any hlist
  obtain ⟨s, hs, -⟩ := exists_eq_ok_of_any hloaded
  have hadmits : TextSetting.apiSecret.Admits "k3y" := by
    show "k3y" ≠ ""
    decide
  have hover : Overridden .apiSecret (some shortSettings) entries [] "k3y" :=
    overridden hentries Environment.namesLeaves_nil (fun _ h => by cases h) hadmits
  obtain ⟨s', hs', hvalue⟩ := (hover.verbatim s hs).mpr ⟨hverbatim, of_decide_eq_true hlist⟩
  exact ⟨entries, s, s', hentries, Environment.namesLeaves_nil, hadmits, hs, of_decide_eq_true hlist,
    hverbatim, hs', hvalue⟩

/-- **A secret of digits with a zero in front arrives without the zero.** -/
theorem secret_rewritten_sample :
    ∃ s s', load (some shortSettings) [] = .ok s ∧ TextSetting.apiSecret.Admits "007" ∧
      load (some shortSettings) [("APP__EXCHANGE__API_SECRET", "007")] = .ok s' ∧
      s'.exchange.apiSecret = some "7" := by
  have halone : (load (some shortSettings) []).toOption.any (fun _ => true) = true := by decide +kernel
  have hset : (load (some shortSettings) [("APP__EXCHANGE__API_SECRET", "007")]).toOption.any
      (fun s => s.exchange.apiSecret = some "7") = true := by decide +kernel
  obtain ⟨s, hs, -⟩ := exists_eq_ok_of_any halone
  obtain ⟨s', hs', hseven⟩ := exists_eq_ok_of_any hset
  have hadmits : TextSetting.apiSecret.Admits "007" := by
    show "007" ≠ ""
    decide
  exact ⟨s, s', hs, hadmits, hs', of_decide_eq_true hseven⟩

end Settings

end ScalpBot
