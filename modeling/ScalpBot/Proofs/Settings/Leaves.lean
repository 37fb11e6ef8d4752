import ScalpBot.Proofs.Record
import ScalpBot.Proofs.Settings.Paths
import ScalpBot.Settings.Load

/-!
# Settings leaf by leaf

The settings are records of single values, the leaves. A `Leaf` stands in tables, has a name, and comes to
a value on its own: it is read from what is given under its name, or has its default. A tree of settings is
read if and only if its sections are tables and each leaf comes to a value
(`Settings.exists_read_iff`), and what is read has these values (`Settings.find_of_read`).

This is so where no section is written as a list. A list is read by place, and has nothing under the names
of its leaves.
-/

namespace ScalpBot

open SettingTree

/-- A single value in settings of type `σ`. -/
structure Leaf (σ : Type) where
  {Value : Type}
  /-- The names of the tables that it stands in. -/
  tables : List String
  /-- Its name, how it is read, and its default. -/
  field : Field SettingTree SettingError Value
  get : σ → Value

namespace Leaf

variable {σ τ : Type}

/-- The path to a leaf. -/
def path (x : Leaf σ) : List String := x.tables ++ [x.field.name]

/-- The value of a leaf, if `given` is what stands at each path. -/
def find (x : Leaf σ) (given : List String → Option SettingTree) : Except SettingError x.Value :=
  x.field.find fun key => given (x.tables ++ [key])

theorem find_eq_ok_iff {x : Leaf σ} {given : List String → Option SettingTree} {a : x.Value} :
    x.find given = .ok a ↔ (∃ v, given x.path = some v ∧ x.field.read v = .ok a) ∨
      given x.path = none ∧ x.field.absent = some a := by
  rw [Leaf.find, Field.find, ← Leaf.path]
  cases given x.path with
  | some v => simp
  | none => cases x.field.absent <;> simp

/-- A leaf of a part is a leaf of the whole. -/
def under (x : Leaf σ) (table : String) (part : τ → σ) : Leaf τ where
  tables := table :: x.tables
  field := x.field
  get := fun s => x.get (part s)

end Leaf

/-! ## The leaves of each record -/

/-- The leaves of the exchange's settings. -/
def ExchangeSettings.leaves : List (Leaf ExchangeSettings) :=
  let default : ExchangeSettings := {}
  [⟨[], .withDefault "name" default.name readString, fun s => s.name⟩,
    ⟨[], .optional format "api_key" readString, fun s => s.apiKey⟩,
    ⟨[], .optional format "api_secret" readString, fun s => s.apiSecret⟩,
    ⟨[], .withDefault "rest_url" default.restUrl readString, fun s => s.restUrl⟩,
    ⟨[], .withDefault "request_timeout_seconds" default.requestTimeoutSeconds (readWord 64),
      fun s => s.requestTimeoutSeconds⟩,
    ⟨[], .withDefault "non_fatal_error_codes" default.nonFatalErrorCodes (readList (readWord 16)),
      fun s => s.nonFatalErrorCodes⟩,
    ⟨[], .withDefault "non_fatal_error_messages" default.nonFatalErrorMessages (readList readString),
      fun s => s.nonFatalErrorMessages⟩,
    ⟨[], .withDefault "dry_run" default.dryRun readTruth, fun s => s.dryRun⟩]

/-- The leaves of a market. -/
def Market.leaves : List (Leaf Market) :=
  [⟨[], .required "id" readString, fun s => s.id⟩,
    ⟨[], .required "name" readString, fun s => s.name⟩,
    ⟨[], .required "base_currency" readString, fun s => s.baseCurrency⟩,
    ⟨[], .required "counter_currency" readString, fun s => s.counterCurrency⟩]

/-- The leaves of the strategy's settings, without its own. -/
def StrategySettings.leaves : List (Leaf StrategySettings) :=
  let default : StrategySettings := {}
  [⟨[], .withDefault "name" default.name readString, fun s => s.name⟩]

/-- A setting of the strategy's own, which may be left out. -/
def StrategySettings.item (key : String) : Leaf StrategySettings where
  tables := ["config"]
  field := { name := key, read := fun v => (readString v).map some, absent := some none }
  get := fun s => s.config.lookup key

/-- The leaves of the engine's settings. -/
def EngineSettings.leaves : List (Leaf EngineSettings) :=
  let default : EngineSettings := {}
  [⟨[], .withDefault "trade_cycle_interval_seconds" default.tradeCycleIntervalSeconds (readWord 64),
      fun s => s.tradeCycleIntervalSeconds⟩,
    ⟨[], .withDefault "log_level" default.logLevel readString, fun s => s.logLevel⟩]

/-- **The leaves of all settings.** -/
inductive Settings.IsLeaf : Leaf Settings → Prop
  | exchange {x : Leaf ExchangeSettings} (h : x ∈ ExchangeSettings.leaves) :
      IsLeaf (x.under "exchange" Settings.exchange)
  | market {x : Leaf Market} (h : x ∈ Market.leaves) : IsLeaf (x.under "market" Settings.market)
  | strategy {x : Leaf StrategySettings} (h : x ∈ StrategySettings.leaves) :
      IsLeaf (x.under "strategy" Settings.strategy)
  | item (key : String) : IsLeaf ((StrategySettings.item key).under "strategy" Settings.strategy)
  | engine {x : Leaf EngineSettings} (h : x ∈ EngineSettings.leaves) :
      IsLeaf (x.under "engine" Settings.engine)

/-! ## Records -/

variable {σ : Type} {given : List String → Option SettingTree}

/-- **The leaves of a record**: it is read where they come to values, and they have these in it. -/
structure Fields.HasLeaves (fs : Fields SettingTree SettingError σ) (leaves : List (Leaf σ)) : Prop where
  consistent : fs.Consistent
  exists_iff : ∀ given, (∃ s, fs.ofMembers (fun key => given [key]) = .ok s) ↔
    ∀ x ∈ leaves, ∃ a, x.find given = .ok a
  find : ∀ given s, fs.ofMembers (fun key => given [key]) = .ok s →
    ∀ x ∈ leaves, x.find given = .ok (x.get s)

theorem Fields.exists_field_iff {ε V α β : Type} [RecordError ε] {fs : Fields V ε (α → β)}
    {f : Field V ε α} {member? : String → Option V} :
    (∃ b, (fs.field f).ofMembers member? = .ok b) ↔
      (∃ make, fs.ofMembers member? = .ok make) ∧ ∃ a, f.find member? = .ok a := by
  simp only [field_ofMembers_eq_ok_iff]
  constructor
  · rintro ⟨b, make, a, hmake, ha, -⟩
    exact ⟨⟨make, hmake⟩, a, ha⟩
  · rintro ⟨⟨make, hmake⟩, a, ha⟩
    exact ⟨make a, make, a, hmake, ha, rfl⟩

theorem Fields.exists_start {ε V α : Type} (a : α) (member? : String → Option V) :
    ∃ b, (Fields.start a : Fields V ε α).ofMembers member? = .ok b := ⟨a, rfl⟩

theorem Market.hasLeaves : (Market.fields format).HasLeaves Market.leaves where
  consistent := .field (.field (.field (.field (Fields.consistent_start _) _) _) _) _
  exists_iff given := by
    simp only [Market.fields, Fields.exists_field_iff, Fields.exists_start, Market.leaves, true_and,
      List.forall_mem_cons, and_assoc]
    simp only [List.not_mem_nil, false_implies, implies_true, and_true]
    rfl
  find given s h := by
    obtain ⟨_, _, h4, hcounter, rfl⟩ := Fields.field_ofMembers_eq_ok_iff.mp h
    obtain ⟨_, _, h3, hbase, rfl⟩ := Fields.field_ofMembers_eq_ok_iff.mp h4
    obtain ⟨_, _, h2, hname, rfl⟩ := Fields.field_ofMembers_eq_ok_iff.mp h3
    obtain ⟨_, _, ⟨⟩, hid, rfl⟩ := Fields.field_ofMembers_eq_ok_iff.mp h2
    simp only [Market.leaves, List.forall_mem_cons]
    exact ⟨hid, hname, hbase, hcounter, by simp⟩

theorem ExchangeSettings.hasLeaves :
    (ExchangeSettings.fields format).HasLeaves ExchangeSettings.leaves where
  consistent := .field (.field (.field (.field (.field (.field (.field (.field
    (Fields.consistent_start _) _) _) _) _) _) _) _) _
  exists_iff given := by
    simp only [ExchangeSettings.fields, Fields.exists_field_iff, Fields.exists_start,
      ExchangeSettings.leaves, true_and, List.forall_mem_cons, and_assoc]
    simp only [List.not_mem_nil, false_implies, implies_true, and_true]
    rfl
  find given s h := by
    obtain ⟨_, _, h8, hdryRun, rfl⟩ := Fields.field_ofMembers_eq_ok_iff.mp h
    obtain ⟨_, _, h7, hmessages, rfl⟩ := Fields.field_ofMembers_eq_ok_iff.mp h8
    obtain ⟨_, _, h6, hcodes, rfl⟩ := Fields.field_ofMembers_eq_ok_iff.mp h7
    obtain ⟨_, _, h5, htimeout, rfl⟩ := Fields.field_ofMembers_eq_ok_iff.mp h6
    obtain ⟨_, _, h4, hurl, rfl⟩ := Fields.field_ofMembers_eq_ok_iff.mp h5
    obtain ⟨_, _, h3, hsecret, rfl⟩ := Fields.field_ofMembers_eq_ok_iff.mp h4
    obtain ⟨_, _, h2, hkey, rfl⟩ := Fields.field_ofMembers_eq_ok_iff.mp h3
    obtain ⟨_, _, ⟨⟩, hname, rfl⟩ := Fields.field_ofMembers_eq_ok_iff.mp h2
    simp only [ExchangeSettings.leaves, List.forall_mem_cons]
    exact ⟨hname, hkey, hsecret, hurl, htimeout, hcodes, hmessages, hdryRun, by simp⟩

theorem EngineSettings.hasLeaves : (EngineSettings.fields format).HasLeaves EngineSettings.leaves where
  consistent := .field (.field (Fields.consistent_start _) _) _
  exists_iff given := by
    simp only [EngineSettings.fields, Fields.exists_field_iff, Fields.exists_start,
      EngineSettings.leaves, true_and, List.forall_mem_cons]
    simp only [List.not_mem_nil, false_implies, implies_true, and_true]
    rfl
  find given s h := by
    obtain ⟨_, _, h2, hlevel, rfl⟩ := Fields.field_ofMembers_eq_ok_iff.mp h
    obtain ⟨_, _, ⟨⟩, hinterval, rfl⟩ := Fields.field_ofMembers_eq_ok_iff.mp h2
    simp only [EngineSettings.leaves, List.forall_mem_cons]
    exact ⟨hinterval, hlevel, by simp⟩

/-! ## The strategy's own settings -/

section Items

variable {t : SettingTree} {origin : Option String} {ms : List (String × SettingTree)}
  {c : List (String × String)} {key : String}

theorem readMember_eq_ok_iff {m : String × SettingTree} {p : String × String} :
    ((readString m.2).mapError (RecordError.atMember m.1) >>= fun a =>
      (.ok (m.1, a) : Except SettingError (String × String))) = .ok p ↔
      readString m.2 = .ok p.2 ∧ m.1 = p.1 := by
  obtain ⟨key, text⟩ := p
  simp only [bind_eq_ok_iff, mapError_eq_ok_iff, Except.ok.injEq, Prod.mk.injEq]
  constructor
  · rintro ⟨a, ha, hkey, rfl⟩
    exact ⟨ha, hkey⟩
  · rintro ⟨ha, hkey⟩
    exact ⟨text, ha, hkey, rfl⟩

theorem readDictionary_eq_ok_iff : readDictionary readString (.table origin ms) = .ok c ↔
    List.Forall₂ (fun m p => readString m.2 = .ok p.2 ∧ m.1 = p.1) ms c := by
  rw [readDictionary, mapM_eq_ok_iff]
  exact ⟨fun h => h.imp fun _ _ => readMember_eq_ok_iff.mp,
    fun h => h.imp fun _ _ => readMember_eq_ok_iff.mpr⟩

/-- An item is found where it was, with the text that was read. -/
theorem find_item_of_forall₂
    (h : List.Forall₂ (fun m p => readString m.2 = .ok p.2 ∧ m.1 = p.1) ms c) (key : String) :
    (StrategySettings.item key).field.find (fun _ => ms.lookup key) = .ok (c.lookup key) := by
  induction h with
  | nil => rfl
  | @cons m p ms c hhead _ ih =>
    obtain ⟨hread, hname⟩ := hhead
    rw [Json.lookup_cons, Json.lookup_cons, ← hname]
    split
    · show (readString m.2).map some = .ok (some p.2)
      rw [hread]
      rfl
    · exact ih

/-- Items that can all be read are read together. -/
theorem exists_readDictionary (origin : Option String) (hordered : Json.Ordered ms)
    (h : ∀ key, ∃ a, (StrategySettings.item key).field.find (fun _ => ms.lookup key) = .ok a) :
    ∃ c, readDictionary readString (.table origin ms) = .ok c := by
  have hread : ∀ m ∈ ms, ∃ text, readString m.2 = .ok text := by
    intro m hm
    obtain ⟨a, ha⟩ := h m.1
    rw [(Json.lookup_eq_some_iff_mem hordered).mpr hm] at ha
    obtain ⟨text, htext, -⟩ := map_eq_ok_iff.mp ha
    exact ⟨text, htext⟩
  have htexts : ∃ c, List.Forall₂ (fun m (p : String × String) =>
      readString m.2 = .ok p.2 ∧ m.1 = p.1) ms c := by
    clear h hordered
    induction ms with
    | nil => exact ⟨[], .nil⟩
    | cons m ms ih =>
      obtain ⟨⟨text, htext⟩, hms⟩ := List.forall_mem_cons.mp hread
      obtain ⟨c, hc⟩ := ih hms
      exact ⟨(m.1, text) :: c, .cons ⟨htext, rfl⟩ hc⟩
  obtain ⟨c, hc⟩ := htexts
  exact ⟨c, readDictionary_eq_ok_iff.mpr hc⟩

variable {config? : Option SettingTree}

/-- The field of the strategy's own settings. -/
def StrategySettings.configField : Field SettingTree SettingError (List (String × String)) :=
  let default : StrategySettings := {}
  .withDefault "config" default.config (readDictionary readString)

theorem bind_at?_table (key : String) :
    (some (SettingTree.table origin ms)).bind (at? [key]) = ms.lookup key := by
  rw [Option.bind_some, at?_cons, SettingTree.members]
  cases ms.lookup key <;> rfl

/-- **The items are read together where each is**, from a table or from nothing. -/
theorem exists_configField_iff (htidy : ∀ v, config? = some v → Tidy v) :
    (∃ c, StrategySettings.configField.find (fun _ => config?) = .ok c) ↔
      (∀ v, config? = some v → IsTable v) ∧
        ∀ key, ∃ a, (StrategySettings.item key).field.find
          (fun _ => config?.bind (at? [key])) = .ok a := by
  cases config? with
  | none => exact ⟨fun _ => ⟨by simp, fun key => ⟨none, rfl⟩⟩, fun _ => ⟨[], rfl⟩⟩
  | some v =>
    cases v with
    | table origin ms =>
      simp only [bind_at?_table]
      constructor
      · rintro ⟨c, hc⟩
        have hread : readDictionary readString (.table origin ms) = .ok c := hc
        refine ⟨fun v hv => Option.some.inj hv ▸ ⟨origin, ms, rfl⟩, fun key => ⟨c.lookup key, ?_⟩⟩
        exact find_item_of_forall₂ (readDictionary_eq_ok_iff.mp hread) key
      · rintro ⟨-, hitems⟩
        cases htidy _ rfl with
        | table ordered _ =>
          obtain ⟨c, hc⟩ := exists_readDictionary origin ordered hitems
          exact ⟨c, hc⟩
    | scalar origin c =>
      refine iff_of_false ?_ ?_
      · rintro ⟨c, ⟨⟩⟩
      · rintro ⟨htable, -⟩
        obtain ⟨_, _, ⟨⟩⟩ := htable _ rfl
    | list origin items =>
      refine iff_of_false ?_ ?_
      · rintro ⟨c, ⟨⟩⟩
      · rintro ⟨htable, -⟩
        obtain ⟨_, _, ⟨⟩⟩ := htable _ rfl

theorem find_item_of_configField
    (h : StrategySettings.configField.find (fun _ => config?) = .ok c) (key : String) :
    (StrategySettings.item key).field.find (fun _ => config?.bind (at? [key])) =
      .ok (c.lookup key) := by
  cases config? with
  | none =>
    obtain rfl := Except.ok.inj h
    rfl
  | some v =>
    cases v with
    | table origin ms =>
      have hread : readDictionary readString (.table origin ms) = .ok c := h
      rw [bind_at?_table]
      exact find_item_of_forall₂ (readDictionary_eq_ok_iff.mp hread) key
    | scalar origin c => cases h
    | list origin items => cases h

/-- What is given under `config` is a tree, and the items are what stands in it. -/
structure StrategySettings.Nested (given : List String → Option SettingTree) : Prop where
  tidy : ∀ v, given ["config"] = some v → Tidy v
  items : ∀ key, given ["config", key] = (given ["config"]).bind (at? [key])

theorem StrategySettings.find_item (h : StrategySettings.Nested given) (key : String) :
    (item key).find given = (item key).field.find fun _ => (given ["config"]).bind (at? [key]) := by
  show ((item key).field.find fun _ => given ["config", key]) = _
  rw [h.items]

theorem StrategySettings.exists_iff (h : StrategySettings.Nested given) :
    (∃ s, (StrategySettings.fields format).ofMembers (fun key => given [key]) = .ok s) ↔
      (∀ v, given ["config"] = some v → IsTable v) ∧
        (∀ x ∈ leaves, ∃ a, x.find given = .ok a) ∧ ∀ key, ∃ a, (item key).find given = .ok a := by
  have hfields : (∃ s, (StrategySettings.fields format).ofMembers (fun key => given [key]) = .ok s) ↔
      (∀ x ∈ leaves, ∃ a, x.find given = .ok a) ∧
        ∃ c, configField.find (fun _ => given ["config"]) = .ok c := by
    simp only [StrategySettings.fields, Fields.exists_field_iff, Fields.exists_start, leaves, true_and,
      List.forall_mem_cons]
    simp only [List.not_mem_nil, false_implies, implies_true, and_true]
    rfl
  simp only [hfields, exists_configField_iff h.tidy, find_item h]
  exact and_left_comm

theorem StrategySettings.find_of_ofMembers (h : StrategySettings.Nested given) {s : StrategySettings}
    (hs : (StrategySettings.fields format).ofMembers (fun key => given [key]) = .ok s) :
    (∀ x ∈ leaves, x.find given = .ok (x.get s)) ∧
      ∀ key, (item key).find given = .ok ((item key).get s) := by
  obtain ⟨_, c, h2, hconfig, rfl⟩ := Fields.field_ofMembers_eq_ok_iff.mp hs
  obtain ⟨_, _, ⟨⟩, hname, rfl⟩ := Fields.field_ofMembers_eq_ok_iff.mp h2
  have hc : configField.find (fun _ => given ["config"]) = .ok c := hconfig
  refine ⟨?_, fun key => ?_⟩
  · simp only [leaves, List.forall_mem_cons]
    exact ⟨hname, by simp⟩
  · rw [find_item h]
    exact find_item_of_configField hc key

theorem StrategySettings.consistent : (StrategySettings.fields format).Consistent :=
  .field (.field (Fields.consistent_start _) _) _

end Items

/-! ## Sections -/

section Sections

variable {t v : SettingTree} {kind name : String} {fs : Fields SettingTree SettingError σ}
  {s default : σ}

/-- **A record is read from a table where its fields are**, each from what stands under its name. -/
theorem readRecord_eq_ok_iff (hfs : fs.Consistent) (htidy : Tidy v) (htable : IsTable v) :
    readRecord kind fs v = .ok s ↔ fs.ofMembers (fun key => v.at? [key]) = .ok s := by
  obtain ⟨origin, ms, rfl⟩ := htable
  have hmembers : (fun key => (SettingTree.table origin ms).at? [key]) = fun key => ms.lookup key :=
    funext fun key => bind_at?_table key
  cases htidy with
  | table ordered _ =>
    rw [hmembers, readRecord]
    exact Fields.readMembers_eq_ok_iff hfs fun m hm => (Json.lookup_eq_some_iff_mem ordered).mpr hm

/-- The section is not written as a list. -/
def NoList (t : SettingTree) (name : String) : Prop :=
  ∀ origin items, t.at? [name] ≠ some (.list origin items)

theorem readRecord_section_iff (hfs : fs.Consistent) (htidy : Tidy t) (hlist : NoList t name)
    (hv : t.at? [name] = some v) : readRecord kind fs v = .ok s ↔
      IsTable v ∧ fs.ofMembers (fun key => t.at? [name, key]) = .ok s := by
  have hkeys : (fun key => t.at? [name, key]) = fun key => v.at? [key] := by
    funext key
    rw [← List.singleton_append, at?_append, hv, Option.bind_some]
  rw [hkeys]
  by_cases htable : IsTable v
  · rw [readRecord_eq_ok_iff hfs (htidy.at? hv) htable]
    exact (and_iff_right htable).symm
  · refine iff_of_false (fun h => ?_) fun h => htable h.1
    cases v with
    | scalar origin c => cases h
    | list origin items => exact hlist origin items hv
    | table origin ms => exact htable ⟨origin, ms, rfl⟩

theorem find_required_section_iff (hfs : fs.Consistent) (htidy : Tidy t) (hlist : NoList t name) :
    (Field.required name (readRecord kind fs)).find (fun key => t.at? [key]) = .ok s ↔
      (∃ v, t.at? [name] = some v ∧ IsTable v) ∧
        fs.ofMembers (fun key => t.at? [name, key]) = .ok s := by
  rw [Field.find_required_eq_ok_iff]
  constructor
  · rintro ⟨v, hv, hread⟩
    obtain ⟨htable, hs⟩ := (readRecord_section_iff hfs htidy hlist hv).mp hread
    exact ⟨⟨v, hv, htable⟩, hs⟩
  · rintro ⟨⟨v, hv, htable⟩, hs⟩
    exact ⟨v, hv, (readRecord_section_iff hfs htidy hlist hv).mpr ⟨htable, hs⟩⟩

theorem find_withDefault_section_iff (hfs : fs.Consistent) (htidy : Tidy t) (hlist : NoList t name)
    (hdefault : fs.ofMembers (fun _ => none) = .ok default) :
    (Field.withDefault name default (readRecord kind fs)).find (fun key => t.at? [key]) = .ok s ↔
      (∀ v, t.at? [name] = some v → IsTable v) ∧
        fs.ofMembers (fun key => t.at? [name, key]) = .ok s := by
  rw [Field.find_withDefault_eq_ok_iff]
  cases hv : t.at? [name] with
  | none =>
    have hkeys : (fun key => t.at? [name, key]) = fun _ => none := by
      funext key
      rw [← List.singleton_append, at?_append, hv, Option.bind_none]
    rw [hkeys, hdefault, Except.ok.injEq]
    simp [eq_comm]
  | some v =>
    simp only [Option.some.injEq, exists_eq_left', forall_eq', reduceCtorEq, false_and, or_false]
    exact readRecord_section_iff hfs htidy hlist hv

end Sections

/-! ## All settings -/

namespace Settings

variable {t : SettingTree} {s : Settings}

/-- The names of the sections. -/
def sectionNames : List String := ["exchange", "market", "strategy", "engine"]

/-- **The tables of settings**: two sections must be there, and what is there is a table. -/
structure Shaped (t : SettingTree) : Prop where
  exchange : ∃ v, t.at? ["exchange"] = some v ∧ IsTable v
  market : ∃ v, t.at? ["market"] = some v ∧ IsTable v
  strategy : ∀ v, t.at? ["strategy"] = some v → IsTable v
  config : ∀ v, t.at? ["strategy", "config"] = some v → IsTable v
  engine : ∀ v, t.at? ["engine"] = some v → IsTable v

/-- A tree of settings that can be read leaf by leaf. -/
structure Legible (t : SettingTree) : Prop where
  tidy : Tidy t
  table : IsTable t
  sections : ∀ name ∈ sectionNames, NoList t name

theorem nested_strategy (h : Tidy t) :
    StrategySettings.Nested fun path => t.at? ("strategy" :: path) where
  tidy _ hv := h.at? hv
  items key := at?_append ["strategy", "config"] [key] t

theorem consistent : (Settings.fields format).Consistent :=
  .field (.field (.field (.field (Fields.consistent_start _) _) _) _) _

theorem ofMembers_eq_ok_iff {member? : String → Option SettingTree} :
    (fields format).ofMembers member? = .ok s ↔
      (Field.required "exchange" (ExchangeSettings.read format)).find member? = .ok s.exchange ∧
      (Field.required "market" (Market.read format)).find member? = .ok s.market ∧
      (Field.withDefault "strategy" {} (StrategySettings.read format)).find member? =
        .ok s.strategy ∧
      (Field.withDefault "engine" {} (EngineSettings.read format)).find member? = .ok s.engine := by
  constructor
  · intro h
    obtain ⟨_, _, h4, hengine, rfl⟩ := Fields.field_ofMembers_eq_ok_iff.mp h
    obtain ⟨_, _, h3, hstrategy, rfl⟩ := Fields.field_ofMembers_eq_ok_iff.mp h4
    obtain ⟨_, _, h2, hmarket, rfl⟩ := Fields.field_ofMembers_eq_ok_iff.mp h3
    obtain ⟨_, _, ⟨⟩, hexchange, rfl⟩ := Fields.field_ofMembers_eq_ok_iff.mp h2
    exact ⟨hexchange, hmarket, hstrategy, hengine⟩
  · rintro ⟨hexchange, hmarket, hstrategy, hengine⟩
    have h0 : (Fields.start mk : Fields SettingTree SettingError _).ofMembers member? = .ok mk := rfl
    have h1 := Fields.field_ofMembers_eq_ok_iff.mpr ⟨_, _, h0, hexchange, rfl⟩
    have h2 := Fields.field_ofMembers_eq_ok_iff.mpr ⟨_, _, h1, hmarket, rfl⟩
    have h3 := Fields.field_ofMembers_eq_ok_iff.mpr ⟨_, _, h2, hstrategy, rfl⟩
    exact Fields.field_ofMembers_eq_ok_iff.mpr ⟨_, _, h3, hengine, rfl⟩

/-- Settings are read from a table where its sections are. -/
theorem read_table_eq_ok_iff (htidy : Tidy t) (htable : IsTable t) : read format t = .ok s ↔
    (fields format).ofMembers (fun key => t.at? [key]) = .ok s :=
  readRecord_eq_ok_iff consistent htidy htable

/-- **Settings are read section by section.** -/
theorem read_eq_ok_iff (h : Legible t) : read format t = .ok s ↔
    ((∃ v, t.at? ["exchange"] = some v ∧ IsTable v) ∧
      (ExchangeSettings.fields format).ofMembers (fun key => t.at? ["exchange", key]) =
        .ok s.exchange) ∧
    ((∃ v, t.at? ["market"] = some v ∧ IsTable v) ∧
      (Market.fields format).ofMembers (fun key => t.at? ["market", key]) = .ok s.market) ∧
    ((∀ v, t.at? ["strategy"] = some v → IsTable v) ∧
      (StrategySettings.fields format).ofMembers (fun key => t.at? ["strategy", key]) =
        .ok s.strategy) ∧
    ((∀ v, t.at? ["engine"] = some v → IsTable v) ∧
      (EngineSettings.fields format).ofMembers (fun key => t.at? ["engine", key]) =
        .ok s.engine) := by
  have hlist : ∀ name ∈ sectionNames, NoList t name := h.sections
  simp only [sectionNames, List.forall_mem_cons] at hlist
  obtain ⟨hexchange, hmarket, hstrategy, hengine, -⟩ := hlist
  rw [read_table_eq_ok_iff h.tidy h.table, ofMembers_eq_ok_iff,
    ← find_required_section_iff ExchangeSettings.hasLeaves.consistent h.tidy hexchange,
    ← find_required_section_iff Market.hasLeaves.consistent h.tidy hmarket,
    ← find_withDefault_section_iff StrategySettings.consistent h.tidy hstrategy rfl,
    ← find_withDefault_section_iff EngineSettings.hasLeaves.consistent h.tidy hengine rfl]
  exact Iff.rfl

/-- **Settings are read where their tables are there and each leaf comes to a value.** -/
theorem exists_read_iff (h : Legible t) :
    (∃ s, read format t = .ok s) ↔
      Shaped t ∧ ∀ x, IsLeaf x → ∃ a, x.find (fun path => t.at? path) = .ok a := by
  have exchange := ExchangeSettings.hasLeaves.exists_iff fun path => t.at? ("exchange" :: path)
  have market := Market.hasLeaves.exists_iff fun path => t.at? ("market" :: path)
  have strategy := StrategySettings.exists_iff (nested_strategy h.tidy)
  have engine := EngineSettings.hasLeaves.exists_iff fun path => t.at? ("engine" :: path)
  constructor
  · rintro ⟨s, hs⟩
    obtain ⟨⟨hexchange, hexchange'⟩, ⟨hmarket, hmarket'⟩, ⟨hstrategy, hstrategy'⟩, hengine, hengine'⟩ :=
      (read_eq_ok_iff h).mp hs
    obtain ⟨hconfig, hnames, hitems⟩ := strategy.mp ⟨_, hstrategy'⟩
    refine ⟨⟨hexchange, hmarket, hstrategy, hconfig, hengine⟩, fun x hx => ?_⟩
    cases hx with
    | exchange hx => exact exchange.mp ⟨_, hexchange'⟩ _ hx
    | market hx => exact market.mp ⟨_, hmarket'⟩ _ hx
    | strategy hx => exact hnames _ hx
    | item key => exact hitems key
    | engine hx => exact engine.mp ⟨_, hengine'⟩ _ hx
  · rintro ⟨hshape, hleaves⟩
    obtain ⟨e, he⟩ := exchange.mpr fun x hx => hleaves _ (.exchange hx)
    obtain ⟨m, hm⟩ := market.mpr fun x hx => hleaves _ (.market hx)
    obtain ⟨st, hst⟩ := strategy.mpr
      ⟨hshape.config, fun x hx => hleaves _ (.strategy hx), fun key => hleaves _ (.item key)⟩
    obtain ⟨en, hen⟩ := engine.mpr fun x hx => hleaves _ (.engine hx)
    exact ⟨⟨e, m, st, en⟩, (read_eq_ok_iff h).mpr
      ⟨⟨hshape.exchange, he⟩, ⟨hshape.market, hm⟩, ⟨hshape.strategy, hst⟩, hshape.engine, hen⟩⟩

/-- **And the leaves of what is read are these values.** -/
theorem find_of_read (h : Legible t) (hs : read format t = .ok s) {x : Leaf Settings} (hx : IsLeaf x) :
    x.find (fun path => t.at? path) = .ok (x.get s) := by
  obtain ⟨⟨-, hexchange⟩, ⟨-, hmarket⟩, ⟨-, hstrategy⟩, -, hengine⟩ := (read_eq_ok_iff h).mp hs
  obtain ⟨hnames, hitems⟩ :=
    StrategySettings.find_of_ofMembers (nested_strategy h.tidy) hstrategy
  have exchange := ExchangeSettings.hasLeaves.find (fun path => t.at? ("exchange" :: path)) _ hexchange
  have market := Market.hasLeaves.find (fun path => t.at? ("market" :: path)) _ hmarket
  have engine := EngineSettings.hasLeaves.find (fun path => t.at? ("engine" :: path)) _ hengine
  cases hx with
  | exchange hx => exact exchange _ hx
  | market hx => exact market _ hx
  | strategy hx => exact hnames _ hx
  | item key => exact hitems key
  | engine hx => exact engine _ hx

end Settings

end ScalpBot
