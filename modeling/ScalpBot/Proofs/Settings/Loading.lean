import ScalpBot.Proofs.Settings.Layers
import ScalpBot.Proofs.Settings.Origins
import ScalpBot.Proofs.Settings.Validation
import ScalpBot.Proofs.Settings.Written

/-!
# Loading settings in layers

Settings are loaded from three layers. Each leaf takes the value of the variable that names it, else the
value that the document has, else its default, and a variable for one leaf changes no other
(`Settings.layered`).

This is not so for a section that the document writes as a list. One variable for a leaf in it puts a table
in the place of the list, and all that the list had is gone (`Settings.list_replaced_sample`).
-/

namespace ScalpBot.Settings

open SettingTree

variable {text : String} {entries : List (String × Toml)} {vars : Environment.Variables}
  {entry : String × String}

instance (t : SettingTree) (name : String) : Decidable (NoList t name) :=
  match h : t.at? [name] with
  | some (.list origin items) => isFalse fun hno => hno origin items h
  | some (.scalar _ _) => isTrue fun _ _ heq => by simp [h] at heq
  | some (.table _ _) => isTrue fun _ _ heq => by simp [h] at heq
  | none => isTrue fun _ _ heq => by simp [h] at heq

instance (t : SettingTree) : Decidable (NoLists t) :=
  inferInstanceAs (Decidable (∀ name ∈ sectionNames, NoList t name))

/-- What a document says, as a tree. -/
abbrev document (entries : List (String × Toml)) : SettingTree :=
  documentTree (ofTomlEntries none entries)

/-- **Loading in layers**: what is loaded from a document under an environment. -/
structure Layered (text : String) (entries : List (String × Toml)) (vars : Environment.Variables) :
    Prop where
  /-- If nothing is missing, the settings have in each leaf what the leaf takes, and are validated. -/
  complete : Complete (document entries) vars →
    ∃ s, load (some ⟨none, text⟩) vars = s.validate.mapError .invalid ∧
      ∀ x, IsLeaf x → Takes x (document entries) vars (x.get s)
  /-- If something is missing, the settings do not fit. -/
  incomplete : ¬ Complete (document entries) vars →
    ∃ cause, load (some ⟨none, text⟩) vars = .error (.unfit cause)
  /-- One more variable, with a text that can be read, changes the leaf that it sets and no other. -/
  framed : ∀ (y : Leaf Settings) (entry : String × String) (a : y.Value) (s : Settings), IsLeaf y →
    y.Plain → Environment.Sets entry y → (∀ e ∈ vars, ¬ Environment.Sets e y) →
    y.field.read (.scalar (some Environment.origin) (Environment.scalarOf entry.2)) = .ok a →
    load (some ⟨none, text⟩) vars = .ok s →
    ∃ s', load (some ⟨none, text⟩) (entry :: vars) = s'.validate.mapError .invalid ∧ y.get s' = a ∧
      ∀ x, IsLeaf x → x.path ≠ y.path → x.get s' = x.get s
  /-- If the document is written plainly, it has in each leaf what is written there. -/
  written : Toml.Plain entries → ∀ x : Leaf Settings, IsLeaf x →
    (document entries).at? x.path =
      ((Toml.table entries).at? x.path).map (settled none)
  /-- The same document in a file is loaded alike, up to the origin that an error names. -/
  file : ∀ (path : String) (files : List (String × String)) (found : String × String),
    SettingDocument.namesToml path = true →
    files.find? (fun f => SettingDocument.normalPath f.1 = SettingDocument.normalPath path) =
      some found → found.2 = text →
    (load (SettingDocument.find? path files) vars).mapError SettingsError.withoutOrigin =
      (load (some ⟨none, text⟩) vars).mapError SettingsError.withoutOrigin
  /-- Where there is no file, the document is empty. -/
  missing : ∀ (path : String) (files : List (String × String)),
    files.find? (fun f => SettingDocument.normalPath f.1 = SettingDocument.normalPath path) = none →
    load (SettingDocument.find? path files) vars = load (some ⟨none, ""⟩) vars

theorem load_of_complete (htext : Toml.parse text = some entries)
    (hlists : NoLists (document entries))
    (hvars : Environment.NamesLeaves vars)
    (h : Complete (document entries) vars) :
    ∃ s, load (some ⟨none, text⟩) vars = s.validate.mapError .invalid ∧
      ∀ x, IsLeaf x → Takes x (document entries) vars (x.get s) := by
  obtain ⟨s, hs⟩ := (exists_read_tree_iff hvars hlists).mpr h
  refine ⟨s, ?_, fun x hx => ?_⟩
  · rw [load_of_parse htext, hs]
    rfl
  · exact (find_tree_eq_ok_iff hvars hx).mp (find_of_read (legible_tree hvars hlists) hs hx)

theorem load_of_not_complete (htext : Toml.parse text = some entries)
    (hlists : NoLists (document entries))
    (hvars : Environment.NamesLeaves vars)
    (h : ¬ Complete (document entries) vars) :
    ∃ cause, load (some ⟨none, text⟩) vars = .error (.unfit cause) := by
  rw [load_of_parse htext]
  cases hread : read format (tree (ofTomlEntries none entries) vars) with
  | ok s => exact absurd ((exists_read_tree_iff hvars hlists).mp ⟨s, hread⟩) h
  | error cause => exact ⟨cause, rfl⟩

/-- Settings that were loaded have what their leaves take. -/
theorem takes_of_load (htext : Toml.parse text = some entries)
    (hlists : NoLists (document entries))
    (hvars : Environment.NamesLeaves vars) {s : Settings}
    (h : load (some ⟨none, text⟩) vars = .ok s) :
    Complete (document entries) vars ∧
      ∀ x, IsLeaf x → Takes x (document entries) vars (x.get s) := by
  by_cases hcomplete : Complete (document entries) vars
  · obtain ⟨s', hs', htakes⟩ := load_of_complete htext hlists hvars hcomplete
    obtain ⟨rfl, -⟩ := validate_eq_ok_iff.mp (mapError_eq_ok_iff.mp (hs'.symm.trans h))
    exact ⟨hcomplete, htakes⟩
  · obtain ⟨cause, hcause⟩ := load_of_not_complete htext hlists hvars hcomplete
    cases hcause.symm.trans h

/-- **One more variable changes the leaf that it sets**, and no other. -/
theorem load_cons (htext : Toml.parse text = some entries)
    (hlists : NoLists (document entries))
    (hvars : Environment.NamesLeaves vars) {y : Leaf Settings} (hy : IsLeaf y) (hplain : y.Plain)
    (hsets : Environment.Sets entry y) (hunset : ∀ e ∈ vars, ¬ Environment.Sets e y) {a : y.Value}
    (hread : y.field.read (.scalar (some Environment.origin) (Environment.scalarOf entry.2)) = .ok a)
    {s : Settings} (h : load (some ⟨none, text⟩) vars = .ok s) :
    ∃ s', load (some ⟨none, text⟩) (entry :: vars) = s'.validate.mapError .invalid ∧ y.get s' = a ∧
      ∀ x, IsLeaf x → x.path ≠ y.path → x.get s' = x.get s := by
  have hvars' := namesLeaves_cons hvars hy hplain hsets hunset
  obtain ⟨hcomplete, htakes⟩ := takes_of_load htext hlists hvars h
  obtain ⟨s', hs', htakes'⟩ :=
    load_of_complete htext hlists hvars' (complete_cons hy hsets hread hcomplete)
  refine ⟨s', hs', ?_, fun x hx hne => ?_⟩
  · exact (htakes' y hy).unique hvars' hy (.environment List.mem_cons_self hsets hread)
  · exact (htakes' x hx).unique hvars' hx (takes_cons hx hy hsets hne (htakes x hx))

/-- **Settings are loaded in layers.** -/
theorem layered (htext : Toml.parse text = some entries)
    (hlists : NoLists (document entries))
    (hvars : Environment.NamesLeaves vars) : Layered text entries vars where
  complete := load_of_complete htext hlists hvars
  incomplete := load_of_not_complete htext hlists hvars
  framed _ _ _ _ hy hplain hsets hunset hread h :=
    load_cons htext hlists hvars hy hplain hsets hunset hread h
  written hplain x _ := at?_overlay_ofToml hplain x.path
  file path files found hname hfound htext' := by
    rw [SettingDocument.find?, if_pos hname, hfound, ← htext']
    exact load_named _ _ vars
  missing path files hnone := by
    have hparse : Toml.parse "" = some [] := by rfl
    have hempty : load (some ⟨none, ""⟩) vars = load none vars := by
      rw [load_of_parse hparse]
      rfl
    rw [SettingDocument.find?, hnone, hempty]
    split <;> rfl

/-- Settings with no more than they need. -/
def shortSettings : SettingDocument where
  name := none
  text := "[exchange]\napi_key=\"k\"\napi_secret=\"s\"\n" ++
    "[market]\nid=\"i\"\nname=\"n\"\nbase_currency=\"b\"\ncounter_currency=\"c\"\n"

/-- A variable with an interval. -/
def intervalVariable : String × String := ("APP__ENGINE__TRADE_CYCLE_INTERVAL_SECONDS", "10")

/-- The leaf of the interval. -/
def intervalLeaf : Leaf Settings :=
  Leaf.under ⟨[], .withDefault "trade_cycle_interval_seconds"
    (EngineSettings.tradeCycleIntervalSeconds {}) (readWord 64), fun s => s.tradeCycleIntervalSeconds⟩
    "engine" Settings.engine

theorem isLeaf_intervalLeaf : IsLeaf intervalLeaf := .engine List.mem_cons_self

theorem sets_intervalLeaf : Environment.Sets intervalVariable intervalLeaf := by decide +kernel

theorem plain_intervalLeaf : intervalLeaf.Plain := by
  show ∀ name ∈ ["engine", "trade_cycle_interval_seconds"], SettingPath.PlainName name
  decide +kernel

theorem namesLeaves_intervalVariable : Environment.NamesLeaves [intervalVariable] :=
  namesLeaves_cons Environment.namesLeaves_nil isLeaf_intervalLeaf plain_intervalLeaf
    sets_intervalLeaf fun _ h => by cases h

/-- A variable for the interval over a document without one: it is taken, and all else is as without the
variable. -/
theorem layered_sample :
    ∃ entries s s', Toml.parse shortSettings.text = some entries ∧ NoLists (document entries) ∧
      Environment.NamesLeaves [] ∧ load (some shortSettings) [] = .ok s ∧
      load (some shortSettings) [intervalVariable] = s'.validate.mapError .invalid ∧
      s.engine.tradeCycleIntervalSeconds = 60 ∧ s'.engine.tradeCycleIntervalSeconds = 10 ∧
      ∀ x, IsLeaf x → x.path ≠ intervalLeaf.path → x.get s' = x.get s := by
  have hlists : (Toml.parse shortSettings.text).any
      (fun entries => decide (NoLists (document entries))) = true := by decide +kernel
  have hloaded : (load (some shortSettings) []).toOption.any
      (fun s => s.engine.tradeCycleIntervalSeconds = 60) = true := by decide +kernel
  have hread : intervalLeaf.field.read
      (.scalar (some Environment.origin) (Environment.scalarOf intervalVariable.2)) = .ok (10 : Nat) := by
    rfl
  obtain ⟨entries, hentries, hlists⟩ := (Option.any_eq_true _ _).mp hlists
  obtain ⟨s, hs, hinterval⟩ := exists_eq_ok_of_any hloaded
  have hlayers := layered hentries (of_decide_eq_true hlists) Environment.namesLeaves_nil
  obtain ⟨s', hs', hten, hothers⟩ := hlayers.framed intervalLeaf intervalVariable (10 : Nat) s
    isLeaf_intervalLeaf plain_intervalLeaf sets_intervalLeaf (fun _ h => by cases h) hread hs
  exact ⟨entries, s, s', hentries, of_decide_eq_true hlists, Environment.namesLeaves_nil, hs, hs',
    of_decide_eq_true hinterval, hten, hothers⟩

/-- The same document with the engine's settings in a list. -/
def listedEngine : SettingDocument where
  name := none
  text := "engine = [30, \"debug\"]\n" ++ shortSettings.text

/-- A variable for one of the strategy's own settings, whose name cannot be read as a path. -/
def oddVariable : String × String := ("APP__STRATEGY__CONFIG__A!B", "1")

/-- **A variable for one leaf of a section in a list changes the others**: the level is the default
afterwards, not `debug`. And a variable whose name is no path sets no leaf at all. -/
theorem list_replaced_sample :
    ∃ s s', load (some listedEngine) [] = .ok s ∧ load (some listedEngine) [intervalVariable] = .ok s' ∧
      Environment.NamesLeaves [intervalVariable] ∧ s.engine.logLevel = "debug" ∧
      s'.engine.tradeCycleIntervalSeconds = 10 ∧ s'.engine.logLevel = "info" ∧
      Environment.settingName? oddVariable.1 = some "strategy.config.a!b" ∧
      ∃ t, load (some shortSettings) [oddVariable] = .ok t ∧
        t.strategy.config.lookup "a!b" = none := by
  have halone : (load (some listedEngine) []).toOption.any (fun s => s.engine.logLevel = "debug") =
      true := by decide +kernel
  have hset : (load (some listedEngine) [intervalVariable]).toOption.any (fun s =>
      s.engine.tradeCycleIntervalSeconds = 10 ∧ s.engine.logLevel = "info") = true := by decide +kernel
  have hname : Environment.settingName? oddVariable.1 = some "strategy.config.a!b" := by decide +kernel
  have hodd : (load (some shortSettings) [oddVariable]).toOption.any
      (fun t => t.strategy.config.lookup "a!b" = none) = true := by decide +kernel
  obtain ⟨s, hs, hdebug⟩ := exists_eq_ok_of_any halone
  obtain ⟨s', hs', htaken⟩ := exists_eq_ok_of_any hset
  obtain ⟨hten, hinfo⟩ := of_decide_eq_true htaken
  obtain ⟨t, ht, hnone⟩ := exists_eq_ok_of_any hodd
  exact ⟨s, s', hs, hs', namesLeaves_intervalVariable, of_decide_eq_true hdebug, hten, hinfo, hname,
    t, ht, of_decide_eq_true hnone⟩

end ScalpBot.Settings
