import ScalpBot.Proofs.Record
import ScalpBot.Proofs.Result
import ScalpBot.Settings.Load

/-!
# Settings do not depend on their origin

Every value in a tree of settings remembers where it came from, for diagnostics. Two trees that differ in
this alone are `SettingTree.Alike`. They stay so whatever is put over them, and they are read alike: to the
same settings, or to errors that differ in the origin that they name (`Settings.blind_read`). So a document
is loaded from a file as it is loaded without (`Settings.load_named`).
-/

namespace ScalpBot

/-! ## Trees -/

/-- Members with one name and related values. -/
inductive SameName {α : Type} (R : α → α → Prop) : String × α → String × α → Prop
  | mk (name : String) {a b : α} (related : R a b) : SameName R (name, a) (name, b)

namespace SettingTree

/-- **Trees that differ in the origin of their values**, and in nothing else. -/
inductive Alike : SettingTree → SettingTree → Prop
  | scalar (origin origin' : Option String) (value : SettingScalar) :
      Alike (.scalar origin value) (.scalar origin' value)
  | list (origin origin' : Option String) {xs ys : List SettingTree}
      (items : List.Forall₂ Alike xs ys) : Alike (.list origin xs) (.list origin' ys)
  | table (origin origin' : Option String) {ms ns : List (String × SettingTree)}
      (members : List.Forall₂ (SameName Alike) ms ns) : Alike (.table origin ms) (.table origin' ns)

mutual

theorem Alike.refl : ∀ v : SettingTree, Alike v v
  | .scalar origin c => .scalar origin origin c
  | .list origin items => .list origin origin (alike_items items)
  | .table origin ms => .table origin origin (alike_members ms)

theorem alike_items : ∀ items : List SettingTree, List.Forall₂ Alike items items
  | [] => .nil
  | v :: rest => .cons (.refl v) (alike_items rest)

theorem alike_members : ∀ ms : List (String × SettingTree), List.Forall₂ (SameName Alike) ms ms
  | [] => .nil
  | (name, v) :: rest => .cons (.mk name (.refl v)) (alike_members rest)

end

variable {v w root other : SettingTree} {ms ns : List (String × SettingTree)}

theorem Alike.members (h : Alike v w) : List.Forall₂ (SameName Alike) v.members w.members := by
  cases h with
  | scalar => exact .nil
  | list => exact .nil
  | table _ _ members => exact members

theorem Alike.asTable (h : Alike v w) : Alike v.asTable w.asTable := by
  cases h with
  | scalar => exact .refl _
  | list => exact .refl _
  | table _ _ members => exact .table _ _ members

theorem lookup_alike (h : List.Forall₂ (SameName Alike) ms ns) (key : String) :
    Option.Rel Alike (ms.lookup key) (ns.lookup key) := by
  induction h with
  | nil => exact .none
  | cons head _ ih =>
    obtain ⟨name, hvalue⟩ := head
    rw [List.lookup_cons, List.lookup_cons]
    cases key == name with
    | true => exact .some hvalue
    | false => exact ih

theorem Alike.lookup (h : Alike root other) (key : String) {default : SettingTree} :
    Alike ((root.members.lookup key).getD default) ((other.members.lookup key).getD default) := by
  have hlookup := lookup_alike h.members key
  generalize root.members.lookup key = a, other.members.lookup key = b at hlookup ⊢
  cases hlookup with
  | none => exact .refl _
  | some hvalue => exact hvalue

theorem insertMember_alike (h : List.Forall₂ (SameName Alike) ms ns) (key : String) (hv : Alike v w) :
    List.Forall₂ (SameName Alike) (Json.insertMember key v ms) (Json.insertMember key w ns) := by
  induction h with
  | nil => exact .cons (.mk key hv) .nil
  | cons head rest ih =>
    obtain ⟨name, hvalue⟩ := head
    rw [Json.insertMember, Json.insertMember]
    by_cases hlt : key < name
    · rw [if_pos hlt, if_pos hlt]
      exact .cons (.mk key hv) (.cons (.mk name hvalue) rest)
    · rw [if_neg hlt, if_neg hlt]
      by_cases heq : key = name
      · rw [if_pos heq, if_pos heq]
        exact .cons (.mk key hv) rest
      · rw [if_neg heq, if_neg heq]
        exact .cons (.mk name hvalue) ih

theorem Alike.putMember (h : Alike root other) (key : String) (hv : Alike v w) :
    Alike (root.putMember key v) (other.putMember key w) := by
  cases h with
  | scalar => exact .table _ _ (.cons (.mk key hv) .nil)
  | list => exact .table _ _ (.cons (.mk key hv) .nil)
  | table _ _ members => exact .table _ _ (insertMember_alike members key hv)

mutual

theorem merge_alike (key : String) : ∀ (v : SettingTree) {w root other : SettingTree}, Alike v w →
    Alike root other → Alike (merge key v root) (merge key w other)
  | .table _ ms, _, _, _, .table _ _ members, hroot => by
    rw [merge, merge]
    exact hroot.putMember _ (mergeAll_alike ms members (hroot.lookup _))
  | .scalar _ _, _, _, _, .scalar _ _ c, hroot => by
    rw [merge.eq_2, merge.eq_2]
    · exact hroot.putMember _ (.scalar _ _ c)
    all_goals
      intro _ _ heq
      cases heq
  | .list _ _, _, _, _, .list _ _ items, hroot => by
    rw [merge.eq_2, merge.eq_2]
    · exact hroot.putMember _ (.list _ _ items)
    all_goals
      intro _ _ heq
      cases heq

theorem mergeAll_alike : ∀ (ms : List (String × SettingTree)) {ns : List (String × SettingTree)}
    {target other : SettingTree}, List.Forall₂ (SameName Alike) ms ns → Alike target other →
    Alike (mergeAll ms target) (mergeAll ns other)
  | [], _, _, _, h, htarget => by
    cases h
    exact htarget
  | (key, v) :: rest, _, _, _, h, htarget => by
    cases h with
    | cons head hrest =>
      obtain ⟨-, hv⟩ := head
      rw [mergeAll, mergeAll]
      exact mergeAll_alike rest hrest (merge_alike key v hv htarget)

end

theorem Alike.items (h : Alike v w) : List.Forall₂ Alike v.items w.items := by
  cases h with
  | scalar => exact .nil
  | list _ _ items => exact items
  | table => exact .nil

theorem modify_alike {act act' : SettingTree → SettingTree}
    (hact : ∀ v w, Alike v w → Alike (act v) (act' w)) {xs ys : List SettingTree}
    (h : List.Forall₂ Alike xs ys) (place : Nat) :
    List.Forall₂ Alike (xs.modify place act) (ys.modify place act') := by
  induction h generalizing place with
  | nil => cases place <;> exact .nil
  | cons hhead hrest ih =>
    cases place with
    | zero => exact .cons (hact _ _ hhead) hrest
    | succ place => exact .cons hhead (ih place)

theorem changeItem_alike {act act' : SettingTree → SettingTree}
    (hact : ∀ v w, Alike v w → Alike (act v) (act' w)) (index : Int) (h : Alike v w) :
    Alike (changeItem index act v) (changeItem index act' w) := by
  simp only [changeItem, ← h.items.length_eq]
  exact .list _ _ (modify_alike hact (List.rel_append h.items (alike_items _)) _)

theorem change_alike (path : SettingPath) {act act' : SettingTree → SettingTree}
    (hact : ∀ v w, Alike v w → Alike (act v) (act' w)) (h : Alike root other) :
    Alike (change act path root) (change act' path other) := by
  induction path generalizing act act' with
  | name key => exact h.asTable.putMember _ (hact _ _ (h.lookup _))
  | child parent key ih =>
    exact ih fun v w hvw => hvw.asTable.putMember _ (hact _ _ (hvw.lookup _))
  | item parent index ih => exact ih fun v w hvw => changeItem_alike hact index hvw

theorem set_alike (path : SettingPath) (hv : Alike v w) (h : Alike root other) :
    Alike (set path v root) (set path w other) := by
  cases path with
  | name key => exact merge_alike key v hv h
  | child parent key => exact change_alike parent (fun _ _ hroot => merge_alike key v hv hroot) h
  | item parent index =>
    exact change_alike parent (fun _ _ hroot => changeItem_alike (fun _ _ _ => hv) index hroot) h

/-- **Trees that are put together of what is alike are alike.** -/
theorem overlay_alike {settings settings' : List (String × SettingTree)}
    (h : List.Forall₂ (SameName Alike) settings settings') (hroot : Alike root other) :
    Alike (overlay settings root) (overlay settings' other) := by
  induction h generalizing root other with
  | nil => exact hroot
  | cons head _ ih =>
    obtain ⟨name, hv⟩ := head
    exact ih (set_alike _ hv hroot)

mutual

theorem ofToml_alike (origin origin' : Option String) :
    ∀ v : Toml, Alike (ofToml origin v) (ofToml origin' v)
  | .string _ => .scalar _ _ _
  | .integer _ => .scalar _ _ _
  | .float _ => .scalar _ _ _
  | .boolean _ => .scalar _ _ _
  | .datetime _ => .scalar _ _ _
  | .array items => .list _ _ (ofTomlItems_alike origin origin' items)
  | .table entries => .table _ _ (ofTomlEntries_alike origin origin' entries)

theorem ofTomlItems_alike (origin origin' : Option String) : ∀ items : List Toml,
    List.Forall₂ Alike (ofTomlItems origin items) (ofTomlItems origin' items)
  | [] => .nil
  | v :: rest => .cons (ofToml_alike origin origin' v) (ofTomlItems_alike origin origin' rest)

theorem ofTomlEntries_alike (origin origin' : Option String) : ∀ entries : List (String × Toml),
    List.Forall₂ (SameName Alike) (ofTomlEntries origin entries) (ofTomlEntries origin' entries)
  | [] => .nil
  | (key, v) :: rest =>
    .cons (.mk key (ofToml_alike origin origin' v)) (ofTomlEntries_alike origin origin' rest)

end

end SettingTree

/-! ## Results -/

/-- The error without the origin that it names. -/
def SettingError.withoutOrigin : SettingError → SettingError
  | unsuitable found expected key _ => unsuitable found expected key none
  | misshapen cause => misshapen cause

/-- **Results that agree up to origins**: related values, or errors that differ in the origin alone. -/
inductive Agree {α β : Type} (R : α → β → Prop) :
    Except SettingError α → Except SettingError β → Prop
  | ok {a : α} {b : β} (related : R a b) : Agree R (.ok a) (.ok b)
  | error {c d : SettingError} (same : c.withoutOrigin = d.withoutOrigin) : Agree R (.error c) (.error d)

namespace Agree

variable {α β γ δ : Type} {R : α → β → Prop} {S : γ → δ → Prop} {x : Except SettingError α}
  {y : Except SettingError β}

theorem bind {f : α → Except SettingError γ} {g : β → Except SettingError δ} (h : Agree R x y)
    (hnext : ∀ a b, R a b → Agree S (f a) (g b)) : Agree S (x >>= f) (y >>= g) := by
  cases h with
  | ok related => exact hnext _ _ related
  | error same => exact .error same

theorem map {f : α → γ} {g : β → δ} (h : Agree R x y) (hnext : ∀ a b, R a b → S (f a) (g b)) :
    Agree S (x.map f) (y.map g) := by
  cases h with
  | ok related => exact .ok (hnext _ _ related)
  | error same => exact .error same

theorem imp {Q : α → β → Prop} (h : Agree R x y) (hRQ : ∀ a b, R a b → Q a b) : Agree Q x y := by
  cases h with
  | ok related => exact .ok (hRQ _ _ related)
  | error same => exact .error same

theorem outside (h : Agree R x y) (outer : Option String → String) :
    Agree R (x.mapError (SettingError.outside outer)) (y.mapError (SettingError.outside outer)) := by
  cases h with
  | ok related => exact .ok related
  | @error c d same =>
    refine .error ?_
    cases c <;> cases d <;> simp_all [SettingError.withoutOrigin, SettingError.outside]

theorem mapM {ι κ : Type} {Q : ι → κ → Prop} {f : ι → Except SettingError α}
    {g : κ → Except SettingError β} (hstep : ∀ i j, Q i j → Agree R (f i) (g j)) {is : List ι}
    {js : List κ} (h : List.Forall₂ Q is js) : Agree (List.Forall₂ R) (is.mapM f) (js.mapM g) := by
  induction h with
  | nil => exact .ok .nil
  | cons hhead _ ih =>
    rw [List.mapM_cons, List.mapM_cons]
    exact (hstep _ _ hhead).bind fun a b hab => ih.bind fun as bs hrest => .ok (.cons hab hrest)

end Agree

/-! ## Readers -/

/-- A reader that does not depend on origins. -/
def Blind {α : Type} (read : SettingTree → Except SettingError α) : Prop :=
  ∀ v w, SettingTree.Alike v w → Agree Eq (read v) (read w)

namespace SettingTree

variable {α : Type} {v w : SettingTree} {read : Reader α}

theorem Alike.description (h : Alike v w) : v.description = w.description := by
  cases h with
  | scalar _ _ c => cases c <;> rfl
  | list => rfl
  | table => rfl

theorem Alike.shapeDescription (h : Alike v w) : v.shapeDescription = w.shapeDescription := by
  cases h with
  | scalar _ _ c => cases c <;> rfl
  | list => rfl
  | table => rfl

theorem agree_unsuitable (h : Alike v w) (expected : String) :
    Agree Eq (v.unsuitable expected : Except SettingError α) (w.unsuitable expected) := by
  refine .error ?_
  rw [SettingError.withoutOrigin, SettingError.withoutOrigin, h.description]

theorem agree_misshapen (h : Alike v w) (expected : String) :
    Agree Eq (v.misshapen expected : Except SettingError α) (w.misshapen expected) := by
  refine .error ?_
  rw [h.shapeDescription]

/-- A reader that refuses lists and tables does not depend on origins if it does not on scalars. -/
theorem blind_of_scalar {expected : String}
    (hscalar : ∀ origin origin' c, Agree Eq (read (.scalar origin c)) (read (.scalar origin' c)))
    (hlist : ∀ origin items, read (.list origin items) = (list origin items).unsuitable expected)
    (htable : ∀ origin members, read (.table origin members) = (table origin members).unsuitable expected) :
    Blind read := by
  intro v w h
  cases h with
  | scalar origin origin' c => exact hscalar origin origin' c
  | list _ _ hitems =>
    rw [hlist, hlist]
    exact agree_unsuitable (.list _ _ hitems) _
  | table _ _ hmembers =>
    rw [htable, htable]
    exact agree_unsuitable (.table _ _ hmembers) _

theorem blind_readString : Blind readString := by
  refine blind_of_scalar (fun _ _ c => ?_) (fun _ _ => rfl) fun _ _ => rfl
  cases c with
  | nothing => exact agree_unsuitable (.scalar _ _ _) _
  | _ => exact .ok rfl

theorem blind_readTruth : Blind readTruth := by
  refine blind_of_scalar (fun _ _ c => ?_) (fun _ _ => rfl) fun _ _ => rfl
  cases c with
  | nothing => exact agree_unsuitable (.scalar _ _ _) _
  | text s =>
    rw [readTruth, readTruth]
    split
    · exact .ok rfl
    · split
      · exact .ok rfl
      · exact agree_unsuitable (.scalar _ _ _) _
  | _ => exact .ok rfl

theorem blind_readNatural : Blind readNatural := by
  refine blind_of_scalar (fun _ _ c => ?_) (fun _ _ => rfl) fun _ _ => rfl
  cases c with
  | nothing => exact agree_unsuitable (.scalar _ _ _) _
  | integer n =>
    rw [readNatural, readNatural]
    split
    · exact .ok rfl
    · exact agree_unsuitable (.scalar _ _ _) _
  | text s =>
    rw [readNatural, readNatural]
    split
    · exact .ok rfl
    · split
      · exact .ok rfl
      · split
        · exact .ok rfl
        · exact agree_unsuitable (.scalar _ _ _) _
  | _ => exact .ok rfl

theorem blind_readWord (bits : Nat) : Blind (readWord bits) := by
  intro v w h
  refine (blind_readNatural v w h).bind fun n m hnm => ?_
  subst hnm
  split
  · exact .ok rfl
  · exact .error rfl

theorem blind_readOption (hread : Blind read) : Blind (readOption read) := by
  intro v w h
  have hmap := (hread v w h).map fun a b hab => congrArg some hab
  cases h with
  | scalar _ _ c =>
    cases c with
    | nothing => exact .ok rfl
    | _ => exact hmap
  | list => exact hmap
  | table => exact hmap

theorem agree_readItems (hread : Blind read) {xs ys : List SettingTree} (h : List.Forall₂ Alike xs ys)
    (index : Nat) : Agree Eq (readItems read index xs) (readItems read index ys) := by
  induction h generalizing index with
  | nil => exact .ok rfl
  | cons hhead _ ih =>
    rw [readItems, readItems]
    refine ((hread _ _ hhead).outside _).bind fun a b hab => (ih (index + 1)).bind fun as bs hrest => ?_
    exact .ok (by rw [hab, hrest])

theorem blind_readList (hread : Blind read) : Blind (readList read) := by
  intro v w h
  cases h with
  | scalar _ _ c => exact agree_misshapen (.scalar _ _ c) _
  | list _ _ items => exact agree_readItems hread items 0
  | table _ _ members => exact agree_misshapen (.table _ _ members) _

theorem blind_readDictionary (hread : Blind read) : Blind (readDictionary read) := by
  intro v w h
  cases h with
  | scalar _ _ c => exact agree_misshapen (.scalar _ _ c) _
  | list _ _ items => exact agree_misshapen (.list _ _ items) _
  | table _ _ members =>
    rw [readDictionary, readDictionary]
    refine (Agree.mapM (R := Eq) (fun m n hmn => ?_) members).imp fun as bs h => ?_
    · obtain ⟨name, hvalue⟩ := hmn
      refine ((hread _ _ hvalue).outside _).bind fun a b hab => ?_
      exact .ok (by rw [hab])
    · exact List.forall₂_eq_eq_eq ▸ h

end SettingTree

/-! ## Records -/

/-- Fields that do not depend on origins. -/
structure Fields.Blind {α : Type} (fs : Fields SettingTree SettingError α) : Prop where
  checks : ∀ c ∈ fs.checks, ScalpBot.Blind c.2
  ofMembers : ∀ member? other?, (∀ name, Option.Rel SettingTree.Alike (member? name) (other? name)) →
    Agree Eq (fs.ofMembers member?) (fs.ofMembers other?)
  ofItems : ∀ expected items others, List.Forall₂ SettingTree.Alike items others →
    Agree (fun p q => p.1 = q.1 ∧ List.Forall₂ SettingTree.Alike p.2 q.2)
      (fs.ofItems expected items) (fs.ofItems expected others)

namespace Fields

open SettingTree

variable {α β : Type}

theorem blind_start (a : α) : (start a : Fields SettingTree SettingError α).Blind where
  checks _ h := by cases h
  ofMembers _ _ _ := .ok rfl
  ofItems _ _ _ h := .ok ⟨rfl, h⟩

theorem Blind.field {fs : Fields SettingTree SettingError (α → β)} (h : fs.Blind)
    {f : Field SettingTree SettingError α} (hf : ScalpBot.Blind f.read) : (fs.field f).Blind where
  checks c hc := by
    rcases List.mem_append.mp hc with hc | hc
    · exact h.checks c hc
    · obtain rfl := List.mem_singleton.mp hc
      exact fun v w hvw => (hf v w hvw).map fun _ _ _ => rfl
  ofMembers member? other? hmembers := by
    rw [field_ofMembers, field_ofMembers]
    refine (h.ofMembers member? other? hmembers).bind fun make make' hmake => ?_
    subst hmake
    have hfind : Agree Eq (f.find member?) (f.find other?) := by
      have hname := hmembers f.name
      rw [Field.find, Field.find]
      generalize member? f.name = a, other? f.name = b at hname
      cases hname with
      | some hvalue => exact hf _ _ hvalue
      | none =>
        cases f.absent with
        | some a => exact .ok rfl
        | none => exact .error rfl
    exact hfind.map fun a b hab => congrArg make hab
  ofItems expected items others hitems := by
    rw [field_ofItems, field_ofItems]
    refine (h.ofItems expected items others hitems).bind fun p q hpq => ?_
    obtain ⟨make, rest⟩ := p
    obtain ⟨make', rest'⟩ := q
    obtain ⟨rfl, hrest⟩ := hpq
    cases hrest with
    | nil =>
      simp only [Field.take]
      cases f.short with
      | some a => exact .ok ⟨rfl, .nil⟩
      | none => exact .error rfl
    | cons hhead hrest =>
      simp only [Field.take]
      refine Agree.map (R := fun p q => p.1 = q.1 ∧ List.Forall₂ Alike p.2 q.2)
        (((hf _ _ hhead).outside _).bind fun a b hab => .ok ⟨hab, hrest⟩) fun p q hpq => ?_
      exact ⟨congrArg make hpq.1, hpq.2⟩

/-- The checks of a record find fault with the same members. -/
theorem Blind.check {fs : Fields SettingTree SettingError α} (h : fs.Blind)
    {ms ns : List (String × SettingTree)} (hmembers : List.Forall₂ (SameName Alike) ms ns) :
    Agree Eq (fs.check ms) (fs.check ns) := by
  induction hmembers with
  | nil => exact .ok rfl
  | cons hhead _ ih =>
    obtain ⟨name, hvalue⟩ := hhead
    rw [Fields.check, Fields.check]
    cases hknown : fs.checks.lookup name with
    | none => exact ih
    | some c =>
      have hc : (name, c) ∈ fs.checks := by
        obtain ⟨front, back, hsplit, -⟩ := List.lookup_eq_some_iff.mp hknown
        rw [hsplit]
        exact List.mem_append_right front List.mem_cons_self
      exact ((h.checks _ hc _ _ hvalue).outside _).bind fun _ _ _ => ih

theorem Blind.readRecord {fs : Fields SettingTree SettingError α} (h : fs.Blind) (kind : String) :
    ScalpBot.Blind (SettingTree.readRecord kind fs) := by
  intro v w hvw
  cases hvw with
  | scalar _ _ c => exact agree_misshapen (.scalar _ _ c) _
  | list _ _ items =>
    refine (h.ofItems _ _ _ items).bind fun p q hpq => ?_
    exact .ok hpq.1
  | table _ _ members =>
    refine (h.check members).bind fun _ _ _ => ?_
    exact h.ofMembers _ _ fun name => lookup_alike members name

end Fields

/-! ## Settings -/

open SettingTree

theorem ExchangeSettings.blind_read : Blind (ExchangeSettings.read format) := by
  refine Fields.Blind.readRecord (.field (.field (.field (.field (.field (.field (.field (.field
    (Fields.blind_start _) ?_) ?_) ?_) ?_) ?_) ?_) ?_) ?_) _
  · exact blind_readString
  · exact blind_readOption blind_readString
  · exact blind_readOption blind_readString
  · exact blind_readString
  · exact blind_readWord 64
  · exact blind_readList (blind_readWord 16)
  · exact blind_readList blind_readString
  · exact blind_readTruth

theorem Market.blind_read : Blind (Market.read format) := by
  refine Fields.Blind.readRecord (.field (.field (.field (.field (Fields.blind_start _) ?_) ?_) ?_) ?_) _
  all_goals exact blind_readString

theorem StrategySettings.blind_read : Blind (StrategySettings.read format) := by
  refine Fields.Blind.readRecord (.field (.field (Fields.blind_start _) ?_) ?_) _
  · exact blind_readString
  · exact blind_readDictionary blind_readString

theorem EngineSettings.blind_read : Blind (EngineSettings.read format) := by
  refine Fields.Blind.readRecord (.field (.field (Fields.blind_start _) ?_) ?_) _
  · exact blind_readWord 64
  · exact blind_readString

namespace Settings

/-- **Settings are read without regard to their origins.** -/
theorem blind_read : Blind (read format) := by
  refine Fields.Blind.readRecord (.field (.field (.field (.field (Fields.blind_start _) ?_) ?_) ?_) ?_) _
  · exact ExchangeSettings.blind_read
  · exact Market.blind_read
  · exact StrategySettings.blind_read
  · exact EngineSettings.blind_read

end Settings

/-- The error without the origin that it names. -/
def SettingsError.withoutOrigin : SettingsError → SettingsError
  | malformed => malformed
  | unfit cause => unfit cause.withoutOrigin
  | invalid cause => invalid cause

namespace Settings

/-- Settings are read from the tree of a document and the environment, and validated. -/
theorem load_of_documentEntries {document? : Option SettingDocument}
    {entries : List (String × SettingTree)} (h : documentEntries document? = .ok entries)
    (vars : Environment.Variables) : load document? vars =
      (read format (tree entries vars)).mapError SettingsError.unfit >>=
        fun s => s.validate.mapError SettingsError.invalid := by
  rw [load, h]
  rfl

theorem load_of_parse {text : String} {entries : List (String × Toml)}
    (h : Toml.parse text = some entries) (name? : Option String) (vars : Environment.Variables) :
    load (some ⟨name?, text⟩) vars =
      (read format (tree (ofTomlEntries name? entries) vars)).mapError SettingsError.unfit >>=
        fun s => s.validate.mapError SettingsError.invalid :=
  load_of_documentEntries (by rw [documentEntries, h]) vars

theorem load_of_malformed {text : String} (h : Toml.parse text = none) (name? : Option String)
    (vars : Environment.Variables) : load (some ⟨name?, text⟩) vars = .error .malformed := by
  rw [load, documentEntries, h]
  rfl

/-- **A document is loaded from a file as without one**, up to the origin that an error names. -/
theorem load_named (name? : Option String) (text : String) (vars : Environment.Variables) :
    (load (some ⟨name?, text⟩) vars).mapError SettingsError.withoutOrigin =
      (load (some ⟨none, text⟩) vars).mapError SettingsError.withoutOrigin := by
  cases hparse : Toml.parse text with
  | none => rw [load_of_malformed hparse, load_of_malformed hparse]
  | some entries =>
    have halike : Alike (tree (ofTomlEntries name? entries) vars) (tree (ofTomlEntries none entries) vars) :=
      overlay_alike (alike_members _) (overlay_alike (ofTomlEntries_alike _ _ entries) (.refl _))
    have hread := blind_read _ _ halike
    rw [load_of_parse hparse, load_of_parse hparse]
    generalize read format (tree (ofTomlEntries name? entries) vars) = x at hread ⊢
    generalize read format (tree (ofTomlEntries none entries) vars) = y at hread ⊢
    cases hread with
    | ok related => rw [related]
    | @error c d same =>
      show Except.error (SettingsError.unfit c.withoutOrigin) = .error (.unfit d.withoutOrigin)
      rw [same]

end Settings

end ScalpBot
