import ScalpBot.Proofs.Result
import ScalpBot.Record

/-!
# Reading a record, field by field

A record is read in one go, but it comes to a value exactly where each of its fields does. A field takes
its value from the member with its name (`Field.find`) or from the next item of a list (`Field.take`),
and both forms of a record with one more field are told by these (`Fields.field_ofMembers_eq_ok_iff`,
`Fields.field_ofItems_eq_ok_iff`).

Members are checked before they are used, so that the first that does not fit is reported. Where no name
stands twice the check refuses nothing that the fields take (`Fields.readMembers_eq_ok_iff`).
-/

namespace ScalpBot

variable {V ε α β : Type} [RecordError ε]

/-! ## One field -/

namespace Field

/-- The value of a field among named members. -/
def find (f : Field V ε α) (member? : String → Option V) : Except ε α :=
  match member? f.name with
  | some v => f.read v
  | none =>
    match f.absent with
    | some a => .ok a
    | none => .error (RecordError.missingField f.name)

/-- The value of a field at the front of a list, and the items after it; `place` items stood before. -/
def take (f : Field V ε α) (place : Nat) (expected : String) : List V → Except ε (α × List V)
  | v :: rest => do
    let a ← (f.read v).mapError (RecordError.atItem place)
    return (a, rest)
  | [] =>
    match f.short with
    | some a => return (a, [])
    | none => .error (RecordError.invalidLength place expected)

variable {name : String} {read : V → Except ε α} {member? : String → Option V} {a default : α}

theorem find_required_eq_ok_iff :
    (required name read).find member? = .ok a ↔ ∃ v, member? name = some v ∧ read v = .ok a := by
  cases h : member? name <;> simp [find, required, h]

theorem find_withDefault_eq_ok_iff :
    (withDefault name default read).find member? = .ok a ↔
      (∃ v, member? name = some v ∧ read v = .ok a) ∨ member? name = none ∧ a = default := by
  cases h : member? name <;> simp [find, withDefault, h, eq_comm]

theorem take_required_eq_ok_iff {place : Nat} {expected : String} {items rest : List V} :
    (required name read).take place expected items = .ok (a, rest) ↔
      ∃ v, items = v :: rest ∧ read v = .ok a := by
  cases items with
  | nil => simp [take, required]
  | cons v items =>
    cases h : read v <;> simp [take, required, h, Except.mapError, eq_comm, and_comm]

end Field

namespace Fields

/-! ## One more field -/

variable {fs : Fields V ε (α → β)} {f : Field V ε α} {b : β}

theorem field_ofMembers (member? : String → Option V) :
    (fs.field f).ofMembers member? =
      fs.ofMembers member? >>= fun make => (f.find member?).map make := by
  refine congrArg (fs.ofMembers member? >>= ·) (funext fun make => ?_)
  rw [Field.find]
  cases member? f.name with
  | some v => cases f.read v <;> rfl
  | none => cases f.absent <;> rfl

theorem field_ofItems (expected : String) (items : List V) :
    (fs.field f).ofItems expected items =
      fs.ofItems expected items >>= fun (make, rest) =>
        (f.take fs.checks.length expected rest).map fun (a, rest) => (make a, rest) := by
  refine congrArg (fs.ofItems expected items >>= ·) (funext fun (make, rest) => ?_)
  cases rest with
  | cons v rest =>
    simp only [Field.take]
    cases (f.read v).mapError _ <;> rfl
  | nil =>
    simp only [Field.take]
    cases f.short <;> rfl

/-- A record with one more field is read from members where the field is read too. -/
theorem field_ofMembers_eq_ok_iff {member? : String → Option V} :
    (fs.field f).ofMembers member? = .ok b ↔
      ∃ make a, fs.ofMembers member? = .ok make ∧ f.find member? = .ok a ∧ make a = b := by
  simp only [field_ofMembers, bind_eq_ok_iff, map_eq_ok_iff, exists_and_left]

/-- And from items where it is read from those that are left. -/
theorem field_ofItems_eq_ok_iff {expected : String} {items rest : List V} :
    (fs.field f).ofItems expected items = .ok (b, rest) ↔
      ∃ make middle a, fs.ofItems expected items = .ok (make, middle) ∧
        f.take fs.checks.length expected middle = .ok (a, rest) ∧ make a = b := by
  simp [field_ofItems, bind_eq_ok_iff, map_eq_ok_iff]

/-! ## The first field -/

section First

variable {γ : Type} {first : Field V ε γ} {P : γ → α → Prop}

/-- In both forms, a record is in the relation `P` to the value of its first field. -/
structure Leads (fs : Fields V ε α) (first : Field V ε γ) (P : γ → α → Prop) : Prop where
  ofMembers : ∀ {member? a}, fs.ofMembers member? = .ok a →
    ∃ x, first.find member? = .ok x ∧ P x a
  ofItems : ∀ {expected items a rest}, fs.ofItems expected items = .ok (a, rest) →
    ∃ x more, first.take 0 expected items = .ok (x, more) ∧ P x a

theorem leads_start (make : γ → α) (first : Field V ε γ) :
    ((start make).field first).Leads first fun x a => make x = a where
  ofMembers h := by
    obtain ⟨_, x, ⟨⟩, hfind, hmake⟩ := field_ofMembers_eq_ok_iff.mp h
    exact ⟨x, hfind, hmake⟩
  ofItems h := by
    obtain ⟨_, _, x, ⟨⟩, htake, hmake⟩ := field_ofItems_eq_ok_iff.mp h
    exact ⟨x, _, htake, hmake⟩

theorem Leads.field {fs : Fields V ε (α → β)} {P : γ → (α → β) → Prop} (h : fs.Leads first P)
    (f : Field V ε α) : (fs.field f).Leads first fun x b => ∃ make a, P x make ∧ make a = b where
  ofMembers hread := by
    obtain ⟨make, a, hmake, -, hb⟩ := field_ofMembers_eq_ok_iff.mp hread
    obtain ⟨x, hfind, hx⟩ := h.ofMembers hmake
    exact ⟨x, hfind, make, a, hx, hb⟩
  ofItems hread := by
    obtain ⟨make, middle, a, hmake, -, hb⟩ := field_ofItems_eq_ok_iff.mp hread
    obtain ⟨x, more, htake, hx⟩ := h.ofItems hmake
    exact ⟨x, more, htake, make, a, hx, hb⟩

theorem Leads.imp {fs : Fields V ε α} {Q : γ → α → Prop} (h : fs.Leads first P)
    (hPQ : ∀ x a, P x a → Q x a) : fs.Leads first Q where
  ofMembers hread := by
    obtain ⟨x, hfind, hx⟩ := h.ofMembers hread
    exact ⟨x, hfind, hPQ x _ hx⟩
  ofItems hread := by
    obtain ⟨x, more, htake, hx⟩ := h.ofItems hread
    exact ⟨x, more, htake, hPQ x _ hx⟩

end First

/-! ## Checking the members -/

section Check

variable {fs : Fields V ε α} {members : List (String × V)}

/-- The check passes where the value of each member that the record knows fits. -/
theorem check_eq_ok_iff :
    fs.check members = .ok () ↔
      ∀ m ∈ members, ∀ c, fs.checks.lookup m.1 = some c → c m.2 = .ok () := by
  induction members with
  | nil => simp [check]
  | cons m rest ih =>
    obtain ⟨name, v⟩ := m
    rw [List.forall_mem_cons, ← ih, check]
    cases hknown : fs.checks.lookup name with
    | none => simp
    | some c =>
      simp only [bind_eq_ok_iff, mapError_eq_ok_iff, Option.some.injEq, forall_eq']
      exact ⟨fun ⟨(), hc, hrest⟩ => ⟨hc, hrest⟩, fun ⟨hc, hrest⟩ => ⟨(), hc, hrest⟩⟩

/-- Whether the checks ask no more than the fields. -/
def Consistent (fs : Fields V ε α) : Prop :=
  ∀ member? a, fs.ofMembers member? = .ok a → ∀ name c v, fs.checks.lookup name = some c →
    member? name = some v → c v = .ok ()

omit [RecordError ε] in
theorem consistent_start (a : α) : (start a : Fields V ε α).Consistent := by
  intro member? a' _ name c v hknown
  cases hknown

theorem Consistent.field {fs : Fields V ε (α → β)} (h : fs.Consistent) (f : Field V ε α) :
    (fs.field f).Consistent := by
  intro member? b hread name c v hknown hv
  obtain ⟨make, a, hmake, hfind, -⟩ := field_ofMembers_eq_ok_iff.mp hread
  rw [Fields.field, List.lookup_append, Option.or_eq_some_iff] at hknown
  rcases hknown with hknown | ⟨-, hknown⟩
  · exact h member? make hmake name c v hknown hv
  · rw [List.lookup_cons] at hknown
    split at hknown
    · -- the check of the field reads it and forgets the value
      rename_i hname
      obtain rfl := eq_of_beq hname
      obtain rfl := Option.some.inj hknown
      simp only [Field.find, hv] at hfind
      exact map_eq_ok_iff.mpr ⟨a, hfind, rfl⟩
    · cases hknown

/-- **Where no name stands twice, a record is read from members where its fields are.** -/
theorem readMembers_eq_ok_iff (h : fs.Consistent)
    (hmembers : ∀ m ∈ members, members.lookup m.1 = some m.2) {a : α} :
    fs.readMembers members = .ok a ↔ fs.ofMembers (fun name => members.lookup name) = .ok a := by
  rw [readMembers, bind_eq_ok_iff]
  refine ⟨fun ⟨_, _, hread⟩ => hread, fun hread => ⟨(), ?_, hread⟩⟩
  exact check_eq_ok_iff.mpr fun m hm c hknown => h _ a hread m.1 c m.2 hknown (hmembers m hm)

end Check

/-! ## A record that was written -/

section Makes

/-- Wherever these members are found, the fields make the record `a` of them. -/
structure Makes (fs : Fields V ε α) (members : List (String × V)) (a : α) : Prop where
  consistent : fs.Consistent
  /-- The members have the names of the fields. -/
  names : members.map (·.1) = fs.checks.map (·.1)
  ofMembers : ∀ member?, (∀ m ∈ members, member? m.1 = some m.2) → fs.ofMembers member? = .ok a

omit [RecordError ε] in
theorem makes_start (a : α) : (start a : Fields V ε α).Makes [] a :=
  ⟨consistent_start a, rfl, fun _ _ => rfl⟩

/-- One more field is made of one more member, from which it is read. -/
theorem Makes.field {fs : Fields V ε (α → β)} {members : List (String × V)} {make : α → β}
    (h : fs.Makes members make) {f : Field V ε α} {v : V} {a : α} (hread : f.read v = .ok a) :
    (fs.field f).Makes (members ++ [(f.name, v)]) (make a) where
  consistent := h.consistent.field f
  names := by simp [Fields.field, h.names]
  ofMembers member? hmembers := by
    obtain ⟨hbefore, hlast⟩ := List.forall_mem_append.mp hmembers
    have hfind : f.find member? = .ok a := by
      have hv : member? f.name = some v := hlast _ List.mem_cons_self
      rw [Field.find, hv]
      exact hread
    exact field_ofMembers_eq_ok_iff.mpr ⟨make, a, h.ofMembers member? hbefore, hfind, rfl⟩

variable {fs : Fields V ε (α → β)} {members : List (String × V)} {make : α → β} {v : V}

theorem Makes.required {read : V → Except ε α} {a : α} (h : fs.Makes members make) (name : String)
    (hread : read v = .ok a) :
    (fs.field (.required name read)).Makes (members ++ [(name, v)]) (make a) :=
  h.field hread

theorem Makes.withDefault {read : V → Except ε α} {a : α} (h : fs.Makes members make) (name : String)
    (default : α) (hread : read v = .ok a) :
    (fs.field (.withDefault name default read)).Makes (members ++ [(name, v)]) (make a) :=
  h.field hread

end Makes

end Fields

/-! ## What is read of a record -/

section Gives

/-- Of values with `C`, a reader gives something with `Q`. -/
def Gives (read : V → Except ε α) (C : V → Prop) (Q : α → Prop) : Prop :=
  ∀ v a, C v → read v = .ok a → Q a

variable {C : V → Prop} {Q : α → Prop} {read : V → Except ε α} {default : α}

/-- So does a field, also where it is left out. -/
structure Field.Gives (f : Field V ε α) (C : V → Prop) (Q : α → Prop) : Prop where
  read : ScalpBot.Gives f.read C Q
  absent : ∀ a, f.absent = some a → Q a
  short : ∀ a, f.short = some a → Q a

omit [RecordError ε] in
theorem Field.gives_any (f : Field V ε α) : f.Gives C fun _ => True :=
  ⟨fun _ _ _ _ => trivial, fun _ _ => trivial, fun _ _ => trivial⟩

omit [RecordError ε] in
theorem Field.gives_required (name : String) (h : ScalpBot.Gives read C Q) :
    (required name read).Gives C Q where
  read := h
  absent _ hnone := by cases hnone
  short _ hnone := by cases hnone

omit [RecordError ε] in
theorem Field.gives_withDefault (name : String) (h : ScalpBot.Gives read C Q) (hdefault : Q default) :
    (withDefault name default read).Gives C Q where
  read := h
  absent _ hsome := Option.some.inj hsome ▸ hdefault
  short _ hsome := Option.some.inj hsome ▸ hdefault

/-- Of values with `C`, a record with `P` is read in both forms. -/
structure Fields.Gives (fs : Fields V ε α) (C : V → Prop) (P : α → Prop) : Prop where
  ofMembers : ∀ member? a, (∀ name v, member? name = some v → C v) →
    fs.ofMembers member? = .ok a → P a
  ofItems : ∀ expected items a rest, (∀ v ∈ items, C v) → fs.ofItems expected items = .ok (a, rest) →
    P a ∧ ∀ v ∈ rest, C v

omit [RecordError ε] in
theorem Fields.gives_start (a : α) : (start a : Fields V ε α).Gives C fun b => b = a where
  ofMembers _ _ _ h := by
    cases h
    rfl
  ofItems _ _ _ _ hitems h := by
    cases h
    exact ⟨rfl, hitems⟩

theorem Fields.Gives.field {fs : Fields V ε (α → β)} {P : (α → β) → Prop} (h : fs.Gives C P)
    {f : Field V ε α} (hf : f.Gives C Q) :
    (fs.field f).Gives C fun b => ∃ make a, P make ∧ Q a ∧ make a = b where
  ofMembers member? b hmembers hread := by
    obtain ⟨make, a, hmake, hfind, hb⟩ := field_ofMembers_eq_ok_iff.mp hread
    refine ⟨make, a, h.ofMembers member? make hmembers hmake, ?_, hb⟩
    rw [Field.find] at hfind
    split at hfind
    · exact hf.read _ a (hmembers f.name _ ‹_›) hfind
    · split at hfind
      · cases hfind
        exact hf.absent a ‹_›
      · cases hfind
  ofItems expected items b rest hitems hread := by
    obtain ⟨make, middle, a, hmake, htake, hb⟩ := field_ofItems_eq_ok_iff.mp hread
    obtain ⟨hP, hmiddle⟩ := h.ofItems expected items make middle hitems hmake
    cases middle with
    | cons v middle =>
      obtain ⟨hv, hrest⟩ := List.forall_mem_cons.mp hmiddle
      obtain ⟨x, hx, ⟨⟩⟩ := bind_eq_ok_iff.mp htake
      exact ⟨⟨make, a, hP, hf.read v a hv (mapError_eq_ok_iff.mp hx), hb⟩, hrest⟩
    | nil =>
      rw [Field.take] at htake
      split at htake
      · cases htake
        exact ⟨⟨make, a, hP, hf.short a ‹_›, hb⟩, hmiddle⟩
      · cases htake

omit [RecordError ε] in
theorem Fields.Gives.imp {fs : Fields V ε α} {P P' : α → Prop} (h : fs.Gives C P) (hP : ∀ a, P a → P' a) :
    fs.Gives C P' where
  ofMembers member? a hmembers hread := hP a (h.ofMembers member? a hmembers hread)
  ofItems expected items a rest hitems hread :=
    (h.ofItems expected items a rest hitems hread).imp_left (hP a)

variable {fs : Fields V ε (α → β)} {P : (α → β) → Prop}

/-- One more field, of which nothing is asked. -/
theorem Fields.Gives.any (h : fs.Gives C P) (f : Field V ε α) :
    (fs.field f).Gives C fun b => ∃ make a, P make ∧ make a = b :=
  (h.field f.gives_any).imp fun _ ⟨make, a, hmake, _, hb⟩ => ⟨make, a, hmake, hb⟩

end Gives

end ScalpBot
