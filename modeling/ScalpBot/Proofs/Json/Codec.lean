import ScalpBot.Proofs.Json.Text
import ScalpBot.Proofs.Record
import ScalpBot.Market.Json

/-!
# Types that are read from JSON and written to it

A `Codec` is how a type is read and written, with the parts of a value that it keeps as they are. It is
faithful (`Codec.Faithful`) if what was read and written is read again as the same, as a value and, where
the floats of the free parts are read back, as a text (`Codec.Faithful.decodeText_toText`).

A record is written with its fields for members, from which its fields are read
(`decodeRecord_ofMembers`).
-/

namespace ScalpBot.Json

variable {α : Type} {v : Json}

/-- **A record is read from its fields for members.** -/
theorem decodeRecord_ofMembers (name : String) {fs : Fields Json DecodeError α}
    {members : List (String × Json)} {a : α} (h : fs.Makes members a)
    (hkeys : (fs.checks.map (·.1)).Nodup) : decodeRecord name fs (ofMembers members) = .ok a := by
  have hordered : Ordered (members.foldl (fun acc m => insertMember m.1 m.2 acc) []) :=
    ordered_foldl_insertMember .nil members
  have hfound : ∀ m ∈ members,
      (members.foldl (fun acc m => insertMember m.1 m.2 acc) []).lookup m.1 = some m.2 := fun m hm =>
    (lookup_eq_some_iff_mem hordered).mpr (mem_foldl_insertMember_of_nodup (h.names ▸ hkeys) hm)
  refine (Fields.readMembers_eq_ok_iff h.consistent fun m hm => ?_).mpr (h.ofMembers _ hfound)
  exact (lookup_eq_some_iff_mem hordered).mpr hm

/-- The values that stand in an array or an object. -/
def parts : Json → List Json
  | .array items => items
  | .object members => members.map (·.2)
  | _ => []

theorem Built.part {P : JsonNumber → Prop} {levels : Nat} (h : Built P (levels + 1) v) :
    ∀ part ∈ v.parts, Built P levels part := by
  cases h with
  | array h => exact h
  | object _ h =>
    intro part hpart
    obtain ⟨m, hm, rfl⟩ := List.mem_map.mp hpart
    exact h m hm
  | _ =>
    intro part hpart
    cases hpart

/-- A record gives what its fields give of the parts of the value. -/
theorem gives_decodeRecord (name : String) {fs : Fields Json DecodeError α} {C : Json → Prop}
    {P : α → Prop} (h : fs.Gives C P) :
    Gives (decodeRecord name fs) (fun v => ∀ part ∈ v.parts, C part) P := by
  intro v a hparts hread
  cases v with
  | object members =>
    obtain ⟨_, -, hread⟩ := bind_eq_ok_iff.mp hread
    refine h.ofMembers _ a (fun key w hw => ?_) hread
    obtain ⟨before, after, rfl, -⟩ := List.lookup_eq_some_iff.mp hw
    exact hparts w (List.mem_map.mpr ⟨_, List.mem_append_right before List.mem_cons_self, rfl⟩)
  | array items =>
    obtain ⟨⟨b, rest⟩, hitem, hread⟩ := bind_eq_ok_iff.mp hread
    have hb := (h.ofItems _ items b rest hparts hitem).1
    simp only at hread
    split at hread
    · cases hread
      exact hb
    · cases hread
  | _ => cases hread

/-! ## Texts, options and lists -/

theorem decodeString_string (s : String) : decodeString (.string s) = .ok s := rfl

theorem decodeOption_ofOption {decode : Decoder α} {encode : α → Json} {o : Option α}
    (h : ∀ a, o = some a → decode (encode a) = .ok a) (hnull : ∀ a, encode a ≠ .null) :
    decodeOption decode (ofOption encode o) = .ok o := by
  cases o with
  | none => rfl
  | some a =>
    have hread := h a rfl
    have hne := hnull a
    rw [ofOption]
    generalize encode a = v at hread hne
    cases v with
    | null => exact absurd rfl hne
    | _ => exact map_eq_ok_iff.mpr ⟨a, hread, rfl⟩

theorem of_decodeOption {decode : Decoder α} {o : Option α} {a : α}
    (h : decodeOption decode v = .ok o) (ho : o = some a) : decode v = .ok a := by
  subst ho
  cases v with
  | null => cases h
  | _ =>
    obtain ⟨b, hb, ⟨⟩⟩ := map_eq_ok_iff.mp h
    exact hb

section Gives

variable {decode : Decoder α} {C : Json → Prop} {Q : α → Prop} (name : String)
  (h : Gives decode C Q)
include h

theorem gives_optionalMember :
    (Field.optionalMember format name decode).Gives C fun o => ∀ a, o = some a → Q a where
  read v _ hv hread a ho := h v a hv (of_decodeOption hread ho)
  absent _ hnone a ho := by
    cases hnone
    cases ho
  short _ hnone := by cases hnone

theorem gives_optional :
    (Field.optional format name decode).Gives C fun o => ∀ a, o = some a → Q a :=
  Field.gives_withDefault name (fun v _ hv hread a ho => h v a hv (of_decodeOption hread ho))
    fun _ hnone => by cases hnone

end Gives

theorem built_ofOption {P : JsonNumber → Prop} {levels : Nat} {encode : α → Json} {o : Option α}
    (h : ∀ a, o = some a → Built P levels (encode a)) : Built P levels (ofOption encode o) := by
  cases o with
  | none => exact .null
  | some a => exact h a rfl

theorem decodeList_map {decode : Decoder α} {encode : α → Json} {as : List α}
    (h : ∀ a ∈ as, decode (encode a) = .ok a) : decodeList decode (.array (as.map encode)) = .ok as := by
  refine mapM_eq_ok_iff.mpr (List.forall₂_map_left_iff.mpr ?_)
  exact List.forall₂_same.mpr h

/-! ## Codecs -/

/-- How a type is read and written. -/
structure Codec (α : Type) where
  decode : Decoder α
  encode : α → Json
  /-- The parts of a value that are kept as they were read, whatever they are. -/
  free : α → List Json := fun _ => []

/-- If the value is an object, its members stand in order and no key stands twice. -/
def Keyed (v : Json) : Prop := ∀ members, v = .object members → Ordered members

/-- The floats that stand in a value are read back. -/
def FloatsReadBack (v : Json) : Prop := ∀ n ∈ v.numbers, n.isFloat = true → n.ReadBack

instance (v : Json) : Decidable (FloatsReadBack v) :=
  inferInstanceAs (Decidable (∀ n ∈ v.numbers, n.isFloat = true → n.ReadBack))

/-- **A codec is faithful** if what was read and written is read again as the same. -/
structure Codec.Faithful (c : Codec α) : Prop where
  decode_encode : ∀ {v a}, Keyed v → c.decode v = .ok a → c.decode (c.encode a) = .ok a
  built_encode : ∀ {v a}, Built JsonNumber.InRange 127 v → c.decode v = .ok a →
    (∀ part ∈ c.free a, FloatsReadBack part) → Built JsonNumber.ReadBack 127 (c.encode a)

theorem Built.keyed {P : JsonNumber → Prop} {levels : Nat} (h : Built P levels v) : Keyed v := by
  rintro members rfl
  cases h with
  | object hordered _ => exact hordered

/-- All its numbers are read back where its floats are. -/
theorem Built.readBack {levels : Nat} (h : Built JsonNumber.InRange levels v)
    (hfloats : FloatsReadBack v) : Built JsonNumber.ReadBack levels v := by
  refine h.imp fun n hn hrange => ?_
  cases n with
  | integer n => exact JsonNumber.readBack_of_inRange hrange
  | float x => exact hfloats _ hn rfl

theorem decodeText_eq_ok_iff {decode : Decoder α} {text : String} {a : α} :
    decodeText decode text = .ok a ↔ ∃ v, parse text = some v ∧ decode v = .ok a := by
  rw [decodeText]
  cases parse text with
  | none => simp
  | some v => cases hv : decode v <;> simp [hv]

/-- **What a faithful codec wrote as a text it reads again.** -/
theorem Codec.Faithful.decodeText_toText {c : Codec α} (h : c.Faithful) {text : String} {a : α}
    (hread : decodeText c.decode text = .ok a) (hfree : ∀ part ∈ c.free a, FloatsReadBack part) :
    decodeText c.decode (c.encode a).toText = .ok a := by
  obtain ⟨v, hparse, hdecode⟩ := decodeText_eq_ok_iff.mp hread
  have hbuilt := built_of_parse hparse
  exact decodeText_eq_ok_iff.mpr ⟨c.encode a, parse_toText (h.built_encode hbuilt hdecode hfree),
    h.decode_encode hbuilt.keyed hdecode⟩

/-- A codec is faithful if all that is read has a property with which it is read again. -/
theorem Codec.faithful_of {c : Codec α} (P : α → Prop) (hread : Gives c.decode (fun _ => True) P)
    (hback : ∀ a, P a → c.decode (c.encode a) = .ok a)
    (hbuilt : ∀ a, P a → Built JsonNumber.ReadBack 3 (c.encode a)) : c.Faithful where
  decode_encode _ h := hback _ (hread _ _ trivial h)
  built_encode _ h _ := (hbuilt _ (hread _ _ trivial h)).mono (by omega)

end ScalpBot.Json
