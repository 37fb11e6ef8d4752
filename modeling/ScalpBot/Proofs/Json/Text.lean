import Mathlib.Data.List.DropRight
import ScalpBot.Proofs.Json.Members
import ScalpBot.Proofs.Json.Number

/-!
# A value is read back

`Json.parse_toText`: the text of a value is read as this value, if its numbers are read back, its members
stand in order and it opens at most 127 levels (`Json.Built`). Every value that was read is built so, but
for its floats (`Json.built_of_parse`).
-/

namespace ScalpBot.Json

/-! ## Strings -/

section Strings

variable {fuel : Nat} {read cs rest : List Char}

theorem fourHex?_append {n : Nat} {ds : List Char} (h : fourHex? ds = some (n, [])) :
    fourHex? (ds ++ rest) = some (n, rest) := by
  match ds, h with
  | a :: b :: c :: d :: tail, h =>
    simp only [fourHex?, List.cons_append] at h ⊢
    split at h
    · cases h
      rfl
    · cases h

/-- The digits of a control character. -/
theorem fourHex?_control : ∀ n < 32,
    fourHex? (List.replicate (4 - (Nat.toDigits 16 n).length) '0' ++ Nat.toDigits 16 n) =
      some (n, []) := by
  decide +kernel

theorem escape?_controlEscape {c : Char} (hc : c.toNat < 32) (rest : List Char) :
    ∃ ds, controlEscape c = '\\' :: ds ∧ escape? (ds ++ rest) = some (c, rest) := by
  refine ⟨_, rfl, ?_⟩
  have hread : fourHex? (List.replicate (4 - (Nat.toDigits 16 c.toNat).length) '0' ++
      Nat.toDigits 16 c.toNat ++ rest) = some (c.toNat, rest) :=
    fourHex?_append (fourHex?_control c.toNat hc)
  have hlow : (decide (0xD800 ≤ c.toNat) && decide (c.toNat < 0xDC00)) = false := by
    rw [decide_eq_false (by omega : ¬ 0xD800 ≤ c.toNat), Bool.false_and]
  have hhigh : (decide (0xDC00 ≤ c.toNat) && decide (c.toNat < 0xE000)) = false := by
    rw [decide_eq_false (by omega : ¬ 0xDC00 ≤ c.toNat), Bool.false_and]
  rw [List.cons_append, escape?]
  simp only [hread, hlow, hhigh, Bool.false_eq_true, if_false, Char.ofNat_toNat]

/-- Each character is read from its form in a string. -/
theorem readString_stringChar (c : Char) :
    readString (fuel + 1) read (stringChar c ++ rest) = readString fuel (c :: read) rest := by
  rw [stringChar.eq_def]
  split
  case h_8 hquote hbackslash _ _ _ _ _ =>
    split
    · rename_i hcontrol
      obtain ⟨ds, hds, hescape⟩ := escape?_controlEscape hcontrol rest
      rw [hds, List.cons_append, readString]
      simp only [hescape]
    · rename_i hplain
      rw [List.cons_append, List.nil_append, readString, if_neg hplain]
      · exact hquote
      · exact hbackslash
  all_goals rfl

/-- **A string is read back.** -/
theorem readString_flatMap (s : List Char) (hfuel : s.length < fuel) :
    readString fuel read (s.flatMap stringChar ++ '"' :: rest) =
      some (String.ofList (read.reverse ++ s), rest) := by
  obtain ⟨fuel, rfl⟩ := Nat.exists_eq_add_of_lt hfuel
  induction s generalizing read with
  | nil =>
    rw [List.append_nil]
    rfl
  | cons c s ih =>
    rw [List.flatMap_cons, List.append_assoc, List.length_cons, Nat.add_right_comm s.length 1,
      readString_stringChar, ih (by omega), List.reverse_cons, List.append_assoc]
    rfl

theorem stringChar_ne_nil (c : Char) : stringChar c ≠ [] := by
  rw [stringChar.eq_def]
  split
  case h_8 =>
    split
    · exact List.cons_ne_nil _ _
    · exact List.cons_ne_nil _ _
  all_goals exact List.cons_ne_nil _ _

theorem length_le_length_flatMap (s : List Char) : s.length ≤ (s.flatMap stringChar).length := by
  induction s with
  | nil => exact Nat.le_refl 0
  | cons c s ih =>
    have hpos := List.length_pos_iff.mpr (stringChar_ne_nil c)
    rw [List.flatMap_cons, List.length_append, List.length_cons]
    omega

/-- A string is read back up to its closing quote. -/
theorem readString_quoted (s : String) (rest : List Char) :
    readString ((s.toList.flatMap stringChar ++ '"' :: rest).length + 1) []
      (s.toList.flatMap stringChar ++ '"' :: rest) = some (s, rest) := by
  have hlength := length_le_length_flatMap s.toList
  rw [readString_flatMap _ (by rw [List.length_append]; omega), List.reverse_nil, List.nil_append,
    String.ofList_toList]

end Strings

/-! ## How values are built -/

/-- **A value with numbers of a kind**, with the members of its objects in order, that opens at most
`levels` levels. -/
inductive Built (P : JsonNumber → Prop) : (levels : Nat) → Json → Prop where
  | null {levels} : Built P levels .null
  | bool {levels} (b : Bool) : Built P levels (.bool b)
  | number {levels n} (h : P n) : Built P levels (.number n)
  | string {levels} (s : String) : Built P levels (.string s)
  | array {levels items} (h : ∀ v ∈ items, Built P levels v) : Built P (levels + 1) (.array items)
  | object {levels members} (hordered : Ordered members) (h : ∀ m ∈ members, Built P levels m.2) :
      Built P (levels + 1) (.object members)

variable {P Q : JsonNumber → Prop} {levels : Nat} {v : Json}

theorem Built.mono (h : Built P levels v) {more : Nat} (hmore : levels ≤ more) : Built P more v := by
  induction h generalizing more with
  | null => exact .null
  | bool b => exact .bool b
  | number h => exact .number h
  | string s => exact .string s
  | array _ ih =>
    obtain ⟨more, rfl⟩ := Nat.exists_eq_add_of_lt (Nat.lt_of_succ_le hmore)
    exact .array fun v hv => ih v hv (by omega)
  | object hordered _ ih =>
    obtain ⟨more, rfl⟩ := Nat.exists_eq_add_of_lt (Nat.lt_of_succ_le hmore)
    exact .object hordered fun m hm => ih m hm (by omega)

mutual

/-- The numbers that stand in a value. -/
def numbers : Json → List JsonNumber
  | .number n => [n]
  | .array items => itemNumbers items
  | .object members => memberNumbers members
  | _ => []

/-- The numbers that stand in the items of an array. -/
def itemNumbers : List Json → List JsonNumber
  | [] => []
  | v :: rest => v.numbers ++ itemNumbers rest

/-- The numbers that stand in the members of an object. -/
def memberNumbers : List (String × Json) → List JsonNumber
  | [] => []
  | (_, v) :: rest => v.numbers ++ memberNumbers rest

end

theorem mem_itemNumbers {n : JsonNumber} {items : List Json} :
    n ∈ itemNumbers items ↔ ∃ v ∈ items, n ∈ v.numbers := by
  induction items with
  | nil => simp [itemNumbers]
  | cons v items ih => simp [itemNumbers, ih]

theorem mem_memberNumbers {n : JsonNumber} {members : List (String × Json)} :
    n ∈ memberNumbers members ↔ ∃ m ∈ members, n ∈ m.2.numbers := by
  induction members with
  | nil => simp [memberNumbers]
  | cons m members ih => simp [memberNumbers, ih]

/-- A value is of the other kind where its numbers are. -/
theorem Built.imp (h : Built P levels v) (hnumbers : ∀ n ∈ v.numbers, P n → Q n) :
    Built Q levels v := by
  induction h with
  | null => exact .null
  | bool b => exact .bool b
  | number h => exact .number (hnumbers _ (by simp [numbers]) h)
  | string s => exact .string s
  | array _ ih =>
    rw [numbers] at hnumbers
    exact .array fun v hv => ih v hv fun n hn => hnumbers n (mem_itemNumbers.mpr ⟨v, hv, hn⟩)
  | object hordered _ ih =>
    rw [numbers] at hnumbers
    exact .object hordered fun m hm =>
      ih m hm fun n hn => hnumbers n (mem_memberNumbers.mpr ⟨m, hm, hn⟩)

/-! ## Members in order -/

/-- A member behind all others is added at the end. -/
theorem insertMember_of_lt {α : Type} {key : String} {value : α} {members : List (String × α)}
    (h : ∀ m ∈ members, m.1 < key) : insertMember key value members = members ++ [(key, value)] := by
  induction members with
  | nil => rfl
  | cons m members ih =>
    obtain ⟨k, v⟩ := m
    obtain ⟨hm, hmembers⟩ := List.forall_mem_cons.mp h
    have hne : key ≠ k := fun heq => String.lt_irrefl k (heq ▸ hm)
    rw [insertMember, if_neg (String.lt_asymm hm), if_neg hne, ih hmembers, List.cons_append]

/-- Members in order make an object as they are. -/
theorem ofMembers_of_ordered {members : List (String × Json)} (h : Ordered members) :
    ofMembers members = .object members := by
  have hadd : ∀ acc, Ordered (acc ++ members) →
      members.foldl (fun acc m => insertMember m.1 m.2 acc) acc = acc ++ members := by
    clear h
    induction members with
    | nil => exact fun acc _ => (List.append_nil acc).symm
    | cons m members ih =>
      intro acc hall
      have hbefore : ∀ a ∈ acc, a.1 < m.1 := fun a ha =>
        (List.pairwise_append.mp hall).2.2 a ha m List.mem_cons_self
      rw [List.foldl_cons, insertMember_of_lt hbefore, ih, List.append_assoc, List.singleton_append]
      rwa [List.append_assoc, List.singleton_append]
  rw [ofMembers, hadd [] h, List.nil_append]

/-! ## Values -/

/-- A part of a text ends before a comma or a closing bracket. -/
def Closes (rest : List Char) : Prop := ∀ c tail, rest = c :: tail → c = ',' ∨ c = ']' ∨ c = '\x7d'

/-- With so many levels to open, a value is read from its text and what stands behind is left over. -/
def Readable (depth : Nat) (v : Json) : Prop :=
  ∀ fuel rest, v.toChars.length ≤ fuel → Closes rest →
    readValue fuel depth (v.toChars ++ rest) = some (v, rest)

variable {fuel depth : Nat} {cs rest : List Char}

theorem Closes.stops (h : Closes rest) : JsonNumber.Stops rest := by
  rintro c tail rfl
  rcases h c tail rfl with rfl | rfl | rfl <;> decide

theorem skipSpace_skipSpace (cs : List Char) : skipSpace (skipSpace cs) = skipSpace cs :=
  List.dropWhile_idempotent isSpace cs

theorem readValue_skipSpace : readValue fuel depth (skipSpace cs) = readValue fuel depth cs := by
  cases fuel with
  | zero => rfl
  | succ fuel => rw [readValue.eq_def, readValue.eq_def]; simp only [skipSpace_skipSpace]

theorem readItems_skipSpace {read : List Json} :
    readItems fuel depth read (skipSpace cs) = readItems fuel depth read cs := by
  cases fuel with
  | zero => rfl
  | succ fuel => rw [readItems.eq_def, readItems.eq_def]; simp only [readValue_skipSpace]

/-- No item begins with a closing bracket. -/
theorem skipSpace_ne_close {read : List Json} {r : Json × List Char}
    (h : readItems fuel depth read cs = some r) (tail : List Char) : skipSpace cs ≠ ']' :: tail := by
  intro hclose
  have hvalue : ∀ fuel, readValue fuel depth cs = none := by
    intro fuel
    cases fuel with
    | zero => rfl
    | succ fuel =>
      rw [readValue.eq_def]
      simp only [hclose]
      rfl
  cases fuel with
  | zero => cases h
  | succ fuel =>
    rw [readItems, hvalue] at h
    cases h

theorem itemChars_false_cons (v : Json) (items : List Json) :
    itemChars false (v :: items) = ',' :: itemChars true (v :: items) := by
  simp [itemChars]

theorem memberChars_false_cons (m : String × Json) (members : List (String × Json)) :
    memberChars false (m :: members) = ',' :: memberChars true (m :: members) := by
  simp [memberChars]

/-- The items of an array are read back one after the other. -/
theorem readItems_itemChars {items read : List Json} (hne : items ≠ [])
    (h : ∀ v ∈ items, Readable depth v) (hfuel : (itemChars true items).length < fuel) :
    readItems fuel depth read (itemChars true items ++ ']' :: rest) =
      some (.array (read.reverse ++ items), rest) := by
  induction items generalizing fuel read with
  | nil => exact absurd rfl hne
  | cons v items ih =>
    obtain ⟨hv, hitems⟩ := List.forall_mem_cons.mp h
    have hchars : itemChars true (v :: items) = v.toChars ++ itemChars false items := by simp [itemChars]
    rw [hchars, List.length_append] at hfuel
    obtain ⟨fuel, rfl⟩ := Nat.exists_eq_add_of_lt (Nat.zero_lt_of_lt hfuel)
    rw [hchars, List.append_assoc, Nat.zero_add, readItems.eq_def]
    simp only
    cases items with
    | nil =>
      have hcloses : Closes (']' :: rest) := by
        rintro c tail ⟨⟩
        exact .inr (.inl rfl)
      rw [itemChars, List.nil_append, hv fuel _ (by omega) hcloses]
      simp only [skipSpace_cons (by decide : isSpace ']' = false), List.reverse_cons]
    | cons w items =>
      have hcloses : Closes (itemChars false (w :: items) ++ ']' :: rest) := by
        rw [itemChars_false_cons]
        rintro c tail ⟨⟩
        exact .inl rfl
      rw [hv fuel _ (by omega) hcloses]
      rw [itemChars_false_cons, List.length_cons] at hfuel
      simp only [itemChars_false_cons, List.cons_append, skipSpace_cons (by decide : isSpace ',' = false)]
      rw [ih (List.cons_ne_nil w items) hitems (by omega), List.reverse_cons, List.append_assoc,
        List.singleton_append]

/-- The members of an object are read back one after the other. -/
theorem readMembers_memberChars {members read : List (String × Json)} (hne : members ≠ [])
    (h : ∀ m ∈ members, Readable depth m.2) (hfuel : (memberChars true members).length < fuel) :
    readMembers fuel depth read (memberChars true members ++ '\x7d' :: rest) =
      some (ofMembers (read.reverse ++ members), rest) := by
  induction members generalizing fuel read with
  | nil => exact absurd rfl hne
  | cons m members ih =>
    obtain ⟨key, v⟩ := m
    obtain ⟨hv, hmembers⟩ := List.forall_mem_cons.mp h
    simp only at hv
    have hchars : memberChars true ((key, v) :: members) = '"' :: (key.toList.flatMap stringChar ++
        '"' :: ':' :: (v.toChars ++ memberChars false members)) := by
      simp [memberChars, stringChars]
    rw [hchars] at hfuel
    simp only [List.length_cons, List.length_append] at hfuel
    obtain ⟨fuel, rfl⟩ := Nat.exists_eq_add_of_lt (Nat.zero_lt_of_lt hfuel)
    rw [hchars, Nat.zero_add, readMembers.eq_def]
    simp only [List.cons_append, List.append_assoc, skipSpace_cons (by decide : isSpace '"' = false),
      readString_quoted, skipSpace_cons (by decide : isSpace ':' = false)]
    cases members with
    | nil =>
      have hcloses : Closes ('\x7d' :: rest) := by
        rintro c tail ⟨⟩
        exact .inr (.inr rfl)
      rw [memberChars, List.nil_append, hv fuel _ (by omega) hcloses]
      simp only [skipSpace_cons (by decide : isSpace '\x7d' = false), List.reverse_cons]
    | cons m members =>
      have hcloses : Closes (memberChars false (m :: members) ++ '\x7d' :: rest) := by
        rw [memberChars_false_cons]
        rintro c tail ⟨⟩
        exact .inl rfl
      rw [hv fuel _ (by omega) hcloses]
      rw [memberChars_false_cons, List.length_cons] at hfuel
      simp only [memberChars_false_cons, List.cons_append,
        skipSpace_cons (by decide : isSpace ',' = false)]
      rw [ih (List.cons_ne_nil m members) hmembers (by omega), List.reverse_cons, List.append_assoc,
        List.singleton_append]

/-- It is enough to look at fuel for one step, as the text of a value is not empty. -/
theorem readable_of_succ (hne : v.toChars ≠ [])
    (h : ∀ fuel rest, v.toChars.length ≤ fuel + 1 → Closes rest →
      readValue (fuel + 1) depth (v.toChars ++ rest) = some (v, rest)) : Readable depth v := by
  intro fuel rest hfuel hrest
  cases fuel with
  | zero => exact absurd (List.eq_nil_of_length_eq_zero (Nat.le_zero.mp hfuel)) hne
  | succ fuel => exact h fuel rest hfuel hrest

theorem readable_number {n : JsonNumber} (h : n.ReadBack) : Readable depth (.number n) := by
  refine readable_of_succ (fun hnil => ?_) fun fuel rest _ hrest => ?_
  · -- nothing would be read of an empty text
    rw [toChars] at hnil
    rw [JsonNumber.ReadBack, hnil] at h
    cases h
  · rw [toChars]
    exact h.readValue_append hrest.stops fuel depth

theorem readable_string (s : String) : Readable depth (.string s) := by
  refine readable_of_succ (by simp [toChars, stringChars]) fun fuel rest _ _ => ?_
  have hchars : (Json.string s).toChars ++ rest =
      '"' :: (s.toList.flatMap stringChar ++ '"' :: rest) := by
    simp [toChars, stringChars]
  rw [hchars, readValue.eq_def]
  simp only [skipSpace_cons (by decide : isSpace '"' = false), readString_quoted]
  rfl

/-- An array needs one level more than its items. -/
theorem readable_array {items : List Json} (h : ∀ v ∈ items, Readable (depth - 1) v)
    (hdepth : 1 < depth) : Readable depth (.array items) := by
  refine readable_of_succ (by simp [toChars]) fun fuel rest hfuel _ => ?_
  have hchars : (Json.array items).toChars ++ rest = '[' :: (itemChars true items ++ ']' :: rest) := by
    simp [toChars]
  rw [hchars, readValue.eq_def]
  simp only [skipSpace_cons (by decide : isSpace '[' = false), if_neg (by omega : ¬ depth ≤ 1)]
  cases items with
  | nil =>
    rw [itemChars, List.nil_append]
    simp only [skipSpace_cons (by decide : isSpace ']' = false)]
  | cons v items =>
    have hread : readItems fuel (depth - 1) [] (itemChars true (v :: items) ++ ']' :: rest) =
        some (.array (v :: items), rest) :=
      readItems_itemChars (List.cons_ne_nil v items) h (by
        simp only [toChars, List.length_append, List.length_cons] at hfuel
        omega)
    split
    · rename_i hclose
      exact absurd hclose (skipSpace_ne_close hread _)
    · rw [readItems_skipSpace, hread]

/-- An object needs one level more than its members. -/
theorem readable_object {members : List (String × Json)} (hordered : Ordered members)
    (h : ∀ m ∈ members, Readable (depth - 1) m.2) (hdepth : 1 < depth) :
    Readable depth (.object members) := by
  refine readable_of_succ (by simp [toChars]) fun fuel rest hfuel _ => ?_
  have hchars : (Json.object members).toChars ++ rest =
      '\x7b' :: (memberChars true members ++ '\x7d' :: rest) := by
    simp [toChars]
  rw [hchars, readValue.eq_def]
  simp only [skipSpace_cons (by decide : isSpace '\x7b' = false), if_neg (by omega : ¬ depth ≤ 1)]
  cases members with
  | nil =>
    rw [memberChars, List.nil_append]
    simp only [skipSpace_cons (by decide : isSpace '\x7d' = false)]
  | cons m members =>
    have hread : readMembers fuel (depth - 1) [] (memberChars true (m :: members) ++ '\x7d' :: rest) =
        some (.object (m :: members), rest) := by
      rw [readMembers_memberChars (List.cons_ne_nil m members) h (by
        simp only [toChars, List.length_append, List.length_cons] at hfuel
        omega), List.reverse_nil, List.nil_append, ofMembers_of_ordered hordered]
    obtain ⟨tail, htail⟩ : ∃ tail, memberChars true (m :: members) ++ '\x7d' :: rest = '"' :: tail :=
      ⟨_, rfl⟩
    rw [htail] at hread ⊢
    simp only [skipSpace_cons (by decide : isSpace '"' = false)]
    exact hread

/-- A value is read back where the levels that it opens are left. -/
theorem Built.readable (h : Built JsonNumber.ReadBack levels v) (hdepth : levels < depth) :
    Readable depth v := by
  induction h generalizing depth with
  | null => exact readable_of_succ (by decide) fun _ _ _ _ => rfl
  | bool b => exact readable_of_succ (by cases b <;> decide) fun _ _ _ _ => by cases b <;> rfl
  | number h => exact readable_number h
  | string s => exact readable_string s
  | array _ ih => exact readable_array (fun v hv => ih v hv (by omega)) (by omega)
  | object hordered _ ih => exact readable_object hordered (fun m hm => ih m hm (by omega)) (by omega)

/-- **The text of a value is read as this value.** -/
theorem parse_toText (h : Built JsonNumber.ReadBack 127 v) : parse v.toText = some v := by
  have hread := h.readable (Nat.lt_succ_self 127) (2 * v.toChars.length + 1) [] (by omega)
    (fun _ _ hnil => by cases hnil)
  rw [List.append_nil] at hread
  simp only [parse, toText, String.toList_ofList, depthLimit, hread]
  rfl

/-! ## What is read -/

/-- An object is built of members, whatever their order is and whichever keys stand twice. -/
theorem built_ofMembers {members : List (String × Json)} (h : ∀ m ∈ members, Built P levels m.2) :
    Built P (levels + 1) (ofMembers members) := by
  refine .object (ordered_foldl_insertMember .nil members) fun m hm => ?_
  rcases mem_of_mem_foldl_insertMember hm with hm | hm
  · cases hm
  · exact h m hm

/-- What the readers give with so much fuel: a value, an array or an object that is built of values. -/
structure ReadBuilt (fuel : Nat) : Prop where
  value : ∀ depth cs v rest, readValue fuel depth cs = some (v, rest) →
    Built JsonNumber.InRange (depth - 1) v
  items : ∀ depth read cs v rest, (∀ w ∈ read, Built JsonNumber.InRange (depth - 1) w) →
    readItems fuel depth read cs = some (v, rest) → Built JsonNumber.InRange (depth - 1 + 1) v
  members : ∀ depth read cs v rest, (∀ m ∈ read, Built JsonNumber.InRange (depth - 1) m.2) →
    readMembers fuel depth read cs = some (v, rest) → Built JsonNumber.InRange (depth - 1 + 1) v

theorem readBuilt_zero : ReadBuilt 0 := by
  constructor
  · intro _ _ _ _ h
    simp [readValue] at h
  · intro _ _ _ _ _ _ h
    simp [readItems] at h
  · intro _ _ _ _ _ _ h
    simp [readMembers] at h

section Step

variable (hbuilt : ReadBuilt fuel)
include hbuilt

theorem ReadBuilt.readValue_succ (h : readValue (fuel + 1) depth cs = some (v, rest)) :
    Built JsonNumber.InRange (depth - 1) v := by
  rw [readValue.eq_def] at h
  simp only at h
  split at h
  case h_1 =>
    obtain ⟨_, -, hv⟩ := Option.map_eq_some_iff.mp h
    cases hv
    exact .null
  case h_2 =>
    obtain ⟨_, -, hv⟩ := Option.map_eq_some_iff.mp h
    cases hv
    exact .bool true
  case h_3 =>
    obtain ⟨_, -, hv⟩ := Option.map_eq_some_iff.mp h
    cases hv
    exact .bool false
  case h_4 =>
    obtain ⟨_, -, hv⟩ := Option.map_eq_some_iff.mp h
    cases hv
    exact .string _
  case h_6 =>
    split at h
    · cases h
    · split at h
      · cases h
        have hempty : Built JsonNumber.InRange 1 (.array []) := .array (by simp)
        exact hempty.mono (by omega)
      · exact (hbuilt.items _ _ _ _ _ (by simp) h).mono (by omega)
  case h_7 =>
    split at h
    · cases h
    · split at h
      · cases h
        have hempty : Built JsonNumber.InRange 1 (.object []) := .object .nil (by simp)
        exact hempty.mono (by omega)
      · exact (hbuilt.members _ _ _ _ _ (by simp) h).mono (by omega)
  -- what is left is a number, with its sign or without
  all_goals
    obtain ⟨_, hn, hv⟩ := Option.map_eq_some_iff.mp h
    cases hv
    exact .number (JsonNumber.inRange_of_readUnsigned hn)

theorem ReadBuilt.readItems_succ {read : List Json}
    (hread : ∀ w ∈ read, Built JsonNumber.InRange (depth - 1) w)
    (h : readItems (fuel + 1) depth read cs = some (v, rest)) :
    Built JsonNumber.InRange (depth - 1 + 1) v := by
  rw [readItems] at h
  split at h
  · cases h
  · rename_i w after hw
    have hall := List.forall_mem_cons.mpr ⟨hbuilt.value _ _ _ _ hw, hread⟩
    split at h
    · exact hbuilt.items _ _ _ _ _ hall h
    · cases h
      exact .array fun u hu => hall u (List.mem_reverse.mp hu)
    · cases h

theorem ReadBuilt.readMembers_succ {read : List (String × Json)}
    (hread : ∀ m ∈ read, Built JsonNumber.InRange (depth - 1) m.2)
    (h : readMembers (fuel + 1) depth read cs = some (v, rest)) :
    Built JsonNumber.InRange (depth - 1 + 1) v := by
  simp only [readMembers] at h
  split at h
  case h_2 => cases h
  split at h
  · cases h
  rename_i key after hkey
  split at h
  case h_2 => cases h
  split at h
  · cases h
  rename_i w after hw
  have hall : ∀ m ∈ (key, w) :: read, Built JsonNumber.InRange (depth - 1) m.2 :=
    List.forall_mem_cons.mpr ⟨hbuilt.value _ _ _ _ hw, hread⟩
  split at h
  · exact hbuilt.members _ _ _ _ _ hall h
  · cases h
    exact built_ofMembers fun u hu => hall u (List.mem_reverse.mp hu)
  · cases h

end Step

theorem readBuilt (fuel : Nat) : ReadBuilt fuel := by
  induction fuel with
  | zero => exact readBuilt_zero
  | succ fuel ih =>
    exact ⟨fun _ _ _ _ => ih.readValue_succ, fun _ _ _ _ _ => ih.readItems_succ,
      fun _ _ _ _ _ => ih.readMembers_succ⟩

/-- **A value that was read is built of integers in range and of floats**, and opens at most 127
levels. -/
theorem built_of_parse {text : String} (h : parse text = some v) : Built JsonNumber.InRange 127 v := by
  simp only [parse] at h
  split at h
  · rename_i w rest hread
    split at h
    · obtain rfl := Option.some.inj h
      exact (readBuilt _).value _ _ _ _ hread
    · cases h
  · cases h

end ScalpBot.Json
