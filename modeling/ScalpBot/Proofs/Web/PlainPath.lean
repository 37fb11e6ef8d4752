import Mathlib.Data.List.TakeWhile
import ScalpBot.Web.Address

/-!
# Paths that are sent as they are written

Reading an address escapes characters of its path, turns backslashes into slashes, takes a question mark
and a number sign for the ends of the path, and resolves the parts that are dots. A path that meets none
of this is plain (`WebAddress.PlainPath`).

`WebAddress.sent_eq_iff` says that plain paths, and no others, are sent as they are written: what is sent
holds no character that would be changed and one part for each slash, and a part of dots takes away at
least itself.
-/

namespace ScalpBot.WebAddress

/-! ## Plain paths -/

/-- Whether a character of a path is sent as it is written. -/
def isPlainChar (c : Char) : Bool :=
  0x20 ≤ c.toNat && c.toNat ≤ 0x7E && c ∉ pathSet && c ≠ '\\'

/-- Whether a part of a path stands for itself or the part above. -/
def isDots (part : List Char) : Bool := isSingleDot part || isDoubleDot part

/-- A path without characters that are changed and without parts of dots. -/
structure PlainPath (cs : List Char) : Prop where
  chars : ∀ c ∈ cs, isPlainChar c = true
  parts : ∀ part ∈ cs.splitOn '/', isDots part = false

instance (cs : List Char) : Decidable (PlainPath cs) :=
  decidable_of_iff
    (cs.all isPlainChar = true ∧ ((cs.splitOn '/').all fun part => !isDots part) = true)
    ⟨fun h => ⟨List.all_eq_true.mp h.1, by simpa using h.2⟩,
      fun h => ⟨List.all_eq_true.mpr h.chars, by simpa using h.parts⟩⟩

/-- Whether a character counts when an address is read. -/
def isVisible (c : Char) : Bool := c ≠ '\t' && c ≠ '\n' && c ≠ '\r'

/-- A text counts whole, if some test tells its characters from tabs and line ends. -/
theorem filter_isVisible_eq_self {cs : List Char} {p : Char → Bool} {b : Bool}
    (hp : p '\t' ≠ b ∧ p '\n' ≠ b ∧ p '\r' ≠ b) (h : ∀ c ∈ cs, p c = b) : cs.filter isVisible = cs := by
  refine List.filter_eq_self.mpr fun c hc => ?_
  have hne : ∀ d, p d ≠ b → c ≠ d := fun d hd heq => hd (heq ▸ h c hc)
  simp [isVisible, hne _ hp.1, hne _ hp.2.1, hne _ hp.2.2]

/-! ## Escaping -/

/-- Whether a character is escaped where a set is. -/
def isEscaped (set : List Char) (c : Char) : Bool :=
  c.toNat < 0x20 || 0x7E < c.toNat || c ∈ set

theorem escapeSet_cons (set : List Char) (c : Char) (cs : List Char) :
    escapeSet set (c :: cs) =
      (if isEscaped set c then (String.utf8EncodeChar c).flatMap Percent.encodeByte else [c]) ++
        escapeSet set cs := rfl

/-- A byte is written in digits and a percent sign. -/
theorem mem_encodeByte {b : UInt8} {c : Char} (h : c ∈ Percent.encodeByte b) :
    c = '%' ∨ ∃ n < 16, c = (Nat.digitChar n).toUpper := by
  have hb : b.toNat < 256 := b.toNat_lt
  simp only [Percent.encodeByte, List.mem_cons, List.not_mem_nil, or_false] at h
  rcases h with rfl | rfl | rfl
  · exact .inl rfl
  · exact .inr ⟨_, by omega, rfl⟩
  · exact .inr ⟨_, by omega, rfl⟩

/-- What is true of the percent sign, of the digits and of the characters that are not escaped is true
of all that is written. -/
theorem forall_mem_escapeSet {set cs : List Char} {p : Char → Bool} (hpercent : p '%' = true)
    (hdigits : ∀ n < 16, p (Nat.digitChar n).toUpper = true)
    (hkept : ∀ c ∈ cs, isEscaped set c = false → p c = true) :
    ∀ c ∈ escapeSet set cs, p c = true := by
  induction cs with
  | nil => simp [escapeSet]
  | cons c cs ih =>
    obtain ⟨hc, hrest⟩ := List.forall_mem_cons.mp hkept
    rw [escapeSet_cons]
    refine List.forall_mem_append.mpr ⟨?_, ih hrest⟩
    cases hescaped : isEscaped set c with
    | true =>
      intro d hd
      obtain ⟨b, _, hd⟩ := List.mem_flatMap.mp hd
      rcases mem_encodeByte hd with rfl | ⟨n, hn, rfl⟩
      · exact hpercent
      · exact hdigits n hn
    | false =>
      intro d hd
      obtain rfl := List.mem_singleton.mp hd
      exact hc hescaped

theorem escapeSet_eq_self {set cs : List Char} (h : ∀ c ∈ cs, isEscaped set c = false) :
    escapeSet set cs = cs := by
  induction cs with
  | nil => rfl
  | cons c cs ih =>
    obtain ⟨hc, hrest⟩ := List.forall_mem_cons.mp h
    rw [escapeSet_cons, hc, ih hrest]
    rfl

/-- What is escaped of a part of a path is plain, and no slash. -/
theorem isPlainChar_of_mem_escapeSet {part : List Char} (hback : '\\' ∉ part) (hslash : '/' ∉ part) :
    ∀ c ∈ escapeSet pathSet part, isPlainChar c = true ∧ c ≠ '/' := by
  have hall : ∀ c ∈ escapeSet pathSet part, (isPlainChar c && c != '/') = true := by
    refine forall_mem_escapeSet (by decide) (by decide) ?_
    intro c hc hkept
    have hne : c ≠ '\\' := fun heq => hback (heq ▸ hc)
    have hne' : c ≠ '/' := fun heq => hslash (heq ▸ hc)
    simp only [isEscaped, Bool.or_eq_false_iff, decide_eq_false_iff_not] at hkept
    simp [isPlainChar, hne, hne', hkept]
    omega
  intro c hc
  simpa using hall c hc

/-- Escaping takes no question mark away where it need not be escaped, and adds none. -/
theorem count_escapeSet {set : List Char} (hset : isEscaped set '?' = false) (cs : List Char) :
    (escapeSet set cs).count '?' = cs.count '?' := by
  induction cs with
  | nil => rfl
  | cons c cs ih =>
    rw [escapeSet_cons, List.count_append, ih, List.count_cons]
    cases hescaped : isEscaped set c with
    | false => simp [List.count_singleton, Nat.add_comm]
    | true =>
      have hne : c ≠ '?' := by
        rintro rfl
        rw [hset] at hescaped
        cases hescaped
      have hnone : '?' ∉ (String.utf8EncodeChar c).flatMap Percent.encodeByte := by
        intro hmem
        obtain ⟨b, _, hb⟩ := List.mem_flatMap.mp hmem
        rcases mem_encodeByte hb with h | ⟨n, hn, h⟩
        · cases h
        · have hdigits : ∀ n < 16, '?' ≠ (Nat.digitChar n).toUpper := by decide
          exact hdigits n hn h
      simp [List.count_eq_zero_of_not_mem hnone, hne]

theorem isEscaped_of_isPlainChar {c : Char} (h : isPlainChar c = true) :
    isEscaped pathSet c = false := by
  simp only [isPlainChar, Bool.and_eq_true, decide_eq_true_eq] at h
  simp [isEscaped, h]

/-! ## Parts -/

/-- The text of parts: each after a slash. -/
def slashed (parts : List (List Char)) : List Char := parts.flatMap fun part => '/' :: part

theorem slashed_splitOn (cs : List Char) : slashed (cs.splitOn '/') = '/' :: cs := by
  have hjoin : ∀ parts : List (List Char), parts ≠ [] →
      slashed parts = '/' :: ['/'].intercalate parts := by
    intro parts hparts
    induction parts with
    | nil => exact absurd rfl hparts
    | cons part rest ih =>
      cases rest with
      | nil => simp [slashed]
      | cons next rest =>
        have hrest := ih (by simp)
        rw [slashed, List.flatMap_cons, ← slashed, hrest]
        simp [List.intercalate]
  rw [hjoin _ (List.splitOn_ne_nil _ _), List.intercalate_splitOn]

/-- No part holds a slash. -/
theorem not_mem_of_mem_splitOn {cs part : List Char} (h : part ∈ cs.splitOn '/') :
    '/' ∉ part := by
  induction cs generalizing part with
  | nil =>
    rw [List.splitOn_nil] at h
    obtain rfl := List.mem_singleton.mp h
    exact List.not_mem_nil
  | cons c cs ih =>
    obtain ⟨first, rest, hsplit⟩ := List.exists_cons_of_ne_nil (List.splitOn_ne_nil '/' cs)
    rw [List.splitOn_cons_eq_if_modifyHead, hsplit] at h
    rw [hsplit] at ih
    split at h
    · rcases List.mem_cons.mp h with rfl | hmem
      · exact List.not_mem_nil
      · exact ih hmem
    · rename_i hne
      rw [List.modifyHead_cons] at h
      rcases List.mem_cons.mp h with rfl | hmem
      · have hc : c ≠ '/' := by simpa using hne
        exact List.not_mem_cons_of_ne_of_not_mem hc.symm (ih List.mem_cons_self)
      · exact ih (List.mem_cons_of_mem _ hmem)

/-- A text of parts has a slash for each of them. -/
theorem count_slashed {parts : List (List Char)} (h : ∀ part ∈ parts, '/' ∉ part) :
    (slashed parts).count '/' = parts.length := by
  induction parts with
  | nil => rfl
  | cons part rest ih =>
    obtain ⟨hpart, hrest⟩ := List.forall_mem_cons.mp h
    rw [slashed, List.flatMap_cons, ← slashed, List.count_append, ih hrest, List.count_cons_self,
      List.count_eq_zero_of_not_mem hpart, List.length_cons]
    omega

/-- **What one part does to a path.**  It is added, or if it is dots, it is not, and may take away the
part before; a path that ends in dots ends in an empty part. -/
theorem addParts_special_cons (d : PathDraft) (part : List Char) (rest : List (List Char)) :
    ∃ d', addParts .special d (part :: rest) = addParts .special d' rest ∧
      (isDots part = false ∧ d'.parts = d.parts ++ [escapeSet pathSet part] ∨
        isDots part = true ∧ ∃ kept, kept <+: d.parts ∧
          d'.parts = if rest.isEmpty then kept ++ [[]] else kept) := by
  cases hdouble : isDoubleDot part with
  | true =>
    let kept := d.parts.dropLast
    refine ⟨{ d with parts := if rest.isEmpty then kept ++ [[]] else kept }, ?_,
      .inr ⟨by simp [isDots, hdouble], kept, List.dropLast_prefix _, rfl⟩⟩
    rw [addParts, hdouble]
    rfl
  | false =>
    cases hsingle : isSingleDot part with
    | true =>
      refine ⟨{ d with parts := if rest.isEmpty then d.parts ++ [[]] else d.parts }, ?_,
        .inr ⟨by simp [isDots, hsingle], d.parts, List.prefix_rfl, rfl⟩⟩
      rw [addParts, hdouble, hsingle]
      rfl
    | false =>
      refine ⟨{ d with parts := d.parts ++ [escapeSet pathSet part] }, ?_,
        .inl ⟨by simp [isDots, hdouble, hsingle], rfl⟩⟩
      rw [addParts, hdouble, hsingle]
      rfl

/-- Parts without dots are added one by one. -/
theorem parts_addParts {parts : List (List Char)} (h : ∀ part ∈ parts, isDots part = false)
    (d : PathDraft) :
    (addParts .special d parts).parts = d.parts ++ parts.map (escapeSet pathSet) := by
  induction parts generalizing d with
  | nil => simp [addParts]
  | cons part rest ih =>
    obtain ⟨hpart, hrest⟩ := List.forall_mem_cons.mp h
    obtain ⟨d', hstep, ⟨-, hd'⟩ | ⟨hdots, -⟩⟩ := addParts_special_cons d part rest
    · rw [hstep, ih hrest, hd']
      simp
    · rw [hpart] at hdots
      cases hdots

/-- What is added are escaped parts, and empty ones. -/
theorem mem_parts_addParts {parts : List (List Char)} {d : PathDraft} {added : List Char}
    (h : added ∈ (addParts .special d parts).parts) :
    added ∈ d.parts ∨ added = [] ∨ ∃ part ∈ parts, added = escapeSet pathSet part := by
  induction parts generalizing d with
  | nil => exact .inl h
  | cons part rest ih =>
    obtain ⟨d', hstep, hd'⟩ := addParts_special_cons d part rest
    rw [hstep] at h
    rcases ih h with hmem | hempty | ⟨part', hpart', hadded⟩
    · rcases hd' with ⟨-, hd'⟩ | ⟨-, kept, hkept, hd'⟩
      · rw [hd'] at hmem
        rcases List.mem_append.mp hmem with hbefore | hnow
        · exact .inl hbefore
        · exact .inr (.inr ⟨part, List.mem_cons_self, List.mem_singleton.mp hnow⟩)
      · have hmem' : added ∈ kept ++ [[]] := by
          rw [hd'] at hmem
          split at hmem
          · exact hmem
          · exact List.mem_append_left _ hmem
        rcases List.mem_append.mp hmem' with hbefore | hnow
        · exact .inl (hkept.subset hbefore)
        · exact .inr (.inl (List.mem_singleton.mp hnow))
    · exact .inr (.inl hempty)
    · exact .inr (.inr ⟨part', List.mem_cons_of_mem _ hpart', hadded⟩)

/-- No more parts are added than there are. -/
theorem length_parts_addParts_le (d : PathDraft) (parts : List (List Char)) :
    (addParts .special d parts).parts.length ≤ d.parts.length + parts.length := by
  induction parts generalizing d with
  | nil => exact Nat.le_refl _
  | cons part rest ih =>
    obtain ⟨d', hstep, hd'⟩ := addParts_special_cons d part rest
    have hle := ih d'
    have hone : d'.parts.length ≤ d.parts.length + 1 := by
      rcases hd' with ⟨-, hd'⟩ | ⟨-, kept, hkept, hd'⟩
      · simp [hd']
      · have hlength := hkept.length_le
        rw [hd']
        split <;> simp <;> omega
    rw [hstep, List.length_cons]
    omega

/-- A part of dots that is not the last one takes away itself at least. -/
theorem length_parts_addParts_lt {parts : List (List Char)} (h : ∃ part ∈ parts, isDots part = true)
    (d : PathDraft) (last : List Char) :
    (addParts .special d (parts ++ [last])).parts.length < d.parts.length + (parts ++ [last]).length
    := by
  induction parts generalizing d with
  | nil => simp at h
  | cons part rest ih =>
    obtain ⟨d', hstep, hd'⟩ := addParts_special_cons d part (rest ++ [last])
    rw [List.cons_append, hstep, List.length_cons]
    rcases hd' with ⟨hpart, hd'⟩ | ⟨-, kept, hkept, hd'⟩
    · -- the dots come later
      obtain ⟨part', hmem, hdots⟩ := h
      have hrest : ∃ part ∈ rest, isDots part = true := by
        rcases List.mem_cons.mp hmem with rfl | hmem
        · rw [hpart] at hdots
          cases hdots
        · exact ⟨part', hmem, hdots⟩
      have hlt := ih hrest d'
      rw [hd', List.length_append, List.length_singleton] at hlt
      omega
    · have hle := length_parts_addParts_le d' (rest ++ [last])
      have hlength := hkept.length_le
      rw [hd', if_neg (by simp)] at hle
      omega

/-! ## What is sent -/

theorem mem_of_mem_splitOn {cs part : List Char} {c : Char} (h : part ∈ cs.splitOn '/')
    (hc : c ∈ part) : c ∈ cs := by
  have hmem : c ∈ slashed (cs.splitOn '/') :=
    List.mem_flatMap.mpr ⟨part, h, List.mem_cons_of_mem _ hc⟩
  rw [slashed_splitOn] at hmem
  refine (List.mem_cons.mp hmem).resolve_left ?_
  rintro rfl
  exact not_mem_of_mem_splitOn h hc

/-- The characters of a path that was read are plain. -/
theorem plain_readPath (cs : List Char) :
    ∀ part ∈ (readPath .special cs).parts, ∀ c ∈ part, isPlainChar c = true ∧ c ≠ '/' := by
  have hparts : ∀ parts : List (List Char), (∀ part ∈ parts, '\\' ∉ part ∧ '/' ∉ part) →
      ∀ added ∈ (addParts .special {} parts).parts, ∀ c ∈ added,
        isPlainChar c = true ∧ c ≠ '/' := by
    intro parts hclean added hadded
    rcases mem_parts_addParts hadded with h | rfl | ⟨part, hpart, rfl⟩
    · cases h
    · simp
    · exact isPlainChar_of_mem_escapeSet (hclean part hpart).1 (hclean part hpart).2
  cases cs with
  | nil => exact hparts [[]] (by simp)
  | cons c rest =>
    refine hparts _ fun part hpart => ⟨fun hback => ?_, not_mem_of_mem_splitOn hpart⟩
    -- backslashes were turned into slashes
    obtain ⟨d, _, hd⟩ := List.mem_map.mp (mem_of_mem_splitOn hpart hback)
    split at hd
    · cases hd
    · simp_all

theorem plain_slashed {parts : List (List Char)}
    (h : ∀ part ∈ parts, ∀ c ∈ part, isPlainChar c = true ∧ c ≠ '/') :
    ∀ c ∈ slashed parts, isPlainChar c = true := by
  intro c hc
  obtain ⟨part, hpart, hc⟩ := List.mem_flatMap.mp hc
  rcases List.mem_cons.mp hc with rfl | hc
  · decide
  · exact (h part hpart c hc).1

/-- The path and the query of an address, one after the other. -/
def sentText (a : WebAddress) : String := a.pathText ++ a.query.getD ""

/-- The characters of a query that was read. -/
def queryChars (cs : List Char) : List Char :=
  match cs.drop (beforeQuery cs).length with
  | '?' :: rest => escapeSet (querySet .special) (rest.takeWhile (· ≠ '#'))
  | _ => []

/-- What is sent of the text that follows an authority. -/
def sentChars (cs : List Char) : List Char :=
  slashed (readPath .special (beforeQuery cs)).parts ++ queryChars cs

theorem toList_sentText_finish (a : WebAddress) (cs : List Char) :
    (sentText (finish a .special cs)).toList = sentChars cs := by
  have hpath : (finish a .special cs).pathText.toList =
      slashed (readPath .special (beforeQuery cs)).parts := by
    simp [finish, pathText, slashed, List.flatMap_map]
  have hquery : ((finish a .special cs).query.getD "").toList = queryChars cs := by
    simp only [finish, takeQuery, queryChars]
    generalize cs.drop (beforeQuery cs).length = tail
    split <;> simp
  rw [sentText, String.toList_append, hpath, hquery, sentChars]

theorem not_mem_queryChars (cs : List Char) : '#' ∉ queryChars cs := by
  have hescaped : isEscaped (querySet .special) '#' = true := by decide
  unfold queryChars
  split
  · intro hmem
    have hall := @forall_mem_escapeSet (querySet .special) _ (· != '#') (by decide) (by decide)
      (by
        intro c _ hkept
        have hne : c ≠ '#' := by
          rintro rfl
          rw [hescaped] at hkept
          cases hkept
        simpa using hne) '#' hmem
    simp at hall
  · exact List.not_mem_nil

theorem drop_beforeQuery (cs : List Char) :
    cs.drop (beforeQuery cs).length = cs.dropWhile fun c => c ≠ '?' && c ≠ '#' := by
  have happend := @List.takeWhile_append_dropWhile _ (fun c : Char => c ≠ '?' && c ≠ '#') cs
  calc cs.drop (beforeQuery cs).length
      = (beforeQuery cs ++ cs.dropWhile fun c => c ≠ '?' && c ≠ '#').drop
          (beforeQuery cs).length := by rw [beforeQuery, happend]
    _ = cs.dropWhile fun c => c ≠ '?' && c ≠ '#' := List.drop_left

/-- A question mark that ends the path is no part of the query. -/
theorem count_queryChars {cs : List Char} (hmark : '?' ∈ cs) (hhash : '#' ∉ cs) :
    (queryChars cs).count '?' + 1 = cs.count '?' := by
  have happend : beforeQuery cs ++ cs.drop (beforeQuery cs).length = cs := by
    rw [drop_beforeQuery]
    exact List.takeWhile_append_dropWhile
  have hnone : '?' ∉ beforeQuery cs := fun hmem => by simpa using List.mem_takeWhile_imp hmem
  have hstops := List.head?_dropWhile_not (fun c : Char => c ≠ '?' && c ≠ '#') cs
  rw [← drop_beforeQuery] at hstops
  unfold queryChars
  generalize cs.drop (beforeQuery cs).length = tail at happend hstops
  rw [← happend, List.mem_append] at hmark hhash
  cases tail with
  | nil => exact absurd (hmark.resolve_left hnone) List.not_mem_nil
  | cons c rest =>
    -- what ends the path is the question mark, for there is no number sign
    have hc : c ≠ '#' := by
      rintro rfl
      exact hhash (.inr List.mem_cons_self)
    obtain rfl : c = '?' := by simpa [hc] using hstops
    have hall : rest.takeWhile (· ≠ '#') = rest := by
      refine List.takeWhile_eq_self_iff.mpr ?_
      intro d hd
      have hne : d ≠ '#' := by
        rintro rfl
        exact hhash (.inr (List.mem_cons_of_mem _ hd))
      simpa using hne
    have hkept : isEscaped (querySet .special) '?' = false := by decide
    simp only [hall, count_escapeSet hkept]
    rw [← happend, List.count_append, List.count_eq_zero_of_not_mem hnone, List.count_cons_self,
      Nat.zero_add]

/-- Without the two marks all is path. -/
theorem sentChars_of_no_marks {cs : List Char} (hmark : '?' ∉ cs) (hhash : '#' ∉ cs) :
    sentChars cs = slashed (readPath .special cs).parts := by
  have hself : beforeQuery cs = cs := by
    refine List.takeWhile_eq_self_iff.mpr ?_
    intro c hc
    have hne : c ≠ '?' := fun heq => hmark (heq ▸ hc)
    have hne' : c ≠ '#' := fun heq => hhash (heq ▸ hc)
    simp [hne, hne']
  have hquery : queryChars cs = [] := by rw [queryChars, hself, List.drop_length]
  rw [sentChars, hself, hquery, List.append_nil]

variable {cs body : List Char}

/-- Plain characters are taken as they are, up to the parts that are dots. -/
theorem sentChars_of_plain (h : ∀ c ∈ cs, isPlainChar c = true) :
    sentChars (cs.filter isVisible) = slashed (readPath .special cs).parts := by
  have hno : ∀ c, isPlainChar c = false → c ∉ cs := by
    intro c hc hmem
    rw [h c hmem] at hc
    cases hc
  rw [filter_isVisible_eq_self (by decide) h,
    sentChars_of_no_marks (hno '?' (by decide)) (hno '#' (by decide))]

/-- **What is sent as it is written is plain**, up to the parts that are dots. -/
theorem plain_of_sent (h : sentChars (cs.filter isVisible) = cs) :
    ∀ c ∈ cs, isPlainChar c = true := by
  have hpath := plain_slashed (plain_readPath (beforeQuery (cs.filter isVisible)))
  have hhash : '#' ∉ cs := by
    rw [← h, sentChars, List.mem_append, not_or]
    exact ⟨fun hmem => absurd (hpath '#' hmem) (by decide), not_mem_queryChars _⟩
  have hhash' : '#' ∉ cs.filter isVisible := fun hmem => hhash (List.mem_filter.mp hmem).1
  have hmark : '?' ∉ cs := by
    -- there would be one question mark less
    intro hmem
    have hmem' : '?' ∈ cs.filter isVisible := List.mem_filter.mpr ⟨hmem, by decide⟩
    have hquery := count_queryChars hmem' hhash'
    have hcount := congrArg (List.count '?') h
    rw [sentChars, List.count_append, List.count_eq_zero_of_not_mem, Nat.zero_add] at hcount
    · rw [List.count_filter (by decide)] at hquery
      omega
    · exact fun hmem => absurd (hpath '?' hmem) (by decide)
  have hmark' : '?' ∉ cs.filter isVisible := fun hmem => hmark (List.mem_filter.mp hmem).1
  rw [sentChars_of_no_marks hmark' hhash'] at h
  intro c hc
  rw [← h] at hc
  exact plain_slashed (plain_readPath _) c hc

/-- The parts of a path that begins with a slash. -/
theorem splitOn_slash_cons (rest : List Char) :
    ('/' :: rest).splitOn '/' = [] :: rest.splitOn '/' := by
  rw [List.splitOn_cons_eq_if_modifyHead]
  rfl

/-- The parts of a path that ends with a slash. -/
theorem splitOn_concat_slash (body : List Char) :
    (body ++ ['/']).splitOn '/' = body.splitOn '/' ++ [[]] := by
  rw [List.splitOn_append_cons_self, List.splitOn_nil]

/-- A path is plain if and only if all that stands between two of its slashes is. -/
theorem plainPath_append_slash {cs ds : List Char} :
    PlainPath (cs ++ '/' :: ds) ↔ PlainPath cs ∧ PlainPath ds := by
  have hslash : isPlainChar '/' = true := by decide
  constructor
  · rintro ⟨hchars, hparts⟩
    rw [List.splitOn_append_cons_self] at hparts
    rw [List.forall_mem_append] at hchars hparts
    exact ⟨⟨hchars.1, hparts.1⟩, (List.forall_mem_cons.mp hchars.2).2, hparts.2⟩
  · rintro ⟨⟨hchars, hparts⟩, hchars', hparts'⟩
    refine ⟨List.forall_mem_append.mpr ⟨hchars, List.forall_mem_cons.mpr ⟨hslash, hchars'⟩⟩, ?_⟩
    rw [List.splitOn_append_cons_self]
    exact List.forall_mem_append.mpr ⟨hparts, hparts'⟩

/-- Without backslashes a path is taken apart at its slashes. -/
theorem readPath_slash {rest : List Char} (h : '\\' ∉ rest) :
    readPath .special ('/' :: rest) = addParts .special {} (rest.splitOn '/') := by
  have hsplit : splitPath .special rest = rest.splitOn '/' := by
    have hmap : (rest.map fun c => if c = '\\' && SchemeKind.special ≠ .other then '/' else c) =
        rest.map id := by
      refine List.map_congr_left ?_
      intro c hc
      have hne : c ≠ '\\' := fun heq => h (heq ▸ hc)
      simp [hne]
    rw [splitPath, hmap, List.map_id]
  simp [readPath, hsplit]

/-- A path of plain characters is taken apart at its slashes. -/
theorem readPath_of_plain (hcs : cs = '/' :: (body ++ ['/']))
    (h : ∀ c ∈ cs, isPlainChar c = true) :
    readPath .special cs = addParts .special {} (body.splitOn '/' ++ [[]]) := by
  have hback : '\\' ∉ body ++ ['/'] := by
    intro hmem
    have hplain := h '\\' (hcs ▸ List.mem_cons_of_mem _ hmem)
    exact absurd hplain (by decide)
  rw [hcs, readPath_slash hback, splitOn_concat_slash]

/-- Where there is a part for each slash, before and after, no part was dots. -/
theorem no_dots_of_sent (hcs : cs = '/' :: (body ++ ['/'])) (h : ∀ c ∈ cs, isPlainChar c = true)
    (hsent : slashed (readPath .special cs).parts = cs) :
    ∀ part ∈ body.splitOn '/', isDots part = false := by
  have hlength : (readPath .special cs).parts.length = (body.splitOn '/' ++ [[]]).length := by
    have hafter :=
      count_slashed fun part hpart hmem => (plain_readPath cs part hpart '/' hmem).2 rfl
    have hbefore := count_slashed (fun part => @not_mem_of_mem_splitOn (body ++ ['/']) part)
    rw [slashed_splitOn, ← hcs, splitOn_concat_slash] at hbefore
    rw [← hafter, hsent, hbefore]
  intro part hpart
  by_contra hdots
  have hlt := length_parts_addParts_lt ⟨part, hpart, by simpa using hdots⟩ {} []
  rw [← readPath_of_plain hcs h, hlength] at hlt
  simp at hlt

theorem sent_of_no_dots (hcs : cs = '/' :: (body ++ ['/'])) (h : ∀ c ∈ cs, isPlainChar c = true)
    (hparts : ∀ part ∈ body.splitOn '/' ++ [[]], isDots part = false) :
    slashed (readPath .special cs).parts = cs := by
  have hescape : (body.splitOn '/' ++ [[]]).map (escapeSet pathSet) = body.splitOn '/' ++ [[]] := by
    rw [← splitOn_concat_slash]
    refine (List.map_congr_left ?_).trans (List.map_id _)
    intro part hpart
    refine escapeSet_eq_self fun c hc => isEscaped_of_isPlainChar (h c ?_)
    rw [hcs]
    exact List.mem_cons_of_mem _ (mem_of_mem_splitOn hpart hc)
  rw [readPath_of_plain hcs h, parts_addParts hparts, hescape, ← splitOn_concat_slash]
  exact (slashed_splitOn _).trans hcs.symm

/-- **Plain paths, and no others, are sent as they are written.** -/
theorem sent_eq_iff (a : WebAddress) (hcs : cs = '/' :: (body ++ ['/'])) :
    (sentText (finish a .special (cs.filter isVisible))).toList = cs ↔ PlainPath cs := by
  have hempty : isDots [] = false := by decide
  have hsplit : cs.splitOn '/' = [] :: (body.splitOn '/' ++ [[]]) := by
    rw [hcs, splitOn_slash_cons, splitOn_concat_slash]
  rw [toList_sentText_finish]
  constructor
  · intro h
    have hchars := plain_of_sent h
    rw [sentChars_of_plain hchars] at h
    refine ⟨hchars, ?_⟩
    rw [hsplit]
    exact List.forall_mem_cons.mpr ⟨hempty, List.forall_mem_append.mpr
      ⟨no_dots_of_sent hcs hchars h, List.forall_mem_singleton.mpr hempty⟩⟩
  · rintro ⟨hchars, hparts⟩
    rw [hsplit] at hparts
    rw [sentChars_of_plain hchars]
    exact sent_of_no_dots hcs hchars (List.forall_mem_cons.mp hparts).2

end ScalpBot.WebAddress
