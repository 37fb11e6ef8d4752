import ScalpBot.Proofs.Web.Appended
import ScalpBot.Web.Form

/-!
# Form bodies are read back

Whatever the names and values are, a form body is read as the pairs that it was made from, in their order
(`Form.decode_encode`). Neither separator is left in a name or a value, so that a body comes apart where
it was put together, and the blank, which is written as a plus sign, is the only character that is read
as another one.
-/

namespace ScalpBot

namespace Percent

/-- What is no percent sign stands for itself. -/
theorem decode_cons_of_ne {c : Char} (h : c ≠ '%') (rest : List Char) :
    decode (c :: rest) = String.utf8EncodeChar c ++ decode rest := by
  rw [decode.eq_def]
  split
  · rename_i heq
    exact absurd (List.cons.inj heq).1 h
  · rename_i heq
    obtain ⟨rfl, rfl⟩ := List.cons.inj heq
    rfl
  · rename_i heq
    cases heq

/-- Bytes that are written with percent signs are read back. -/
theorem decode_flatMap_encodeByte (bytes : List UInt8) (rest : List Char) :
    decode (bytes.flatMap encodeByte ++ rest) = bytes ++ decode rest := by
  induction bytes with
  | nil => rfl
  | cons b bytes ih =>
    rw [List.flatMap_cons, List.append_assoc, decode_encodeByte, ih, List.cons_append]

end Percent

namespace Form

/-! ## Names and values -/

/-- What a character of a body is read as before its percent signs are. -/
def readPlus (c : Char) : Char := if c = '+' then ' ' else c

theorem ne_of_keeps {c d : Char} (hc : keeps c = true) (hd : keeps d = false) : c ≠ d := by
  rintro rfl
  rw [hc] at hd
  cases hd

theorem keeps_hexDigit : ∀ n < 16, keeps (Nat.digitChar n).toUpper = true := by decide

/-- What is written for a character are plus and percent signs and characters that are kept. -/
theorem mem_encodeChar {c d : Char} (h : d ∈ encodeChar c) :
    d = '+' ∨ d = '%' ∨ keeps d = true := by
  rw [encodeChar] at h
  split at h
  · exact .inl (List.mem_singleton.mp h)
  · split at h
    · obtain rfl := List.mem_singleton.mp h
      exact .inr (.inr ‹_›)
    · obtain ⟨b, -, hb⟩ := List.mem_flatMap.mp h
      rcases WebAddress.mem_encodeByte hb with rfl | ⟨n, hn, rfl⟩
      · exact .inr (.inl rfl)
      · exact .inr (.inr (keeps_hexDigit n hn))

/-- **No separator is left in a name or a value.** -/
theorem not_mem_encodeText (text : String) : '&' ∉ encodeText text ∧ '=' ∉ encodeText text := by
  have hnone : ∀ d, d ≠ '+' → d ≠ '%' → keeps d = false → d ∉ encodeText text := by
    intro d hplus hpercent hkept hmem
    obtain ⟨c, -, hc⟩ := List.mem_flatMap.mp hmem
    rcases mem_encodeChar hc with h | h | h
    · exact hplus h
    · exact hpercent h
    · exact ne_of_keeps h hkept rfl
  exact ⟨hnone _ (by decide) (by decide) (by decide), hnone _ (by decide) (by decide) (by decide)⟩

/-- What is written for a character is read as its bytes, whatever follows. -/
theorem decode_encodeChar (c : Char) (rest : List Char) :
    Percent.decode ((encodeChar c).map readPlus ++ rest) =
      String.utf8EncodeChar c ++ Percent.decode rest := by
  rw [encodeChar]
  split
  · rename_i hblank
    subst hblank
    exact Percent.decode_cons_of_ne (by decide) rest
  · split
    · rename_i hkept
      have hplus : c ≠ '+' := ne_of_keeps hkept (by decide)
      have hpercent : c ≠ '%' := ne_of_keeps hkept (by decide)
      rw [List.map_singleton, readPlus, if_neg hplus]
      exact Percent.decode_cons_of_ne hpercent rest
    · have hsame : ∀ d ∈ (String.utf8EncodeChar c).flatMap Percent.encodeByte, readPlus d = d := by
        intro d hd
        obtain ⟨b, -, hb⟩ := List.mem_flatMap.mp hd
        have hdigits : ∀ n < 16, readPlus (Nat.digitChar n).toUpper = (Nat.digitChar n).toUpper := by
          decide
        rcases WebAddress.mem_encodeByte hb with rfl | ⟨n, hn, rfl⟩
        · rfl
        · exact hdigits n hn
      rw [List.map_congr_left hsame, List.map_id']
      exact Percent.decode_flatMap_encodeByte _ rest

theorem decode_flatMap_encodeChar (cs : List Char) :
    Percent.decode ((cs.flatMap encodeChar).map readPlus) = cs.flatMap String.utf8EncodeChar := by
  induction cs with
  | nil => rfl
  | cons c cs ih =>
    rw [List.flatMap_cons, List.map_append, decode_encodeChar, ih, List.flatMap_cons]

/-- **A name or a value is read back.** -/
theorem decodeText_encodeText (text : String) : decodeText (encodeText text) = some text := by
  have hbytes : (⟨(text.toList.flatMap String.utf8EncodeChar).toArray⟩ : ByteArray) =
      text.toByteArray := by
    rw [← String.ofList_toList (s := text), String.toByteArray_ofList, String.toList_ofList,
      List.utf8Encode, ← List.data_toByteArray]
  have hread : decodeText (encodeText text) = String.fromUTF8?
      ⟨(Percent.decode ((text.toList.flatMap encodeChar).map readPlus)).toArray⟩ := rfl
  rw [hread, decode_flatMap_encodeChar, hbytes, String.fromUTF8?, dif_pos text.isValidUTF8]
  rfl

/-- What is kept is written as it is. -/
theorem encodeText_eq_self {text : String} (h : ∀ c ∈ text.toList, keeps c = true) :
    encodeText text = text.toList := by
  have hone : ∀ c ∈ text.toList, encodeChar c = [c] := by
    intro c hc
    have hblank : c ≠ ' ' := ne_of_keeps (h c hc) (by decide)
    rw [encodeChar, if_neg hblank, if_pos (h c hc)]
  rw [encodeText, List.flatMap_congr hone, List.flatMap_singleton']

/-! ## Pairs -/

/-- What is written for a pair. -/
def pairChars (pair : String × String) : List Char :=
  encodeText pair.1 ++ '=' :: encodeText pair.2

theorem not_mem_pairChars (pair : String × String) : '&' ∉ pairChars pair := by
  simp [pairChars, not_mem_encodeText]

theorem decodePair_pairChars (pair : String × String) : decodePair (pairChars pair) = some pair := by
  have hname : ∀ c ∈ encodeText pair.1, decide (c ≠ '=') = true := by
    intro c hc
    have hne : c ≠ '=' := fun heq => (not_mem_encodeText pair.1).2 (heq ▸ hc)
    exact decide_eq_true hne
  have htake : (pairChars pair).takeWhile (· ≠ '=') = encodeText pair.1 := by
    rw [pairChars, takeWhile_append_stop (by simp), List.takeWhile_eq_self_iff.mpr hname]
  have hdrop : ((pairChars pair).dropWhile (· ≠ '=')).drop 1 = encodeText pair.2 := by
    rw [pairChars, dropWhile_append_stop (by simp), List.dropWhile_eq_nil_iff.mpr hname]
    rfl
  rw [decodePair, htake, hdrop, decodeText_encodeText, decodeText_encodeText]
  rfl

/-- **A body comes apart where it was put together.** -/
theorem splitOn_encodePairs (pair : String × String) (rest : List (String × String)) :
    (encodePairs true (pair :: rest)).splitOn '&' = (pair :: rest).map pairChars := by
  have hfirst : encodePairs true (pair :: rest) = pairChars pair ++ encodePairs false rest := rfl
  rw [hfirst]
  induction rest generalizing pair with
  | nil =>
    rw [encodePairs, List.append_nil, List.splitOn_eq_singleton (not_mem_pairChars pair)]
    rfl
  | cons next rest ih =>
    have hnext : encodePairs false (next :: rest) =
        '&' :: (pairChars next ++ encodePairs false rest) := by
      simp [encodePairs, pairChars]
    rw [hnext, List.splitOn_append_cons_self_of_not_mem (not_mem_pairChars pair), ih next rfl]
    rfl

/-- **A body is read back.** -/
theorem decode_encode (pairs : List (String × String)) : decode (encode pairs) = some pairs := by
  have hread : ∀ pairs : List (String × String),
      (pairs.map pairChars).mapM decodePair = some pairs := by
    intro pairs
    induction pairs with
    | nil => rfl
    | cons pair rest ih =>
      rw [List.map_cons, List.mapM_cons, decodePair_pairChars, ih]
      rfl
  have hnonempty : ∀ part ∈ pairs.map pairChars, (!part.isEmpty) = true := by
    intro part hpart
    obtain ⟨pair, -, rfl⟩ := List.mem_map.mp hpart
    simp [pairChars]
  rw [decode, encode, String.toList_ofList]
  cases pairs with
  | nil => rfl
  | cons pair rest =>
    rw [splitOn_encodePairs, List.filter_eq_self.mpr hnonempty, hread]

end Form

end ScalpBot
