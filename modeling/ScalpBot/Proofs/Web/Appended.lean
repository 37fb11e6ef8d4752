import ScalpBot.Proofs.Result
import ScalpBot.Proofs.Web.PlainPath

/-!
# Addresses with a path behind them

A path is put behind the text of an address, and the result is read as an address of its own. The scheme,
the user, the host and the port are read as before, for a slash ends each of them. What is read as the
path, the query and the fragment is what the address had there (`WebAddress.afterAuthority`) with the new
path behind it: `WebAddress.parse_append`.
-/

namespace ScalpBot

/-! ## Up to a character that ends it -/

section Stop

variable {α : Type} {p : α → Bool} {stop : α}

theorem takeWhile_append_stop (hstop : p stop = false) (xs ys : List α) :
    (xs ++ stop :: ys).takeWhile p = xs.takeWhile p := by
  induction xs with
  | nil => simp [hstop]
  | cons x xs ih =>
    rw [List.cons_append, List.takeWhile_cons, List.takeWhile_cons, ih]

theorem dropWhile_append_stop (hstop : p stop = false) (xs ys : List α) :
    (xs ++ stop :: ys).dropWhile p = xs.dropWhile p ++ stop :: ys := by
  induction xs with
  | nil => simp [hstop]
  | cons x xs ih =>
    rw [List.cons_append, List.dropWhile_cons, List.dropWhile_cons, ih]
    split <;> rfl

theorem dropWhile_eq_self {xs : List α} (h : ∀ x ∈ xs.head?, p x = false) :
    xs.dropWhile p = xs := by
  cases xs with
  | nil => rfl
  | cons x xs => exact List.dropWhile_cons_of_neg (by simp [h x rfl])

end Stop

namespace WebAddress

variable {scheme : String} {cs rest : List Char} {host : Option WebHost}
  {port : Option Nat} {a : WebAddress}

/-- Whether a character can stand where it is said who is addressed. -/
def inAuthority (c : Char) : Bool := !endsAuthority .special c

/-- The port, where there is a colon, and what follows. -/
def readPort (scheme : String) (cs : List Char) : Except AddressError (Option Nat × List Char) :=
  match cs with
  | ':' :: rest => takePort scheme rest
  | _ => .ok (none, cs)

/-! ## Hosts -/

theorem takeHost_special (scheme : String) (cs : List Char) :
    takeHost scheme .special cs =
      if hostText .special false cs = [] then .error .emptyHost
      else parseHost (hostText .special false cs) >>= fun host =>
        readPort scheme (cs.drop (hostText .special false cs).length) >>= fun (port, rest) =>
          .ok (some host, port, rest) := by
  unfold takeHost
  generalize hostText .special false cs = text
  cases text with
  | nil => rfl
  | cons c text =>
    rw [if_neg (List.cons_ne_nil c text)]
    show (some <$> parseHost (c :: text) >>= _) = _
    cases parseHost (c :: text) with
    | error cause => rfl
    | ok host =>
      show (match cs.drop (c :: text).length with | ':' :: rest => _ | _ => _) = _
      unfold readPort
      generalize cs.drop (c :: text).length = tail
      split
      · rfl
      · rfl

theorem takeHost_eq_ok_iff :
    takeHost scheme .special cs = .ok (host, port, rest) ↔
      hostText .special false cs ≠ [] ∧
      ∃ h, parseHost (hostText .special false cs) = .ok h ∧
        readPort scheme (cs.drop (hostText .special false cs).length) = .ok (port, rest) ∧
        host = some h := by
  rw [takeHost_special]
  split
  · rename_i hempty
    exact iff_of_false nofun fun h => h.1 hempty
  · rename_i hne
    rw [and_iff_right hne, bind_eq_ok_iff]
    refine exists_congr fun h => and_congr_right fun _ => ?_
    rw [bind_eq_ok_iff]
    constructor
    · rintro ⟨⟨port', rest'⟩, hport, ⟨⟩⟩
      exact ⟨hport, rfl⟩
    · rintro ⟨hport, rfl⟩
      exact ⟨_, hport, rfl⟩

/-- The text of a host ends at a slash. -/
theorem hostText_append (inBrackets : Bool) (cs extra : List Char) :
    hostText .special inBrackets (cs ++ '/' :: extra) = hostText .special inBrackets cs := by
  induction cs generalizing inBrackets with
  | nil => rfl
  | cons c cs ih =>
    rw [List.cons_append, hostText, hostText, ih]

theorem isPrefix_hostText (inBrackets : Bool) (cs : List Char) :
    hostText .special inBrackets cs <+: cs := by
  induction cs generalizing inBrackets with
  | nil => exact List.prefix_rfl
  | cons c cs ih =>
    rw [hostText]
    split
    · exact List.nil_prefix
    · exact List.cons_prefix_cons.mpr ⟨rfl, ih _⟩

theorem inAuthority_hostText (inBrackets : Bool) (cs : List Char) :
    ∀ c ∈ hostText .special inBrackets cs, inAuthority c = true := by
  induction cs generalizing inBrackets with
  | nil => simp [hostText]
  | cons c cs ih =>
    rw [hostText]
    split
    · simp
    · rename_i hkept
      simp only [Bool.or_eq_true, not_or, Bool.not_eq_true] at hkept
      exact List.forall_mem_cons.mpr ⟨by simp [inAuthority, hkept.1], ih _⟩

/-- After the host comes a colon, what ends the authority, or nothing. -/
theorem head_drop_hostText (inBrackets : Bool) (cs : List Char) :
    ∀ c ∈ (cs.drop (hostText .special inBrackets cs).length).head?,
      c = ':' ∨ endsAuthority .special c = true := by
  induction cs generalizing inBrackets with
  | nil => simp
  | cons c cs ih =>
    rw [hostText]
    split
    · rename_i hends
      simp only [Bool.or_eq_true, Bool.and_eq_true, decide_eq_true_eq] at hends
      intro d hd
      obtain rfl : c = d := by simpa using hd
      exact hends.symm.imp_left And.left
    · exact ih _

/-- Whether a port can end where this follows. -/
def endsPort : List Char → Bool
  | c :: _ => c = '/' || c = '\\' || c = '?' || c = '#'
  | [] => true

theorem takePort_eq_ok_iff :
    takePort scheme cs = .ok (port, rest) ↔
      digitsValue (cs.takeWhile Char.isDigit) ≤ 65535 ∧ endsPort (cs.dropWhile Char.isDigit) = true ∧
      port = (if (cs.takeWhile Char.isDigit).isEmpty ||
          defaultPort? scheme = some (digitsValue (cs.takeWhile Char.isDigit)) then none
        else some (digitsValue (cs.takeWhile Char.isDigit))) ∧
      rest = cs.dropWhile Char.isDigit := by
  show (if (_ || !endsPort (cs.dropWhile Char.isDigit)) = true then _ else _) = _ ↔ _
  split
  · rename_i hbad
    refine iff_of_false nofun ?_
    rintro ⟨hvalue, hends, -⟩
    rw [hends] at hbad
    simp at hbad
    omega
  · rename_i hgood
    simp only [Bool.or_eq_true, decide_eq_true_eq, Bool.not_eq_true', not_or, Bool.not_eq_false,
      Nat.not_lt] at hgood
    rw [and_iff_right hgood.1, and_iff_right hgood.2]
    split <;> simp [eq_comm]

theorem inAuthority_of_isDigit {c : Char} (h : c.isDigit = true) : inAuthority c = true := by
  have hne : ∀ d : Char, d.isDigit = false → c ≠ d :=
    fun d hd => ne_of_apply_ne Char.isDigit (by rw [h, hd]; decide)
  simp [inAuthority, endsAuthority, hne '/' (by decide), hne '?' (by decide), hne '#' (by decide),
    hne '\\' (by decide)]

/-- Where a port can end the authority ends. -/
theorem dropWhile_inAuthority (h : endsPort rest = true) : rest.dropWhile inAuthority = rest := by
  refine dropWhile_eq_self fun c hc => ?_
  obtain ⟨tail, rfl⟩ := List.head?_eq_some_iff.mp hc
  simp only [endsPort, Bool.or_eq_true, decide_eq_true_eq] at h
  rcases h with ((rfl | rfl) | rfl) | rfl <;> decide

theorem endsPort_append (h : endsPort rest = true) (extra : List Char) :
    endsPort (rest ++ '/' :: extra) = true := by
  cases rest with
  | nil => rfl
  | cons c rest => exact h

/-- A port ends where the authority ends. -/
theorem takePort_append (h : takePort scheme cs = .ok (port, rest)) (extra : List Char) :
    takePort scheme (cs ++ '/' :: extra) = .ok (port, rest ++ '/' :: extra) ∧
      rest = cs.dropWhile inAuthority := by
  obtain ⟨hvalue, hends, hport, rfl⟩ := takePort_eq_ok_iff.mp h
  have hslash : Char.isDigit '/' = false := by decide
  refine ⟨takePort_eq_ok_iff.mpr ?_, ?_⟩
  · rw [takeWhile_append_stop hslash, dropWhile_append_stop hslash]
    exact ⟨hvalue, endsPort_append hends extra, hport, rfl⟩
  · have hdigits : ∀ c ∈ cs.takeWhile Char.isDigit, inAuthority c = true :=
      fun c hc => inAuthority_of_isDigit (List.mem_takeWhile_imp hc)
    calc cs.dropWhile Char.isDigit
        = (cs.dropWhile Char.isDigit).dropWhile inAuthority := (dropWhile_inAuthority hends).symm
      _ = (cs.takeWhile Char.isDigit ++ cs.dropWhile Char.isDigit).dropWhile inAuthority :=
        (List.dropWhile_append_of_pos hdigits).symm
      _ = cs.dropWhile inAuthority := by rw [List.takeWhile_append_dropWhile]

theorem readPort_append (h : readPort scheme cs = .ok (port, rest))
    (hhead : ∀ c ∈ cs.head?, c = ':' ∨ endsAuthority .special c = true) (extra : List Char) :
    readPort scheme (cs ++ '/' :: extra) = .ok (port, rest ++ '/' :: extra) ∧
      rest = cs.dropWhile inAuthority := by
  cases cs with
  | nil =>
    cases h
    exact ⟨rfl, rfl⟩
  | cons c cs =>
    by_cases hc : c = ':'
    · subst hc
      exact takePort_append h extra
    · have hplain : ∀ cs', readPort scheme (c :: cs') = .ok (none, c :: cs') := by
        intro cs'
        simp [readPort, hc]
      rw [hplain] at h
      cases h
      have hends : inAuthority c = false := by simp [inAuthority, (hhead c rfl).resolve_left hc]
      exact ⟨hplain _, (List.dropWhile_cons_of_neg (by simp [hends])).symm⟩

theorem takeHost_append (h : takeHost scheme .special cs = .ok (host, port, rest))
    (extra : List Char) :
    takeHost scheme .special (cs ++ '/' :: extra) = .ok (host, port, rest ++ '/' :: extra) ∧
      rest = cs.dropWhile inAuthority := by
  obtain ⟨hne, name, hname, hport, rfl⟩ := takeHost_eq_ok_iff.mp h
  obtain ⟨happend, hrest⟩ := readPort_append hport (head_drop_hostText false cs) extra
  constructor
  · refine takeHost_eq_ok_iff.mpr ?_
    have hlength := (isPrefix_hostText false cs).length_le
    rw [hostText_append, List.drop_append_of_le_length hlength]
    exact ⟨hne, name, hname, happend, rfl⟩
  · have htext := List.prefix_iff_eq_append.mp (isPrefix_hostText false cs)
    calc rest
        = (cs.drop (hostText .special false cs).length).dropWhile inAuthority := hrest
      _ = (hostText .special false cs ++ cs.drop (hostText .special false cs).length).dropWhile
            inAuthority := (List.dropWhile_append_of_pos (inAuthority_hostText false cs)).symm
      _ = cs.dropWhile inAuthority := by rw [htext]

/-! ## Users -/

theorem takeUser_append {user? : Option (List Char × List Char)}
    (h : takeUser .special cs = .ok (user?, rest)) (hrest : rest ≠ []) (extra : List Char) :
    takeUser .special (cs ++ '/' :: extra) = .ok (user?, rest ++ '/' :: extra) ∧
      rest.dropWhile inAuthority = cs.dropWhile inAuthority := by
  have hslash : (!endsAuthority .special '/') = false := by decide
  have hwhile : cs.takeWhile (!endsAuthority .special ·) <+: cs := List.takeWhile_prefix _
  have hnamed : ∀ c ∈ cs.takeWhile (!endsAuthority .special ·), inAuthority c = true :=
    fun c hc => List.mem_takeWhile_imp hc
  unfold takeUser at h ⊢
  rw [takeWhile_append_stop (p := fun c => !endsAuthority .special c) hslash]
  simp only at h ⊢
  generalize cs.takeWhile (fun c => !endsAuthority .special c) = authority at h hwhile hnamed ⊢
  generalize (authority.reverse.takeWhile (fun c => decide (c ≠ '@'))).reverse = tail at h ⊢
  have hdrop : (cs ++ '/' :: extra).drop (authority.length - tail.length) =
      cs.drop (authority.length - tail.length) ++ '/' :: extra := by
    have hlength := hwhile.length_le
    exact List.drop_append_of_le_length (by omega)
  split at h
  · rename_i hnone
    cases h
    rw [if_pos hnone]
    exact ⟨rfl, rfl⟩
  · rename_i hsome
    rw [if_neg hsome]
    split at h
    · cases h
    · rename_i hgood
      cases h
      constructor
      · -- the rest is not empty, neither with nor without more behind it
        have hboth : ((authority.take (authority.length - tail.length - 1)).isEmpty &&
            tail.isEmpty &&
            !(cs.drop (authority.length - tail.length) ++ '/' :: extra).isEmpty) = false := by
          simpa [List.isEmpty_eq_false_iff.mpr hrest] using hgood
        rw [hdrop, hboth, if_neg Bool.false_ne_true]
      · have htake : cs.take (authority.length - tail.length) <+: authority := by
          refine List.prefix_of_prefix_length_le (List.take_prefix ..) hwhile ?_
          rw [List.length_take]
          omega
        have hpast : ∀ c ∈ cs.take (authority.length - tail.length), inAuthority c = true :=
          fun c hc => hnamed c (htake.subset hc)
        rw [← List.dropWhile_append_of_pos hpast, List.take_append_drop]

/-! ## What follows the double slash -/

/-- **What follows the double slash** keeps all but the path when something is put behind it. -/
theorem afterSlashes_append (h : afterSlashes scheme .special cs = .ok a) :
    ∃ start, a = finish start .special (cs.dropWhile inAuthority) ∧
      ∀ extra, afterSlashes scheme .special (cs ++ '/' :: extra) =
        .ok (finish start .special (cs.dropWhile inAuthority ++ '/' :: extra)) := by
  obtain ⟨⟨user?, afterUser⟩, huser, h⟩ := bind_eq_ok_iff.mp h
  obtain ⟨⟨host, port, rest⟩, hhost, h⟩ := bind_eq_ok_iff.mp h
  obtain ⟨hne, name, -, -, rfl⟩ := takeHost_eq_ok_iff.mp hhost
  cases h
  have hafter : afterUser ≠ [] := fun hempty => hne (by rw [hempty]; rfl)
  have hrest : rest = cs.dropWhile inAuthority :=
    (takeHost_append hhost []).2.trans (takeUser_append huser hafter []).2
  rw [← hrest]
  refine ⟨_, rfl, fun extra => ?_⟩
  have huser' := (takeUser_append huser hafter extra).1
  have hhost' := (takeHost_append hhost extra).1
  show (takeUser .special (cs ++ '/' :: extra) >>= _) = _
  rw [huser']
  show (takeHost scheme .special (afterUser ++ '/' :: extra) >>= _) = _
  rw [hhost']
  rfl

/-! ## Schemes -/

/-- Whether a scheme can hold a character. -/
def isSchemePart (c : Char) : Bool := c.isAlphanum || c = '+' || c = '-' || c = '.'

theorem takeScheme_eq_some_iff :
    takeScheme cs = some (scheme, rest) ↔
      ∃ c name, cs = c :: name ++ ':' :: rest ∧ c.isAlpha = true ∧
        (∀ d ∈ c :: name, isSchemePart d = true) ∧
        scheme = String.ofList ((c :: name).map Char.toLower) := by
  have hcolon : isSchemePart ':' = false := by decide
  constructor
  · intro h
    cases cs with
    | nil => cases h
    | cons c cs =>
      change (if c.isAlpha then match (c :: cs).dropWhile isSchemePart with
        | ':' :: rest =>
          some (String.ofList (((c :: cs).takeWhile isSchemePart).map Char.toLower), rest)
        | _ => none
        else none) = _ at h
      split at h
      · rename_i halpha
        have hpart : isSchemePart c = true := by simp [isSchemePart, Char.isAlphanum, halpha]
        split at h
        · rename_i hdrop
          obtain ⟨rfl, rfl⟩ := Prod.mk.inj (Option.some.inj h)
          have happend := @List.takeWhile_append_dropWhile _ isSchemePart (c :: cs)
          rw [hdrop] at happend
          rw [List.takeWhile_cons_of_pos hpart] at happend ⊢
          refine ⟨c, cs.takeWhile isSchemePart, happend.symm, halpha, ?_, rfl⟩
          exact List.forall_mem_cons.mpr ⟨hpart, fun d hd => List.mem_takeWhile_imp hd⟩
        · cases h
      · cases h
  · rintro ⟨c, name, rfl, halpha, hname, rfl⟩
    change (if c.isAlpha then match (c :: name ++ ':' :: rest).dropWhile isSchemePart with
      | ':' :: rest' => some (String.ofList
          (((c :: name ++ ':' :: rest).takeWhile isSchemePart).map Char.toLower), rest')
      | _ => none
      else none) = _
    rw [if_pos halpha, dropWhile_append_stop hcolon, takeWhile_append_stop hcolon,
      List.dropWhile_eq_nil_iff.mpr hname, List.takeWhile_eq_self_iff.mpr hname]
    rfl

/-- What follows the scheme and the slashes after it. -/
def afterScheme (cs : List Char) : List Char :=
  ((cs.dropWhile (· ≠ ':')).drop 1).dropWhile fun c => c = '/' || c = '\\'

theorem afterScheme_of_takeScheme (h : takeScheme cs = some (scheme, rest)) :
    afterScheme cs = rest.dropWhile fun c => c = '/' || c = '\\' := by
  obtain ⟨c, name, rfl, -, hname, -⟩ := takeScheme_eq_some_iff.mp h
  have hnone : ∀ d ∈ c :: name, decide (d ≠ ':') = true := by
    intro d hd
    refine decide_eq_true ?_
    rintro rfl
    exact absurd (hname ':' hd) (by decide)
  rw [afterScheme, dropWhile_append_stop (by simp), List.dropWhile_eq_nil_iff.mpr hnone]
  rfl

theorem takeScheme_append (h : takeScheme cs = some (scheme, rest)) (extra : List Char) :
    takeScheme (cs ++ extra) = some (scheme, rest ++ extra) := by
  obtain ⟨c, name, rfl, halpha, hname, rfl⟩ := takeScheme_eq_some_iff.mp h
  exact takeScheme_eq_some_iff.mpr ⟨c, name, by simp, halpha, hname, rfl⟩

/-! ## Whole addresses -/

/-- Whether a character counts at neither end of an address. -/
def isEdge (c : Char) : Bool := c.toNat ≤ 0x20

/-- What counts of the text of an address. -/
def counted (cs : List Char) : List Char :=
  ((cs.dropWhile isEdge).reverse.dropWhile isEdge).reverse.filter isVisible

/-- A text that ends in what counts. -/
theorem counted_concat {last : Char} (hlast : isEdge last = false) (cs : List Char) :
    counted (cs ++ [last]) = ((cs ++ [last]).dropWhile isEdge).filter isVisible := by
  rw [counted, dropWhile_append_stop hlast, List.reverse_concat,
    List.dropWhile_cons_of_neg (by simp [hlast]), ← List.reverse_concat, List.reverse_reverse]

theorem counted_append {first last : Char} (hfirst : isEdge first = false)
    (hlast : isEdge last = false) (cs extra : List Char) :
    counted ((cs ++ [first]) ++ (extra ++ [last])) =
      counted (cs ++ [first]) ++ (extra ++ [last]).filter isVisible := by
  rw [← List.append_assoc (cs ++ [first]), counted_concat hlast, counted_concat hfirst,
    List.append_assoc, List.append_assoc, dropWhile_append_stop hfirst, List.singleton_append,
    dropWhile_append_stop hfirst, ← List.filter_append, List.append_assoc]
  rfl

theorem parse_eq (text : String) :
    parse text = match takeScheme (counted text.toList) with
      | none => .error .noScheme
      | some (scheme, rest) =>
        match schemeKind scheme with
        | .special => afterSlashes scheme .special (rest.dropWhile fun c => c = '/' || c = '\\')
        | .file => afterFile rest
        | .other => afterOther scheme rest := rfl

theorem scheme_of_afterSlashes {kind : SchemeKind} (h : afterSlashes scheme kind cs = .ok a) :
    a.scheme = scheme := by
  obtain ⟨⟨user?, afterUser⟩, -, h⟩ := bind_eq_ok_iff.mp h
  obtain ⟨⟨host, port, rest⟩, -, h⟩ := bind_eq_ok_iff.mp h
  cases user? with
  | none | some =>
    simp only at h
    split at h
    · cases h
    · cases h
      rfl

theorem scheme_of_afterFile (h : afterFile cs = .ok a) : a.scheme = "file" := by
  unfold afterFile at h
  simp only at h
  split at h
  · split at h
    · split at h
      · cases h
        rfl
      · obtain ⟨host, -, h⟩ := bind_eq_ok_iff.mp h
        cases h
        rfl
    · cases h
      rfl
  · cases h
    rfl

theorem scheme_of_afterOther (h : afterOther scheme cs = .ok a) : a.scheme = scheme := by
  unfold afterOther at h
  split at h
  · exact scheme_of_afterSlashes h
  · cases h
    rfl
  · cases h
    rfl

theorem schemeKind_eq_file : schemeKind scheme = .file ↔ scheme = "file" := by
  unfold schemeKind
  split
  · rename_i hspecial
    refine iff_of_false nofun ?_
    rintro rfl
    exact absurd hspecial (by decide)
  · simp

/-- The scheme of an address is the one that was read first. -/
theorem takeScheme_of_parse {text : String} (h : parse text = .ok a) :
    ∃ rest, takeScheme (counted text.toList) = some (a.scheme, rest) := by
  rw [parse_eq] at h
  cases hscheme : takeScheme (counted text.toList) with
  | none =>
    rw [hscheme] at h
    cases h
  | some found =>
    obtain ⟨scheme, rest⟩ := found
    refine ⟨rest, ?_⟩
    simp only [hscheme] at h
    have heq : a.scheme = scheme := by
      cases hkind : schemeKind scheme with
      | special =>
        simp only [hkind] at h
        exact scheme_of_afterSlashes h
      | file =>
        simp only [hkind] at h
        rw [scheme_of_afterFile h, schemeKind_eq_file.mp hkind]
      | other =>
        simp only [hkind] at h
        exact scheme_of_afterOther h
    rw [heq]

/-- A special address is read after its scheme and slashes. -/
theorem parse_special {text : String} {rest : List Char}
    (hscheme : takeScheme (counted text.toList) = some (scheme, rest))
    (hkind : schemeKind scheme = .special) :
    parse text = afterSlashes scheme .special (afterScheme (counted text.toList)) := by
  rw [afterScheme_of_takeScheme hscheme, parse_eq, hscheme]
  simp only [hkind]

variable {base path : String} {body : List Char} {b : WebAddress}

/-- Whether the end of a text counts. -/
def EndsVisibly (text : String) : Prop := ∃ last ∈ text.toList.getLast?, isEdge last = false

theorem counted_append_path (hbase : EndsVisibly base) (hpath : path.toList = '/' :: (body ++ ['/'])) :
    counted (base ++ path).toList = counted base.toList ++ path.toList.filter isVisible := by
  obtain ⟨last, hlast, hvisible⟩ := hbase
  obtain ⟨before, hbefore⟩ := List.getLast?_eq_some_iff.mp hlast
  have hslash : isEdge '/' = false := by decide
  have happend := counted_append hvisible hslash before ('/' :: body)
  rw [String.toList_append, hbefore, hpath]
  exact happend

/-- A path behind an address leaves its scheme. -/
theorem scheme_append (ha : parse base = .ok a) (hb : parse (base ++ path) = .ok b)
    (hbase : EndsVisibly base) (hpath : path.toList = '/' :: (body ++ ['/'])) :
    b.scheme = a.scheme := by
  obtain ⟨rest, hscheme⟩ := takeScheme_of_parse ha
  obtain ⟨rest', hscheme'⟩ := takeScheme_of_parse hb
  rw [counted_append_path hbase hpath, takeScheme_append hscheme] at hscheme'
  exact (Prod.mk.inj (Option.some.inj hscheme')).1.symm

/-- What follows the authority says nothing of the host and the port. -/
theorem hostAndPort?_finish (start : WebAddress) (cs : List Char) :
    (finish start .special cs).hostAndPort? = start.hostAndPort? := rfl

/-- What follows the authority of an address. -/
def afterAuthority (text : String) : List Char :=
  (afterScheme (counted text.toList)).dropWhile inAuthority

/-- **A path behind an address** leaves all that was before it: `start`. What is read as the path and
beyond is what the address had there and the new path. -/
theorem parse_append (h : parse base = .ok a) (hkind : schemeKind a.scheme = .special)
    (hbase : EndsVisibly base) (hpath : path.toList = '/' :: (body ++ ['/'])) :
    ∃ start, a = finish start .special (afterAuthority base) ∧
      parse (base ++ path) =
        .ok (finish start .special (afterAuthority base ++ path.toList.filter isVisible)) := by
  obtain ⟨tail, hscheme⟩ := takeScheme_of_parse h
  rw [parse_special hscheme hkind] at h
  obtain ⟨start, ha, happend⟩ := afterSlashes_append h
  refine ⟨start, ha, ?_⟩
  have hfilter : path.toList.filter isVisible = '/' :: (body ++ ['/']).filter isVisible := by
    rw [hpath]
    rfl
  have hscheme' := takeScheme_append hscheme (path.toList.filter isVisible)
  rw [← counted_append_path hbase hpath] at hscheme'
  -- more than slashes follows the scheme, for there is a host
  have hne : afterScheme (counted base.toList) ≠ [] := by
    intro hempty
    rw [hempty] at h
    cases h
  rw [afterAuthority]
  rw [afterScheme_of_takeScheme hscheme] at hne happend ⊢
  rw [parse_special hscheme' hkind, afterScheme_of_takeScheme hscheme', List.dropWhile_append,
    if_neg (by simpa using hne), hfilter]
  exact happend _

/-! ## Addresses with a plain path -/

/-- A text without blanks and controls: a scheme, a double slash, who is addressed, and a path, which may
be empty. -/
def HasPath (text path : String) : Prop :=
  ∃ scheme authority, text.toList = scheme ++ ':' :: '/' :: '/' :: (authority ++ path.toList) ∧
    (∀ c ∈ text.toList, isEdge c = false) ∧ ':' ∉ scheme ∧ authority ≠ [] ∧
    (∀ c ∈ authority, inAuthority c = true) ∧ ∀ c ∈ path.toList.head?, c = '/'

theorem counted_eq_self (h : ∀ c ∈ cs, isEdge c = false) : counted cs = cs := by
  have hhead : ∀ c ∈ cs.head?, isEdge c = false := fun c hc => h c (List.mem_of_mem_head? hc)
  have hlast : ∀ c ∈ cs.reverse.head?, isEdge c = false :=
    fun c hc => h c (List.mem_reverse.mp (List.mem_of_mem_head? hc))
  rw [counted, dropWhile_eq_self hhead, dropWhile_eq_self hlast, List.reverse_reverse]
  exact filter_isVisible_eq_self (by decide) h

theorem HasPath.endsVisibly (h : HasPath base path) : EndsVisibly base := by
  obtain ⟨scheme, authority, hbase, hedges, -⟩ := h
  have hne : base.toList ≠ [] := by simp [hbase]
  exact ⟨_, List.getLast?_eq_some_getLast hne, hedges _ (List.getLast_mem hne)⟩

theorem HasPath.head_eq_slash (h : HasPath base path) : ∀ c ∈ path.toList.head?, c = '/' := by
  obtain ⟨_, _, _, _, _, _, _, hhead⟩ := h
  exact hhead

theorem HasPath.afterAuthority_eq (h : HasPath base path) : afterAuthority base = path.toList := by
  obtain ⟨scheme, authority, hbase, hedges, hcolon, hne, hauthority, hpath⟩ := h
  have hscheme : ∀ c ∈ scheme, decide (c ≠ ':') = true := by
    intro c hc
    refine decide_eq_true ?_
    rintro rfl
    exact hcolon hc
  -- the authority begins with no slash, and the path with nothing else
  have hslashes : (authority ++ path.toList).dropWhile (fun c => c = '/' || c = '\\') =
      authority ++ path.toList := by
    obtain ⟨c, rest, rfl⟩ := List.exists_cons_of_ne_nil hne
    have hc := hauthority c List.mem_cons_self
    refine dropWhile_eq_self ?_
    rintro d ⟨⟩
    simp only [inAuthority, endsAuthority, Bool.not_eq_true', Bool.or_eq_false_iff,
      decide_eq_false_iff_not] at hc
    simp_all
  have hend : path.toList.dropWhile inAuthority = path.toList := by
    refine dropWhile_eq_self fun c hc => ?_
    rw [hpath c hc]
    decide
  calc afterAuthority base
      = ((authority ++ path.toList).dropWhile fun c => c = '/' || c = '\\').dropWhile inAuthority := by
        rw [afterAuthority, counted_eq_self hedges, hbase, afterScheme,
          dropWhile_append_stop (by simp), List.dropWhile_eq_nil_iff.mpr hscheme]
        rfl
    _ = path.toList := by rw [hslashes, List.dropWhile_append_of_pos hauthority, hend]

end WebAddress

end ScalpBot
