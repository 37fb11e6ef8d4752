import ScalpBot.Text.Normal
import ScalpBot.Web.DomainTables
import ScalpBot.Web.Punycode

/-!
# Domain names

`Domain.toAscii?` brings a domain name into the form that is looked up: in lower case and in ASCII. A
part with other characters is normalized and written as `xn--` and its Punycode; a part that already
begins with `xn--` must be what its characters would have been written as.
-/

namespace ScalpBot.Domain

/-- The ASCII characters that no domain name has. -/
def isForbidden (c : Char) : Bool :=
  c.toNat ≤ 0x20 || c.toNat = 0x7F || c ∈ "%#/:<>?@[\\]^|".toList

/-- What a character is replaced by; nothing for one that is not allowed. -/
def mapChar (c : Char) : Option (List Char) :=
  if c.toNat < 128 then some [c.toLower]
  else if domainValid.contains c.toNat then some [c]
  else if domainIgnored.contains c.toNat then some []
  else
    match domainLongMap.lookup c.toNat with
    | some cs => some cs
    | none =>
      let d := domainMap.apply c
      if d = c then none else some [d]

/-- A row of characters, each replaced, in normal form. -/
def mapped (cs : List Char) : Option (List Char) := do
  let parts ← cs.mapM mapChar
  return normalized parts.flatten

/-! ## What a part may hold -/

/-- The class of the marks that join two consonants. -/
def viramaClass : Nat := 9

/-- Whether a joiner at this place has the company it needs: a virama before it, or, for one that
separates, letters on both sides that would join. -/
def joinerFits (before after : List Char) (c : Char) : Bool :=
  let beforeIsVirama := match before with
    | d :: _ => NormalForm.combiningClass d = viramaClass
    | [] => false
  let nextType (cs : List Char) : Nat :=
    ((cs.map joiningTypes.classOf).find? (· ≠ 4)).getD 0
  let left := nextType before
  let right := nextType after
  beforeIsVirama
    || (c.toNat = 0x200C && (left = 1 || left = 2) && (right = 1 || right = 3))

/-- Whether all joiners have the company they need. `before` is held in reverse. -/
def joinersFit (before : List Char) : List Char → Bool
  | [] => true
  | c :: rest =>
    (c.toNat ≠ 0x200C && c.toNat ≠ 0x200D || joinerFits before rest c)
      && joinersFit (c :: before) rest

/-- Whether a part can stand in a name: it begins with no mark and its joiners fit. -/
def isSound (part : List Char) : Bool :=
  match part with
  | [] => true
  | c :: _ => !markCharacters.contains c.toNat && joinersFit [] part

/-- Whether a name runs from right to left anywhere. -/
def runsLeft (part : List Char) : Bool :=
  part.any fun c => (directions.classOf c) ∈ [1, 2, 3]

/-- Whether the directions in a part agree: it runs one way, begins with a letter, ends in a letter or
a digit, and does not mix two kinds of digits. -/
def directionsAgree (part : List Char) : Bool :=
  let ds := part.map directions.classOf
  let ending := (ds.reverse.find? (· ≠ 10)).getD 8
  match ds with
  | [] => true
  | d :: _ =>
    if d = 1 || d = 2 then
      ds.all (· ≠ 0) && ending ∈ [1, 2, 3, 4] && !(ds.contains 3 && ds.contains 4)
    else if d = 0 then
      ds.all (fun k => k ∉ [1, 2, 3]) && ending ∈ [0, 4]
    else false

/-! ## Parts -/

/-- A part as shown and as looked up. -/
structure Part where
  shown : List Char
  ascii : List Char

/-- What marks a part in Punycode. -/
def punycodeMark : List Char := ['x', 'n', '-', '-']

/-- The most characters a part may have that is not in ASCII. -/
def maxPartLength : Nat := 1000

/-- The most characters a part in Punycode may have after its mark. -/
def maxPunycodeLength : Nat := 2000

/-- A part after replacement. -/
def readPart (part : List Char) : Option Part :=
  if punycodeMark.isPrefixOf part then
    match Punycode.decode (part.drop 4) with
    | none => none
    | some shown =>
      if maxPunycodeLength + 4 < part.length || shown.all (·.toNat < 128)
          || mapped shown ≠ some shown || !isSound shown then none
      else some ⟨shown, punycodeMark ++ Punycode.encode shown⟩
  else if part.all (·.toNat < 128) then some ⟨part, part⟩
  else if maxPartLength < part.length || !isSound part then none
  else some ⟨part, punycodeMark ++ Punycode.encode part⟩

/-- The domain name as it is looked up. -/
def toAscii? (cs : List Char) : Option (List Char) := do
  let name ← mapped cs
  let parts ← (name.splitOn '.').mapM readPart
  if parts.any (·.shown.any isForbidden) then none
  else if (parts.any fun p => runsLeft p.shown)
      && !(parts.all fun p => directionsAgree p.shown) then none
  else some (['.'].intercalate (parts.map (·.ascii)))

end ScalpBot.Domain
