import ScalpBot.Text.NormalTables

/-!
# Normal form C

`normalized` decomposes every character as far as it goes, puts the marks on a character into the order
of their combining classes, and composes what can be composed.
-/

namespace ScalpBot

namespace NormalForm

/-- The combining class of a character; zero for those that start anew. -/
def combiningClass (c : Char) : Nat := combiningClasses.classOf c

/-! ## Hangul -/

/-- The first syllable. -/
def syllableBase : Nat := 0xAC00

/-- The number of syllables. -/
def syllableCount : Nat := 11172

/-- The parts of a syllable. -/
def syllableParts (index : Nat) : List Char :=
  let lead := Char.ofNat (0x1100 + index / 588)
  let vowel := Char.ofNat (0x1161 + index % 588 / 28)
  if index % 28 = 0 then [lead, vowel] else [lead, vowel, Char.ofNat (0x11A7 + index % 28)]

/-- The syllable of two parts. -/
def syllableOf? (a b : Char) : Option Char :=
  let a := a.toNat
  let b := b.toNat
  if 0x1100 ≤ a && a < 0x1113 && 0x1161 ≤ b && b < 0x1176 then
    some (Char.ofNat (syllableBase + ((a - 0x1100) * 21 + (b - 0x1161)) * 28))
  else if syllableBase ≤ a && a < syllableBase + syllableCount && (a - syllableBase) % 28 = 0
      && 0x11A7 < b && b < 0x11C3 then
    some (Char.ofNat (a + (b - 0x11A7)))
  else none

/-! ## Decomposition -/

/-- Decomposes a character in at most `steps` steps. -/
def decomposeChar : (steps : Nat) → Char → List Char
  | 0, c => [c]
  | steps + 1, c =>
    let n := c.toNat
    if n < 0xC0 then [c]
    else if syllableBase ≤ n && n < syllableBase + syllableCount then
      syllableParts (n - syllableBase)
    else
      match decompositionTable.lookup n with
      | some cs => cs.flatMap (decomposeChar steps)
      | none => [c]

/-- Puts a mark before the marks of higher classes at the end of a row that is held in reverse. -/
def insertMark (c : Char) (k : Nat) : List Char → List Char
  | d :: rest => if k < combiningClass d then d :: insertMark c k rest else c :: d :: rest
  | [] => [c]

/-- The characters in order, onto a row that is held in reverse. -/
def orderMarks (before : List Char) : List Char → List Char
  | [] => before.reverse
  | c :: rest =>
    let k := combiningClass c
    orderMarks (if k = 0 then c :: before else insertMark c k before) rest

/-! ## Composition -/

/-- The character that two make. -/
def composite? (a b : Char) : Option Char :=
  match syllableOf? a b with
  | some c => some c
  | none =>
    match decompositionTable.find? fun e => e.2 = [a, b] with
    | some (n, _) => if compositionExclusions.contains n then none else some (Char.ofNat n)
    | none => none

/-- Composes what follows a starter. `marks` holds those that stay behind it, in reverse. -/
def composeAfter (starter : Char) (marks : List Char) : List Char → List Char
  | [] => starter :: marks.reverse
  | c :: rest =>
    let k := combiningClass c
    let blocked := match marks with
      | [] => false
      | m :: _ => k ≤ combiningClass m
    match if blocked then none else composite? starter c with
    | some s => composeAfter s marks rest
    | none =>
      if k = 0 then starter :: marks.reverse ++ composeAfter c [] rest
      else composeAfter starter (c :: marks) rest

/-- Composes a row of characters in order. -/
def compose : List Char → List Char
  | [] => []
  | c :: rest => if combiningClass c = 0 then composeAfter c [] rest else c :: compose rest

end NormalForm

/-- The characters in normal form C. -/
def normalized (cs : List Char) : List Char :=
  NormalForm.compose (NormalForm.orderMarks [] (cs.flatMap (NormalForm.decomposeChar 4)))

end ScalpBot
