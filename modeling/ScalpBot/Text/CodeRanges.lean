import ScalpBot.Text.Digits

/-!
# Sets and maps of code points

Properties of characters are sets of code points or numbers for them, and simple case maps are maps
between them. All are stored as rows of numbers: a set as the alternating lengths of its gaps and of
its ranges, a map as runs of code points that move by one distance.
-/

namespace ScalpBot

/-- The numbers in a text, separated by spaces. -/
def numbersOf (text : String) : List Nat :=
  (text.toList.splitOn ' ').map digitsValue

/-- A set of code points as ranges, both ends included. -/
structure CodeRanges where
  ranges : Array (Nat × Nat)

namespace CodeRanges

/-- The ranges after `start`: a gap, a length, and so on. -/
def pairs (start : Nat) : List Nat → List (Nat × Nat)
  | gap :: length :: rest =>
    (start + gap, start + gap + length - 1) :: pairs (start + gap + length) rest
  | _ => []

/-- The set that a row of alternating gaps and lengths describes. -/
def ofLengths (rows : List String) : CodeRanges :=
  ⟨(pairs 0 (numbersOf (String.join rows))).toArray⟩

/-- Whether the set holds the code point. -/
def contains (s : CodeRanges) (code : Nat) : Bool :=
  s.ranges.any fun r => r.1 ≤ code && code ≤ r.2

end CodeRanges

/-- A run of code points `first, first + step, …` that all move by one distance. -/
structure CodeRun where
  first : Nat
  count : Nat
  step : Nat
  distance : Int

/-- A map between code points; what no run holds stays as it is. -/
structure CodeMap where
  runs : Array CodeRun

namespace CodeMap

/-- The runs in a row of fours: first, count, step, and the distance, upwards when even (twice the
distance) and downwards when odd (twice the distance plus one). -/
def quads : List Nat → List CodeRun
  | first :: count :: step :: code :: rest =>
    ⟨first, count, step, if code % 2 = 0 then code / 2 else -(code / 2 : Nat)⟩ :: quads rest
  | _ => []

/-- The map that rows of fours describe. -/
def ofRuns (rows : List String) : CodeMap := ⟨(quads (numbersOf (String.join rows))).toArray⟩

/-- The image of a character. -/
def apply (m : CodeMap) (c : Char) : Char :=
  let n := c.toNat
  match m.runs.find? fun r =>
      r.first ≤ n && n ≤ r.first + (r.count - 1) * r.step && (n - r.first) % r.step = 0 with
  | some r => Char.ofNat ((n : Int) + r.distance).toNat
  | none => c

end CodeMap

/-- The entries in rows of a code point, the length of its image, and the image. -/
def codeEntries : (fuel : Nat) → List Nat → List (Nat × List Char)
  | fuel + 1, code :: length :: rest =>
    (code, (rest.take length).map Char.ofNat) :: codeEntries fuel (rest.drop length)
  | _, _ => []

/-- A map from code points to several characters each. -/
def codeRows (rows : List String) : List (Nat × List Char) :=
  let numbers := numbersOf (String.join rows)
  codeEntries numbers.length numbers

/-- A number for each code point; zero for those in no range. -/
structure CodeClasses where
  ranges : Array (Nat × Nat × Nat)

namespace CodeClasses

/-- The ranges after `start`: a gap, a length, a class, and so on. -/
def triples (start : Nat) : List Nat → List (Nat × Nat × Nat)
  | gap :: length :: value :: rest =>
    (start + gap, start + gap + length - 1, value) :: triples (start + gap + length) rest
  | _ => []

/-- The classes that rows of gaps, lengths and classes describe. -/
def ofTriples (rows : List String) : CodeClasses :=
  ⟨(triples 0 (numbersOf (String.join rows))).toArray⟩

/-- The class of a character. -/
def classOf (s : CodeClasses) (c : Char) : Nat :=
  match s.ranges.find? fun r => r.1 ≤ c.toNat && c.toNat ≤ r.2.1 with
  | some r => r.2.2
  | none => 0

end CodeClasses

end ScalpBot
