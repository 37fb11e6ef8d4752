/-!
# Similar words

How alike two words are, by the characters they share at nearly the same places. `Similarity.of` counts;
`Similarity.exceeds` compares with a threshold and `Similarity.atLeast` with another similarity, both
without rounding. `mostSimilar?` picks the best of several words.
-/

namespace ScalpBot

/-- The similarity of two words, as a fraction. -/
structure Similarity where
  numerator : Nat
  denominator : Nat
deriving DecidableEq, Repr

namespace Similarity

/-- How far apart the places of two characters may be that count as shared. -/
def reach (a b : List Char) : Nat := max a.length b.length / 2 - 1

/-- The first place in `b` within reach of place `i` that holds `c` and is not taken. -/
def partner? (b : List Char) (reach i : Nat) (taken : List Nat) (c : Char) : Option Nat :=
  (List.range b.length).find? fun j =>
    i ≤ j + reach && j ≤ i + reach && b[j]? = some c && !taken.contains j

/-- The shared characters in the order of `a`, and their places in `b`. -/
def shared (a b : List Char) : List Char × List Nat :=
  a.zipIdx.foldl (fun (found, taken) (c, i) =>
    match partner? b (reach a b) i taken c with
    | some j => (found ++ [c], taken ++ [j])
    | none => (found, taken)) ([], [])

/-- The mean of three parts: how much of `a` is shared, how much of `b`, and how much of what is shared
stands in one order in both. Two shared characters out of order count as one exchange. -/
def of (a b : List Char) : Similarity :=
  let (found, taken) := shared a b
  let inB := (List.range b.length).filter taken.contains
  let count := found.length
  let misplaced := ((found.zip inB).filter fun (c, j) => b[j]? ≠ some c).length
  if count = 0 then ⟨0, 1⟩
  else
    ⟨count * count * b.length + count * count * a.length
        + (count - misplaced / 2) * a.length * b.length,
      3 * a.length * b.length * count⟩

/-- Whether a similarity is greater than `n / d`. -/
def exceeds (s : Similarity) (n d : Nat) : Bool := n * s.denominator < s.numerator * d

/-- Whether a similarity is not less than another. -/
def atLeast (s t : Similarity) : Bool :=
  t.numerator * s.denominator ≤ s.numerator * t.denominator

end Similarity

/-- The word that is most similar to `text`, if one is similar at all. -/
def mostSimilar? (text : String) (words : List String) : Option String :=
  let scored := words.map fun w => (w, Similarity.of text.toList w.toList)
  let best := (scored.filter fun p => p.2.exceeds 7 10).foldl (fun best p =>
    match best with
    | some b => if p.2.atLeast b.2 then some p else some b
    | none => some p) none
  best.map (·.1)

end ScalpBot
