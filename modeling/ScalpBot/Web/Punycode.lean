import ScalpBot.Power

/-!
# Punycode

A row of characters as letters, digits and hyphens: the ASCII characters first, then for each other
character, in the order of code points, how far it stands from the one before, as a number in base 36
whose digits have thresholds that follow the numbers written so far.
-/

namespace ScalpBot.Punycode

/-- The digit of a value below 36. -/
def digitChar (n : Nat) : Char :=
  if n < 26 then Char.ofNat ('a'.toNat + n) else Char.ofNat ('0'.toNat + (n - 26))

/-- The value of a digit. -/
def digitValue? (c : Char) : Option Nat :=
  if 'a' ≤ c && c ≤ 'z' then some (c.toNat - 'a'.toNat)
  else if 'A' ≤ c && c ≤ 'Z' then some (c.toNat - 'A'.toNat)
  else if c.isDigit then some (c.toNat - '0'.toNat + 26)
  else none

/-- The threshold of the digit at `place` (36, 72, …) under a bias. -/
def threshold (bias place : Nat) : Nat := max 1 (min 26 (place - bias))

/-- Divides by 35 until at most 455 is left; gives the rest and 36 for each division. -/
def reduce : (fuel : Nat) → (delta places : Nat) → Nat × Nat
  | 0, delta, places => (delta, places)
  | fuel + 1, delta, places =>
    if 455 < delta then reduce fuel (delta / 35) (places + 36) else (delta, places)

/-- The bias for the next number. -/
def adapt (delta count : Nat) (isFirst : Bool) : Nat :=
  let delta := if isFirst then delta / 700 else delta / 2
  let (delta, places) := reduce 64 (delta + delta / count) 0
  places + 36 * delta / (delta + 38)

/-! ## Writing -/

/-- The digits of a number. -/
def numberDigits (bias : Nat) : (fuel : Nat) → (place n : Nat) → List Char
  | 0, _, n => [digitChar n]
  | fuel + 1, place, n =>
    let t := threshold bias place
    if n < t then [digitChar n]
    else digitChar (t + (n - t) % (36 - t)) :: numberDigits bias fuel (place + 36) ((n - t) / (36 - t))

/-- The state of a writer. -/
structure Writer where
  /-- The distance so far. -/
  delta : Nat
  bias : Nat
  /-- How many characters have been written. -/
  handled : Nat
  /-- The digits so far, in reverse. -/
  output : List Char

/-- Writes all occurrences of the code point `n`. -/
def writeCode (basic n : Nat) (cs : List Char) (w : Writer) : Writer :=
  cs.foldl (fun w c =>
    if c.toNat < n then { w with delta := w.delta + 1 }
    else if c.toNat = n then
      { delta := 0
        bias := adapt w.delta (w.handled + 1) (w.handled = basic)
        handled := w.handled + 1
        output := (numberDigits w.bias 32 36 w.delta).reverse ++ w.output }
    else w) w

/-- Writes the characters from the code point `n` on. -/
def writeFrom (basic : Nat) (cs : List Char) : (fuel : Nat) → (n : Nat) → Writer → Writer
  | 0, _, w => w
  | fuel + 1, n, w =>
    match ((cs.map Char.toNat).filter (n ≤ ·)).min? with
    | none => w
    | some m =>
      let w := { w with delta := w.delta + (m - n) * (w.handled + 1) }
      let w := writeCode basic m cs w
      writeFrom basic cs fuel (m + 1) { w with delta := w.delta + 1 }

/-- The characters in Punycode. -/
def encode (cs : List Char) : List Char :=
  let basic := cs.filter fun c => c.toNat < 128
  let start := basic ++ (if basic.isEmpty then [] else ['-'])
  let w := writeFrom basic.length cs (cs.length + 1) 128 ⟨0, 72, basic.length, []⟩
  start ++ w.output.reverse

/-! ## Reading -/

/-- A number in front: its value and the rest. -/
def readNumber (bias : Nat) : (fuel : Nat) → (place weight value : Nat) → List Char →
    Option (Nat × List Char)
  | 0, _, _, _, _ => none
  | _, _, _, _, [] => none
  | fuel + 1, place, weight, value, c :: rest =>
    match digitValue? c with
    | none => none
    | some d =>
      let value := value + d * weight
      let t := threshold bias place
      if 2 ^ 32 ≤ value then none
      else if d < t then some (value, rest)
      else readNumber bias fuel (place + 36) (weight * (36 - t)) value rest

/-- Reads number after number and inserts the characters they stand for. -/
def readFrom : (fuel : Nat) → (index code bias : Nat) → (output : List Char) → List Char →
    Option (List Char)
  | _, _, _, _, output, [] => some output
  | 0, _, _, _, _, _ => none
  | fuel + 1, index, code, bias, output, cs =>
    match readNumber bias (cs.length + 1) 36 1 0 cs with
    | none => none
    | some (delta, rest) =>
      let count := output.length + 1
      let code := code + (index + delta) / count
      let place := (index + delta) % count
      if code.isValidChar then
        readFrom fuel (place + 1) code (adapt delta count (index = 0))
          (output.insertIdx place (Char.ofNat code)) rest
      else none

/-- The characters of a text in Punycode. -/
def decode (cs : List Char) : Option (List Char) :=
  let tail := (cs.reverse.takeWhile (· ≠ '-')).reverse
  let basic := cs.take (cs.length - tail.length - 1)
  if basic.any (128 ≤ ·.toNat) then none
  else
    let digits := if tail.length = cs.length then cs else tail
    readFrom (digits.length + 1) 0 128 72 basic digits

end ScalpBot.Punycode
