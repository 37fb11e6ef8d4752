import ScalpBot.Json.Basic
import ScalpBot.Text.Digits

/-!
# Reading JSON

`Json.parse` reads a text as one JSON value, and nothing when the text is malformed. Values nest up
to 127 levels. A number with a point or an exponent is read in two steps, as floating point hardware
does it: the digits that fit into 64 bits become a binary number, which is then multiplied or divided
by a power of ten.
-/

namespace ScalpBot

/-! ## Numbers -/

namespace JsonNumber

/-- The greatest digits that are read as they are. -/
def maxDigits : Nat := 2 ^ 64 - 1

/-- `x * 10 ^ exponent` in steps of at most 308 places. -/
def scaleFloat (x : Binary64) : (steps : Nat) → Int → Option Binary64
  | 0, _ => some x
  | steps + 1, exponent =>
    if exponent.natAbs ≤ 308 then
      if 0 ≤ exponent then Binary64.mulFinite x (.ofNat (10 ^ exponent.toNat))
      else Binary64.divFinite x (.ofNat (10 ^ (-exponent).toNat))
    else if x.isZero then some x
    else if 0 ≤ exponent then none
    else
      match Binary64.divFinite x (.ofNat (10 ^ 308)) with
      | some y => scaleFloat y steps (exponent + 308)
      | none => none

/-- The float of `digits * 10 ^ exponent`; too large a number is refused. -/
def ofParts (negative : Bool) (digits : Nat) (exponent : Int) : Option JsonNumber :=
  (scaleFloat (.ofNat digits) 4 exponent).map fun x => .float (if negative then x.neg else x)

/-- Digits in front, kept while they fit into 64 bits: the number, how many were kept, how many were
dropped, and the rest of the text. -/
def takeDigits (digits kept dropped : Nat) : List Char → Nat × Nat × Nat × List Char
  | c :: rest =>
    if c.isDigit then
      if dropped = 0 && digits * 10 + digitValue c ≤ maxDigits then
        takeDigits (digits * 10 + digitValue c) (kept + 1) 0 rest
      else takeDigits digits kept (dropped + 1) rest
    else (digits, kept, dropped, c :: rest)
  | [] => (digits, kept, dropped, [])

/-- An exponent after its mark; one of more than 31 bits counts as `2 ^ 31`. -/
def readExponent (cs : List Char) : Option (Int × List Char) :=
  let (negative, cs) := match cs with
    | '-' :: rest => (true, rest)
    | '+' :: rest => (false, rest)
    | _ => (false, cs)
  let (digits, rest) := cs.span Char.isDigit
  if digits.isEmpty then none
  else
    let n := min (digitsValue digits) (2 ^ 31)
    some (if negative then -(n : Int) else n, rest)

/-- The number of these digits, with an exponent if one follows. -/
def finishFloat (negative : Bool) (digits : Nat) (exponent : Int) (cs : List Char) :
    Option (JsonNumber × List Char) :=
  match cs with
  | 'e' :: rest | 'E' :: rest =>
    match readExponent rest with
    | some (e, rest) => (ofParts negative digits (exponent + e)).map (·, rest)
    | none => none
  | _ => (ofParts negative digits exponent).map (·, cs)

/-- The number of a whole part and what follows it. -/
def finishWhole (negative : Bool) (digits dropped : Nat) (cs : List Char) :
    Option (JsonNumber × List Char) :=
  match cs with
  | '.' :: rest =>
    let (all, kept, lost, after) := takeDigits digits 0 0 rest
    if kept = 0 && lost = 0 then none else finishFloat negative all (dropped - kept) after
  | 'e' :: _ | 'E' :: _ => finishFloat negative digits dropped cs
  | _ =>
    if dropped ≠ 0 then finishFloat negative digits dropped cs
    else if !negative then some (.integer digits, cs)
    else if 0 < digits && digits ≤ 2 ^ 63 then some (.integer (-digits), cs)
    else finishFloat true digits 0 cs

/-- Reads a number without its sign. -/
def readUnsigned (negative : Bool) (cs : List Char) : Option (JsonNumber × List Char) :=
  match cs with
  | '0' :: rest =>
    match rest with
    | c :: _ => if c.isDigit then none else finishWhole negative 0 0 rest
    | [] => finishWhole negative 0 0 rest
  | c :: _ =>
    if c.isDigit then
      let (digits, _, dropped, rest) := takeDigits 0 0 0 cs
      finishWhole negative digits dropped rest
    else none
  | [] => none

end JsonNumber

namespace Json

/-! ## Strings -/

/-- Four hexadecimal digits. -/
def fourHex? : List Char → Option (Nat × List Char)
  | a :: b :: c :: d :: rest =>
    match hexValue? a, hexValue? b, hexValue? c, hexValue? d with
    | some a, some b, some c, some d => some (((a * 16 + b) * 16 + c) * 16 + d, rest)
    | _, _, _, _ => none
  | _ => none

/-- The character of an escape after its backslash. Two halves of a pair make one character. -/
def escape? : List Char → Option (Char × List Char)
  | '"' :: rest => some ('"', rest)
  | '\\' :: rest => some ('\\', rest)
  | '/' :: rest => some ('/', rest)
  | 'b' :: rest => some ('\x08', rest)
  | 'f' :: rest => some ('\x0c', rest)
  | 'n' :: rest => some ('\n', rest)
  | 'r' :: rest => some ('\r', rest)
  | 't' :: rest => some ('\t', rest)
  | 'u' :: rest =>
    match fourHex? rest with
    | none => none
    | some (n, rest) =>
      if 0xD800 ≤ n && n < 0xDC00 then
        match rest with
        | '\\' :: 'u' :: rest =>
          match fourHex? rest with
          | some (m, rest) =>
            if 0xDC00 ≤ m && m < 0xE000 then
              some (Char.ofNat (0x10000 + (n - 0xD800) * 0x400 + (m - 0xDC00)), rest)
            else none
          | none => none
        | _ => none
      else if 0xDC00 ≤ n && n < 0xE000 then none
      else some (Char.ofNat n, rest)
  | _ => none

/-- The characters of a string after its opening quote. `fuel` is at least the length of the
text. -/
def readString : (fuel : Nat) → (read : List Char) → List Char → Option (String × List Char)
  | 0, _, _ => none
  | fuel + 1, read, cs =>
    match cs with
    | [] => none
    | '"' :: rest => some (String.ofList read.reverse, rest)
    | '\\' :: rest =>
      match escape? rest with
      | some (c, rest) => readString fuel (c :: read) rest
      | none => none
    | c :: rest => if c.toNat < 0x20 then none else readString fuel (c :: read) rest

/-! ## Values -/

/-- Whether JSON allows the character between its parts. -/
def isSpace (c : Char) : Bool := c = ' ' || c = '\n' || c = '\t' || c = '\r'

/-- Without the space in front. -/
def skipSpace (cs : List Char) : List Char := cs.dropWhile isSpace

/-- The rest after `word`. -/
def afterWord? : (word cs : List Char) → Option (List Char)
  | [], cs => some cs
  | w :: word, c :: cs => if w = c then afterWord? word cs else none
  | _ :: _, [] => none

mutual

/-- Reads a value. `fuel` bounds the steps, `depth` the levels that may still open. -/
def readValue : (fuel depth : Nat) → List Char → Option (Json × List Char)
  | 0, _, _ => none
  | fuel + 1, depth, cs =>
    match skipSpace cs with
    | 'n' :: rest => (afterWord? ['u', 'l', 'l'] rest).map (.null, ·)
    | 't' :: rest => (afterWord? ['r', 'u', 'e'] rest).map (.bool true, ·)
    | 'f' :: rest => (afterWord? ['a', 'l', 's', 'e'] rest).map (.bool false, ·)
    | '"' :: rest => (readString (rest.length + 1) [] rest).map fun (s, rest) => (.string s, rest)
    | '-' :: rest =>
      (JsonNumber.readUnsigned true rest).map fun (n, rest) => (.number n, rest)
    | '[' :: rest =>
      if depth ≤ 1 then none
      else
        match skipSpace rest with
        | ']' :: rest => some (.array [], rest)
        | rest => readItems fuel (depth - 1) [] rest
    | '\x7b' :: rest =>
      if depth ≤ 1 then none
      else
        match skipSpace rest with
        | '\x7d' :: rest => some (.object [], rest)
        | rest => readMembers fuel (depth - 1) [] rest
    | cs => (JsonNumber.readUnsigned false cs).map fun (n, rest) => (.number n, rest)

/-- Reads the items of an array up to its closing bracket. -/
def readItems : (fuel depth : Nat) → (read : List Json) → List Char → Option (Json × List Char)
  | 0, _, _, _ => none
  | fuel + 1, depth, read, cs =>
    match readValue fuel depth cs with
    | none => none
    | some (v, rest) =>
      match skipSpace rest with
      | ',' :: rest => readItems fuel depth (v :: read) rest
      | ']' :: rest => some (.array (v :: read).reverse, rest)
      | _ => none

/-- Reads the members of an object up to its closing brace. -/
def readMembers : (fuel depth : Nat) → (read : List (String × Json)) → List Char →
    Option (Json × List Char)
  | 0, _, _, _ => none
  | fuel + 1, depth, read, cs =>
    match skipSpace cs with
    | '"' :: rest =>
      match readString (rest.length + 1) [] rest with
      | none => none
      | some (key, rest) =>
        match skipSpace rest with
        | ':' :: rest =>
          match readValue fuel depth rest with
          | none => none
          | some (v, rest) =>
            match skipSpace rest with
            | ',' :: rest => readMembers fuel depth ((key, v) :: read) rest
            | '\x7d' :: rest => some (ofMembers ((key, v) :: read).reverse, rest)
            | _ => none
        | _ => none
    | _ => none

end

/-- The levels a text may open, and one. -/
def depthLimit : Nat := 128

/-- Reads a text as one value. -/
def parse (text : String) : Option Json :=
  let cs := text.toList
  match readValue (2 * cs.length + 1) depthLimit cs with
  | some (v, rest) => if (skipSpace rest).isEmpty then some v else none
  | none => none

end Json

end ScalpBot
