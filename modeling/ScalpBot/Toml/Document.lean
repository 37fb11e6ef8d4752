import ScalpBot.Toml.Scalar

/-!
# Reading a TOML document

`Toml.parse` reads a document, and nothing when it is malformed in any way. A document is a row of
lines: headers, which open a table or add one to an array of tables, and entries of the table last
opened. A table can be opened once; a table that only came about on the way to another can still be
opened, and a table made by a dotted key only grows by dotted keys.
-/

namespace ScalpBot.Toml

open Reader

/-! ## Tables under construction -/

/-- How a table came about. -/
inductive TableOrigin where
  /-- On the way to another table. -/
  | implied
  /-- By a dotted key. -/
  | dotted
  /-- By its own header. -/
  | opened
deriving DecidableEq

/-- A value under construction. -/
inductive Node where
  /-- A value that is complete. -/
  | value (v : Toml)
  /-- A table that may still grow. -/
  | table (origin : TableOrigin) (entries : List (String × Node))
  /-- An array of tables, the last first. -/
  | tables (items : List (List (String × Node)))

/-- The entries of a table under construction. -/
abbrev Entries := List (String × Node)

/-- Replaces the value of a key, or adds the key. -/
def Entries.set (key : String) (node : Node) : Entries → Entries
  | [] => [(key, node)]
  | (k, n) :: rest => if k = key then (k, node) :: rest else (k, n) :: set key node rest

/-- Changes the table at the end of a path. Tables that are missing on the way are made; `byKey` says
that a dotted key leads there, which must not pass through a table with a header of its own. An array
of tables leads to its last table. -/
def descend (byKey : Bool) (change : TableOrigin → Entries → Option Entries) :
    (path : List String) → TableOrigin → Entries → Option Entries
  | [], origin, entries => change origin entries
  | key :: path, _, entries =>
    match entries.lookup key with
    | none =>
      let origin := if byKey then TableOrigin.dotted else .implied
      (descend byKey change path origin []).map fun inner =>
        entries.set key (.table origin inner)
    | some (.value _) => none
    | some (.table origin inner) =>
      if byKey && origin = .opened then none
      else
        (descend byKey change path origin inner).map fun inner =>
          entries.set key (.table origin inner)
    | some (.tables (last :: before)) =>
      (descend byKey change path .opened last).map fun last =>
        entries.set key (.tables (last :: before))
    | some (.tables []) => none

/-- Adds an entry under a dotted key to a table. -/
def addEntry (path : List String) (key : String) (v : Toml) (origin : TableOrigin)
    (entries : Entries) : Option Entries :=
  let add (origin : TableOrigin) (entries : Entries) : Option Entries :=
    if (origin = .dotted) = path.isEmpty then none
    else if (entries.lookup key).isSome then none
    else some (entries ++ [(key, .value v)])
  descend true add path origin entries

/-- Opens a table. -/
def openTable (path : List String) (key : String) (entries : Entries) : Option Entries :=
  let change (_ : TableOrigin) (entries : Entries) : Option Entries :=
    match entries.lookup key with
    | none => some (entries.set key (.table .opened []))
    | some (.table .implied inner) => some (entries.set key (.table .opened inner))
    | _ => none
  descend false change path .opened entries

/-- Adds a table to an array of tables. -/
def openItem (path : List String) (key : String) (entries : Entries) : Option Entries :=
  let change (_ : TableOrigin) (entries : Entries) : Option Entries :=
    match entries.lookup key with
    | none => some (entries.set key (.tables [[]]))
    | some (.tables items) => some (entries.set key (.tables ([] :: items)))
    | _ => none
  descend false change path .opened entries

mutual

/-- The finished value. -/
def Node.finish : Node → Toml
  | .value v => v
  | .table _ entries => .table (finishEntries entries)
  | .tables items => .array (finishTables items).reverse

/-- The finished entries. -/
def finishEntries : List (String × Node) → List (String × Toml)
  | [] => []
  | (key, node) :: rest => (key, node.finish) :: finishEntries rest

/-- The finished tables of an array. -/
def finishTables : List (List (String × Node)) → List Toml
  | [] => []
  | entries :: rest => .table (finishEntries entries) :: finishTables rest

end

/-! ## Keys -/

/-- A character of a key without quotes. -/
def isBare (c : Char) : Bool := c.isAlphanum || c = '_' || c = '-'

/-- One part of a key. -/
def simpleKey : Reader String := do
  match ← peek with
  | some '"' => quotedLine '"' true
  | some '\'' => quotedLine '\'' false
  | _ => return String.ofList (← atLeastOne isBare)

/-- The parts after the first part of a key. -/
def moreKeys : (fuel : Nat) → Reader (List String)
  | 0 => return []
  | fuel + 1 => do
    let _ ← many isSpace
    match ← peek with
    | some '.' =>
      char '.'
      let _ ← many isSpace
      let part ← simpleKey
      return part :: (← moreKeys fuel)
    | _ => return []

/-- The levels that keys and values may have, and one. -/
def levelLimit : Nat := 80

/-- A key of one or more parts, with the blanks after it: the path and the last part. -/
def key : Reader (List String × String) := do
  let first ← simpleKey
  let parts := first :: (← moreKeys (← get).length)
  if levelLimit ≤ parts.length then failure
  return (parts.dropLast, parts.getLastD first)

/-! ## Values -/

/-- A comment. -/
def comment : Reader Unit := do
  char '#'
  let _ ← many isText

/-- Skips blanks, line ends and comments. -/
def skipFiller : (fuel : Nat) → Reader Unit
  | 0 => return ()
  | fuel + 1 => do
    let _ ← many isSpace
    match ← peek with
    | some '#' =>
      comment
      newline
      skipFiller fuel
    | some '\n' | some '\r' =>
      newline
      skipFiller fuel
    | _ => return ()

mutual

/-- A value. `fuel` bounds the steps, `levels` the levels that may still open. -/
def value : (fuel levels : Nat) → Reader Toml
  | 0, _ => failure
  | fuel + 1, levels => do
    match ← peek with
    | some '[' =>
      if levels ≤ 1 then failure
      char '['
      arrayItems fuel (levels - 1) []
    | some '\x7b' =>
      if levels ≤ 1 then failure
      char '\x7b'
      let _ ← many isSpace
      match ← peek with
      | some '\x7d' =>
        char '\x7d'
        return .table []
      | _ => inlineEntries fuel (levels - 1) []
    | _ => scalar

/-- The items of an array up to its closing bracket; a comma may stand before it. -/
def arrayItems : (fuel levels : Nat) → (read : List Toml) → Reader Toml
  | 0, _, _ => failure
  | fuel + 1, levels, read => do
    skipFiller (← get).length
    match ← peek with
    | some ']' =>
      char ']'
      return .array read.reverse
    | _ =>
      let v ← value fuel levels
      skipFiller (← get).length
      match ← peek with
      | some ',' =>
        char ','
        arrayItems fuel levels (v :: read)
      | _ =>
        char ']'
        return .array (v :: read).reverse

/-- The entries of an inline table up to its closing brace. -/
def inlineEntries : (fuel levels : Nat) → (read : Entries) → Reader Toml
  | 0, _, _ => failure
  | fuel + 1, levels, read => do
    let _ ← many isSpace
    let (path, last) ← key
    char '='
    let _ ← many isSpace
    let v ← value fuel levels
    let _ ← many isSpace
    match addEntry path last v .opened read with
    | none => failure
    | some read =>
      match ← peek with
      | some ',' =>
        char ','
        inlineEntries fuel levels read
      | _ =>
        char '\x7d'
        return .table (finishEntries read)

end

/-! ## Lines -/

/-- A document under construction: all entries, and the path of the table last opened. -/
structure Draft where
  entries : Entries := []
  current : List String := []

/-- Adds an entry to the table last opened. -/
def Draft.add (d : Draft) (path : List String) (key : String) (v : Toml) : Option Draft :=
  (descend false (addEntry path key v) d.current .opened d.entries).map fun entries =>
    { d with entries := entries }

/-- What may follow on a line: blanks and a comment, then the line's end. -/
def lineEnd : Reader Unit := do
  let _ ← many isSpace
  if (← peek) = some '#' then comment
  if (← peek).isSome then newline

/-- A header after its first bracket. -/
def header (d : Draft) : Reader Draft := do
  let isItem := (← optional (char '[')).isSome
  let _ ← many isSpace
  let (path, last) ← key
  char ']'
  if isItem then char ']'
  let opened := if isItem then openItem path last d.entries else openTable path last d.entries
  match opened with
  | some entries => return ⟨entries, path ++ [last]⟩
  | none => failure

/-- An entry of the table last opened. -/
def entry (d : Draft) : Reader Draft := do
  let (path, last) ← key
  char '='
  let _ ← many isSpace
  let v ← value (2 * (← get).length + 2) levelLimit
  match d.add path last v with
  | some d => return d
  | none => failure

/-- Reads line after line. -/
def lines : (fuel : Nat) → Draft → Reader Draft
  | 0, _ => failure
  | fuel + 1, d => do
    let _ ← many isSpace
    match ← peek with
    | none => return d
    | some '[' =>
      char '['
      let d ← header d
      lineEnd
      lines fuel d
    | some '#' | some '\n' | some '\r' =>
      lineEnd
      lines fuel d
    | _ =>
      let d ← entry d
      lineEnd
      lines fuel d

/-- Reads a document as its entries. A byte order mark may come first. -/
def parse (text : String) : Option (List (String × Toml)) :=
  let cs := match text.toList with
    | '\ufeff' :: rest => rest
    | cs => cs
  match lines (cs.length + 2) {} cs with
  | some (d, []) => some (finishEntries d.entries)
  | _ => none

end ScalpBot.Toml
