import ScalpBot.Settings.Load
import ScalpBot.Text.Blank

/-!
# Files with environment variables

A file may hold variables for the environment, one `NAME=value` a line. A value may be quoted: between
`'` everything stands for itself, between `"` and outside quotes a backslash takes the meaning from the
character after it, and `$NAME` or `${NAME}` stands for the value of a variable. A quoted value may
go on over the end of its line. A `#` after a blank begins a comment.

`DotEnv.load` adds the variables of a file to an environment, in order. A variable that is there already
stays as it is; at the first line that cannot be read the rest of the file is passed over.
-/

namespace ScalpBot

namespace DotEnv

/-! ## Lines -/

/-- What surrounds a place in the text. -/
inductive Surroundings where
  | plain
  | afterBlank
  | escape
  | strong
  | strongEscape
  | weak
  | weakEscape
deriving DecidableEq, Repr

/-- The surroundings after a character outside quotes. -/
def Surroundings.afterPlain (blankCounts : Bool) (c : Char) : Surroundings :=
  if c = '\\' then escape
  else if c = '"' then weak
  else if c = '\'' then strong
  else if blankCounts && isBlank c && c ≠ '\n' && c ≠ '\r' then afterBlank
  else plain

/-- The surroundings after a character. -/
def Surroundings.next (s : Surroundings) (c : Char) : Surroundings :=
  match s with
  | plain => afterPlain true c
  | afterBlank => afterPlain false c
  | escape => plain
  | strong => if c = '\\' then strongEscape else if c = '\'' then plain else strong
  | strongEscape => strong
  | weak => if c = '\\' then weakEscape else if c = '"' then plain else weak
  | weakEscape => weak

/-- Reads a line up to a comment: the part before the comment if there is one, and the surroundings at
the end. -/
def scanLine (s : Surroundings) (read : List Char) : List Char → Option (List Char) × Surroundings
  | [] => (none, s)
  | c :: rest =>
    if s = .afterBlank && c = '#' then (some read.reverse, .plain)
    else scanLine (s.next c) (c :: read) rest

/-- A text in lines, each with the line feed at its end. -/
def physicalLines (line : List Char) : List Char → List (List Char)
  | [] => if line.isEmpty then [] else [line.reverse]
  | c :: rest =>
    if c = '\n' then ('\n' :: line).reverse :: physicalLines [] rest
    else physicalLines (c :: line) rest

/-- Without the end of the line. -/
def withoutLineEnd (line : List Char) : List Char :=
  match line.reverse with
  | '\n' :: '\r' :: rest => rest.reverse
  | '\n' :: rest => rest.reverse
  | _ => line

/-- The lines as they belong together: quotes that are open at the end of a line go on in the next.
`none` stands for a line that the text ends in the middle of. -/
def logicalLines (s : Surroundings) (begun : List Char) :
    List (List Char) → List (Option (List Char))
  | [] => if s = .plain then [] else [none]
  | line :: rest =>
    let whole := begun ++ line
    if (dropBlanks whole).head? = some '#' then some [] :: logicalLines .plain [] rest
    else
      match scanLine s [] line with
      | (some kept, _) => some (begun ++ kept) :: logicalLines .plain [] rest
      | (none, .plain) => some (withoutLineEnd whole) :: logicalLines .plain [] rest
      | (none, s) => logicalLines s whole rest

/-! ## Values -/

/-- Whether the name of a variable is being read after a `$`. -/
inductive NameForm where
  | none
  | bare
  | braced
deriving DecidableEq, Repr

/-- What has been read of a value. -/
structure ValueReading where
  strong : Bool := false
  weak : Bool := false
  escaped : Bool := false
  /-- Whether only blanks and a comment may follow. -/
  ended : Bool := false
  form : NameForm := .none
  /-- The name after a `$`, last character first. -/
  name : List Char := []
  /-- The value, last character first. -/
  value : List Char := []

namespace ValueReading

variable (lookup : String → String)

/-- Takes a character as it is. -/
def add (r : ValueReading) (c : Char) : ValueReading := { r with value := c :: r.value }

/-- Puts the value of the variable in the place of its name. -/
def substitute (r : ValueReading) : ValueReading :=
  { r with
    form := .none
    name := []
    value := (lookup (String.ofList r.name.reverse)).toList.reverse ++ r.value }

/-- Takes a character after a backslash. -/
def afterBackslash (r : ValueReading) (c : Char) : Option ValueReading :=
  let r := { r with escaped := false }
  if c = 'n' then some (r.add '\n')
  else if ['\\', '\'', '"', '$', ' '].contains c then some (r.add c)
  else .none

/-- Takes a character of the name of a variable, or the one that ends it. -/
def inName (r : ValueReading) (c : Char) : ValueReading :=
  if c.isAlphanum then { r with name := c :: r.name }
  else if r.form = .braced then
    if c = '\x7d' then r.substitute lookup else { r with name := c :: r.name }
  else if c = '\x7b' && r.name.isEmpty then { r with form := .braced }
  else
    let r := r.substitute lookup
    if c = '$' then { r with form := .bare } else r.add c

/-- Takes a character. -/
def step (r : ValueReading) (c : Char) : Option ValueReading :=
  if r.escaped then r.afterBackslash c
  else if r.strong then some (if c = '\'' then { r with strong := false } else r.add c)
  else if r.form ≠ .none then some (r.inName lookup c)
  else if c = '$' then some { r with form := .bare }
  else if r.weak then
    some (if c = '"' then { r with weak := false }
      else if c = '\\' then { r with escaped := true }
      else r.add c)
  else
    some (if c = '\'' then { r with strong := true }
      else if c = '"' then { r with weak := true }
      else if c = '\\' then { r with escaped := true }
      else if c = ' ' || c = '\t' then { r with ended := true }
      else r.add c)

/-- The value, unless a quote or a name is open. -/
def finish (r : ValueReading) : Option String :=
  if r.form = .braced || r.strong || r.weak then .none
  else some (String.ofList (r.substitute lookup).value.reverse)

/-- Reads a value to its end. -/
def read (r : ValueReading) : List Char → Option String
  | [] => r.finish lookup
  | c :: rest =>
    if r.ended then
      if c = ' ' || c = '\t' then r.read rest
      else if c = '#' then r.finish lookup
      else .none
    else (r.step lookup c).bind fun r => r.read rest

end ValueReading

/-! ## Entries -/

/-- What a line holds. -/
inductive Entry where
  | nothing
  | assignment (name value : String)

/-- Takes a name off a line. -/
def takeName (cs : List Char) : Option (String × List Char) :=
  let isNameChar (c : Char) : Bool := c.isAlphanum || c = '_' || c = '.'
  match cs with
  | c :: _ =>
    if c.isAlpha || c = '_' then
      some (String.ofList (cs.takeWhile isNameChar), dropBlanks (cs.dropWhile isNameChar))
    else none
  | [] => none

/-- Takes the equals sign off a line. -/
def takeEquals : List Char → Option (List Char)
  | '=' :: rest => some rest
  | _ => none

/-- Takes the name and the equals sign off a line. The word `export` may stand before the name. -/
def takeHead (cs : List Char) : Option (String × List Char) := do
  let (name, rest) ← takeName cs
  match name, takeEquals rest with
  | _, some value => return (name, value)
  | "export", none => do
    let (name, rest) ← takeName rest
    return (name, ← takeEquals rest)
  | _, none => none

/-- Reads a line; nothing if it cannot be read. -/
def Entry.read (lookup : String → String) (line : List Char) : Option Entry :=
  let line := dropBlanks (dropBlanks line.reverse).reverse
  if line.isEmpty || line.head? = some '#' then some .nothing
  else do
    let (name, value) ← takeHead line
    let value := dropBlanks value
    if value.isEmpty || value.head? = some '#' then return .assignment name ""
    return .assignment name (← ({} : ValueReading).read lookup value)

/-! ## Files -/

/-- Adds the variables of these lines to an environment. -/
def addLines (vars : Environment.Variables) :
    List (Option (List Char)) → Environment.Variables
  | [] => vars
  | none :: _ => vars
  | some line :: rest =>
    match Entry.read (fun name => (vars.lookup name).getD "") line with
    | none => vars
    | some .nothing => addLines vars rest
    | some (.assignment name value) =>
      if (vars.lookup name).isSome then addLines vars rest
      else addLines (vars ++ [(name, value)]) rest

/-- The name of the file. -/
def fileName : String := ".env"

/-- Adds the variables of a file to an environment. -/
def load (text : String) (vars : Environment.Variables) : Environment.Variables :=
  let cs := match text.toList with
    | '\uFEFF' :: rest => rest
    | cs => cs
  addLines vars (logicalLines .plain [] (physicalLines [] cs))

end DotEnv

end ScalpBot
