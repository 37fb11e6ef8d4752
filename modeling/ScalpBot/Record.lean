/-!
# Reading records

A record is written in one of two forms: as members with names, or as a list of its fields in order.
`Fields` describes how a record is read from both. Named members are read in the order in which they
stand and the first that does not fit is reported; then the fields that are left out are reported in
the order of the record. Names that the record does not know are passed over.

A `Format` gathers the readers of one data language, so that the shape of a record is described once
for all languages it is written in.
-/

namespace ScalpBot

/-- The ways in which a record as such is refused. -/
class RecordError (ε : Type) where
  /-- A field without a value. -/
  missingField (name : String) : ε
  /-- A list of `count` items where `expected` is due. -/
  invalidLength (count : Nat) (expected : String) : ε
  /-- The error of the value of a member, told as an error of the record. -/
  atMember (name : String) (cause : ε) : ε := cause
  /-- The error of an item of a list, told as an error of the list. -/
  atItem (index : Nat) (cause : ε) : ε := cause

/-- One field of a record. -/
structure Field (V ε α : Type) where
  /-- Its name among named members. -/
  name : String
  /-- How its value is read. -/
  read : V → Except ε α
  /-- Its value where no member has its name. -/
  absent : Option α := none
  /-- Its value where a list ends before it. -/
  short : Option α := none

/-- The fields of a record, and the record they make. -/
structure Fields (V ε α : Type) where
  /-- The names in order, each with a check of its value. -/
  checks : List (String × (V → Except ε Unit))
  /-- The record of checked members. -/
  ofMembers : (String → Option V) → Except ε α
  /-- The record at the front of a list, and the items after it. -/
  ofItems : (expected : String) → List V → Except ε (α × List V)

namespace Fields

variable {V ε α β : Type}

/-- A record without fields. -/
def start (a : α) : Fields V ε α where
  checks := []
  ofMembers := fun _ => .ok a
  ofItems := fun _ items => .ok (a, items)

/-- The record with one more field. -/
def field [RecordError ε] (fs : Fields V ε (α → β)) (f : Field V ε α) : Fields V ε β where
  checks := fs.checks ++ [(f.name, fun v => (f.read v).map fun _ => ())]
  ofMembers := fun member? => do
    let make ← fs.ofMembers member?
    match member? f.name with
    | some v => return make (← f.read v)
    | none =>
      match f.absent with
      | some a => return make a
      | none => .error (RecordError.missingField f.name)
  ofItems := fun expected items => do
    let (make, rest) ← fs.ofItems expected items
    match rest with
    | v :: rest => do
      let a ← (f.read v).mapError (RecordError.atItem fs.checks.length)
      return (make a, rest)
    | [] =>
      match f.short with
      | some a => return (make a, [])
      | none => .error (RecordError.invalidLength fs.checks.length expected)

/-- What a list that is too short should have been. -/
def expectation (fs : Fields V ε α) (kind : String) : String :=
  let n := fs.checks.length
  kind ++ " with " ++ toString n ++ (if n = 1 then " element" else " elements")

/-- Checks the value of each member that the record knows. -/
def check [RecordError ε] (fs : Fields V ε α) : List (String × V) → Except ε Unit
  | [] => .ok ()
  | (name, v) :: rest => do
    if let some c := fs.checks.lookup name then (c v).mapError (RecordError.atMember name)
    fs.check rest

/-- Reads a record from named members. -/
def readMembers [RecordError ε] (fs : Fields V ε α) (members : List (String × V)) : Except ε α := do
  fs.check members
  fs.ofMembers fun name => members.lookup name

end Fields

/-- The readers of one data language. `V` holds its values and `ε` the reasons why a value does not
fit. -/
structure Format (V ε : Type) where
  /-- A text. -/
  string : V → Except ε String
  /-- A truth value. -/
  truth : V → Except ε Bool
  /-- A natural number of so many bits. -/
  word : (bits : Nat) → V → Except ε Nat
  /-- A value or its absence. -/
  optional : {α : Type} → (V → Except ε α) → V → Except ε (Option α)
  /-- A list of values of one kind. -/
  list : {α : Type} → (V → Except ε α) → V → Except ε (List α)
  /-- Named values of one kind. -/
  dictionary : {α : Type} → (V → Except ε α) → V → Except ε (List (String × α))
  /-- A record of the given kind. -/
  record : {α : Type} → (kind : String) → Fields V ε α → V → Except ε α

namespace Field

variable {V ε α : Type}

/-- A field that must be given. -/
def required (name : String) (read : V → Except ε α) : Field V ε α where
  name := name
  read := read

/-- A field with a value of its own where none is given. -/
def withDefault (name : String) (default : α) (read : V → Except ε α) : Field V ε α where
  name := name
  read := read
  absent := some default
  short := some default

/-- A field that may be left out of named members but not of a list. -/
def optionalMember (format : Format V ε) (name : String) (read : V → Except ε α) :
    Field V ε (Option α) where
  name := name
  read := format.optional read
  absent := some none

/-- A field that may be left out of both forms. -/
def optional (format : Format V ε) (name : String) (read : V → Except ε α) :
    Field V ε (Option α) :=
  withDefault name none (format.optional read)

end Field

end ScalpBot
