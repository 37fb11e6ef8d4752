import ScalpBot.Json.Basic
import ScalpBot.Text.Case
import ScalpBot.Text.Digits
import ScalpBot.Toml.Basic

/-!
# Setting trees

Settings come from several sources, one over the other. A `SettingTree` holds what they say: tables of
lower-case names, lists, and scalars, each with the origin that diagnostics name. `SettingTree.set` puts
a value at a `SettingPath`; tables are merged, all else is replaced.
-/

namespace ScalpBot

/-- A scalar setting. -/
inductive SettingScalar where
  | nothing
  | boolean (value : Bool)
  | integer (value : Int)
  | float (value : Binary64)
  | text (value : String)
deriving DecidableEq, Repr

/-- A tree of settings. `origin` names the source of a value, where it has a name. -/
inductive SettingTree where
  | scalar (origin : Option String) (value : SettingScalar)
  | list (origin : Option String) (items : List SettingTree)
  | table (origin : Option String) (members : List (String × SettingTree))
deriving Inhabited

/-- Where a setting stands. -/
inductive SettingPath where
  /-- A name at the root. -/
  | name (key : String)
  /-- A name in a table. -/
  | child (parent : SettingPath) (key : String)
  /-- An item of a list; a negative index counts from the end. -/
  | item (parent : SettingPath) (index : Int)
deriving DecidableEq, Repr

namespace SettingPath

/-- A character of a name in a path. -/
def isNameChar (c : Char) : Bool := c.isAlphanum || c = ' ' || c = '_' || c = '-'

/-- A name in front, and what follows it. -/
def takeName (cs : List Char) : Option (String × List Char) :=
  let name := cs.takeWhile isNameChar
  if name.isEmpty then none else some (String.ofList name, cs.dropWhile isNameChar)

/-- An index with its closing bracket, and what follows it. -/
def takeIndex (cs : List Char) : Option (Int × List Char) :=
  let cs := cs.dropWhile fun c => c = ' ' || c = '\t'
  let (negative, cs) := match cs with
    | '-' :: rest => (true, rest)
    | _ => (false, cs)
  let digits := cs.takeWhile Char.isDigit
  let rest := (cs.dropWhile Char.isDigit).dropWhile fun c => c = ' ' || c = '\t'
  let n := digitsValue digits
  match rest with
  | ']' :: rest =>
    if digits.isEmpty || 2 ^ 63 ≤ n then none
    else some (if negative then -(n : Int) else n, rest)
  | _ => none

/-- The steps after a path. -/
def more : (fuel : Nat) → SettingPath → List Char → Option SettingPath
  | _, path, [] => some path
  | fuel + 1, path, '.' :: rest =>
    match takeName rest with
    | some (key, rest) => more fuel (.child path key) rest
    | none => none
  | fuel + 1, path, '[' :: rest =>
    match takeIndex rest with
    | some (index, rest) => more fuel (.item path index) rest
    | none => none
  | _, _, _ => none

/-- The path that a text writes; a text that writes none is a single name. -/
def ofText (text : String) : SettingPath :=
  let path? := match takeName text.toList with
    | some (key, rest) => more rest.length (.name key) rest
    | none => none
  path?.getD (.name text)

end SettingPath

namespace SettingTree

/-- A table without members. -/
def emptyTable : SettingTree := .table none []

/-- No value. -/
def nothing : SettingTree := .scalar none .nothing

/-- The members of a table; anything else has none. -/
def members : SettingTree → List (String × SettingTree)
  | table _ ms => ms
  | _ => []

/-- The value as a table: anything else gives way to an empty one. -/
def asTable : SettingTree → SettingTree
  | table origin ms => .table origin ms
  | _ => emptyTable

/-- The items of a list; anything else has none. -/
def items : SettingTree → List SettingTree
  | list _ xs => xs
  | _ => []

/-- Puts a member into a table. -/
def putMember (root : SettingTree) (key : String) (v : SettingTree) : SettingTree :=
  match root with
  | table origin ms => .table origin (Json.insertMember key v ms)
  | _ => .table none [(key, v)]

mutual

/-- Puts `v` into a table under `key`. Where `v` is a table, its members are put one by one into the
table that is there. -/
def merge (key : String) (v : SettingTree) (root : SettingTree) : SettingTree :=
  match v with
  | .table _ ms =>
    let key := lowerCase key
    let target := (root.members.lookup key).getD emptyTable
    root.putMember key (mergeAll ms target)
  | v => root.putMember (lowerCase key) v

/-- Puts all members into a table. -/
def mergeAll : List (String × SettingTree) → SettingTree → SettingTree
  | [], target => target
  | (key, v) :: rest, target => mergeAll rest (merge key v target)

end

/-- The place of an index in a list of so many items. -/
def position (index : Int) (length : Nat) : Nat :=
  if 0 ≤ index then index.toNat else length - index.natAbs

/-- Changes the item at an index of a list that is made long enough. -/
def changeItem (index : Int) (change : SettingTree → SettingTree) (v : SettingTree) : SettingTree :=
  let items := v.items
  let place := position index items.length
  let items := items ++ List.replicate (place + 1 - items.length) nothing
  let origin := match v with
    | .list origin _ => origin
    | _ => none
  .list origin (items.modify place change)

/-- Changes what stands at a path. Whatever is missing on the way is made. -/
def change (act : SettingTree → SettingTree) : SettingPath → SettingTree → SettingTree
  | .name key, root =>
    let key := lowerCase key
    root.asTable.putMember key (act ((root.members.lookup key).getD nothing))
  | .child parent key, root =>
    change (fun v =>
      let key := lowerCase key
      v.asTable.putMember key (act ((v.members.lookup key).getD nothing))) parent root
  | .item parent index, root => change (changeItem index act) parent root

/-- Puts a value at a path. -/
def set (path : SettingPath) (v : SettingTree) (root : SettingTree) : SettingTree :=
  match path with
  | .name key => merge key v root
  | .child parent key => change (merge key v) parent root
  | .item parent index => change (changeItem index fun _ => v) parent root

/-! ## Sources -/

mutual

/-- A value of a document. -/
def ofToml (origin : Option String) : Toml → SettingTree
  | .string s => .scalar origin (.text s)
  | .integer n => .scalar origin (.integer n)
  | .float x => .scalar origin (.float x)
  | .boolean b => .scalar origin (.boolean b)
  | .datetime text => .scalar origin (.text text)
  | .array items => .list origin (ofTomlItems origin items)
  | .table entries => .table origin (ofTomlEntries origin entries)

/-- The items of an array of a document. -/
def ofTomlItems (origin : Option String) : List Toml → List SettingTree
  | [] => []
  | v :: rest => ofToml origin v :: ofTomlItems origin rest

/-- The entries of a table of a document. -/
def ofTomlEntries (origin : Option String) : List (String × Toml) → List (String × SettingTree)
  | [] => []
  | (key, v) :: rest => (key, ofToml origin v) :: ofTomlEntries origin rest

end

/-- Puts settings over a tree, one after the other. Each name is read as a path. -/
def overlay (settings : List (String × SettingTree)) (root : SettingTree) : SettingTree :=
  settings.foldl (fun root p => set (.ofText p.1) p.2 root) root

end SettingTree

end ScalpBot
