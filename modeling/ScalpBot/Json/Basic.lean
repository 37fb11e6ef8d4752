import ScalpBot.Binary64.Basic

/-!
# JSON values

A `Json` is a value of the JSON data model. An object keeps its members in the order of their keys
and holds a key once, so two objects with the same members are equal. An integer keeps all its
digits as long as it fits into 64 bits; every other number is a `Binary64`.
-/

namespace ScalpBot

/-- A number of a JSON text. -/
inductive JsonNumber where
  /-- From `-2 ^ 63` to `2 ^ 64 - 1`. -/
  | integer (value : Int)
  /-- A number with a point or an exponent, or an integer of more than 64 bits. -/
  | float (value : Binary64)
deriving DecidableEq, Repr

/-- A JSON value. -/
inductive Json where
  | null
  | bool (value : Bool)
  | number (value : JsonNumber)
  | string (value : String)
  | array (items : List Json)
  | object (members : List (String × Json))
deriving Repr, Inhabited

namespace Json

/-- Adds a member in key order; a key that is there already takes the new value. -/
def insertMember {α : Type} (key : String) (value : α) :
    List (String × α) → List (String × α)
  | [] => [(key, value)]
  | (k, v) :: rest =>
    if key < k then (key, value) :: (k, v) :: rest
    else if key = k then (key, value) :: rest
    else (k, v) :: insertMember key value rest

/-- The object with these members; of members with one key the last counts. -/
def ofMembers (members : List (String × Json)) : Json :=
  .object (members.foldl (fun acc m => insertMember m.1 m.2 acc) [])

/-- The member of an object. -/
def member? (key : String) : Json → Option Json
  | .object members => members.lookup key
  | _ => none

/-- An integer. -/
def ofInt (n : Int) : Json := .number (.integer n)

end Json

end ScalpBot
