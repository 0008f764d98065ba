import Manuscript.Number.Binary64

/-!
# Data values

The values that documents carry beside their text: front matter, the scope of an interactive
document, metadata of embedded media, and the exchange form of trees.

## Main definitions

* `Value` — null, booleans, numbers, strings, lists and objects
* `Value.field?` — the value of a field of an object
* `Value.setField` — stores a field, in ascending order of names
-/

namespace Manuscript

/-- A data value. The fields of an object are unordered in meaning; reading keeps them in ascending
order of their names. -/
inductive Value where
  /-- The absent value. -/
  | null
  /-- A truth value. -/
  | bool (b : Bool)
  /-- An integer. -/
  | int (n : Int)
  /-- A number that is not written as an integer. -/
  | float (x : Binary64)
  /-- A text. -/
  | string (s : String)
  /-- A list. -/
  | list (items : List Value)
  /-- Named fields. -/
  | object (fields : List (String × Value))
  deriving Repr, Inhabited

namespace Value

/-- Stores a field in a list of fields that ascends by name. -/
def insertField (name : String) (v : Value) : List (String × Value) → List (String × Value)
  | [] => [(name, v)]
  | (other, w) :: rest =>
    if name < other then (name, v) :: (other, w) :: rest
    else if name = other then (name, v) :: rest
    else (other, w) :: insertField name v rest

/-- The object with given fields; of two fields of one name the later one counts. -/
def ofFields (fields : List (String × Value)) : Value :=
  .object (fields.foldl (fun acc (name, v) => insertField name v acc) [])

/-- The value of a field; `none` if there is no such field or the value is no object. -/
def field? (name : String) : Value → Option Value
  | .object fields => fields.lookup name
  | _ => none

/-- The value of a field, where a field that is missing counts as null. -/
def field (name : String) (v : Value) : Value := (v.field? name).getD .null

/-- The text of a string value. -/
def string? : Value → Option String
  | .string s => some s
  | _ => none

/-- The truth value of a boolean. -/
def bool? : Value → Option Bool
  | .bool b => some b
  | _ => none

/-- The items of a list value. -/
def list? : Value → Option (List Value)
  | .list items => some items
  | _ => none

/-- The natural number that an integer value holds. -/
def nat? : Value → Option Nat
  | .int (.ofNat n) => some n
  | _ => none

/-- A string, or null without one. -/
def ofString? : Option String → Value
  | some s => .string s
  | none => .null

/-- A list of strings. -/
def ofStrings (ss : List String) : Value := .list (ss.map .string)

end Value

end Manuscript
