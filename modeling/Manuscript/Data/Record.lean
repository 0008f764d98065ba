import Manuscript.Data.Value

/-!
# Records

A record with named fields is read from an object, or from a list that gives the fields in their
order; fields at the end of the list may be left out, but there may not be more than the record has.

Where there are several kinds of records, the kind is given by its name. Data inside of a record with
a kind are gathered before they are read, and there are more ways to give a name then.

## Main definitions

* `Value.record?` — the fields of a record
* `Value.nameAmong?`, `Value.caseAmong?` — one of given names
-/

namespace Manuscript.Value

/-- The fields of a record with given names. -/
def record? (names : List String) : Value → Option (List (String × Value))
  | .object fields => some fields
  | .list items => if items.length ≤ names.length then some (names.zip items) else none
  | _ => none

/-- One of given names: the name itself or, in data that were gathered, its place among them. -/
def nameAmong? (names : List String) (gathered : Bool) : Value → Option String
  | .string s => if s ∈ names then some s else none
  | .int (.ofNat place) => if gathered then names[place]? else none
  | _ => none

/-- Whether data hold nothing: an object without fields may stand for null in data that were
gathered. -/
def isNothing (gathered : Bool) : Value → Bool
  | .null => true
  | .object [] => gathered
  | _ => false

/-- One of given names: the name itself, or an object whose only field has the name and holds
nothing. -/
def caseAmong? (names : List String) (gathered : Bool) : Value → Option String
  | .string s => if s ∈ names then some s else none
  | .object [(s, v)] => if s ∈ names && v.isNothing gathered then some s else none
  | _ => none

end Manuscript.Value
