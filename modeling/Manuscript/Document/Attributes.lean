import Manuscript.Text.Blank
import Manuscript.Text.Split

/-!
# Attributes of an element

An attribute is a name with a value, and a value is a text, a list of tokens or the source of an
expression. An element has at most one attribute of each name, and its attributes are kept in
ascending order of their names.

## Main definitions

* `AttributeValue` — the three kinds of value
* `Attributes` — attributes in ascending order of their names
* `Attributes.get?`, `Attributes.insert`, `Attributes.erase` — access by name
-/

namespace Manuscript

/-- The value of an attribute. -/
inductive AttributeValue where
  /-- A plain text. -/
  | text (value : String)
  /-- Tokens in order, such as the names of a class attribute. -/
  | list (tokens : List String)
  /-- The source of an expression. -/
  | expression (source : String)
  deriving DecidableEq, Repr, Inhabited

namespace AttributeValue

/-- The text of a plain text value. -/
def text? : AttributeValue → Option String
  | .text value => some value
  | _ => none

/-- The value as a markup attribute shows it: the tokens of a list are joined by spaces. -/
def toMarkup : AttributeValue → String
  | .text value | .expression value => value
  | .list tokens => Text.joinWith " " tokens

end AttributeValue

/-- Whether entries are in strictly ascending order of their names. -/
def Ascending (entries : List (String × AttributeValue)) : Prop :=
  entries.Pairwise fun a b => a.1 < b.1

instance (entries : List (String × AttributeValue)) : Decidable (Ascending entries) :=
  inferInstanceAs (Decidable (entries.Pairwise _))

/-- The attributes of an element, in ascending order of their names. -/
@[ext]
structure Attributes where
  /-- The attributes with their names. -/
  entries : List (String × AttributeValue)
  /-- The names ascend, so that each occurs once. -/
  ascending : Ascending entries
  deriving DecidableEq

instance : Repr Attributes := ⟨fun a n => reprPrec a.entries n⟩

namespace Attributes

/-- No attributes. -/
def empty : Attributes := ⟨[], List.Pairwise.nil⟩

instance : Inhabited Attributes := ⟨empty⟩

instance : EmptyCollection Attributes := ⟨empty⟩

/-- The value of the attribute with a name. -/
def get? (attrs : Attributes) (name : String) : Option AttributeValue := attrs.entries.lookup name

/-- Whether there is an attribute with a name. -/
def contains (attrs : Attributes) (name : String) : Bool := (attrs.get? name).isSome

/-- Puts an entry at its place among ascending entries, where it replaces one of the same name. -/
def insertEntry (name : String) (value : AttributeValue) :
    List (String × AttributeValue) → List (String × AttributeValue)
  | [] => [(name, value)]
  | entry :: rest =>
    if name < entry.1 then (name, value) :: entry :: rest
    else if name = entry.1 then (name, value) :: rest
    else entry :: insertEntry name value rest

theorem fst_of_mem_insertEntry {name : String} {value : AttributeValue}
    {entries : List (String × AttributeValue)} {e : String × AttributeValue}
    (h : e ∈ insertEntry name value entries) : e.1 = name ∨ e ∈ entries := by
  induction entries with
  | nil => simp_all [insertEntry]
  | cons entry rest ih =>
    simp only [insertEntry] at h
    split at h
    · simp_all; grind
    · split at h
      · simp_all; grind
      · simp_all; grind

theorem ascending_insertEntry (name : String) (value : AttributeValue)
    {entries : List (String × AttributeValue)} (h : Ascending entries) :
    Ascending (insertEntry name value entries) := by
  induction entries with
  | nil => simp [insertEntry, Ascending]
  | cons entry rest ih =>
    simp only [Ascending, List.pairwise_cons] at h
    simp only [insertEntry]
    split
    · rename_i hlt
      refine List.pairwise_cons.2 ⟨fun b hb => ?_, List.pairwise_cons.2 h⟩
      rcases List.mem_cons.1 hb with rfl | hb
      · exact hlt
      · exact String.lt_trans hlt (h.1 b hb)
    · split
      · rename_i heq
        exact List.pairwise_cons.2 ⟨fun b hb => by simpa [heq] using h.1 b hb, h.2⟩
      · rename_i hnlt hne
        refine List.pairwise_cons.2 ⟨fun b hb => ?_, ih h.2⟩
        rcases fst_of_mem_insertEntry hb with hb | hb
        · rw [hb]; grind
        · exact h.1 b hb

/-- Sets the attribute with a name, replacing any value it had. -/
def insert (attrs : Attributes) (name : String) (value : AttributeValue) : Attributes :=
  ⟨insertEntry name value attrs.entries, ascending_insertEntry name value attrs.ascending⟩

/-- Removes the attribute with a name. -/
def erase (attrs : Attributes) (name : String) : Attributes :=
  ⟨attrs.entries.filter (·.1 ≠ name), List.Pairwise.filter _ attrs.ascending⟩

/-- The attributes with given names and values; of two of one name the later one counts. -/
def ofList (entries : List (String × AttributeValue)) : Attributes :=
  entries.foldl (fun attrs (name, value) => attrs.insert name value) empty

end Attributes

end Manuscript
