import Manuscript.Text.Unicode.Alphanumeric
import Manuscript.Text.Unicode.LetterCase

/-!
# Slugs

A slug is the identifier of a heading: its text in lower case, with letters, numbers, combining
marks, hyphens and underscores kept, spaces turned into hyphens and all else dropped.

A `Slugger` hands out slugs that differ from each other and from the ids reserved before. It counts,
for each id it knows, how many numbered variants of it have been tried.

## Main definitions

* `slugify` — the slug of a text
* `Slugger.slug` — a slug that is not taken yet
* `Slugger.reserve` — takes an id that the document already has
-/

namespace Manuscript.Text

open Unicode (isAlphanumeric lowerChar inRanges)

/-- The combining marks that a slug keeps. -/
def slugMarkRanges : List (Nat × Nat) := [
  (0x0300, 0x036F), (0x0483, 0x0489), (0x0591, 0x05C7), (0x0610, 0x061A), (0x064B, 0x065F),
  (0x0900, 0x0903), (0x093A, 0x094F), (0x0951, 0x0957), (0x0962, 0x0963), (0x0981, 0x0983),
  (0x09BC, 0x09CD), (0x0E31, 0x0E3A), (0x0E47, 0x0E4E), (0x1AB0, 0x1AFF), (0x1DC0, 0x1DFF),
  (0x3099, 0x309A), (0xFE20, 0xFE2F)]

/-- Whether a slug keeps a combining mark. -/
def isSlugMark (c : Char) : Bool := inRanges slugMarkRanges c.toNat

/-- Whether a slug keeps a character, in lower case. -/
def isSlugChar (c : Char) : Bool :=
  c = '-' || c = '_' || isAlphanumeric c || isSlugMark c

/-- What a character contributes to a slug. -/
def slugifyChar (c : Char) : List Char :=
  if c = ' ' then ['-'] else if isSlugChar c then lowerChar c else []

/-- The slug of a text. -/
def slugify (text : String) : String := String.ofList (text.toList.flatMap slugifyChar)

/-- Hands out slugs. Each id that is taken is stored with the number last tried behind it. -/
structure Slugger where
  /-- The taken ids, each with the last number tried as its suffix. -/
  taken : List (String × Nat) := []

namespace Slugger

/-- Whether an id is taken. -/
def isTaken (s : Slugger) (id : String) : Bool := (s.taken.lookup id).isSome

/-- The last number tried as the suffix of an id. -/
def count (s : Slugger) (id : String) : Nat := (s.taken.lookup id).getD 0

/-- Stores the last number tried as the suffix of an id, and takes the id. -/
def setCount (s : Slugger) (id : String) (n : Nat) : Slugger :=
  if s.isTaken id then
    { taken := s.taken.map fun entry => if entry.1 = id then (id, n) else entry }
  else { taken := (id, n) :: s.taken }

/-- The id `base` with a number behind it. -/
def numbered (base : String) (n : Nat) : String := base ++ "-" ++ toString n

/-- Tries numbers behind `base`, from the one after its count, until an id is free, for at most
`tries` times. -/
def settle (s : Slugger) (base candidate : String) : (tries : Nat) → String × Slugger
  | 0 => (candidate, s)
  | tries + 1 =>
    if s.isTaken candidate then
      let n := s.count base + 1
      settle (s.setCount base n) base (numbered base n) tries
    else (candidate, s)

/-- A slug of a text that is not taken yet, which takes it. There are no more tries than taken ids:
each further try meets another one of them. -/
def slug (s : Slugger) (text : String) : String × Slugger :=
  let base := slugify text
  let (id, s) := s.settle base base s.taken.length
  (id, s.setCount id 0)

/-- Takes an id; nothing changes if it is taken already. -/
def reserve (s : Slugger) (id : String) : Slugger :=
  if s.isTaken id then s else s.setCount id 0

end Slugger

end Manuscript.Text
