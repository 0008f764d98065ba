/-!
# Blank characters

The white space of texts: the characters with the Unicode property White_Space. Ends of texts are
trimmed of them, and words are the maximal runs without them.

## Main definitions

* `isBlank` — the class
* `trimStart`, `trimEnd`, `trim` — a text without the blanks at its ends
* `words` — the maximal runs of characters that are not blank, in order
-/

namespace Manuscript.Text

/-- White_Space: tab to carriage return, space, next line, and the spaces and separators beyond
ASCII. -/
def isBlank (c : Char) : Bool :=
  let n := c.toNat
  (9 ≤ n && n ≤ 13) || n == 0x20 || n == 0x85 || n == 0xA0 || n == 0x1680 ||
    (0x2000 ≤ n && n ≤ 0x200A) || n == 0x2028 || n == 0x2029 || n == 0x202F || n == 0x205F ||
    n == 0x3000

/-- Drops the blanks at the start. -/
def trimStart (cs : List Char) : List Char := cs.dropWhile isBlank

/-- Drops the blanks at the end. -/
def trimEnd (cs : List Char) : List Char := (cs.reverse.dropWhile isBlank).reverse

/-- Drops the blanks at both ends. -/
def trim (cs : List Char) : List Char := trimEnd (trimStart cs)

/-- Reads words off a list whose first `word` characters, in reverse, are already known to belong
together. -/
def wordsFrom (word : List Char) : List Char → List (List Char)
  | [] => if word.isEmpty then [] else [word.reverse]
  | c :: rest =>
    if isBlank c then
      if word.isEmpty then wordsFrom [] rest else word.reverse :: wordsFrom [] rest
    else wordsFrom (c :: word) rest

/-- The maximal runs of characters that are not blank, in order. -/
def words (cs : List Char) : List (List Char) := wordsFrom [] cs

/-- A text without the blanks at its ends. -/
def trimmed (text : String) : String := String.ofList (trim text.toList)

/-- The words of a text. -/
def wordsOf (text : String) : List String := (words text.toList).map String.ofList

/-- Whether a text has nothing but blanks. -/
def isAllBlank (text : String) : Bool := text.toList.all isBlank

end Manuscript.Text
