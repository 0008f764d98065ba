import Manuscript.Markdown.Dialect
import Manuscript.Markdown.Escape
import Manuscript.Markdown.Label

/-!
# Forms of lines

What a line is can be seen from its beginning: a heading, a fence, the mark of a quotation or of an item,
and so on. The functions here look at a line without the blanks at its start; how far it is indented is
for the caller to judge.

## Main definitions

* `Markdown.heading?`, `Markdown.underline?`, `Markdown.isThematicBreak` — headings and breaks
* `Markdown.Fence`, `Markdown.fence?` — fences of code and mathematics
* `Markdown.ItemMark`, `Markdown.itemMark?`, `Markdown.footnoteMark?` — the marks of items and footnotes
-/

namespace Manuscript.Markdown

/-! ### Headings and breaks -/

/-- A line without the number signs at its end, which stand behind blanks. -/
def dropClosingSigns : (count : Nat) → List Glyph → List Glyph
  | 0, gs => gs
  | count + 1, gs =>
    let gs := dropBlanksRight gs
    let signs := (gs.reverse.takeWhile (·.char = '#')).length
    let before := gs.take (gs.length - signs)
    if signs > 0 && before.getLast?.all Glyph.isBlank then dropClosingSigns count before else gs

/-- The depth and the text of a heading. -/
def heading? (gs : List Glyph) : Option (Nat × List Glyph) :=
  let depth := (gs.takeWhile (·.char = '#')).length
  let rest := gs.drop depth
  if depth = 0 || depth > 6 || !(rest.head?.all Glyph.isBlank) then none
  else
    let text := rest.dropWhile fun g => g.isBlank || g.char = '#'
    some (depth, dropClosingSigns gs.length text)

/-- The depth of the heading that a line underlines. -/
def underline? (gs : List Glyph) : Option Nat :=
  let line := (dropBlanksRight gs).map Glyph.char
  if line.isEmpty then none
  else if line.all (· = '=') then some 1
  else if line.all (· = '-') then some 2
  else none

/-- Whether a line is a thematic break. -/
def isThematicBreak (gs : List Glyph) : Bool :=
  match gs with
  | [] => false
  | g :: _ =>
    let marks := gs.filter (!·.isBlank)
    (g.char = '*' || g.char = '-' || g.char = '_') && 3 ≤ marks.length &&
      marks.all (·.char = g.char)

/-! ### Fences -/

/-- A line that begins a block of code or mathematics. -/
structure Fence where
  /-- The mark. -/
  mark : Char
  /-- How many marks there are. -/
  size : Nat
  /-- How many columns of blanks its lines may begin with that do not count. -/
  indent : Nat
  /-- The language. -/
  language : Option String
  /-- What follows the language. -/
  info : Option String
  deriving DecidableEq, Repr, Inhabited

/-- A text that is given only if there is some. -/
def someText (gs : List Glyph) : Option String :=
  if gs.isEmpty then none else some (unescape (textOf gs))

/-- The fence that a line is, which has given blanks before it. With marks other than tildes, none of
them stands behind the fence. -/
def fence? (d : Dialect) (blanks : List Glyph) (gs : List Glyph) : Option Fence :=
  match gs with
  | [] => none
  | g :: _ =>
    let size := (gs.takeWhile (·.char = g.char)).length
    let rest := dropBlanks (gs.drop size)
    let isPlain := g.char = '~' || !(rest.any (·.char = g.char))
    if !isPlain then none
    else if (g.char = '\x60' || g.char = '~') && 3 ≤ size then
      let word := rest.takeWhile (!·.isBlank)
      some ⟨g.char, size, widthOf blanks, someText word, someText (dropBlanks (rest.drop word.length))⟩
    else if g.char = '$' && 2 ≤ size && d.math then
      some ⟨g.char, size, widthOf blanks, none, someText rest⟩
    else none

/-- Whether a line ends the block that a fence begins. -/
def Fence.closedBy (f : Fence) (gs : List Glyph) : Bool :=
  let size := (gs.takeWhile (·.char = f.mark)).length
  f.size ≤ size && isBlankLine (gs.drop size)

/-! ### Statements -/

/-- Whether a line begins import or export statements. -/
def beginsStatements (gs : List Glyph) : Bool :=
  let word := String.ofList ((gs.take 7).map Glyph.char)
  gs.head?.any (·.place.column = 1) && (word = "import " || word = "export ")

/-! ### Marks of containers -/

/-- The mark of an item. -/
structure ItemMark where
  /-- The character that tells lists apart. -/
  mark : Char
  /-- The number of the item. -/
  number : Option Nat
  /-- How many columns its lines are indented. -/
  size : Nat
  /-- Whether nothing follows the mark in its line. -/
  blankStart : Bool
  deriving DecidableEq, Repr, Inhabited

/-- The mark, the number and the width of an item that begins a line. Within a paragraph, items with
numbers must begin with one. -/
def bullet? (interrupting : Bool) (gs : List Glyph) : Option (Char × Option Nat × Nat) :=
  match gs with
  | [] => none
  | g :: _ =>
    if g.char = '+' || g.char = '*' || g.char = '-' then
      if isThematicBreak gs then none else some (g.char, none, 1)
    else
      let digits := gs.takeWhile (·.char.isDigit)
      let number := Text.ofDigitValues 10 (digits.filterMap fun g => Text.digitValue? g.char)
      match (gs.drop digits.length).head? with
      | some h =>
        if digits.isEmpty || digits.length > 9 || !(h.char = '.' || h.char = ')') then none
        else if interrupting && !(digits.length = 1 && number = 1) then none
        else some (h.char, some number, digits.length + 1)
      | none => none

/-- The mark of the item that a line begins, which has given blanks before it, and the rest of the line.
Within a paragraph, the item must not be empty. -/
def itemMark? (interrupting : Bool) (blanks : List Glyph) (gs : List Glyph) :
    Option (ItemMark × List Glyph) := do
  let (mark, number, width) ← bullet? interrupting gs
  let rest := gs.drop width
  let size := widthOf blanks + width
  if isBlankLine rest then
    if interrupting then none else pure (⟨mark, number, size + 1, true⟩, rest)
  else
    let behind := rest.takeWhile Glyph.isBlank
    if behind.isEmpty then none
    else if indentOf rest ≤ 4 then
      pure (⟨mark, number, size + behind.length, false⟩, dropBlanks rest)
    else pure (⟨mark, number, size + 1, false⟩, dropColumns 1 rest)

/-- The characters of the label of a footnote, and what follows its bracket. -/
def footnoteLabel (escaped : Bool) : List Glyph → Option (List Glyph × List Glyph)
  | [] => none
  | g :: rest =>
    if g.char = ']' && !escaped then some ([], rest)
    else if (g.char = '[' && !escaped) || g.isSpace then none
    else (footnoteLabel (!escaped && g.char = '\\') rest).map fun (label, after) =>
      (g :: label, after)

/-- The label of the footnote that a line begins, and the rest of the line. -/
def footnoteMark? (gs : List Glyph) : Option (String × List Glyph) :=
  match gs with
  | a :: b :: rest =>
    if a.char ≠ '[' || b.char ≠ '^' then none
    else
      match footnoteLabel false rest with
      | some (label, colon :: after) =>
        if label.isEmpty || (textOf label).utf8ByteSize > maxLabelSize || colon.char ≠ ':' then none
        else some (textOf label, dropBlanks after)
      | _ => none
  | _ => none

end Manuscript.Markdown
