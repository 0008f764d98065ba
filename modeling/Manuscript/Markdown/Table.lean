import Manuscript.Markdown.Glyph
import Manuscript.Markdown.Tree

/-!
# Rows of tables

The cells of a row are divided by bars; a bar behind a backslash belongs to its cell. The second row of
a table says how its columns are aligned, and there are as many columns as cells in the first.

## Main definitions

* `Markdown.cellsOf` — the cells of a row
* `Markdown.delimiterRow?` — the alignments that a row gives
* `Markdown.isTableHead` — whether a line can be the first row for given alignments
-/

namespace Manuscript.Markdown

/-- A cell of a row. -/
structure Cell where
  /-- Its text. -/
  text : Fragment
  /-- Where it begins: at its bar, if it has one. -/
  start : SourceLocation
  /-- Where it ends. -/
  stop : SourceLocation
  deriving Repr, Inhabited

/-- The characters of a row up to the next bar, and the bar with what follows it; `escaped` says that a
backslash stands before. -/
def untilBar (escaped : Bool) : List Glyph → List Glyph × List Glyph
  | [] => ([], [])
  | g :: rest =>
    if g.char = '|' && !escaped then ([], g :: rest)
    else
      let (cell, after) := untilBar (!escaped && g.char = '\\') rest
      (g :: cell, after)

theorem length_untilBar_snd_le (escaped : Bool) (gs : List Glyph) :
    (untilBar escaped gs).2.length ≤ gs.length := by
  induction gs generalizing escaped with
  | nil => simp [untilBar]
  | cons g rest ih =>
    unfold untilBar
    split
    · simp
    · have := ih (!escaped && g.char = '\\')
      simp only [List.length_cons]
      omega

/-- The place behind a character. -/
def placeBehind (g : Glyph) : SourceLocation :=
  { g.place with column := g.place.column + g.char.utf8Size }

/-- A cell with given characters between two places, before and after which there are others. -/
def cellOf (before after : Option Char) (gs : List Glyph) (start stop : SourceLocation) : Cell :=
  let blanks := gs.takeWhile Glyph.isBlank
  let text := dropBlanks gs
  let trimmed := dropBlanksRight text
  let textStop := (trimmed.getLast?.map placeBehind).getD start
  let before := (blanks.getLast?.map Glyph.char).or before
  let after := ((text.drop trimmed.length).head?.map Glyph.char).or after
  ⟨⟨trimmed, textStop, before, after⟩, start, stop⟩

/-- The cells of a row from a bar on, or from the characters behind `start`, before which a character
stands. What stands behind the last bar is a cell only if it is not blank. -/
def cellsFrom (before : Option Char) (stop start : SourceLocation) (gs : List Glyph) : List Cell :=
  match _h : untilBar false gs with
  | (cell, []) => if isBlankLine cell then [] else [cellOf before none cell start stop]
  | (cell, bar :: rest) =>
    -- the last bar belongs to the last cell
    let cellStop := if isBlankLine rest then stop else bar.place
    cellOf before (some '|') cell start cellStop :: cellsFrom (some '|') stop bar.place rest
termination_by gs.length
decreasing_by
  have := length_untilBar_snd_le false gs
  rw [_h] at this
  simp only [List.length_cons] at this
  omega

/-- The cells of a row, before which a character stands. There is always one. -/
def cellsOf (before : Option Char) (stop : SourceLocation) (line : List Glyph) : List Cell :=
  match dropBlanks line with
  | [] => []
  | g :: rest =>
    if g.char ≠ '|' then cellsFrom before stop g.place (g :: rest)
    else if isBlankLine rest then [cellOf none none [] g.place stop]
    else cellsFrom (some '|') stop g.place rest

/-- The alignment that a cell of the second row gives. -/
def alignmentOf? (cell : List Glyph) : Option Alignment :=
  let cs := (dropBlanksRight (dropBlanks cell)).map Glyph.char
  let left := cs.head? = some ':'
  let fill := if left then cs.drop 1 else cs
  let right := fill.getLast? = some ':'
  let fill := if right then fill.dropLast else fill
  if fill.isEmpty || !(fill.all (· = '-')) then none
  else if left then some (if right then .center else .left)
  else some (if right then .right else .unset)

/-- The alignments that the cells of a row give from here on. -/
def alignmentsFrom (gs : List Glyph) : Option (List Alignment) :=
  match _h : untilBar false gs with
  | (cell, []) => if isBlankLine cell then some [] else (alignmentOf? cell).map ([·])
  | (cell, _ :: rest) => do
    let a ← alignmentOf? cell
    let more ← alignmentsFrom rest
    pure (a :: more)
termination_by gs.length
decreasing_by
  have := length_untilBar_snd_le false gs
  rw [_h] at this
  simp only [List.length_cons] at this
  omega

/-- The alignments that a row gives. There is a bar or a colon in the row, since without one it is no
row. -/
def delimiterRow? (line : List Glyph) : Option (List Alignment) :=
  let row := dropBlanks line
  let cells := if row.head?.any (·.char = '|') then row.drop 1 else row
  if row.any (fun g => g.char = '|' || g.char = ':') then
    (alignmentsFrom cells).filter (!·.isEmpty)
  else none

/-- Whether the first character of a line begins other blocks than rows. If it begins none, the line is
text even within a table. -/
def beginsNoRow (line : List Glyph) : Bool :=
  line.head?.any fun g => "#$\x60~*_ei\x7b".toList.contains g.char

/-- Whether a line can be the first row of a table with a number of columns. A bar on its own is no
row. -/
def isTableHead (columns : Nat) (line : List Glyph) : Bool :=
  let row := dropBlanksRight (dropBlanks line)
  !beginsNoRow line && row.map Glyph.char ≠ ['|'] && (cellsOf none {} row).length = columns

end Manuscript.Markdown
