import Manuscript.Source.Location

/-!
# Characters of a source with their places

Markdown is read line by line. A line holds its characters with the place of each one, since what is
wrong with a source is reported with its place, and containers such as quotations use up the beginning
of a line. Columns count bytes; a tab reaches to the next multiple of four, and a container may use up a
part of it.

## Main definitions

* `Markdown.Glyph` — a character with its place
* `Markdown.Line`, `Markdown.linesOf` — the lines of a source
* `Markdown.Fragment` — text that is read further as a whole
* `Markdown.dropColumns` — a line without columns of blanks at its start
-/

namespace Manuscript.Markdown

/-- A character with its place. -/
structure Glyph where
  /-- The character. -/
  char : Char
  /-- Where it begins. -/
  place : SourceLocation
  /-- How many columns it takes as a blank. -/
  columns : Nat := 1
  /-- If it is the rest of a tab: how many columns of the tab have been used up. -/
  used : Nat := 0
  /-- What containers take up between it and the next character of a text. -/
  behind : List Char := []
  deriving DecidableEq, Repr, Inhabited

namespace Glyph

/-- Whether a character is a space or a tab. -/
def isBlank (g : Glyph) : Bool := g.char = ' ' || g.char = '\t'

/-- Whether a character ends a line. -/
def isEnding (g : Glyph) : Bool := g.char = '\n' || g.char = '\r'

/-- Whether a character is a space, a tab or ends a line. -/
def isSpace (g : Glyph) : Bool := g.isBlank || g.isEnding

/-- Whether a character is the rest of a tab. -/
def isCut (g : Glyph) : Bool := 0 < g.used

/-- The last character of a source before the one that follows in a text. -/
def last (g : Glyph) : Char := g.behind.getLast?.getD g.char

end Glyph

/-- The text of glyphs. -/
def textOf (gs : List Glyph) : String := String.ofList (gs.map Glyph.char)

/-- The source of glyphs: their text with what containers take up between them. -/
def sourceOf (gs : List Glyph) : String :=
  String.ofList (gs.flatMap fun g => g.char :: g.behind)

/-- A line of a source. -/
structure Line where
  /-- Its characters. -/
  glyphs : List Glyph
  /-- What ends it; nothing at the end of the source. -/
  ending : List Glyph
  /-- Where its characters end. -/
  stop : SourceLocation
  /-- What stands before its characters and does not belong to it. -/
  lead : List Char := []
  deriving Repr, Inhabited

/-- Text that is read further as a whole. -/
structure Fragment where
  /-- Its characters, line endings among them. -/
  glyphs : List Glyph
  /-- Where it ends. -/
  stop : SourceLocation
  /-- The character of the source before it, if it matters. -/
  before : Option Char := none
  /-- The character of the source after it, if it matters. -/
  after : Option Char := none
  deriving Repr, Inhabited

/-- The place after a character, which is followed by others. -/
def placeAfter (p : SourceLocation) (c : Char) (rest : List Char) : SourceLocation :=
  match c with
  | '\n' => ⟨p.line + 1, 1⟩
  | '\r' => if rest.head? = some '\n' then ⟨p.line, p.column + 1⟩ else ⟨p.line + 1, 1⟩
  | '\t' => ⟨p.line, p.column + 4 - (p.column - 1) % 4⟩
  | c => ⟨p.line, p.column + c.utf8Size⟩

/-- The characters of a text that begins at a place, and the place of its end. -/
def glyphsFrom (p : SourceLocation) : List Char → List Glyph × SourceLocation
  | [] => ([], p)
  | c :: rest =>
    let columns := if c = '\t' then 4 - (p.column - 1) % 4 else 1
    let (gs, stop) := glyphsFrom (placeAfter p c rest) rest
    ({ char := c, place := p, columns } :: gs, stop)

/-- The lines of glyphs, of which the given ones, the last one first, begin the first line. -/
def splitLines (stop : SourceLocation) (line : List Glyph) : List Glyph → List Line
  | [] => [{ glyphs := line.reverse, ending := [], stop }]
  | g :: rest =>
    let ended (ending : List Glyph) : Line := { glyphs := line.reverse, ending, stop := g.place }
    if g.char = '\r' then
      match rest with
      | h :: more =>
        if h.char = '\n' then ended [g, h] :: splitLines stop [] more
        else ended [g] :: splitLines stop [] (h :: more)
      | [] => [ended [g], { glyphs := [], ending := [], stop }]
    else if g.char = '\n' then ended [g] :: splitLines stop [] rest
    else splitLines stop (g :: line) rest

/-- The lines of a source. The last one has no ending, and has no characters if the source ends in a
line ending. A byte order mark at the start belongs to no line. -/
def linesOf (source : String) : List Line :=
  match source.toList with
  | '\uFEFF' :: rest =>
    let (gs, stop) := glyphsFrom ⟨1, 1 + '\uFEFF'.utf8Size⟩ rest
    match splitLines stop [] gs with
    | first :: others => { first with lead := ['\uFEFF'] } :: others
    | [] => []
  | cs =>
    let (gs, stop) := glyphsFrom {} cs
    splitLines stop [] gs

/-! ### Blanks -/

/-- How many columns the blanks at the start of a line take. -/
def indentOf : List Glyph → Nat
  | [] => 0
  | g :: rest => if g.isBlank then g.columns + indentOf rest else 0

/-- A line without the blanks at its start. -/
def dropBlanks (gs : List Glyph) : List Glyph := gs.dropWhile Glyph.isBlank

/-- A line without the blanks at its end. -/
def dropBlanksRight (gs : List Glyph) : List Glyph := (gs.reverse.dropWhile Glyph.isBlank).reverse

/-- Whether a line has nothing but blanks. -/
def isBlankLine (gs : List Glyph) : Bool := gs.all Glyph.isBlank

/-- The rest of a tab of which some more columns are used up. -/
def Glyph.cutAt (g : Glyph) (count : Nat) : Glyph :=
  { g with
    place := { g.place with column := g.place.column + count }
    columns := g.columns - count
    used := g.used + count }

/-- A line without up to `count` columns of blanks at its start. Of a tab that reaches further, the rest
stays. -/
def dropColumns : (count : Nat) → List Glyph → List Glyph
  | 0, gs => gs
  | _, [] => []
  | count + 1, g :: rest =>
    if !g.isBlank then g :: rest
    else if g.columns ≤ count + 1 then dropColumns (count + 1 - g.columns) rest
    else g.cutAt (count + 1) :: rest
termination_by _ gs => gs.length

/-- The width of the rest of a tab, as if the tab began at a multiple of four columns. -/
def Glyph.restWidth (g : Glyph) : Nat := 4 - g.used

/-- How much blanks and marks count as the indentation of what follows them: every character for one,
and the rest of a tab for its width. -/
def widthOf (gs : List Glyph) : Nat :=
  gs.foldl (fun width g => width + if g.isCut then g.restWidth else 1) 0

/-- The text of glyphs in which the rest of a tab does not count. -/
def wholeText (gs : List Glyph) : String := textOf (gs.filter (!·.isCut))

/-- The text of glyphs in which the rest of a tab counts as spaces. -/
def spacedText (gs : List Glyph) : String :=
  String.ofList (gs.flatMap fun g => if g.isCut then List.replicate g.restWidth ' ' else [g.char])

/-- The text of a paragraph that begins in a line: without the blanks at its start, of which the last
one stays if the line begins within a tab. -/
def paragraphStart (gs : List Glyph) : List Glyph :=
  match gs with
  | g :: _ =>
    if g.isCut then
      match (gs.takeWhile Glyph.isBlank).getLast? with
      | some last => last :: dropBlanks gs
      | none => gs
    else dropBlanks gs
  | [] => []

end Manuscript.Markdown
