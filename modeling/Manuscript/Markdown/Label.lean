import Manuscript.Markdown.Escape
import Manuscript.Markdown.Glyph
import Manuscript.Markdown.Tree
import Manuscript.Text.Unicode.LetterCase

/-!
# Labels, addresses and titles

The pieces that links, images and definitions are made of. Each function reads one piece at the start of
some text and gives it with what follows; `none` means that there is no such piece.

## Main definitions

* `Markdown.normalizeLabel`, `Markdown.identifierOf` — a label as labels are compared
* `Markdown.takeLabel`, `Markdown.takeDestination`, `Markdown.takeTitle` — the pieces
* `Markdown.takeResource` — an address with a title in parentheses
* `Markdown.takeDefinition` — a definition
-/

namespace Manuscript.Markdown

open Manuscript.Text.Unicode (toLower toUpper)

/-- Whether a character counts as a space in a label. -/
def isLabelSpace (c : Char) : Bool := c = ' ' || c = '\t' || c = '\n' || c = '\r'

/-- The words of a label, of which the given characters, the last one first, begin the first one. -/
def labelWords (word : List Char) : List Char → List (List Char)
  | [] => if word.isEmpty then [] else [word.reverse]
  | c :: rest =>
    if isLabelSpace c then
      if word.isEmpty then labelWords [] rest else word.reverse :: labelWords [] rest
    else labelWords (c :: word) rest

/-- A label as labels are compared: case does not matter, spaces at its ends do not count, and several
spaces count as one. Spaces behind the first word count only if there are spaces before it. -/
def normalizeLabel (label : String) : String :=
  let words := (labelWords [] label.toList).map String.ofList
  let joined := match words with
    | first :: rest =>
      if label.toList.head?.any isLabelSpace then " ".intercalate words
      else first ++ " ".intercalate rest
    | [] => ""
  toUpper (toLower joined)

/-- What a label refers to, by which labels are told apart. What containers take up within a label that
goes on over several lines belongs to it. -/
def identifierOf (label : List Glyph) : String := toLower (normalizeLabel (sourceOf label))

/-! ### Spaces -/

/-- The text after spaces and line endings. -/
def dropSpaces (gs : List Glyph) : List Glyph := gs.dropWhile Glyph.isSpace

/-- Whether the text begins with a given character. -/
def startsWith (c : Char) (gs : List Glyph) : Bool := gs.head?.any (·.char = c)

/-- Whether nothing or a line ending comes next. -/
def atLineEnd (gs : List Glyph) : Bool := gs.head?.all Glyph.isEnding

/-- The text after the line ending that comes next. -/
def dropEnding : List Glyph → List Glyph
  | g :: rest =>
    if g.char = '\r' then (if startsWith '\n' rest then rest.drop 1 else rest)
    else if g.char = '\n' then rest
    else g :: rest
  | [] => []

/-- The lines of a text, without the blanks next to line endings, joined again. -/
def trimLines (gs : List Glyph) : List Glyph :=
  go [] gs
where
  /-- The text after the given blanks, the last one first, which wait for another character. -/
  go (blanks : List Glyph) : List Glyph → List Glyph
    | [] => blanks.reverse
    | g :: rest =>
      if g.isBlank then go (g :: blanks) rest
      else if g.isEnding then g :: afterEnding rest
      else blanks.reverse ++ g :: go [] rest
  /-- The text behind a line ending. -/
  afterEnding : List Glyph → List Glyph
    | [] => []
    | g :: rest =>
      if g.isBlank then afterEnding rest
      else if g.isEnding then g :: afterEnding rest
      else g :: go [] rest

/-! ### Labels -/

/-- How many bytes the label of a reference or a footnote may have. -/
def maxLabelSize : Nat := 999

/-- The characters up to the bracket that ends a label, and what follows the bracket; `room` is how
many more bytes there may be, for which line endings and the blanks behind them do not count, and a tab
counts as its columns.
`lineStart` says that a line begins, and `escaped` that a backslash stands before. -/
def labelBody (room : Nat) (lineStart escaped : Bool) :
    List Glyph → Option (List Glyph × List Glyph)
  | [] => none
  | g :: rest =>
    if !escaped && g.char = ']' then some ([], rest)
    else if !escaped && g.char = '[' then none
    else
      let between := g.isEnding || (lineStart && g.isBlank)
      let size := if between then 0 else if g.isBlank then g.columns else g.char.utf8Size
      if room < size then none
      else
        (labelBody (room - size) between (!escaped && g.char = '\\') rest).map
          fun (label, after) => (g :: label, after)

/-- The label in brackets at the start of a text. It has at least one character that is no space. -/
def takeLabel : List Glyph → Option (List Glyph × List Glyph)
  | [] => none
  | g :: rest =>
    if g.char ≠ '[' then none
    else
      (labelBody maxLabelSize false false rest).filter fun (label, _) =>
        label.any fun g => !g.isSpace

/-! ### Addresses -/

/-- Whether a character is a control character of ASCII other than the null character, which may stand
in an address. -/
def isControl (c : Char) : Bool := (0 < c.toNat && c.toNat < 0x20) || c.toNat = 0x7f

/-- The address up to the angle bracket that ends it. -/
def enclosedDestination (escaped : Bool) : List Glyph → Option (List Glyph × List Glyph)
  | [] => none
  | g :: rest =>
    if g.isEnding || (g.char = '<' && !escaped) then none
    else if g.char = '>' && !escaped then some ([], rest)
    else (enclosedDestination (!escaped && g.char = '\\') rest).map fun (url, after) =>
      (g :: url, after)

/-- The address up to a space, or to a parenthesis that closes none of its own. `opened` is how many
parentheses are open, of which there may be fewer than `limit`. -/
def bareDestination (limit opened : Nat) (escaped : Bool) :
    List Glyph → Option (List Glyph × List Glyph)
  | [] => if opened = 0 then some ([], []) else none
  | g :: rest =>
    let go (opened : Nat) (escaped : Bool) :=
      (bareDestination limit opened escaped rest).map fun (url, after) => (g :: url, after)
    if escaped && (g.char = '(' || g.char = ')' || g.char = '\\') then go opened false
    else if opened = 0 && (g.isSpace || g.char = ')') then some ([], g :: rest)
    else if g.char = '(' then (if opened < limit then go (opened + 1) false else none)
    else if g.char = ')' then go (opened - 1) false
    else if isControl g.char || g.char = ' ' then none
    else go opened (g.char = '\\')

/-- The address at the start of a text. -/
def takeDestination (limit : Nat) : List Glyph → Option (String × List Glyph)
  | [] => none
  | g :: rest =>
    if g.char = '<' then
      (enclosedDestination false rest).map fun (url, after) => (unescape (textOf url), after)
    else if isControl g.char || g.char = ' ' || g.char = ')' then none
    else (bareDestination limit 0 false (g :: rest)).map fun (url, after) =>
      (unescape (textOf url), after)

/-! ### Titles -/

/-- The characters up to the mark that ends a title, and what follows the mark. -/
def titleBody (mark : Char) (escaped : Bool) : List Glyph → Option (List Glyph × List Glyph)
  | [] => none
  | g :: rest =>
    if g.char = mark && !escaped then some ([], rest)
    else (titleBody mark (!escaped && g.char = '\\') rest).map fun (title, after) =>
      (g :: title, after)

/-- The title at the start of a text, between quotes or parentheses. An empty one is none. -/
def takeTitle : List Glyph → Option (Option String × List Glyph)
  | [] => none
  | g :: rest =>
    let mark := if g.char = '(' then ')' else g.char
    if g.char = '"' || g.char = '\'' || g.char = '(' then
      (titleBody mark false rest).map fun (title, after) =>
        (if title.isEmpty then none else some (unescape (textOf (trimLines title))), after)
    else none

/-! ### Compounds -/

/-- What a link leads to, in parentheses at the start of a text: an address, which may be missing, and
a title, which needs a space before it. -/
def takeResource : List Glyph → Option (Target × List Glyph)
  | [] => none
  | g :: rest =>
    if g.char ≠ '(' then none
    else
      let inside := dropSpaces rest
      if startsWith ')' inside then some (⟨"", none⟩, inside.drop 1)
      else do
        let (url, after) ← takeDestination 32 inside
        let between := dropSpaces after
        if startsWith ')' between then pure (⟨url, none⟩, between.drop 1)
        else if !(after.head?.any Glyph.isSpace) then none
        else
          let (title, after) ← takeTitle between
          let after := dropSpaces after
          if startsWith ')' after then pure (⟨url, title⟩, after.drop 1) else none

/-- A definition. -/
structure LinkDefinition where
  /-- What tells its label apart. -/
  identifier : String
  /-- The label as it is written. -/
  label : String
  /-- What the label refers to. -/
  target : Target
  deriving DecidableEq, Repr, Inhabited

/-- The title of a definition behind its address, if it ends its line. -/
def takeDefinitionTitle (gs : List Glyph) : Option (Option String × List Glyph) :=
  if !(gs.head?.any Glyph.isSpace) then none
  else do
    let (title, after) ← takeTitle (dropSpaces gs)
    let after := dropBlanks after
    if atLineEnd after then pure (title, dropEnding after) else none

/-- The definition at the start of a text, which takes whole lines. -/
def takeDefinition (gs : List Glyph) : Option (LinkDefinition × List Glyph) := do
  let (label, after) ← takeLabel (dropBlanks gs)
  if !startsWith ':' after then none
  else
    -- without a limit on parentheses
    let (url, after) ← takeDestination (after.length + 1) (dropSpaces (after.drop 1))
    let definition (title : Option String) : LinkDefinition :=
      ⟨identifierOf label, textOf label, url, title⟩
    match takeDefinitionTitle after with
    | some (title, rest) => pure (definition title, rest)
    | none =>
      let after := dropBlanks after
      if atLineEnd after then pure (definition none, dropEnding after) else none

/-- The definitions at the start of a text, at most `count`, and what follows them. -/
def takeDefinitions : (count : Nat) → List Glyph → List LinkDefinition × List Glyph
  | 0, gs => ([], gs)
  | count + 1, gs =>
    match takeDefinition gs with
    | some (d, rest) =>
      let (ds, rest) := takeDefinitions count rest
      (d :: ds, rest)
    | none => ([], gs)

end Manuscript.Markdown
