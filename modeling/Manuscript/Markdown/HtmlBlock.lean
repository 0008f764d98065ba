import Manuscript.Markdown.Span

/-!
# Blocks of HTML

A block of HTML begins with a line of one of seven forms and goes on up to a line that ends it: one that
holds a certain text, or the last one before a blank line.

## Main definitions

* `Markdown.HtmlBlock` — the kinds of blocks by what ends them
* `Markdown.htmlBlock?` — the kind of block that a line begins
* `HtmlBlock.endsIn` — whether a line ends a block
* `TagLineSpot.endsLine` — whether a line is a tag and nothing else
-/

namespace Manuscript.Markdown

/-- The kinds of blocks of HTML, by what ends them. -/
inductive HtmlBlock where
  /-- The closing tag of an element whose content is taken as it is. -/
  | raw
  /-- A given text. -/
  | text (close : List Char)
  /-- The end of character data. -/
  | data
  /-- A blank line. -/
  | blankLine
  deriving DecidableEq, Repr, Inhabited

/-- The elements whose content is taken as it is. -/
def rawTags : List String := ["pre", "script", "style", "textarea"]

/-- The elements that begin a block even within a paragraph. -/
def blockTags : List String := [
  "address", "article", "aside", "base", "basefont", "blockquote", "body", "caption", "center",
  "col", "colgroup", "dd", "details", "dialog", "dir", "div", "dl", "dt", "fieldset", "figcaption",
  "figure", "footer", "form", "frame", "frameset", "h1", "h2", "h3", "h4", "h5", "h6", "head",
  "header", "hr", "html", "iframe", "legend", "li", "link", "main", "menu", "menuitem", "nav",
  "noframes", "ol", "optgroup", "option", "p", "param", "search", "section", "summary", "table",
  "tbody", "td", "tfoot", "th", "thead", "title", "tr", "track", "ul"]

/-- Whether a text holds the closing tag of an element whose content is taken as it is. -/
def holdsRawEnd : List Glyph → Bool
  | [] => false
  | g :: rest =>
    (g.char = '<' && startsTag rest) || holdsRawEnd rest
where
  /-- Whether the text behind an angle bracket closes such an element. -/
  startsTag (gs : List Glyph) : Bool :=
    match dropText ['/'] gs with
    | some after =>
      let name := after.takeWhile (·.char.isAlpha)
      rawTags.contains (String.ofList (name.map (·.char.toLower))) &&
        (after.drop name.length).head?.any (·.char = '>')
    | none => false

/-- Whether a text holds the end of character data: an angle bracket behind two square brackets, which are
counted in pairs. -/
def holdsDataEnd : List Char → Bool
  | ']' :: ']' :: rest => rest.head? = some '>' || holdsDataEnd rest
  | _ :: rest => holdsDataEnd rest
  | [] => false

/-- Whether a line, or the rest of the line that begins a block, ends the block. -/
def HtmlBlock.endsIn : HtmlBlock → List Glyph → Bool
  | .raw, gs => holdsRawEnd gs
  | .text close, gs => (untilText close gs).isSome
  | .data, gs => holdsDataEnd (gs.map Glyph.char)
  | .blankLine, _ => false

/-! ### Complete tags -/

/-- A spot of a tag that stands in a line of its own. -/
inductive TagLineSpot where
  /-- Behind the name, or where an attribute may begin. -/
  | between
  /-- In the name of an attribute. -/
  | name
  /-- Behind the name of an attribute. -/
  | afterName
  /-- Before the value of an attribute. -/
  | beforeValue
  /-- In a value between quotes. -/
  | quoted (quote : Char)
  /-- Behind a value between quotes. -/
  | afterQuoted
  /-- In a value without quotes. -/
  | bare
  /-- Behind the name of a closing tag. -/
  | closing
  /-- Behind the slash of a tag that closes itself. -/
  | slash
  /-- Behind the tag. -/
  | done
  deriving DecidableEq, Repr

namespace TagLineSpot

/-- Whether a character is a space or a tab. -/
def isBlank (c : Char) : Bool := c = ' ' || c = '\t'

/-- The spot behind a character that stands where an attribute may begin. -/
def stepBetween (c : Char) : Option TagLineSpot :=
  if isBlank c then some between
  else if c = '/' then some slash
  else if c = '>' then some done
  else if c.isAlphanum || c = ':' || c = '_' then some name
  else none

/-- The spot behind a character that stands behind the name of an attribute. -/
def stepAfterName (c : Char) : Option TagLineSpot :=
  if isBlank c then some afterName
  else if c = '=' then some beforeValue
  else stepBetween c

/-- The spot behind a character that stands in a value without quotes. -/
def stepBare (c : Char) : Option TagLineSpot :=
  if isBlank c || ['"', '\'', '/', '<', '=', '>', '\x60'].contains c then stepAfterName c
  else some bare

/-- The spot behind a character that stands at a spot; `none` if it cannot stand there. -/
def step : TagLineSpot → Char → Option TagLineSpot
  | between, c => stepBetween c
  | name, c =>
    if c.isAlphanum || c = ':' || c = '_' || c = '-' || c = '.' then some name
    else stepAfterName c
  | afterName, c => stepAfterName c
  | beforeValue, c =>
    if isBlank c then some beforeValue
    else if c = '"' || c = '\'' then some (quoted c)
    else if ['<', '=', '>', '\x60'].contains c then none
    else stepBare c
  | quoted quote, c => some (if c = quote then afterQuoted else quoted quote)
  | afterQuoted, c => if isBlank c || c = '/' || c = '>' then stepBetween c else none
  | bare, c => stepBare c
  | closing, c => if isBlank c then some closing else if c = '>' then some done else none
  | slash, c => if c = '>' then some done else none
  | done, c => if isBlank c then some done else none

/-- Whether a line ends with a tag, from a spot of the tag on. -/
def endsLine (spot : TagLineSpot) (gs : List Glyph) : Bool :=
  gs.foldlM (fun spot g => spot.step g.char) spot = some done

end TagLineSpot

/-- The kind of block that a tag begins, which has a name and stands behind an angle bracket and, if
`closing`, a slash. `complete` says whether a tag of any name will do if nothing else is in its line. -/
def tagBlock? (complete closing : Bool) (gs : List Glyph) : Option (HtmlBlock × List Glyph) :=
  let name := gs.takeWhile isTagNamePart
  let after := gs.drop name.length
  let lower := String.ofList (name.map (·.char.toLower))
  let next := after.head?.map Glyph.char
  if !(next.all fun c => c = ' ' || c = '\t' || c = '/' || c = '>') then none
  else if next ≠ some '/' && !closing && rawTags.contains lower then some (.raw, after)
  else if blockTags.contains lower then
    if next = some '/' then (dropText ['/', '>'] after).map (.blankLine, ·)
    else some (.blankLine, after)
  else if complete && (if closing then TagLineSpot.closing else .between).endsLine after then
    some (.blankLine, [])
  else none

/-- The kind of block that a line begins, whose angle bracket comes first, and the rest of the line in
which the block may end. -/
def htmlBlock? (complete : Bool) (gs : List Glyph) : Option (HtmlBlock × List Glyph) :=
  match gs.drop 1 with
  | [] => none
  | g :: rest =>
    if g.char = '/' then (if atLetter rest then tagBlock? complete true rest else none)
    else if g.char = '?' then some (.text ['?', '>'], g :: rest)
    else if g.char = '!' then
      match dropText ['-', '-'] rest with
      -- the hyphens may belong to the end
      | some _ => some (.text ['-', '-', '>'], rest)
      | none =>
        match dropText "[CDATA[".toList rest with
        | some data => some (.data, data)
        | none => if atLetter rest then some (.text ['>'], rest) else none
    else if atLetter (g :: rest) then tagBlock? complete false (g :: rest)
    else none

end Manuscript.Markdown
