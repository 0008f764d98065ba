import Manuscript.Markdown.Glyph
import Manuscript.Markdown.Tree

/-!
# Spans that are taken as they are

Code, formulas, HTML and addresses in angle brackets: what stands in them has no meaning of its own in
Markdown. Each function reads one span at the start of a text.

## Main definitions

* `Markdown.fencedSpan?` — code or a formula between runs of one mark
* `Markdown.htmlSpan?` — a piece of HTML
* `Markdown.autolink?` — an address in angle brackets
-/

namespace Manuscript.Markdown

/-- How many characters at the start of a text are a given one. -/
def runLength (c : Char) (gs : List Glyph) : Nat := (gs.takeWhile (·.char = c)).length

/-- What stands before the first run of exactly `size` marks, and what follows the run. `inRun` says
that a mark stands before. -/
def untilRun (mark : Char) (size : Nat) (inRun : Bool) :
    List Glyph → Option (List Glyph × List Glyph)
  | [] => none
  | g :: rest =>
    if g.char = mark && !inRun && runLength mark (g :: rest) = size then
      some ([], (g :: rest).drop size)
    else (untilRun mark size (g.char = mark) rest).map fun (body, after) => (g :: body, after)

/-- The text of a span of code: one space at both ends does not count, unless there are only spaces. -/
def spanText (gs : List Glyph) : String :=
  let isPadding (g : Glyph) : Bool := g.char = ' '
  let padded := gs.head?.any isPadding && gs.getLast?.any isPadding && gs.any (!isPadding ·)
  wholeText (if padded then (gs.drop 1).dropLast else gs)

/-- The span between runs of one mark at the start of a text. -/
def fencedSpan? (mark : Char) (gs : List Glyph) : Option (List Glyph × List Glyph) :=
  let size := runLength mark gs
  untilRun mark size false (gs.drop size)

/-! ### HTML -/

/-- What stands before the first occurrence of `close`, and what follows it. -/
def untilText (close : List Char) : List Glyph → Option (List Glyph × List Glyph)
  | [] => none
  | g :: rest =>
    if ((g :: rest).take close.length).map Glyph.char = close then
      some ([], (g :: rest).drop close.length)
    else (untilText close rest).map fun (body, after) => (g :: body, after)

/-- What follows given characters at the start of a text. -/
def dropText (chars : List Char) (gs : List Glyph) : Option (List Glyph) :=
  if (gs.take chars.length).map Glyph.char = chars then some (gs.drop chars.length) else none

/-- Whether a letter of ASCII comes next. -/
def atLetter (gs : List Glyph) : Bool := gs.head?.any (·.char.isAlpha)

/-- Whether a character may stand in the name of a tag. -/
def isTagNamePart (g : Glyph) : Bool := g.char.isAlphanum || g.char = '-'

/-- Whether a character may begin the name of an attribute. -/
def isAttributeStart (g : Glyph) : Bool := g.char.isAlpha || g.char = ':' || g.char = '_'

/-- Whether a character may stand in the name of an attribute. -/
def isAttributePart (g : Glyph) : Bool :=
  g.char.isAlphanum || g.char = ':' || g.char = '_' || g.char = '-' || g.char = '.'

/-- Whether a character may begin a value without quotes. -/
def isBareValueStart (g : Glyph) : Bool :=
  !g.isSpace && !(['"', '\'', '<', '=', '>', '\x60'].contains g.char)

/-- Whether a character may stand in a value without quotes. -/
def isBareValuePart (g : Glyph) : Bool := isBareValueStart g && g.char ≠ '/'

/-- What follows the value of an attribute. -/
def afterAttributeValue : List Glyph → Option (List Glyph)
  | [] => none
  | g :: rest =>
    if g.char = '"' || g.char = '\'' then
      let after := (rest.dropWhile (·.char ≠ g.char)).drop 1
      if rest.any (·.char = g.char) &&
          after.head?.any (fun h => h.isSpace || h.char = '/' || h.char = '>') then some after
      else none
    else if isBareValueStart g then some (rest.dropWhile isBareValuePart)
    else none

/-- What follows the end of a tag behind its name, with at most `count` attributes; `spaced` says that
a space stands before. -/
def afterTagRest (count : Nat) (spaced : Bool) (gs : List Glyph) : Option (List Glyph) :=
  match count, gs with
  | 0, _ => none
  | _, [] => none
  | count + 1, g :: rest =>
    if g.char = '>' then some rest
    else if g.char = '/' then dropText ['>'] rest
    else if g.isSpace then afterTagRest count true (rest.dropWhile Glyph.isSpace)
    else if spaced && isAttributeStart g then
      let after := rest.dropWhile isAttributePart
      let value := after.dropWhile Glyph.isSpace
      match value with
      | h :: value =>
        if h.char = '=' then
          (afterAttributeValue (value.dropWhile Glyph.isSpace)).bind (afterTagRest count false)
        else afterTagRest count false after
      | [] => none
    else none

/-- What follows an opening tag of HTML behind its angle bracket. -/
def afterOpeningTag (gs : List Glyph) : Option (List Glyph) :=
  if atLetter gs then afterTagRest (gs.length + 1) false (gs.dropWhile isTagNamePart) else none

/-- What follows a closing tag of HTML behind its slash. -/
def afterClosingTag (gs : List Glyph) : Option (List Glyph) :=
  if atLetter gs then
    dropText ['>'] ((gs.dropWhile isTagNamePart).dropWhile Glyph.isSpace)
  else none

/-- What follows the first occurrence of `close`. -/
def afterText (close : List Char) (gs : List Glyph) : Option (List Glyph) :=
  (untilText close gs).map (·.2)

/-- What follows a comment behind `<!--`; the hyphens of its start may belong to its end. -/
def afterComment (gs : List Glyph) : Option (List Glyph) :=
  (dropText ['>'] gs).or ((dropText ['-', '>'] gs).or (afterText ['-', '-', '>'] gs))

/-- What follows a piece of HTML behind its angle bracket. -/
def afterHtml (gs : List Glyph) : Option (List Glyph) :=
  match gs with
  | [] => none
  | g :: rest =>
    if g.char = '/' then afterClosingTag rest
    else if g.char = '?' then afterText ['?', '>'] rest
    else if g.char = '!' then
      match dropText ['-', '-'] rest with
      | some comment => afterComment comment
      | none =>
        match dropText "[CDATA[".toList rest with
        | some data => afterText [']', ']', '>'] data
        | none => if atLetter rest then afterText ['>'] rest else none
    else afterOpeningTag gs

/-- A text without the blanks at the start of its lines, other than the first. -/
def dropLineIndents (lineStart : Bool) : List Glyph → List Glyph
  | [] => []
  | g :: rest =>
    if g.isEnding then g :: dropLineIndents true rest
    else if lineStart && g.isBlank then dropLineIndents true rest
    else g :: dropLineIndents false rest

/-- The piece of HTML at the start of a text, whose angle bracket comes next. -/
def htmlSpan? (gs : List Glyph) : Option (List Glyph × List Glyph) :=
  (afterHtml (gs.drop 1)).map fun after => (gs.take (gs.length - after.length), after)

/-! ### Addresses in angle brackets -/

/-- Whether a character may stand in the local part of a mail address. -/
def isMailPart (c : Char) : Bool :=
  c.isAlphanum || (".#$%&'*+/=?^_\x60\x7b|\x7d~-".toList.contains c)

/-- Whether labels of a domain are well-formed: up to 63 letters, digits and hyphens, with no hyphen at
the ends. -/
def isDomainLabel (label : List Char) : Bool :=
  !label.isEmpty && label.length ≤ 63 && label.all (fun c => c.isAlphanum || c = '-') &&
    label.head? ≠ some '-' && label.getLast? ≠ some '-'

/-- The parts of a text between points, of which the given characters, the last one first, begin the
first. -/
def domainLabels (label : List Char) : List Char → List (List Char)
  | [] => [label.reverse]
  | c :: rest => if c = '.' then label.reverse :: domainLabels [] rest else domainLabels (c :: label) rest

/-- Whether a text is a mail address. -/
def isMailAddress (cs : List Char) : Bool :=
  let local_ := cs.takeWhile (· ≠ '@')
  let domain := cs.drop (local_.length + 1)
  local_.length < cs.length && !local_.isEmpty && local_.all isMailPart &&
    (domainLabels [] domain).all isDomainLabel

/-- Whether a text is an address with a scheme. -/
def isSchemeAddress (cs : List Char) : Bool :=
  let scheme := cs.takeWhile fun c => c.isAlphanum || c = '+' || c = '-' || c = '.'
  let after := cs.drop scheme.length
  scheme.head?.any Char.isAlpha && 2 ≤ scheme.length && scheme.length ≤ 32 &&
    after.head? = some ':' && after.all fun c => 0x20 < c.toNat && c ≠ '\x7f' && c ≠ '<'

/-- The address in angle brackets at the start of a text, as its text and where it leads. -/
def autolink? (gs : List Glyph) : Option (String × String × List Glyph) := do
  let (body, after) ← untilText ['>'] (gs.drop 1)
  let cs := body.map Glyph.char
  let text := String.ofList cs
  if isSchemeAddress cs then pure (text, text, after)
  else if isMailAddress cs then pure (text, "mailto:" ++ text, after)
  else none

end Manuscript.Markdown
