import Manuscript.Markdown.Dialect
import Manuscript.Markdown.Emphasis
import Manuscript.Markdown.Label
import Manuscript.Markdown.Span

/-!
# Reading text

The text of a paragraph, a heading or a cell is read from left to right and cut into pieces. A bracket
may open a label; the bracket that closes it makes a link, an image or a mark of a footnote if an address
or a definition goes with the label, and else both brackets are text. A link holds no other link: when one
is found, the labels still open around it can be no links any more.

## Main definitions

* `Markdown.TextContext` — what the reading of a text depends on
* `Markdown.readText` — the drafts of a text
-/

namespace Manuscript.Markdown

open Manuscript.Text.Unicode (isAsciiPunctuation toLower)

/-- What the reading of a text depends on. -/
structure TextContext where
  /-- The dialect. -/
  dialect : Dialect
  /-- What the labels of definitions refer to. -/
  definitions : List String
  /-- What the labels of footnotes refer to. -/
  footnotes : List String
  /-- Whether the text is in a table. -/
  inTable : Bool := false

/-- What a bracket opens. -/
inductive LabelKind where
  /-- The text of a link. -/
  | link
  /-- The description of an image. -/
  | image
  /-- The mark of a footnote. -/
  | footnote
  deriving DecidableEq, Repr

/-- A label that is open. -/
structure OpenLabel where
  /-- What it is. -/
  kind : LabelKind
  /-- Whether it can be no link any more. -/
  inactive : Bool := false
  /-- The marks that open it. -/
  marks : List Glyph
  /-- The text behind the marks. -/
  text : List Glyph
  /-- The pieces before it, the last one first. -/
  before : List Piece

/-- A text in the middle of being read. -/
structure TextState where
  /-- The labels that are open, the innermost first. -/
  labels : List OpenLabel := []
  /-- The pieces since the innermost label was opened, the last one first. -/
  pieces : List Piece := []
  /-- The character before. -/
  previous : Option Char := none

namespace TextState

/-- Adds a piece that takes up given characters. -/
def push (s : TextState) (p : Piece) (used : List Glyph) : TextState :=
  { s with pieces := p :: s.pieces, previous := (used.getLast?.map Glyph.last).or s.previous }

/-- Opens a label. -/
def openLabel (s : TextState) (kind : LabelKind) (marks text : List Glyph) : TextState :=
  { labels := ⟨kind, false, marks, text, s.pieces⟩ :: s.labels
    pieces := []
    previous := marks.getLast?.map Glyph.last }

/-- Gives up a label, so that its marks are text. -/
def giveUp (s : TextState) (l : OpenLabel) (outer : List OpenLabel) : TextState :=
  { s with labels := outer, pieces := s.pieces ++ .plain l.marks :: l.before }

/-- All pieces in the end, with the labels given up that are still open. -/
def allPieces (s : TextState) : List Piece :=
  (s.labels.foldl (fun pieces l => pieces ++ .plain l.marks :: l.before) s.pieces).reverse

end TextState

/-! ### Labels -/

/-- A reference by a label. -/
def referenceOf (label : List Glyph) (kind : ReferenceKind) : Reference :=
  ⟨identifierOf label, some (textOf label), kind⟩

/-- A link or an image to an address. -/
def mediaTo (isImage : Bool) (target : Target) : Media :=
  if isImage then .image target else .link target

/-- A link or an image by a label. -/
def mediaBy (isImage : Bool) (label : List Glyph) (kind : ReferenceKind) : Media :=
  if isImage then .imageReference (referenceOf label kind) else .linkReference (referenceOf label kind)

/-- The link or the image that a label makes with what follows its closing bracket, and the text after
it. A label behind which another bracket opens does not stand alone. -/
def mediaOf (ctx : TextContext) (isImage : Bool) (label rest : List Glyph) :
    Option (Media × List Glyph) :=
  let isDefined (label : List Glyph) : Bool := ctx.definitions.contains (identifierOf label)
  let alone := if isDefined label then some (mediaBy isImage label .shortcut, rest) else none
  if startsWith '(' rest then
    match takeResource rest with
    | some (target, after) => some (mediaTo isImage target, after)
    | none => alone
  else if startsWith '[' rest then
    match (takeLabel rest).filter fun (other, _) => isDefined other with
    | some (other, after) => some (mediaBy isImage other .full, after)
    | none =>
      if isDefined label && startsWith ']' (rest.drop 1) then
        some (mediaBy isImage label .collapsed, rest.drop 2)
      else none
  else alone

/-- The state after a link or a footnote: the labels around it can be no links any more. -/
def deactivate (labels : List OpenLabel) : List OpenLabel :=
  labels.map fun l => if l.kind = .image then l else { l with inactive := true }

/-- Closes the innermost label with a bracket; gives the text after what it makes. -/
def closeLabel (ctx : TextContext) (s : TextState) (bracket : Glyph) (rest : List Glyph) :
    TextState × List Glyph :=
  match s.labels with
  | [] => (s.push (.plain [bracket]) [bracket], rest)
  | l :: outer =>
    let failed := ((s.giveUp l outer).push (.plain [bracket]) [bracket], rest)
    let label := l.text.take (l.text.length - (rest.length + 1))
    let finish (p : Piece) (kind : LabelKind) (after : List Glyph) : TextState × List Glyph :=
      let used := bracket :: rest.take (rest.length - after.length)
      ({ labels := if kind = .image then outer else deactivate outer
         pieces := p :: l.before
         previous := used.getLast?.map Glyph.last }, after)
    if l.inactive then failed
    else if l.kind = .footnote && ctx.footnotes.contains (identifierOf label) then
      let mark := Leaf.footnoteReference (identifierOf label) (some (textOf label))
      finish (.done (.leaf mark)) .footnote rest
    else
      let isImage := l.kind = .image
      -- a mark of a footnote that is not defined is the text of a link
      let isMark := l.kind = .footnote
      match mediaOf ctx isImage (if isMark then l.marks.drop 1 ++ label else label) rest with
      | none => failed
      | some (media, after) =>
        let mark := if isMark then [Piece.plain (l.marks.drop 1)] else []
        let mails := isImage && ctx.dialect.gfm
        let content := Piece.toDrafts mails false false (mark ++ s.pieces.reverse)
        finish (.done (.media media content)) (if isImage then .image else .link) after

/-! ### Other pieces -/

/-- The pieces that a character can begin, other than labels: one piece with the text after it. Nothing
begins if the character is text. -/
def takePiece (ctx : TextContext) (text : Fragment) (previous : Option Char) (g : Glyph)
    (rest : List Glyph) : Except Fault (Option (Piece × List Glyph)) :=
  let d := ctx.dialect
  let given (r : Option (Piece × List Glyph)) : Except Fault (Option (Piece × List Glyph)) := .ok r
  let leaf (l : Leaf) : Piece := .done (.leaf l)
  let link (text url : String) : Piece := .done (.media (.link ⟨url, none⟩) [.leaf (.text text)])
  let bounded := text.after.any (!Text.isBlank ·)
  /- A reader that needs more text fails at the end of the text. -/
  let settle (r : Except Halt (Piece × List Glyph)) : Except Fault (Option (Piece × List Glyph)) :=
    match r with
    | .ok r => .ok (some r)
    | .error .refused => .ok none
    | .error (.exhausted problem serious) =>
      if serious || bounded then .error ⟨problem, text.stop, none⟩ else .ok none
    | .error (.fault f) => .error f
  match g.char with
  | '\\' =>
    match rest with
    | h :: more =>
      if isAsciiPunctuation h.char then given (some (.literal h.char.toString, more))
      else if h.isEnding then given (some (.hardBreak, rest))
      else given none
    | [] => given none
  | '&' =>
    given ((reference? textOfName? ((rest.take 40).map Glyph.char)).map fun (text, n) =>
      (.literal (String.ofList text), rest.drop n))
  | '\x60' =>
    given ((fencedSpan? '\x60' (g :: rest)).map fun (body, after) =>
      (leaf (.inlineCode (cellText (spanText body))), after))
  | '$' =>
    if !d.math then given none
    else given ((fencedSpan? '$' (g :: rest)).map fun (body, after) =>
      (leaf (.inlineMath (cellText (spanText body))), after))
  | '<' =>
    match autolink? (g :: rest) with
    | some (text, url, after) => given (some (link text url, after))
    | none =>
      if d.html then
        given ((htmlSpan? (g :: rest)).map fun (body, after) =>
          (leaf (.html (textOf (dropLineIndents false body))), after))
      else if d.mdx then
        settle (((Reader.tag g.place).run (g :: rest)).map fun (t, after) =>
          (.done (.tag t false), after))
      else given none
  | '\x7b' =>
    if d.mdx then
      settle ((Reader.expression.run (g :: rest)).map fun (source, after) =>
        (leaf (.textExpression source), after))
    else given none
  | 'h' | 'H' =>
    if !d.gfm then given none
    else given ((webAddress? bounded previous (g :: rest)).map fun (text, after) =>
      (link text text, after))
  | 'w' | 'W' =>
    if !d.gfm then given none
    else given ((wwwAddress? bounded previous (g :: rest)).map fun (text, after) =>
      (link text ("http://" ++ text), after))
  | _ => given none
where
  /-- The text of a span, in which a table has its bars escaped. -/
  cellText (text : String) : String :=
    if ctx.inTable then text.replace "\\|" "|" else text

/-- The marks of emphasis and deletion in a dialect. -/
def Dialect.emphasisMarks (d : Dialect) : List Char := if d.gfm then ['*', '_', '~'] else ['*', '_']

/-- Whether a character may begin something else than text. -/
def isTextMark (g : Glyph) : Bool :=
  g.isEnding || ("\\&\x60$<\x7b!*_~[]hHwW".toList.contains g.char)

/-- The state after the next piece of a text, and the text that is left. -/
def textStep (ctx : TextContext) (text : Fragment) (s : TextState) (g : Glyph)
    (rest : List Glyph) : Except Fault (TextState × List Glyph) := do
  let d := ctx.dialect
  let all := g :: rest
  if g.isEnding then
    let after := dropEnding all
    let used := all.take (all.length - after.length)
    return (s.push (.ending used) used, after)
  else if d.emphasisMarks.contains g.char then
    let used := all.takeWhile (·.char = g.char)
    let after := rest.dropWhile (·.char = g.char)
    let run := Run.between d.emphasisMarks (s.previous.or text.before)
      ((after.head?.map Glyph.char).or text.after) g.char used
    return (s.push (.run run) used, after)
  else if g.char = '!' && startsWith '[' rest && !(d.gfm && startsWith '^' (rest.drop 1)) then
    return (s.openLabel .image (all.take 2) (all.drop 2), all.drop 2)
  else if g.char = '[' then
    if d.gfm && startsWith '^' rest then
      return (s.openLabel .footnote (all.take 2) (all.drop 2), all.drop 2)
    else return (s.openLabel .link [g] rest, rest)
  else if g.char = ']' then return closeLabel ctx s g rest
  else
    match ← takePiece ctx text s.previous g rest with
    | some (p, after) => return (s.push p (all.take (all.length - after.length)), after)
    | none =>
      -- a run of marks that opens no span is text as a whole
      let used := if g.char = '\x60' || g.char = '$' then all.takeWhile (·.char = g.char)
        else g :: rest.takeWhile (!isTextMark ·)
      return (s.push (.plain used) used, all.drop used.length)

/-- The state in the end, after at most `count` pieces. -/
def textPieces (ctx : TextContext) (text : Fragment) :
    (count : Nat) → TextState → List Glyph → Except Fault TextState
  | 0, s, _ => .ok s
  | _, s, [] => .ok s
  | count + 1, s, g :: rest => do
    let (s, rest) ← textStep ctx text s g rest
    textPieces ctx text count s rest

/-- Drafts without the space or the line ending at the start of the text that they begin with. -/
def dropFirstSpace : List Draft → List Draft
  | .leaf (.text value) :: rest =>
    let cs := match value.toList with
      | '\r' :: '\n' :: cs => cs
      | c :: cs => if isLabelSpace c then cs else c :: cs
      | [] => []
    if cs.isEmpty then rest else .leaf (.text (String.ofList cs)) :: rest
  | drafts => drafts

/-- The drafts of a text. -/
def readText (ctx : TextContext) (start : TextStart) (text : Fragment) :
    Except Fault (List Draft) := do
  let s ← textPieces ctx text text.glyphs.length {} text.glyphs
  let drafts := Piece.toDrafts ctx.dialect.gfm (start = .line) true s.allPieces
  return if start = .firstBox then dropFirstSpace drafts else drafts

end Manuscript.Markdown
