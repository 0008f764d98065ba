import Manuscript.Markdown.Container
import Manuscript.Markdown.HtmlBlock
import Manuscript.Markdown.Table

/-!
# Outlines

A source is read line by line. Each line first goes through the containers that are open and those that
it begins; what is left of it goes on with the block that is open or begins another. A paragraph may go
on in a line that lacks the marks of its containers. Tags and expressions on lines of their own may go on
over several lines, and only in the end it may turn out that they are text: then their lines are read
again.

## Main definitions

* `Markdown.LineForm` — what a line is within its containers
* `Markdown.OpenBlock` — the block that is open
* `Markdown.Outline` — a source in the middle of being read
* `Markdown.outlineOf` — the drafts of a source with its texts unread
-/

namespace Manuscript.Markdown

open Manuscript.Text.Unicode (toLower)

/-! ### Open blocks -/

/-- What is left of a line within its containers. -/
structure InnerLine where
  /-- Its characters. -/
  glyphs : List Glyph
  /-- What ends it. -/
  ending : List Glyph
  /-- Where it begins. -/
  start : SourceLocation
  /-- Where it ends. -/
  stop : SourceLocation
  /-- What stands before it in its line, such as what containers have taken up. -/
  marks : List Char := []
  deriving Repr, Inhabited

/-- The block that is open. -/
inductive OpenBlock where
  /-- None. -/
  | none
  /-- Lines of text, the last one first. -/
  | text (last : InnerLine) (earlier : List InnerLine)
  /-- Code or mathematics behind a fence. -/
  | fenced (fence : Fence) (body : String)
  /-- Indented code, with blank lines that belong to it only if more code follows. -/
  | indented (body waiting : String) (blanks : Nat)
  /-- HTML. -/
  | html (kind : HtmlBlock) (body : String)
  /-- A table with its rows, the last one first. -/
  | table (alignment : List Alignment) (rows : List Draft) (start stop : SourceLocation)
  /-- Import and export statements. -/
  | statements (body : String)
  /-- Tags and expressions that are not complete, with their lines, the last one first, and the block
  that goes on if they turn out to be text. -/
  | markup (last : InnerLine) (earlier : List InnerLine) (before : OpenBlock)
  deriving Repr, Inhabited

namespace OpenBlock

/-- Whether a block is text. -/
def isText : OpenBlock → Bool
  | .text _ _ => true
  | _ => false

/-- Whether no container may begin within a block. -/
def isOpaque : OpenBlock → Bool
  | .fenced _ _ | .html _ _ | .statements _ | .markup _ _ _ => true
  | _ => false

end OpenBlock

/-- A source in the middle of being read. -/
structure Outline where
  /-- The containers that are open, the innermost first. -/
  containers : List Container := []
  /-- What the document holds outside of them, the last entry first. -/
  entries : List Entry := []
  /-- The block that is open. -/
  block : OpenBlock := .none
  /-- Whether the last line was text, which may go on without the marks of its containers. -/
  afterText : Bool := false
  /-- Whether the last line underlined a heading. -/
  afterUnderline : Bool := false
  /-- Whether a line would interrupt a text. Tags and expressions on lines of their own do not end what
  may be interrupted. -/
  interrupting : Bool := false
  /-- Whether the last line was blank; it counts for the containers that the next line leaves open. -/
  afterBlank : Bool := false
  /-- What ended the last line. -/
  lastEnding : List Glyph := []
  /-- Where the characters of the last line ended. -/
  lastStop : SourceLocation := {}
  /-- Whether lines are held to be front matter that does not end, so that no container begins in
  them. -/
  isFlat : Bool := false
  deriving Repr, Inhabited

namespace Outline

/-- Adds an entry to the innermost container. -/
def add (s : Outline) (e : Entry) : Outline :=
  match s.containers with
  | c :: outer => { s with containers := c.add e :: outer }
  | [] => { s with entries := e :: s.entries }

/-- Adds a part to the innermost container. -/
def addPart (s : Outline) (d : Draft) : Outline := s.add (.part d)

/-- Adds a part that holds no others to the innermost container. -/
def addLeaf (s : Outline) (l : Leaf) : Outline := s.addPart (.leaf l)

/-- Counts a blank line. In a quotation it is the quotation's own; otherwise it is left open to which
container it belongs until the next line shows which of them go on. -/
def noteBlank (s : Outline) : Outline :=
  match s.containers with
  | ⟨.quotation, _, _⟩ :: _ => s.add .blank
  | _ => { s with afterBlank := true }

/-- Takes the last `count` entries, which are blank lines, out of the innermost container. -/
def dropEntries (s : Outline) (count : Nat) : Outline :=
  match s.containers with
  | c :: outer => { s with containers := { c with entries := c.entries.drop count } :: outer }
  | [] => { s with entries := s.entries.drop count }

end Outline

/-! ### Forms of lines -/

/-- What a line is within its containers. -/
inductive LineForm where
  /-- A blank line. -/
  | blank
  /-- Indented code. -/
  | code
  /-- A heading. -/
  | heading (depth : Nat) (text : List Glyph)
  /-- The underline of a heading. -/
  | underline (depth : Nat)
  /-- A thematic break. -/
  | thematicBreak
  /-- A fence. -/
  | fence (fence : Fence)
  /-- The beginning of HTML, and whether it ends in the same line. -/
  | html (kind : HtmlBlock) (ended : Bool)
  /-- The beginning of statements. -/
  | statements
  /-- The beginning of tags and expressions. -/
  | markup
  /-- A row of a table. -/
  | row
  /-- Text. -/
  | text
  deriving Repr, Inhabited

/-- What a line is within its containers. Neither code, statements nor HTML of other kinds than usual
may interrupt a text; a line without the marks of its containers (`isLazy`) is no underline and no row,
but HTML of all kinds. -/
def formOf (d : Dialect) (s : Outline) (isLazy : Bool) (gs : List Glyph) : LineForm :=
  let indent := indentOf gs
  let line := dropBlanks gs
  let first := line.head?.map Glyph.char
  let orText (form : Option LineForm) : LineForm :=
    match form with
    | some form => form
    | none =>
      match s.block with
      | .table _ _ _ _ => if isLazy || beginsNoRow gs then .text else .row
      | _ => .text
  let underlined := if (s.block.isText || s.afterUnderline) && !isLazy then underline? line else none
  let broken := if isThematicBreak line then some LineForm.thematicBreak else none
  if line.isEmpty then .blank
  else if 4 ≤ indent && d.indentedCode && !s.interrupting then .code
  else if !(d.allowsIndent indent) then .text
  else
    match first with
    | some '#' => orText ((heading? line).map fun (depth, text) => .heading depth text)
    | some '\x60' | some '~' | some '$' => orText ((fence? d (gs.takeWhile Glyph.isBlank) line).map .fence)
    | some '=' => orText (underlined.map .underline)
    | some '-' => orText ((underlined.map .underline).or broken)
    | some '*' | some '_' => orText broken
    | some '<' =>
      if d.mdx then .markup
      else if d.html then
        orText ((htmlBlock? (!s.interrupting || isLazy) line).map fun (kind, rest) =>
          .html kind (kind.endsIn rest))
      else orText none
    | some '\x7b' => if d.mdx then .markup else orText none
    | some 'i' | some 'e' =>
      orText (if d.mdx && !s.interrupting && beginsStatements gs then some .statements else none)
    | _ => orText none

/-! ### Tags and expressions -/

/-- Reads the tags and expressions that make up lines of their own, at most `count`. A tag may be
followed by tags and expressions, and an expression by tags. -/
def markupParts (afterTag : Bool) : (count : Nat) → Reader (List Draft)
  | 0 => throw .refused
  | count + 1 => do
    modify dropBlanks
    match ← Reader.peek with
    | none => return []
    | some g =>
      if g.char = '<' then
        let t ← Reader.tag g.place
        return .tag t true :: (← markupParts true count)
      else if g.char = '\x7b' && afterTag then
        let source ← Reader.expression
        return .leaf (.flowExpression source) :: (← markupParts false count)
      else throw .refused

/-- What ends a line, with what containers take up of the next one. -/
def endingBefore (marks : List Char) : List Glyph → List Glyph
  | [] => []
  | [g] => [{ g with behind := marks }]
  | g :: rest => g :: endingBefore marks rest

/-- The characters of lines, joined by their endings. -/
def joinLines : List InnerLine → List Glyph
  | [] => []
  | [l] => l.glyphs
  | l :: m :: rest => l.glyphs ++ endingBefore m.marks l.ending ++ joinLines (m :: rest)

/-- The tags and expressions of lines. -/
def readMarkup (lines : List InnerLine) : Except Halt (List Draft) :=
  let gs := joinLines lines
  ((markupParts true (gs.length + 1)).run gs).map (·.1)

/-! ### Ending blocks -/

/-- A text of code without a line ending at its start or end. -/
def trimEndings (start : Bool) (text : String) : String :=
  let dropOne (crFirst : Bool) (cs : List Char) : List Char :=
    let (a, b) := if crFirst then ('\r', '\n') else ('\n', '\r')
    match cs with
    | c :: rest =>
      if c = a then (if rest.head? = some b then rest.drop 1 else rest)
      else if c = b then rest
      else cs
    | [] => []
  let cs := if start then dropOne true text.toList else text.toList
  String.ofList (dropOne false cs.reverse).reverse

/-- The leaf of a definition. -/
def LinkDefinition.leaf (d : LinkDefinition) : Leaf :=
  .definition d.identifier (some d.label) d.target

/-- A text that lines make up, with where it begins and what stands before it. -/
def textBlock (name : PartName) (kind : Branch) (before : Option Char) (gs : List Glyph)
    (textStop stop : SourceLocation) : Draft :=
  .branch name kind ((gs.head?.map Glyph.place).getD stop) stop
    [.unread ⟨gs, textStop, before, none⟩ .line]

/-- Ends lines of text: definitions come first, and the rest is a paragraph, or a heading if a line
underlines it. If there is no rest, the underline is text itself. -/
def Outline.endText (s : Outline) (last : InnerLine) (earlier : List InnerLine)
    (underline : Option (Nat × InnerLine)) : Outline :=
  let lines := (last :: earlier).reverse
  let gs := joinLines lines
  let (definitions, rest) := takeDefinitions gs.length gs
  let before := ((gs.take (gs.length - rest.length)).getLast?.map Glyph.last).or
    (lines.head?.bind (·.marks.getLast?))
  let s := definitions.foldl (fun s d => s.addLeaf d.leaf) { s with block := .none }
  match underline with
  | none =>
    if rest.isEmpty then s
    else s.addPart (textBlock .paragraph .paragraph before rest last.stop last.stop)
  | some (depth, line) =>
    if rest.isEmpty then { s with block := .text line [] }
    else s.addPart (textBlock .underlinedHeading (.heading depth) before rest last.stop line.stop)

/-- The row of a table. -/
def rowDraft (l : InnerLine) : Draft :=
  let before := ((l.glyphs.takeWhile Glyph.isBlank).getLast?.map Glyph.char).or l.marks.getLast?
  let line := dropBlanks l.glyphs
  .branch .row .tableRow ((line.head?.map Glyph.place).getD l.stop) l.stop
    ((cellsOf before l.stop line).map fun c =>
      .branch .cell .tableCell c.start c.stop [.unread c.text .line])

/-- Ends the open block, other than tags and expressions that are not complete. -/
def Outline.endBlock (s : Outline) : Outline :=
  let s' := { s with block := .none }
  match s.block with
  | .none | .markup _ _ _ => s'
  | .text last earlier => s.endText last earlier none
  | .fenced f body =>
    let value := trimEndings true body
    s'.addLeaf (if f.mark = '$' then .math value f.info else .code value f.language f.info)
  | .indented body _ _ => s'.addLeaf (.code (trimEndings false body) none none)
  | .html _ body => s'.addLeaf (.html body)
  | .table alignment rows start stop =>
    s'.addPart (.branch .table (.table alignment) start stop rows.reverse)
  | .statements body => s'.addLeaf (.esm body)

/-! ### Taking up lines -/

/-- What becomes of a line. -/
inductive Taken where
  /-- It has been taken up. -/
  | done (s : Outline)
  /-- The lines of tags and expressions up to this one, in order, turn out to be text. -/
  | refused (s : Outline) (first : InnerLine) (others : List InnerLine)

/-- Takes up a line of text. -/
def Outline.takeText (s : Outline) (l : InnerLine) : Outline :=
  match s.block with
  | .text last earlier =>
    { s with block := .text l (last :: earlier), afterText := true, interrupting := true }
  | _ => { s.endBlock with block := .text l [], afterText := true, interrupting := true }

/-- Takes up a line that begins nothing of its own: a row within a table, or text. -/
def Outline.takeRest (s : Outline) (l : InnerLine) : Outline :=
  match s.block with
  | .table alignment rows start _ =>
    if beginsNoRow l.glyphs then s.takeText l
    else { s with block := .table alignment (rowDraft l :: rows) start l.stop }
  | _ => s.takeText l

/-- Takes up lines of tags and expressions, the last one first. The block before them goes on if they
turn out to be text. -/
def Outline.takeMarkup (s : Outline) (last : InnerLine) (earlier : List InnerLine)
    (before : OpenBlock) : Except Fault Taken :=
  let lines := (last :: earlier).reverse
  match readMarkup lines with
  | .ok parts => .ok (.done (parts.foldl Outline.addPart { s with block := before }.endBlock))
  | .error (.exhausted _ _) => .ok (.done { s with block := .markup last earlier before })
  | .error (.fault f) => .error f
  | .error .refused =>
    .ok (.refused { s with block := before } (lines.head?.getD last) (lines.drop 1))

/-- Takes up a line that begins a block, of which the form is known. -/
def Outline.beginBlock (s : Outline) (l : InnerLine) (form : LineForm) : Except Fault Taken :=
  let done (s : Outline) : Except Fault Taken := .ok (.done { s with interrupting := false })
  match form with
  | .blank => done (if l.ending.isEmpty then s.endBlock else s.endBlock.noteBlank)
  | .code =>
    done { s.endBlock with block := .indented (wholeText (dropColumns 4 l.glyphs)) "" 0 }
  | .heading depth text =>
    let stop := (text.getLast?.map placeBehind).getD l.stop
    done (s.endBlock.addPart
      (.branch .heading (.heading depth) l.start l.stop [.unread ⟨text, stop, none, none⟩ .line]))
  | .underline depth =>
    let s := match s.block with
      | .text last earlier => s.endText last earlier (some (depth, l))
      | _ => { s.endBlock with block := .text l [] }
    done { s with afterText := true, afterUnderline := true }
  | .thematicBreak => done (s.endBlock.addLeaf .thematicBreak)
  | .fence f => done { s.endBlock with block := .fenced f "" }
  | .html kind ended =>
    let s := { s.endBlock with block := .html kind (wholeText l.glyphs) }
    done (if ended then s.endBlock else s)
  | .statements => done { s.endBlock with block := .statements (textOf l.glyphs) }
  | .markup => s.takeMarkup l [] s.block
  | .row | .text => .ok (.done (s.takeRest l))

/-- The table that a line begins together with the last line of a text. -/
def Outline.beginTable? (d : Dialect) (s : Outline) (l : InnerLine) : Option Outline :=
  match s.block with
  | .text head earlier =>
    let fits (gs : List Glyph) : Bool := d.allowsIndent (indentOf gs)
    if !d.gfm || !fits l.glyphs || !fits head.glyphs then none
    else
      match delimiterRow? l.glyphs with
      | none => none
      | some alignment =>
        if !isTableHead alignment.length head.glyphs then none
        else
          let s := match earlier with
            | last :: earlier => s.endText last earlier none
            | [] => { s with block := .none }
          some { s with
            block := .table alignment [rowDraft head] head.start l.stop
            interrupting := false }
  | _ => none

/-- Takes up a line that goes on with the open block, or else begins another. -/
def Outline.takeLine (d : Dialect) (s : Outline) (isLazy : Bool) (l : InnerLine) :
    Except Fault Taken :=
  let cleared := { s with afterText := false, afterUnderline := false, afterBlank := false }
  let done (s : Outline) : Except Fault Taken := .ok (.done s)
  let joined (body : String) : String := body ++ textOf s.lastEnding
  let begin_ (_ : Unit) : Except Fault Taken :=
    cleared.beginBlock l (formOf d s isLazy l.glyphs)
  match s.block with
  | .fenced f body =>
    if d.allowsIndent (indentOf l.glyphs) && f.closedBy (dropBlanks l.glyphs) then
      done { cleared with block := .fenced f (joined body) }.endBlock
    else
      done { cleared with
        block := .fenced f (joined body ++ wholeText (dropColumns f.indent l.glyphs)) }
  | .html kind body =>
    if kind = .blankLine && isBlankLine l.glyphs then begin_ ()
    else
      let s := { cleared with block := .html kind (joined body ++ wholeText l.glyphs) }
      done (if kind.endsIn l.glyphs then s.endBlock else s)
  | .statements body =>
    if isBlankLine l.glyphs then begin_ ()
    else done { cleared with block := .statements (joined body ++ textOf l.glyphs) }
  | .indented body waiting blanks =>
    if 4 ≤ indentOf l.glyphs then
      let more := joined waiting ++ wholeText (dropColumns 4 l.glyphs)
      done { cleared.dropEntries blanks with block := .indented (body ++ more) "" 0 }
    else if isBlankLine l.glyphs then
      let s (blanks : Nat) := { cleared with block := .indented body (joined waiting) blanks }
      done (if l.ending.isEmpty then s blanks else (s (blanks + 1)).noteBlank)
    else begin_ ()
  | .markup last earlier before => cleared.takeMarkup l (last :: earlier) before
  | _ =>
    match if isLazy then none else cleared.beginTable? d l with
    | some s => done s
    | none => begin_ ()

/-- Takes up lines in order, which bear all marks of their containers unless `isLazy`. Lines that turn
out to be no tags and expressions are read again, the first of them as text. Stops after `count` steps,
which is never reached if it is the square of the number of lines. -/
def Outline.takeLines (d : Dialect) (isLazy : Bool) :
    (count : Nat) → Outline → List InnerLine → Except Fault Outline
  | 0, s, _ => .ok s
  | _, s, [] => .ok s
  | count + 1, s, l :: rest => do
    match ← s.takeLine d isLazy l with
    | .done s => takeLines d isLazy count { s with lastEnding := l.ending, lastStop := l.stop } rest
    | .refused s first others =>
      let s := { s.takeRest first with lastEnding := first.ending, lastStop := first.stop }
      takeLines d isLazy count s (others ++ rest)

/-- How many steps it takes to take up lines. -/
def stepsFor (lines : Nat) : Nat := (lines + 2) * (lines + 2)

/-- Ends tags and expressions that are not complete, where no more text comes at `place`: either they
are at fault or they are text. -/
def Outline.endMarkup (d : Dialect) (place : SourceLocation) :
    (count : Nat) → Outline → Except Fault Outline
  | 0, s => .ok s
  | count + 1, s =>
    match s.block with
    | .markup last earlier before =>
      let lines := (last :: earlier).reverse
      match readMarkup lines with
      | .error (.exhausted problem true) => .error ⟨problem, place, none⟩
      | _ => do
        let first := lines.head?.getD last
        let s := { s with block := before }.takeRest first
        let s ← takeLines d false (stepsFor lines.length)
          { s with lastEnding := first.ending, lastStop := first.stop } (lines.drop 1)
        endMarkup d place count s
    | _ => .ok s

/-- How many lines an open block waits with. -/
def OpenBlock.waiting : OpenBlock → Nat
  | .markup _ earlier _ => earlier.length + 1
  | _ => 0

/-! ### Containers -/

/-- Ends containers, given the innermost first, until `kept` are left. -/
def Outline.endContainers (d : Dialect) (stop : SourceLocation) (kept : Nat) :
    List Container → Outline → Outline
  | [], s => { s with containers := [] }
  | c :: outer, s =>
    if (c :: outer).length ≤ kept then { s with containers := c :: outer }
    else
      match outer with
      | [] => { s with containers := [], entries := c.toEntry d stop :: s.entries }
      | o :: more => endContainers d stop kept (o.add (c.toEntry d stop) :: more) s
termination_by containers => containers.length

/-- Ends the open block and the containers within the outermost `kept`. The next line, or the end,
begins at `place`. -/
def Outline.leave (d : Dialect) (place stop : SourceLocation) (kept : Nat) (s : Outline) :
    Except Fault Outline := do
  let s ← s.endMarkup d place (s.block.waiting + 1)
  let s := { s.endBlock with afterUnderline := false }
  return s.endContainers d stop kept s.containers

/-- Counts the blank line before this one for the innermost container that is left. -/
def Outline.placeBlank (s : Outline) : Outline :=
  if s.afterBlank then { s.add .blank with afterBlank := false } else s

/-- Whether a line that lacks the marks of its containers goes on with the text in them. -/
def Outline.goesOn (d : Dialect) (s : Outline) (l : InnerLine) : Bool :=
  match formOf d s true l.glyphs, readMarkup [l] with
  | .text, _ | .markup, .error .refused => s.afterText
  | _, _ => false

/-- Whether no container may begin in a line of which the first `kept` containers go on: within some
blocks, and in lines that are held to be front matter that does not end. -/
def Outline.isClosedTo (s : Outline) (kept : Nat) : Bool :=
  (kept = s.containers.length && s.block.isOpaque) || s.isFlat

/-- Takes up one more line of a source. -/
def Outline.takeSourceLine (d : Dialect) (s : Outline) (line : Line) : Except Fault Outline := do
  let begins (gs : List Glyph) : SourceLocation := (gs.head?.map Glyph.place).getD line.stop
  let inner (gs : List Glyph) : InnerLine :=
    ⟨gs, line.ending, begins gs, line.stop,
      line.lead ++ (line.glyphs.take (line.glyphs.length - gs.length)).map Glyph.char⟩
  let open_ := s.containers.length
  let (kept, containers, rest) := continueAll d s.containers.reverse line.glyphs
  let s := { s with containers := containers.reverse }
  let all := kept = open_
  let interrupting := all && s.interrupting
  let (begun, inside) :=
    if s.isClosedTo kept then ([], rest)
    else openContainers d interrupting (rest.length + 1) rest
  if !begun.isEmpty then
    let s := (← s.leave d (begins line.glyphs) s.lastStop kept).placeBlank
    let s := { s with
      containers := begun.reverse ++ s.containers, afterUnderline := false, interrupting }
    let s ← s.takeLines d false (stepsFor 1) [inner inside]
    -- the line is not blank if it holds the mark of an item
    if (begun.getLast?.any Container.isBareItem) then return { s with afterBlank := false }
    else return s
  else if all then
    s.placeBlank.takeLines d false (stepsFor (s.block.waiting + 1)) [inner rest]
  else
    match s.block with
    | .markup last earlier _ =>
      let problem := match readMarkup (last :: earlier).reverse with
        | .error (.exhausted .openExpression _) => Problem.lazyExpression
        | _ => .lazyTag
      throw ⟨problem, begins rest, none⟩
    | _ =>
      if s.goesOn d (inner rest) then
        return { s.takeText (inner rest) with
          afterUnderline := false, lastEnding := line.ending, lastStop := line.stop }
      else
        let s := (← s.leave d (begins line.glyphs) s.lastStop kept).placeBlank
        return { ← s.takeLines d true (stepsFor 1) [inner rest] with interrupting := false }

/-! ### Sources -/

/-- Whether a line is a fence of front matter: three marks. -/
def isFrontFence (mark : Char) (l : Line) : Bool :=
  (dropBlanksRight l.glyphs).map Glyph.char = [mark, mark, mark]

/-- The mark of the front matter that lines begin, whether it ends or not. -/
def frontMark? (lines : List Line) : Option Char :=
  match lines with
  | [] => none
  | first :: _ => ['-', '+'].find? (isFrontFence · first)

/-- The front matter with a given mark at the start of lines, and the lines after it. It stands between
two fences of the same mark. -/
def frontMatter? (mark : Char) (lines : List Line) : Option (Leaf × List Line) :=
  let rest := lines.drop 1
  let body := rest.takeWhile (!isFrontFence mark ·)
  if body.length = rest.length then none
  else
    let text := body.foldl (fun text l => text ++ textOf l.glyphs ++ textOf l.ending) ""
    let value := trimEndings false text
    some (if mark = '-' then .yaml value else .toml value, rest.drop (body.length + 1))

/-- Takes up the lines of a source one after another. -/
def Outline.takeSource (d : Dialect) : Outline → List Line → Except Fault Outline
  | s, [] => .ok s
  | s, line :: rest => do takeSource d (← s.takeSourceLine d line) rest

/-- The drafts of a source with its texts unread, and where the source ends. If front matter begins that
does not end, no container begins before the last line. -/
def outlineOf (d : Dialect) (source : String) : Except Fault (List Draft × SourceLocation) := do
  let lines := linesOf source
  let stop := (lines.getLast?.map Line.stop).getD {}
  let mark := if d.frontMatter then frontMark? lines else none
  let (front, flat, lines) := match mark, mark.bind (frontMatter? · lines) with
    | _, some (block, rest) => ([Draft.leaf block], [], rest)
    | some _, none => ([], lines.dropLast, lines.drop (lines.length - 1))
    | none, none => ([], [], lines)
  let s ← Outline.takeSource d { isFlat := true } flat
  let s ← Outline.takeSource d { s with isFlat := false } lines
  let s ← s.leave d stop stop 0
  return (front ++ Entry.drafts s.entries, stop)

end Manuscript.Markdown
