import Manuscript.Markdown.Draft
import Manuscript.Markdown.Label
import Manuscript.Markdown.LineForm

/-!
# Containers of blocks

Quotations, items of lists and footnotes hold blocks. A container goes on in a line if the line bears its
mark: an angle bracket, or enough blanks. Items that follow each other and have the same mark make a list.

An item is spread if there is a blank line directly in it, and a list if there is one between its items;
a blank line between the items of a list is not directly in the item around the list.

## Main definitions

* `Markdown.Container` — a container that is open
* `Container.continue?` — whether it goes on in a line
* `Markdown.openContainers` — the containers that a line begins
* `Entry.drafts` — the drafts of what a container holds
-/

namespace Manuscript.Markdown

open Manuscript.Text.Unicode (toLower)

/-- The kinds of containers. -/
inductive ContainerKind where
  /-- A quotation. -/
  | quotation
  /-- An item of a list. -/
  | item (mark : ItemMark)
  /-- A footnote. -/
  | footnote (label : String)
  deriving DecidableEq, Repr, Inhabited

/-- What a container holds. -/
inductive Entry where
  /-- A part of its own. -/
  | part (draft : Draft)
  /-- An item, which belongs to a list. -/
  | item (mark : Char) (number : Option Nat) (start stop : SourceLocation) (draft : Draft)
  /-- A blank line. -/
  | blank
  deriving Repr, Inhabited

/-- A container that is open. -/
structure Container where
  /-- What it is. -/
  kind : ContainerKind
  /-- Where it begins. -/
  start : SourceLocation
  /-- What it holds, the last entry first. -/
  entries : List Entry := []
  deriving Repr, Inhabited

/-! ### Going on -/

/-- A line without blanks of exactly `columns` columns, or without up to as many if it is blank. -/
def dropIndent (columns : Nat) (gs : List Glyph) : Option (List Glyph) :=
  if isBlankLine gs || columns ≤ indentOf gs then some (dropColumns columns gs) else none

/-- A line without the mark of a quotation. -/
def dropQuoteMark (d : Dialect) (gs : List Glyph) : Option (List Glyph) :=
  if !(d.allowsIndent (indentOf gs)) then none
  else
    match dropBlanks gs with
    | g :: rest => if g.char = '>' then some (dropColumns 1 rest) else none
    | [] => none

namespace Container

/-- The rest of a line in which a container goes on. An item that begins with a blank line does not go
on in another one. -/
def continue? (d : Dialect) (c : Container) (gs : List Glyph) : Option (List Glyph) :=
  match c.kind with
  | .quotation => dropQuoteMark d gs
  | .item m => if m.blankStart && isBlankLine gs then none else dropIndent m.size gs
  | .footnote _ => dropIndent 4 gs

/-- The container after a line has been held against it. -/
def afterLine (c : Container) (gs : List Glyph) : Container :=
  match c.kind with
  | .item m =>
    if isBlankLine gs then c else { c with kind := .item { m with blankStart := false } }
  | _ => c

/-- Whether it is an item of which nothing has been seen but its mark. -/
def isBareItem (c : Container) : Bool :=
  match c.kind with
  | .item m => m.blankStart
  | _ => false

/-- Adds an entry. -/
def add (c : Container) (e : Entry) : Container := { c with entries := e :: c.entries }

end Container

/-- Holds a line against containers, the outermost first: how many of them go on, the containers after
that, and the rest of the line. -/
def continueAll (d : Dialect) : List Container → List Glyph → Nat × List Container × List Glyph
  | [], gs => (0, [], gs)
  | c :: inner, gs =>
    match c.continue? d gs with
    | some rest =>
      let (n, inner, rest) := continueAll d inner rest
      (n + 1, c.afterLine gs :: inner, rest)
    | none => (0, c.afterLine gs :: inner, gs)

/-! ### Beginning -/

/-- The container that a line begins, and the rest of the line. -/
def openContainer? (d : Dialect) (interrupting : Bool) (gs : List Glyph) :
    Option (Container × List Glyph) :=
  let indent := indentOf gs
  let start := (gs.head?.map Glyph.place).getD {}
  if !(d.allowsIndent indent) then none
  else
    let line := dropBlanks gs
    match dropQuoteMark d line with
    | some rest => some (⟨.quotation, start, []⟩, rest)
    | none =>
      match itemMark? interrupting (gs.takeWhile Glyph.isBlank) line with
      | some (mark, rest) => some (⟨.item mark, start, []⟩, rest)
      | none =>
        if !d.gfm then none
        else (footnoteMark? line).map fun (label, rest) => (⟨.footnote label, start, []⟩, rest)

/-- The containers that a line begins, the outermost first and at most `count`, and the rest of the
line. -/
def openContainers (d : Dialect) (interrupting : Bool) :
    (count : Nat) → List Glyph → List Container × List Glyph
  | 0, gs => ([], gs)
  | count + 1, gs =>
    match openContainer? d interrupting gs with
    | some (c, rest) =>
      let (inner, rest) := openContainers d interrupting count rest
      (c :: inner, rest)
    | none => ([], gs)

/-! ### Ending -/

/-- A list that is being gathered. -/
structure Gathering where
  /-- The mark of its items. -/
  mark : Char
  /-- The number of the first one. -/
  number : Option Nat
  /-- Where the list begins. -/
  start : SourceLocation
  /-- Where its last item ends. -/
  stop : SourceLocation
  /-- Whether there is a blank line between items. -/
  spread : Bool := false
  /-- Whether a blank line follows the last item. -/
  blank : Bool := false
  /-- The items, the last one first. -/
  items : List Draft

/-- The draft of a list. -/
def Gathering.draft (g : Gathering) : Draft :=
  .branch (if g.number.isSome then .numberedList else .bulletList)
    (.list g.number.isSome g.spread g.number) g.start g.stop g.items.reverse

/-- The drafts of entries in their order, the first of which may belong to a list. -/
def Entry.gather (list : Option Gathering) : List Entry → List Draft
  | [] => (list.map Gathering.draft).toList
  | .blank :: rest => gather (list.map fun g => { g with blank := true }) rest
  | .part d :: rest => (list.map Gathering.draft).toList ++ d :: gather none rest
  | .item mark number start stop d :: rest =>
    let begun : Gathering := { mark, number, start, stop, items := [d] }
    match list with
    | some g =>
      if g.mark = mark then
        gather (some { g with
          stop := stop
          spread := g.spread || g.blank
          blank := false
          items := d :: g.items }) rest
      else g.draft :: gather (some begun) rest
    | none => gather (some begun) rest

/-- The drafts of entries, the last one first. -/
def Entry.drafts (entries : List Entry) : List Draft := gather none entries.reverse

/-- Whether there is a blank line among entries in their order that does not stand between two items of a
list. `list` is the mark of the list that is being gathered, and `blank` says that blank lines follow
its last item. -/
def Entry.hasBlank (list : Option Char) (blank : Bool) : List Entry → Bool
  | [] => blank
  | .blank :: rest => list.isNone || hasBlank list true rest
  | .part _ :: rest => blank || hasBlank none false rest
  | .item mark _ _ _ _ :: rest => (blank && list ≠ some mark) || hasBlank (some mark) false rest

/-- The check box at the start of the text of an item: whether it is checked, and the text behind it,
which is not empty. -/
def takeTask : List Glyph → Option (Bool × List Glyph)
  | a :: b :: c :: rest =>
    if a.char ≠ '[' || c.char ≠ ']' || !(b.isSpace || b.char = 'x' || b.char = 'X') then none
    else if !(rest.head?.any Glyph.isSpace) || isBlankLine rest then none
    else some (!b.isSpace, rest)
  | _ => none

/-- The parts of an item with the check box of its first paragraph, before which only definitions may
stand; `first` says that none does. -/
def takeTaskOf (first : Bool) : List Draft → Option Bool × List Draft
  | .leaf (.definition identifier label target) :: rest =>
    let (checked, rest) := takeTaskOf false rest
    (checked, .leaf (.definition identifier label target) :: rest)
  | .branch .paragraph kind start stop [.unread text .line] :: rest =>
    match takeTask text.glyphs with
    | some (checked, after) =>
      let text := { text with glyphs := after, before := some ']' }
      let behind := if first then TextStart.firstBox else .box
      (some checked, .branch .paragraph kind start stop [.unread text behind] :: rest)
    | none => (none, .branch .paragraph kind start stop [.unread text .line] :: rest)
  | parts => (none, parts)

/-- What a container is for the container around it, if it ends at a place. -/
def Container.toEntry (d : Dialect) (c : Container) (stop : SourceLocation) : Entry :=
  let children := Entry.drafts c.entries
  match c.kind with
  | .quotation => .part (.branch .quotation .blockquote c.start stop children)
  | .item m =>
    let spread := Entry.hasBlank none false c.entries.reverse
    let (checked, children) := if d.gfm then takeTaskOf true children else (none, children)
    .item m.mark m.number c.start stop
      (.branch .item (.listItem spread checked) c.start stop children)
  | .footnote label =>
    .part (.branch .footnote (.footnoteDefinition (toLower (normalizeLabel label)) (some label))
      c.start stop children)

end Manuscript.Markdown
