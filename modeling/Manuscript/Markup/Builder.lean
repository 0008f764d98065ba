import Manuscript.Markup.Draft
import Manuscript.Markup.Token

/-!
# The state of tree construction

What the rules of tree construction look at and change: the tree itself, the stack of open elements,
the list of active formatting elements, and the insertion mode.

## Main definitions

* `Builder`, `Build` — the state and the computations on it
* `insertElement`, `insertText`, `insertComment` — putting nodes where they belong
* `inScope` — whether an element is open and not hidden by another
* `reconstructFormatting`, `adoptionAgency` — formatting elements across blocks
* `resetMode` — the insertion mode that fits the open elements
-/

namespace Manuscript.Markup

/-- The insertion modes. -/
inductive Mode where
  | initial | beforeHtml | beforeHead | inHead | afterHead | inBody | text | inTable | inTableText
  | inCaption | inColumnGroup | inTableBody | inRow | inCell | inSelect | inSelectInTable
  | inTemplate | afterBody | inFrameset | afterFrameset | afterAfterBody | afterAfterFrameset
  deriving DecidableEq, Repr, Inhabited

/-- An entry in the list of active formatting elements. -/
inductive FormattingEntry where
  /-- A border that searches do not cross. -/
  | marker
  /-- An element with the tag that created it. -/
  | element (id : Nat) (tag : Tag)
  deriving Repr, Inhabited

namespace FormattingEntry

/-- The element of an entry. -/
def id? : FormattingEntry → Option Nat
  | .marker => none
  | .element id _ => some id

end FormattingEntry

/-- The state of tree construction. -/
structure Builder where
  /-- The tree. -/
  draft : Draft
  /-- The number of the document. -/
  document : Nat
  /-- Whether a fragment is read rather than a document. -/
  fragment : Bool
  /-- The insertion mode. -/
  mode : Mode
  /-- The insertion mode to return to. -/
  returnMode : Mode := .inBody
  /-- The insertion modes of the open templates, innermost first. -/
  templateModes : List Mode := []
  /-- The open elements, innermost first. -/
  stack : List Nat := []
  /-- The active formatting elements, latest first. -/
  formatting : List FormattingEntry := []
  /-- The head of the document. -/
  head : Option Nat := none
  /-- The form that is open. -/
  form : Option Nat := none
  /-- Whether a frame set may still take the place of the body. -/
  framesetOk : Bool := true
  /-- Whether nodes that may not stand in a table are put before it. -/
  fosterParenting : Bool := false
  /-- Whether a line feed that comes next is dropped. -/
  skipLineFeed : Bool := false
  /-- Whether the document has a document type of old, or none. -/
  quirks : Bool := false
  /-- The texts met in a table, latest first. -/
  pendingText : List String := []
  /-- How the input is to be read on, if that changes. -/
  switch : Option ContentModel := none

/-- A computation on the state of tree construction. -/
abbrev Build := StateM Builder

namespace Build

/-- A look at the state. -/
def look {α : Type} (f : Builder → α) : Build α := do return f (← get)

/-- Changes the tree. -/
def onDraft (f : Draft → Draft) : Build Unit := modify fun b => { b with draft := f b.draft }

/-- Changes the insertion mode. -/
def setMode (mode : Mode) : Build Unit := modify fun b => { b with mode }

/-- Forbids a frame set in the place of the body. -/
def refuseFrameset : Build Unit := modify fun b => { b with framesetOk := false }

end Build

/-! ### Names -/

/-- Whether the name is one of those given, in HTML. -/
def ElementName.isHtml (n : ElementName) (names : List String) : Bool :=
  n.vocabulary = .html && names.contains n.name

/-- Elements of formulas that hold ordinary text. -/
def ElementName.isMathText (n : ElementName) : Bool :=
  n.vocabulary = .mathml && ["mi", "mo", "mn", "ms", "mtext"].contains n.name

/-- Elements of vector images that hold HTML. -/
def ElementName.holdsHtml (n : ElementName) : Bool :=
  n.vocabulary = .svg && ["foreignObject", "desc", "title"].contains n.name

/-- The elements that stop the search for an open element to close. -/
def specialNames : List String := [
  "address", "applet", "area", "article", "aside", "base", "basefont", "bgsound", "blockquote",
  "body", "br", "button", "caption", "center", "col", "colgroup", "dd", "details", "dir", "div",
  "dl", "dt", "embed", "fieldset", "figcaption", "figure", "footer", "form", "frame", "frameset",
  "h1", "h2", "h3", "h4", "h5", "h6", "head", "header", "hgroup", "hr", "html", "iframe", "img",
  "input", "isindex", "li", "link", "listing", "main", "marquee", "menu", "meta", "nav", "noembed",
  "noframes", "noscript", "object", "ol", "p", "param", "plaintext", "pre", "script", "section",
  "select", "source", "style", "summary", "table", "tbody", "td", "template", "textarea", "tfoot",
  "th", "thead", "title", "tr", "track", "ul", "wbr", "xmp"]

/-- The elements whose end may be implied. -/
def impliedEndNames : List String := [
  "dd", "dt", "li", "option", "optgroup", "p", "rb", "rp", "rt", "rtc"]

/-- The elements whose end may be implied by the end of a template. -/
def thoroughImpliedEndNames : List String :=
  impliedEndNames ++ ["caption", "colgroup", "tbody", "td", "tfoot", "th", "thead", "tr"]

/-- The headings. -/
def headingNames : List String := ["h1", "h2", "h3", "h4", "h5", "h6"]

/-- The borders within which an open element is in scope. -/
inductive Scope where
  | ordinary | listItem | button | table | select
  deriving DecidableEq, Repr

/-- Whether an element is a border of a scope. -/
def Scope.isBorder (s : Scope) (n : ElementName) : Bool :=
  let basic := ["applet", "caption", "html", "table", "td", "th", "marquee", "object", "template"]
  let ordinary := n.isHtml basic || n.isMathText || n.holdsHtml
  match s with
  | .ordinary => ordinary
  | .listItem => ordinary || n.isHtml ["ol", "ul"]
  | .button => ordinary || n.isHtml ["button"]
  | .table => n.isHtml ["html", "table", "template"]
  | .select => !n.isHtml ["optgroup", "option"]

/-! ### Open elements -/

/-- The innermost open element. -/
def current : Build Nat := Build.look fun b => b.stack.head?.getD b.document

/-- The name of the innermost open element. -/
def currentName : Build ElementName := Build.look fun b =>
  b.draft.nameOf (b.stack.head?.getD b.document)

/-- Whether the innermost open element is one of those given, in HTML. -/
def currentIs (names : List String) : Build Bool := return (← currentName).isHtml names

/-- Whether an element of HTML is open. -/
def isOpen (name : String) : Build Bool := Build.look fun b =>
  b.stack.any fun id => (b.draft.nameOf id).isHtml [name]

/-- Closes the innermost open element. -/
def pop : Build Unit := modify fun b => { b with stack := b.stack.drop 1 }

/-- Closes elements through the first one that `p` holds for. -/
def popThrough (p : ElementName → Bool) : Build Unit := modify fun b =>
  { b with stack := (b.stack.dropWhile fun id => !p (b.draft.nameOf id)).drop 1 }

/-- Closes elements through the first of a name. -/
def popThroughNamed (name : String) : Build Unit := popThrough (·.isHtml [name])

/-- Closes elements until the innermost one is one of those given. -/
def popUntil (names : List String) : Build Unit := modify fun b =>
  { b with stack := b.stack.dropWhile fun id => !(b.draft.nameOf id).isHtml names }

/-- Closes the elements whose end may be implied, but not those called `except`. -/
def impliedEnd (names : List String) (except : String) : Build Unit := modify fun b =>
  { b with stack := b.stack.dropWhile fun id =>
      let n := b.draft.nameOf id
      n.isHtml names && n.name ≠ except }

/-- Whether some open element that `p` holds for is not hidden by the border of a scope. -/
def Builder.anyInScope (b : Builder) (s : Scope) (p : Nat → Bool) : List Nat → Bool
  | [] => false
  | id :: rest => p id || (!s.isBorder (b.draft.nameOf id) && b.anyInScope s p rest)

/-- Whether an open element that `p` holds for is in scope. -/
def inScope (s : Scope) (p : Nat → Bool) : Build Bool := Build.look fun b =>
  b.anyInScope s p b.stack

/-- Whether one of some elements of HTML is in scope. -/
def namedInScope (s : Scope) (names : List String) : Build Bool := Build.look fun b =>
  b.anyInScope s (fun id => (b.draft.nameOf id).isHtml names) b.stack

/-- Takes an element away from the open ones, wherever it stands. -/
def removeFromStack (id : Nat) : Build Unit := modify fun b => { b with stack := b.stack.erase id }

/-- Closes the innermost paragraph. -/
def closeParagraph : Build Unit := do
  impliedEnd impliedEndNames "p"
  popThroughNamed "p"

/-- Closes the paragraph in scope, if there is one. -/
def closeParagraphInScope : Build Unit := do
  if ← namedInScope .button ["p"] then closeParagraph

/-! ### Insertion -/

/-- A place in the tree. -/
inductive Place where
  /-- Behind the children of a node. -/
  | lastChild (parent : Nat)
  /-- Before a node. -/
  | before (sibling : Nat)
  deriving Repr

/-- Where nodes go that may not stand in a table: before the table, if it stands anywhere, or into the
element around it. -/
def Builder.fosterPlace (b : Builder) : List Nat → Place
  | [] => .lastChild (b.stack.getLast?.getD b.document)
  | id :: rest =>
    let n := b.draft.nameOf id
    if n.isHtml ["template"] then .lastChild ((b.draft.node id).content.getD id)
    else if n.isHtml ["table"] then
      if (b.draft.node id).parent.isSome then .before id
      else .lastChild (rest.head?.getD b.document)
    else b.fosterPlace rest

/-- Where a node goes that is put into `target`. -/
def Builder.placeIn (b : Builder) (target : Nat) : Place :=
  let n := b.draft.nameOf target
  if b.fosterParenting && n.isHtml ["table", "tbody", "tfoot", "thead", "tr"] then
    b.fosterPlace b.stack
  else if n.isHtml ["template"] then .lastChild ((b.draft.node target).content.getD target)
  else .lastChild target

/-- Puts a node at a place. -/
def Draft.put (d : Draft) (place : Place) (id : Nat) : Draft :=
  match place with
  | .lastChild parent => d.append parent id
  | .before sibling => d.insertBefore sibling id

/-- Puts a text where the next node goes. -/
def insertText (text : String) : Build Unit := do
  let place := (← get).placeIn (← current)
  Build.onDraft fun d =>
    match place with
    | .lastChild parent => d.appendText parent text
    | .before sibling => d.insertTextBefore sibling text

/-- Adds a node to the tree and says which number it has. -/
def addNode (n : DraftNode) : Build Nat :=
  modifyGet fun b =>
    let (id, draft) := b.draft.add n
    (id, { b with draft })

/-- Adds an element to the tree, which has no place yet. -/
def createElement (name : ElementName) (attributes : List (String × String)) : Build Nat :=
  modifyGet fun b =>
    let (id, draft) := b.draft.addElement name attributes
    (id, { b with draft })

/-- Puts a node where the next node goes. -/
def insertNode (id : Nat) : Build Unit := do
  let place := (← get).placeIn (← current)
  Build.onDraft fun d => d.put place id

/-- Puts a comment where the next node goes. -/
def insertComment (text : String) : Build Unit := do
  insertNode (← addNode { kind := .comment text })

/-- Puts a comment behind the children of a node. -/
def appendComment (parent : Nat) (text : String) : Build Unit := do
  let id ← addNode { kind := .comment text }
  Build.onDraft fun d => d.append parent id

/-- Opens an element. -/
def push (id : Nat) : Build Unit := modify fun b => { b with stack := id :: b.stack }

/-- Puts an element where the next node goes, without opening it. -/
def insertClosed (name : ElementName) (attributes : List (String × String)) : Build Nat := do
  let id ← createElement name attributes
  insertNode id
  return id

/-- Puts the element of a tag where the next node goes, and opens it. -/
def insertElement (tag : Tag) : Build Nat := do
  let id ← insertClosed ⟨.html, tag.name⟩ tag.attributes
  push id
  return id

/-- The same, where the number of the element does not matter. -/
def openElement (tag : Tag) : Build Unit := do let _ ← insertElement tag

/-- Puts an element that no tag stands for, and opens it. -/
def openPhantom (name : String) : Build Unit := openElement { name }

/-- Puts the element of a tag that has no content. -/
def insertVoid (tag : Tag) : Build Nat := insertClosed ⟨.html, tag.name⟩ tag.attributes

/-- Puts the element of a tag whose content is read as text. -/
def insertRaw (tag : Tag) (model : ContentModel) : Build Unit := do
  openElement tag
  modify fun b => { b with returnMode := b.mode, mode := .text, switch := some model }

/-- Makes the element `html` of the document. -/
def createRoot (attributes : List (String × String)) : Build Unit := do
  let id ← createElement ⟨.html, "html"⟩ attributes
  push id
  let b ← get
  Build.onDraft fun d => d.append b.document id

/-! ### Active formatting elements -/

/-- The entries up to the last border. -/
def Builder.activeEntries (b : Builder) : List (Nat × Tag) :=
  (b.formatting.takeWhile fun e => e.id?.isSome).filterMap fun
    | .element id tag => some (id, tag)
    | .marker => none

/-- Takes an element away from the active formatting elements. -/
def removeFormatting (id : Nat) : Build Unit := modify fun b =>
  { b with formatting := b.formatting.filter fun e => e.id? ≠ some id }

/-- Sets a border. -/
def pushMarker : Build Unit := modify fun b => { b with formatting := .marker :: b.formatting }

/-- Forgets the formatting elements up to and including the last border. -/
def clearFormatting : Build Unit := modify fun b =>
  { b with formatting := (b.formatting.dropWhile fun e => e.id?.isSome).drop 1 }

/-- Whether tags are alike but for the order of their attributes. -/
def Tag.isAlike (a b : Tag) : Bool :=
  a.name = b.name && a.attributes.length = b.attributes.length &&
    a.attributes.all b.attributes.contains

/-- Puts a formatting element, opens it and makes it active. Of four alike ones the first is
forgotten. -/
def openFormatting (tag : Tag) : Build Unit := do
  let alike := (← get).activeEntries.filter fun e => e.2.isAlike tag
  if alike.length ≥ 3 then
    match alike.getLast? with
    | some (id, _) => removeFormatting id
    | none => pure ()
  let id ← insertElement tag
  modify fun b => { b with formatting := .element id tag :: b.formatting }

/-- Whether an entry is a border or its element is open. -/
def Builder.isSettled (b : Builder) (e : FormattingEntry) : Bool :=
  match e with
  | .marker => true
  | .element id _ => b.stack.contains id

/-- Opens new elements for entries, given earliest first, and puts them in front of the entries
before. -/
def reopen : List FormattingEntry → Build Unit
  | [] => pure ()
  | .marker :: rest => reopen rest
  | .element _ tag :: rest => do
    let id ← insertElement tag
    modify fun b => { b with formatting := .element id tag :: b.formatting }
    reopen rest

/-- Opens again the active formatting elements that were closed. -/
def reconstructFormatting : Build Unit := do
  let b ← get
  let closed := b.formatting.takeWhile fun e => !b.isSettled e
  set { b with formatting := b.formatting.drop closed.length }
  reopen closed.reverse

/-- Closes an element that is no formatting element: the innermost open one of the name, unless a
special element is open within it. -/
def closeOrdinary (name : String) : Build Unit := do
  let b ← get
  let within := b.stack.takeWhile fun id => !(b.draft.nameOf id).isHtml [name]
  if within.any (fun id => (b.draft.nameOf id).isHtml specialNames) then pure ()
  else match b.stack.drop within.length with
    | [] => pure ()
    | _ :: rest => set { b with stack := rest }

/-- What the walk from a block up to a formatting element has come to. -/
structure Adoption where
  /-- The node that goes into the next one. -/
  last : Nat
  /-- The entry behind which the new formatting element becomes active; without one, it takes the
  place of the old. -/
  bookmark : Option Nat := none

/-- Handles the open elements between a block and the formatting element that is closed outside of it,
innermost first: formatting elements are made anew around the block, all others are closed. `count` is
the number of elements handled before. -/
def adoptBetween (block : Nat) (count : Nat) (a : Adoption) : List Nat → Build Adoption
  | [] => pure a
  | id :: rest => do
    let b ← get
    let entry := b.formatting.findSome? fun
      | .element other tag => if other = id then some tag else none
      | .marker => none
    match if count ≥ 3 then none else entry with
    | none => do
      removeFormatting id
      removeFromStack id
      adoptBetween block (count + 1) a rest
    | some tag => do
      let new ← createElement ⟨.html, tag.name⟩ tag.attributes
      modify fun b => { b with
        stack := b.stack.map fun other => if other = id then new else other
        formatting := b.formatting.map fun e =>
          if e.id? = some id then .element new tag else e }
      let bookmark := if a.last = block then some new else a.bookmark
      Build.onDraft fun d => d.append new a.last
      adoptBetween block (count + 1) ⟨new, bookmark⟩ rest

/-- Puts an entry behind one of the active formatting elements, that is, in front of it in the list,
whose latest entry comes first. -/
def insertEntryAfter (previous : Nat) (entry : FormattingEntry) :
    List FormattingEntry → List FormattingEntry
  | [] => [entry]
  | e :: rest =>
    if e.id? = some previous then entry :: e :: rest else e :: insertEntryAfter previous entry rest

/-- Puts an element right inside an open one, which is the next one in the list of open elements,
innermost first. -/
def insertInside (outer inner : Nat) : List Nat → List Nat
  | [] => [inner]
  | id :: rest => if id = outer then inner :: id :: rest else id :: insertInside outer inner rest

/-- What a round of `adoptionRound` comes to. -/
inductive AdoptionResult where
  /-- There may be more to do. -/
  | again
  /-- All is done. -/
  | finished
  deriving DecidableEq

/-- Closes a formatting element across the blocks that are open within it, in one round. -/
def adoptionRound (name : String) : Build AdoptionResult := do
  let b ← get
  match b.activeEntries.find? fun e => e.2.name = name with
  | none => do
    closeOrdinary name
    return .finished
  | some (formatId, tag) =>
    if !b.stack.contains formatId then
      removeFormatting formatId
      return .finished
    else if !b.anyInScope .ordinary (· = formatId) b.stack then
      return .finished
    else
      let within := b.stack.takeWhile (· ≠ formatId)
      let outside := b.stack.drop (within.length + 1)
      match (within.filter fun id => (b.draft.nameOf id).isHtml specialNames).getLast? with
      | none => do
        set { b with stack := outside }
        removeFormatting formatId
        return .finished
      | some block => do
        let between := (within.dropWhile (· ≠ block)).drop 1
        let a ← adoptBetween block 0 ⟨block, none⟩ between
        let place := (← get).placeIn (outside.head?.getD b.document)
        Build.onDraft fun d => (d.detach a.last).put place a.last
        let new ← createElement ⟨.html, tag.name⟩ tag.attributes
        Build.onDraft fun d => (d.moveChildren block new).append block new
        let entry := FormattingEntry.element new tag
        match a.bookmark with
        | none => modify fun b => { b with
            formatting := b.formatting.map fun e => if e.id? = some formatId then entry else e }
        | some previous => do
          modify fun b => { b with formatting := insertEntryAfter previous entry b.formatting }
          removeFormatting formatId
        removeFromStack formatId
        modify fun b => { b with stack := insertInside block new b.stack }
        return .again

/-- Closes a formatting element, in at most `rounds` rounds. -/
def adoptionRounds (name : String) : (rounds : Nat) → Build Unit
  | 0 => pure ()
  | rounds + 1 => do
    match ← adoptionRound name with
    | .finished => pure ()
    | .again => adoptionRounds name rounds

/-- Closes a formatting element across the blocks that are open within it. -/
def adoptionAgency (name : String) : Build Unit := do
  let b ← get
  let id ← current
  if (b.draft.nameOf id).isHtml [name] && !b.formatting.any (fun e => e.id? = some id) then pop
  else adoptionRounds name 8

/-! ### Modes -/

/-- The insertion mode that fits open elements, innermost first. -/
def Builder.modeFor (b : Builder) : List Nat → Mode
  | [] => .inBody
  | id :: rest =>
    let last := rest.isEmpty
    let n := if last && b.fragment then ⟨.html, "body"⟩ else b.draft.nameOf id
    if n.vocabulary ≠ .html then b.modeFor rest
    else match n.name with
      | "select" =>
        match rest.find? fun id => (b.draft.nameOf id).isHtml ["template", "table"] with
        | some id =>
          if (b.draft.nameOf id).isHtml ["table"] then .inSelectInTable else .inSelect
        | none => .inSelect
      | "td" | "th" => if last then b.modeFor rest else .inCell
      | "tr" => .inRow
      | "tbody" | "thead" | "tfoot" => .inTableBody
      | "caption" => .inCaption
      | "colgroup" => .inColumnGroup
      | "table" => .inTable
      | "template" => b.templateModes.head?.getD .inTemplate
      | "head" => if last then b.modeFor rest else .inHead
      | "body" => .inBody
      | "frameset" => .inFrameset
      | "html" => if b.head.isNone then .beforeHead else .afterHead
      | _ => b.modeFor rest

/-- The insertion mode that fits the open elements. -/
def fittingMode : Build Mode := Build.look fun b => b.modeFor b.stack

/-- Sets the insertion mode that fits the open elements. -/
def resetMode : Build Unit := do Build.setMode (← fittingMode)

end Manuscript.Markup
