import Manuscript.Markdown.Draft

/-!
# Nesting of tags

A closing tag closes the tag that was opened last, and both stand directly in the same part of the
document. What stands between them becomes the content of the component.

## Main definitions

* `Markdown.Level` — the tags that are open directly in a part
* `Markdown.nestAll` — the trees of drafts
* `Markdown.nestDocument` — the tree of a document
-/

namespace Manuscript.Markdown

/-- A tag that is open. -/
structure OpenTag where
  /-- The tag. -/
  tag : Tag
  /-- Whether it stands on lines of its own. -/
  flow : Bool
  /-- The parts before it, the last one first. -/
  before : List Markdown

/-- What has been read of a part of the document. -/
structure Level where
  /-- What the part is and where it begins; the document itself has no name. -/
  part : Option (PartName × SourceLocation)
  /-- The tags that are open directly in it, the innermost first. -/
  tags : List OpenTag := []
  /-- The parts since the innermost tag was opened, the last one first. -/
  parts : List Markdown := []

/-- A component. -/
def component (t : Tag) (flow : Bool) (children : List Markdown) : Markdown :=
  .branch (if flow then .jsxFlow t.name t.attributes else .jsxText t.name t.attributes) children

namespace Level

/-- Adds a part. -/
def add (l : Level) (m : Markdown) : Level := { l with parts := m :: l.parts }

/-- Closes the innermost tag. -/
def closeTag (l : Level) : Level :=
  match l.tags with
  | [] => l
  | t :: outer =>
    { l with tags := outer, parts := component t.tag t.flow l.parts.reverse :: t.before }

/-- The parts in the end, with all tags closed. -/
def allParts (l : Level) : List Markdown :=
  (l.tags.foldl (fun parts t => component t.tag t.flow parts.reverse :: t.before) l.parts).reverse

/-- Fails at the end of a part if tags are open directly in it. `open_` are all tags that are open. -/
def requireClosed (l : Level) (open_ : List Tag) (stop : SourceLocation) : Except Fault Unit :=
  match l.tags, open_ with
  | [], _ | _, [] => .ok ()
  | _, t :: _ => .error ⟨.openTag t.wording t.start (l.part.map Prod.fst), stop, none⟩

end Level

/-- Takes up a closing tag: the tags that are open after it, and the level. -/
def takeClosingTag (open_ : List Tag) (l : Level) (t : Tag) (slash : SourceLocation) :
    Except Fault (List Tag × Level) :=
  match open_ with
  | [] => .error ⟨.nothingToClose, slash, none⟩
  | o :: outer =>
    match t.firstAttribute, t.selfClosing with
    | some place, _ => .error ⟨.attributeInClosingTag, place, none⟩
    | _, some place => .error ⟨.slashInClosingTag, place, none⟩
    | none, none =>
      if o.name ≠ t.name then
        .error ⟨.wrongClosingTag t.wording o.wording o.start, t.start, some t.stop⟩
      else
        match l.tags, l.part with
        | [], some (part, began) => .error ⟨.crossingTag t.wording part began, t.start, none⟩
        | _, _ => .ok (outer, l.closeTag)

/-- Takes up a tag: the tags that are open after it, and the level. -/
def takeTag (open_ : List Tag) (l : Level) (t : Tag) (flow : Bool) :
    Except Fault (List Tag × Level) :=
  match t.closing with
  | some slash => takeClosingTag open_ l t slash
  | none =>
    if t.selfClosing.isSome then .ok (open_, l.add (component t flow []))
    else .ok (t :: open_, { l with tags := ⟨t, flow, l.parts⟩ :: l.tags, parts := [] })

mutual

/-- The text of a tree, without its marks and breaks. -/
def plainText : Markdown → String
  | .branch _ children => plainTexts children
  | .leaf kind =>
    match kind with
    | .text value | .inlineCode value | .inlineMath value | .html value => value
    | .textExpression source => source
    | _ => ""

/-- The text of trees that stand side by side. -/
def plainTexts : List Markdown → String
  | [] => ""
  | m :: rest => plainText m ++ plainTexts rest

end

/-- A link or an image with its label. -/
def Media.toMarkdown (label : List Markdown) : Media → Markdown
  | .link target => .branch (.link target) label
  | .linkReference reference => .branch (.linkReference reference) label
  | .image target => .leaf (.image (plainTexts label) target)
  | .imageReference reference => .leaf (.imageReference (plainTexts label) reference)

mutual

/-- Takes up a draft, given all tags that are open and what has been read of the part it stands in. Tags
that are open in a label end with it. -/
def nest (open_ : List Tag) (l : Level) : Draft → Except Fault (List Tag × Level)
  | .branch name kind start stop children => do
    let (open_, inner) ← nestAll open_ ⟨some (name, start), [], []⟩ children
    inner.requireClosed open_ stop
    pure (open_, l.add (.branch kind inner.allParts))
  | .leaf kind => .ok (open_, l.add (.leaf kind))
  | .tag t flow => takeTag open_ l t flow
  | .media kind label => do
    let (open_, inner) ← nestAll open_ ⟨some (.label, {}), [], []⟩ label
    pure (open_, l.add (kind.toMarkdown inner.allParts))
  | .unread text _ => .ok (open_, l.add (.leaf (.text (textOf text.glyphs))))

/-- Takes up drafts that stand side by side. -/
def nestAll (open_ : List Tag) (l : Level) : List Draft → Except Fault (List Tag × Level)
  | [] => .ok (open_, l)
  | d :: rest => do
    let (open_, l) ← nest open_ l d
    nestAll open_ l rest

end

/-- The tree of a document of which the drafts are given and which ends at a place. -/
def nestDocument (stop : SourceLocation) (drafts : List Draft) : Except Fault Markdown := do
  let (open_, level) ← nestAll [] ⟨none, [], []⟩ drafts
  level.requireClosed open_ stop
  return .branch .root level.allParts

end Manuscript.Markdown
