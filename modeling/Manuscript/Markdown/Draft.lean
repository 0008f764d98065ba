import Manuscript.Markdown.Tag

/-!
# Drafts of Markdown trees

A draft is a Markdown tree in the making: texts may be unread, and tags stand where they were written,
not yet paired.

## Main definitions

* `Markdown.Media` — links and images without their labels
* `Markdown.TextStart` — what comes before a text
* `Markdown.Draft` — the drafts
-/

namespace Manuscript.Markdown

/-- A link or an image without its label. -/
inductive Media where
  /-- A link. -/
  | link (target : Target)
  /-- A link to a definition. -/
  | linkReference (reference : Reference)
  /-- An image. -/
  | image (target : Target)
  /-- An image whose address is in a definition. -/
  | imageReference (reference : Reference)
  deriving DecidableEq, Repr

/-- What comes before a text, which says what becomes of the spaces at its start. -/
inductive TextStart where
  /-- Nothing: blanks do not count. -/
  | line
  /-- A check box: blanks count. -/
  | box
  /-- The check box that an item begins with: one space does not count. -/
  | firstBox
  deriving DecidableEq, Repr, Inhabited

/-- A Markdown tree in the making. -/
inductive Draft where
  /-- A part that holds other parts, with where it begins and ends. -/
  | branch (name : PartName) (kind : Branch) (start stop : SourceLocation) (children : List Draft)
  /-- A part that holds none. -/
  | leaf (kind : Leaf)
  /-- A tag, on lines of its own (`flow`) or within text. -/
  | tag (tag : Tag) (flow : Bool)
  /-- A link or an image. -/
  | media (kind : Media) (label : List Draft)
  /-- A text that has not been read yet. -/
  | unread (text : Fragment) (start : TextStart)
  deriving Repr, Inhabited

end Manuscript.Markdown
