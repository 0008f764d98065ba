/-!
# Markdown trees

A Markdown document as a tree of branches, which hold other parts, and leaves. What kind of part a
branch or a leaf is, and what it carries, is kept apart from the shape of the tree.

## Main definitions

* `Markdown` — the trees
* `Markdown.Branch`, `Markdown.Leaf` — the kinds of parts
-/

namespace Manuscript

namespace Markdown

/-- How a reference is written: `[text][label]`, `[label][]` or `[label]`. -/
inductive ReferenceKind where
  /-- With a text and a label. -/
  | full
  /-- With a label and empty brackets. -/
  | collapsed
  /-- With a label only. -/
  | shortcut
  deriving DecidableEq, Repr, Inhabited

/-- A reference to a definition. -/
structure Reference where
  /-- The label as it is compared. -/
  identifier : String
  /-- The label as it is written. -/
  label : Option String
  /-- How the reference is written. -/
  kind : ReferenceKind
  deriving DecidableEq, Repr, Inhabited

/-- Where a link leads. -/
structure Target where
  /-- The address. -/
  url : String
  /-- The title. -/
  title : Option String
  deriving DecidableEq, Repr, Inhabited

/-- The alignment of a table column. -/
inductive Alignment where
  /-- To the left. -/
  | left
  /-- To the right. -/
  | right
  /-- To the middle. -/
  | center
  /-- Not given. -/
  | unset
  deriving DecidableEq, Repr, Inhabited

/-- The value of an attribute of a component. -/
inductive JsxValue where
  /-- Between quotes. -/
  | literal (value : String)
  /-- Between braces. -/
  | expression (source : String)
  deriving DecidableEq, Repr, Inhabited

/-- An attribute of a component. -/
inductive JsxAttribute where
  /-- A name with or without a value. -/
  | property (name : String) (value : Option JsxValue)
  /-- An expression that spreads an object into attributes. -/
  | spread (source : String)
  deriving DecidableEq, Repr, Inhabited

/-- The parts that hold other parts. -/
inductive Branch where
  /-- The whole document. -/
  | root
  /-- A paragraph. -/
  | paragraph
  /-- A heading of some depth. -/
  | heading (depth : Nat)
  /-- Emphasis. -/
  | emphasis
  /-- Strong importance. -/
  | strong
  /-- Deleted text. -/
  | delete
  /-- A quotation. -/
  | blockquote
  /-- A link. -/
  | link (target : Target)
  /-- A link to a definition. -/
  | linkReference (reference : Reference)
  /-- A list, with the number it starts at if it is ordered. -/
  | list (ordered spread : Bool) (start : Option Nat)
  /-- An item of a list, with the state of its check box if it has one. -/
  | listItem (spread : Bool) (checked : Option Bool)
  /-- A table with the alignment of its columns. -/
  | table (alignment : List Alignment)
  /-- A row of a table. -/
  | tableRow
  /-- A cell of a row. -/
  | tableCell
  /-- The text of a footnote. -/
  | footnoteDefinition (identifier : String) (label : Option String)
  /-- A component that stands on lines of its own; without a name, a group. -/
  | jsxFlow (name : Option String) (attributes : List JsxAttribute)
  /-- A component within text. -/
  | jsxText (name : Option String) (attributes : List JsxAttribute)
  deriving DecidableEq, Repr, Inhabited

/-- The parts that hold no other parts. -/
inductive Leaf where
  /-- Plain text. -/
  | text (value : String)
  /-- Code within text. -/
  | inlineCode (value : String)
  /-- A formula within text. -/
  | inlineMath (value : String)
  /-- HTML markup. -/
  | html (value : String)
  /-- Front matter in YAML. -/
  | yaml (value : String)
  /-- Front matter in TOML. -/
  | toml (value : String)
  /-- Import and export statements. -/
  | esm (value : String)
  /-- An expression on lines of its own. -/
  | flowExpression (source : String)
  /-- An expression within text. -/
  | textExpression (source : String)
  /-- A line break. -/
  | hardBreak
  /-- A thematic break. -/
  | thematicBreak
  /-- A block of code with its language and the rest of its info line. -/
  | code (value : String) (language info : Option String)
  /-- A block of mathematics with its info line. -/
  | math (value : String) (info : Option String)
  /-- An image. -/
  | image (alt : String) (target : Target)
  /-- An image whose address is in a definition. -/
  | imageReference (alt : String) (reference : Reference)
  /-- A definition that references refer to. -/
  | definition (identifier : String) (label : Option String) (target : Target)
  /-- A mark that refers to a footnote. -/
  | footnoteReference (identifier : String) (label : Option String)
  deriving DecidableEq, Repr, Inhabited

end Markdown

/-- A Markdown tree. -/
inductive Markdown where
  /-- A part that holds other parts. -/
  | branch (kind : Markdown.Branch) (children : List Markdown)
  /-- A part that holds none. -/
  | leaf (kind : Markdown.Leaf)
  deriving Repr, Inhabited

namespace Markdown

/-- The parts that a tree holds. -/
def children : Markdown → List Markdown
  | .branch _ children => children
  | .leaf _ => []

end Markdown

end Manuscript
