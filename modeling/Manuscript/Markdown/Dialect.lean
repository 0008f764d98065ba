/-!
# Dialects of Markdown

Which constructs beyond the common ones a source may use. With components, indented lines are no code,
since the content of a component is indented, and HTML is off, since components take its place.

## Main definitions

* `Markdown.Dialect` — the choice of constructs
* `Dialect.plain`, `Dialect.components` — the usual choices
-/

namespace Manuscript.Markdown

/-- Which constructs a source may use. -/
structure Dialect where
  /-- Components, expressions, and import and export statements. -/
  mdx : Bool := false
  /-- Tables, footnotes, task lists, deletions and bare addresses. -/
  gfm : Bool := true
  /-- Data before the text. -/
  frontMatter : Bool := true
  /-- Formulas. -/
  math : Bool := true
  /-- HTML, if there are no components. -/
  rawHtml : Bool := true
  deriving DecidableEq, Repr, Inhabited

namespace Dialect

/-- Markdown with HTML. -/
def plain : Dialect := {}

/-- Markdown with components. -/
def components : Dialect := { mdx := true, rawHtml := false }

/-- Whether HTML may be used. -/
def html (d : Dialect) : Bool := d.rawHtml && !d.mdx

/-- Whether indented lines are code. -/
def indentedCode (d : Dialect) : Bool := !d.mdx

/-- How far a line may be indented that begins a construct; without a limit if there is no indented
code. -/
def allowsIndent (d : Dialect) (columns : Nat) : Bool := d.mdx || columns ≤ 3

end Dialect

end Manuscript.Markdown
