import Manuscript.Error
import Manuscript.Markdown.Inline
import Manuscript.Markdown.Nesting
import Manuscript.Markdown.Outline

/-!
# Reading Markdown

A source is read in three steps: its outline, in which definitions are found; then its texts, where
labels refer to definitions anywhere in the source; and at last its tags are paired.

## Main definitions

* `Markdown.ofSource` — the tree of a source
* `Markdown.parse` — the same, where a fault is an error of a rendering
-/

namespace Manuscript.Markdown

mutual

/-- What the labels refer to that a draft defines: those of links, and those of footnotes. -/
def Draft.labels : Draft → List String × List String
  | .branch _ kind _ _ children =>
    let (links, footnotes) := labelsOfAll children
    match kind with
    | .footnoteDefinition identifier _ => (links, identifier :: footnotes)
    | _ => (links, footnotes)
  | .leaf (.definition identifier _ _) => ([identifier], [])
  | _ => ([], [])

/-- What the labels refer to that drafts define. -/
def Draft.labelsOfAll : List Draft → List String × List String
  | [] => ([], [])
  | d :: rest =>
    let (links, footnotes) := d.labels
    let (moreLinks, moreFootnotes) := labelsOfAll rest
    (links ++ moreLinks, footnotes ++ moreFootnotes)

end

mutual

/-- A draft with its texts read. -/
def Draft.read (ctx : TextContext) : Draft → Except Fault (List Draft)
  | .branch name kind start stop children => do
    let ctx := if kind = .tableCell then { ctx with inTable := true } else ctx
    return [.branch name kind start stop (← readAll ctx children)]
  | .unread text start => readText ctx start text
  | d => .ok [d]

/-- Drafts with their texts read. -/
def Draft.readAll (ctx : TextContext) : List Draft → Except Fault (List Draft)
  | [] => .ok []
  | d :: rest => do return (← d.read ctx) ++ (← readAll ctx rest)

end

/-- The tree of a source in a dialect. -/
def ofSource (d : Dialect) (source : String) : Except Fault Markdown := do
  let (drafts, stop) ← outlineOf d source
  let (definitions, footnotes) := Draft.labelsOfAll drafts
  nestDocument stop (← Draft.readAll { dialect := d, definitions, footnotes } drafts)

/-- The tree of a source in a dialect, where a fault is an error of a rendering. -/
def parse (d : Dialect) (source : String) : Except RenderError Markdown :=
  (ofSource d source).mapError fun f => .parse f.message f.start

end Manuscript.Markdown
