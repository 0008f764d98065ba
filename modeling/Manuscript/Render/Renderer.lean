import Manuscript.Document.CodeBlocks
import Manuscript.Document.Formulas
import Manuscript.Document.Headings
import Manuscript.Render.Config

/-!
# Renderers

A renderer is a choice of collaborators: what reads markup, renders formulas, highlights code and looks
up media. The last of these has a state of its own, which the stages thread together with what they
report.

## Main definitions

* `Renderer` — the collaborators
* `Renderer.decorate` — links headings to themselves and highlights code
* `Renderer.lookUpMedia` — looks up embedded media if that is wanted
-/

namespace Manuscript

/-- The collaborators of renderings. -/
structure Renderer (σ : Type) where
  /-- Reads markup. -/
  parser : MarkupParser
  /-- Renders formulas. -/
  math : MathRenderer
  /-- Highlights code. -/
  highlighter : Highlighter
  /-- Looks up media. -/
  fetcher : Option (Fetcher σ)
  /-- How deep blocks of code may be nested in the markup that highlighting gives. -/
  highlightRounds : Nat

namespace Renderer

variable {σ : Type}

/-- Renders the formulas of a tree. -/
def renderFormulas (r : Renderer σ) (n : Node) : Log × Node :=
  let (t, n) := n.renderMath r.math r.parser
  (t.log, n)

/-- Makes the headings of a tree links to themselves, if that is wanted, and highlights its code. -/
def decorate (r : Renderer σ) (c : RenderConfig) (n : Node) : Log × Node :=
  let n := if c.headingAutolinks then n.autolinkHeadings else n
  let (t, n) := n.highlightCodeBlocks r.highlighter r.parser r.highlightRounds
  (t.log, n.tagCodeLanguages)

/-- Looks up the embedded media of a tree, if that is wanted. -/
def lookUpMedia (r : Renderer σ) (c : RenderConfig) (s : σ) (n : Node) : (σ × Log) × Node :=
  if !c.parseEmbeds then ((s, []), n)
  else
    match r.fetcher with
    | none => ((s, Log.debug "embeds requested but no fetcher configured"), n)
    | some fetch => Embed.resolveEmbeds fetch r.parser c.fetchOptions s n

end Renderer

end Manuscript
