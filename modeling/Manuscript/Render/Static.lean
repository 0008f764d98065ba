import Manuscript.Document.Links
import Manuscript.Document.Paragraphs
import Manuscript.Document.RawMarkup
import Manuscript.Render.Reading
import Manuscript.Render.Renderer

/-!
# Static output

A source becomes HTML, or the text of its first paragraph as an excerpt. Raw markup is read as part of
the document, so that it takes part in all later stages.

## Main definitions

* `Renderer.finishStatic` — the stages behind raw markup
* `Renderer.excerptOf`, `Renderer.pageOf` — the excerpt and the HTML of a tree
* `Renderer.renderStatic`, `Renderer.renderHtml`, `Renderer.renderExcerpt` — the output of a source
-/

namespace Manuscript

namespace Renderer

variable {σ : Type} (r : Renderer σ)

/-- The stages behind raw markup. -/
def finishStatic (c : RenderConfig) (s : σ) (n : Node) : (σ × Log) × Node :=
  let (mathLog, n) := r.renderFormulas n
  let (n, _) := n.wrapLinks.assignHeadingIds
  let (codeLog, n) := r.decorate c n
  let ((s, mediaLog), n) := r.lookUpMedia c s n
  ((s, mathLog ++ codeLog ++ mediaLog), n)

/-- The excerpt of a tree: the text of its first paragraph after all stages. -/
def excerptOf (c : RenderConfig) (s : σ) (n : Node) : (σ × Log) × String :=
  let (s, n) := r.finishStatic c s n.excerptTree.markLead
  (s, n.toText)

/-- The HTML of a tree after all stages. -/
def pageOf (c : RenderConfig) (s : σ) (n : Node) : (σ × Log) × String :=
  let ((s, log), n) := r.finishStatic c s n
  ((s, log ++ n.htmlLog), n.toHtml)

/-- The excerpt or the HTML of a tree, whichever is wanted. -/
def outputOf (c : RenderConfig) (s : σ) (n : Node) : (σ × Log) × String :=
  if c.excerpt then r.excerptOf c s n else r.pageOf c s n

/-- The excerpt or the HTML of a source, whichever is wanted. -/
def renderStatic (c : RenderConfig) (s : σ) (source : String) :
    (σ × Log) × Except RenderError String :=
  match readSource .plain source with
  | (log, .error e) => ((s, log), .error e)
  | (log, .ok d) =>
    let tree := d.document.tree
    let log := log ++ tree.passthroughRawLog
    match tree.passthroughRaw r.parser with
    | .error e => ((s, log), .error (.markup e))
    | .ok n =>
      let ((s, more), output) := r.outputOf c s n
      ((s, log ++ more), .ok output)

/-- The HTML of a source. -/
def renderHtml (c : RenderConfig) (s : σ) (source : String) :
    (σ × Log) × Except RenderError String :=
  r.renderStatic { c with excerpt := false } s source

/-- The excerpt of a source. -/
def renderExcerpt (c : RenderConfig) (s : σ) (source : String) :
    (σ × Log) × Except RenderError String :=
  r.renderStatic { c with excerpt := true } s source

end Renderer

end Manuscript
