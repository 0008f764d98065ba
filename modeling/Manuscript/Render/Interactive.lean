import Manuscript.Data.Json
import Manuscript.Document.Images
import Manuscript.Document.Links
import Manuscript.Document.Paragraphs
import Manuscript.Document.Paths
import Manuscript.Render.Reading
import Manuscript.Render.Renderer
import Manuscript.Script.FunctionBody
import Manuscript.Source.InlineAttributes

/-!
# Interactive output

A source with components becomes the body of a function that creates the document, together with what
the page around it needs: the data, the statements and the headings.

## Main definitions

* `InteractiveDocument` — the output
* `mergeScope` — the data for the components, filled up from the front matter
* `Renderer.prepareInteractive`, `Renderer.finishInteractive` — the stages before and after the headings
  get their ids
* `Renderer.renderDocument` — the output of a source
-/

namespace Manuscript

/-- What is needed to show a document with its components. -/
structure InteractiveDocument where
  /-- The body of the function that creates the document. -/
  body : String
  /-- The front matter. -/
  frontMatter : Value
  /-- The data for the components. -/
  scope : Value
  /-- The import and export statements. -/
  statements : List String
  /-- The headings. -/
  headings : List Node.HeadingEntry
  /-- The document tree. -/
  tree : Node

/-- Stores a field in an object that has no field of its name. -/
def addField (fields : List (String × Value)) (entry : String × Value) : List (String × Value) :=
  if (fields.lookup entry.1).isSome then fields else Value.insertField entry.1 entry.2 fields

/-- The given data, filled up from the front matter. What is no object counts as no data. -/
def mergeScope (scope frontMatter : Value) : Value :=
  let own := match scope with
    | .object fields => fields
    | _ => []
  match frontMatter with
  | .object fields => .object (fields.foldl addField own)
  | _ => .object own

/-- A record if the given data are dropped. -/
def mergeScopeLog : Value → Log
  | .object _ | .null => []
  | other => Log.warn ("non-object scope replaced by frontmatter: " ++ Json.write other)

namespace Renderer

variable {σ : Type} (r : Renderer σ)

/-- The stages before the headings get their ids. -/
def prepareInteractive (c : RenderConfig) (n : Node) : Log × Node :=
  let n := (n.extendImageAttributes.imagesToComponents c.imageComponent).normalizeHeadings
  let (log, n) := r.renderFormulas n
  (log, n.collapseParagraphs)

/-- The stages after the headings have got their ids. -/
def finishInteractive (c : RenderConfig) (s : σ) (n : Node) : (σ × Log) × Node :=
  let (codeLog, n) := r.decorate c n
  let ((s, mediaLog), n) := r.lookUpMedia c s n
  ((s, codeLog ++ mediaLog), n.wrapLinks.normalizeSvgPaths)

/-- The interactive output of a source. -/
def renderDocument (c : RenderConfig) (s : σ) (scope : Value) (source : String) :
    (σ × Log) × Except RenderError InteractiveDocument :=
  match readSource .components (Source.rewriteInlineAttributes source) with
  | (log, .error e) => ((s, log), .error e)
  | (log, .ok d) =>
    let (mathLog, n) := r.prepareInteractive c d.document.tree
    let (n, headings) := n.assignHeadingIds
    let ((s, finishLog), tree) := r.finishInteractive c s n
    let statements := d.document.statements
    let summary := Log.debug ("interactive document: " ++ toString headings.length ++
      " headings, " ++ toString statements.length ++ " esm statements")
    let log := log ++ mathLog ++ finishLog ++ summary ++ Script.functionBodyLog tree ++
      mergeScopeLog scope
    ((s, log), .ok {
      body := Script.functionBody tree
      frontMatter := d.frontMatter
      scope := mergeScope scope d.frontMatter
      statements, headings, tree })

end Renderer

end Manuscript
