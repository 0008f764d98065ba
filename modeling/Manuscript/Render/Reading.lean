import Manuscript.FrontMatter
import Manuscript.Markdown.Document
import Manuscript.Markdown.Source

/-!
# From a source to a document

The first stages that all renderings share: the source is read, its front matter is taken out, and the
rest becomes a document tree.
-/

namespace Manuscript

/-- A document with its front matter. -/
structure SourceDocument where
  /-- The data before the text. -/
  frontMatter : Value
  /-- The document. -/
  document : LoweredDocument

/-- The document of a source in a dialect, and what is reported on the way. -/
def readSource (d : Markdown.Dialect) (source : String) :
    Log × Except RenderError SourceDocument :=
  match Markdown.parse d source with
  | .error e => ([], .error e)
  | .ok m =>
    match FrontMatter.take m with
    | .error e => (FrontMatter.takeLog m, .error (.frontMatter e))
    | .ok (data, rest) =>
      let document := rest.toDocument
      (FrontMatter.takeLog m ++ document.log, .ok ⟨data, document⟩)

end Manuscript
