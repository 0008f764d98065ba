import Manuscript.Markup.Parser
import Manuscript.Source.Location

/-!
# Errors of a rendering

What can make a rendering fail. Failures within a document, of embedded media, formulas or
highlighting, are recovered from where they arise.
-/

namespace Manuscript

/-- Why front matter could not be read. -/
inductive FrontMatterError where
  /-- It is malformed. -/
  | malformed (reason : String)
  /-- It is something else than a mapping. -/
  | notMapping
  deriving DecidableEq, Repr

/-- The wording of an error. -/
def FrontMatterError.message : FrontMatterError → String
  | .malformed reason => "Frontmatter parse error: " ++ reason
  | .notMapping => "Frontmatter must be a YAML mapping at the top level"

/-- Why a document could not be rendered. -/
inductive RenderError where
  /-- The source is malformed. -/
  | parse (reason : String) (location : SourceLocation)
  /-- The front matter could not be read. -/
  | frontMatter (cause : FrontMatterError)
  /-- Markup could not be read. -/
  | markup (cause : MarkupError)
  /-- A formula could not be rendered. -/
  | math (reason : String)
  /-- Code could not be highlighted. -/
  | highlight (language reason : String)
  deriving DecidableEq, Repr

/-- The wording of an error. -/
def RenderError.message : RenderError → String
  | .parse reason location => "Parse error at " ++ location.message ++ ": " ++ reason
  | .frontMatter cause => cause.message
  | .markup cause => cause.message
  | .math reason => "Math rendering error: " ++ reason
  | .highlight language reason => "Highlighting error for " ++ language ++ ": " ++ reason

end Manuscript
