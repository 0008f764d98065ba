import Manuscript.Document.Node

/-!
# Markup parsers

What turns a text of markup into document trees. Passes that read markup take any parser.
-/

namespace Manuscript

/-- Why markup could not be read. -/
inductive MarkupError where
  /-- The markup was refused. -/
  | invalid (reason : String)
  deriving DecidableEq, Repr

/-- The wording of an error. -/
def MarkupError.message : MarkupError → String
  | .invalid reason => "Markup parse error: " ++ reason

/-- A parser of markup. -/
structure MarkupParser where
  /-- The tree of a whole document. -/
  parseDocument : String → Except MarkupError Node
  /-- The nodes of a fragment, as they would stand in the body of a document. -/
  parseFragment : String → Except MarkupError (List Node)

end Manuscript
