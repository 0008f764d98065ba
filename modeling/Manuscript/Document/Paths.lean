import Manuscript.Document.Role
import Manuscript.Document.Traversal

/-!
# Paths of vector images

The data of a path are words with one space between neighbours.
-/

namespace Manuscript

/-- Words with one space between neighbours, for any white space between and around them. -/
def collapseBlanks (text : String) : String := Text.joinWith " " (Text.wordsOf text)

/-- The attributes of a path with collapsed data. -/
def collapsedPathAttributes (e : Element) : Attributes :=
  match e.attr? "d" with
  | some (.text data) => e.attributes.insert "d" (.text (collapseBlanks data))
  | _ => e.attributes

/-- Collapses the white space in the data of all paths. -/
def Node.normalizeSvgPaths (n : Node) : Node :=
  n.mapAttributes Element.isPath collapsedPathAttributes

end Manuscript
