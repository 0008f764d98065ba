import Manuscript.Markdown.Tree
import Manuscript.Text.Unicode.LetterCase

/-!
# Definitions in a Markdown tree

Links, images and footnotes refer to definitions by a label, whose case does not matter. Of several
definitions of one label the first in pre-order counts.

## Main definitions

* `Markdown.linkDefinitions`, `Markdown.footnoteDefinitions` — all definitions, in pre-order
* `Definitions.target?`, `Definitions.footnote?` — what a label refers to
-/

namespace Manuscript

open Manuscript.Text.Unicode (toLower)

namespace Markdown

mutual

/-- The definitions of links in a tree, each with its label in lower case, in pre-order. -/
def linkDefinitions : Markdown → List (String × Target)
  | .branch _ children => linkDefinitionsAll children
  | .leaf (.definition identifier _ target) => [(toLower identifier, target)]
  | .leaf _ => []

/-- The definitions of links in trees that stand side by side. -/
def linkDefinitionsAll : List Markdown → List (String × Target)
  | [] => []
  | m :: rest => linkDefinitions m ++ linkDefinitionsAll rest

end

/-- The footnote that a branch defines itself. -/
def ownFootnote (kind : Branch) (children : List Markdown) : List (String × List Markdown) :=
  match kind with
  | .footnoteDefinition identifier _ => [(toLower identifier, children)]
  | _ => []

mutual

/-- The footnotes in a tree, each with its label in lower case, in pre-order. -/
def footnoteDefinitions : Markdown → List (String × List Markdown)
  | .branch kind children => ownFootnote kind children ++ footnoteDefinitionsAll children
  | .leaf _ => []

/-- The footnotes in trees that stand side by side. -/
def footnoteDefinitionsAll : List Markdown → List (String × List Markdown)
  | [] => []
  | m :: rest => footnoteDefinitions m ++ footnoteDefinitionsAll rest

end

end Markdown

/-- The definitions of a document. -/
structure Definitions where
  /-- What link labels refer to. -/
  links : List (String × Markdown.Target)
  /-- What footnote labels refer to. -/
  footnotes : List (String × List Markdown)

namespace Definitions

/-- The definitions in a tree. -/
def ofMarkdown (m : Markdown) : Definitions := ⟨m.linkDefinitions, m.footnoteDefinitions⟩

/-- Where a link label leads. -/
def target? (d : Definitions) (identifier : String) : Option Markdown.Target :=
  d.links.lookup (toLower identifier)

/-- The text of the footnote whose label, in lower case, is given. -/
def footnote? (d : Definitions) (id : String) : Option (List Markdown) := d.footnotes.lookup id

end Definitions

end Manuscript
