import Manuscript.Document.Node
import Manuscript.Log
import Manuscript.Text.Escape

/-!
# Trees as HTML

Attributes are written in the order of their names, texts and attribute values are escaped, and raw
markup is written as it is. Expressions have no HTML form: they are left out, and `htmlLog` says
which ones.

## Main definitions

* `Node.toHtml` — the HTML of a tree
* `Node.htmlLog` — a record for every expression left out
-/

namespace Manuscript

/-- The elements that have no content and no end tag. -/
def voidElements : List String := [
  "area", "base", "br", "col", "embed", "hr", "img", "input", "link", "meta", "param", "source",
  "track", "wbr"]

/-- The elements whose text is written as it is. -/
def verbatimElements : List String := ["script", "style"]

namespace Attributes

/-- How an attribute is written in a start tag; nothing for an expression. -/
def entryToHtml (name : String) (value : AttributeValue) : String :=
  match value with
  | .expression _ => ""
  | value => " " ++ name ++ "=\"" ++ Text.escapeAttribute value.toMarkup ++ "\""

/-- The attributes of a start tag. -/
def entriesToHtml : List (String × AttributeValue) → String
  | [] => ""
  | (name, value) :: rest => entryToHtml name value ++ entriesToHtml rest

/-- A record for every attribute left out of a start tag. -/
def htmlLog (attrs : Attributes) : Log :=
  attrs.entries.flatMap fun (name, value) =>
    match value with
    | .expression source =>
      Log.debug ("attribute " ++ name ++ "=\x7b" ++ source ++ "\x7d dropped from HTML output")
    | _ => []

end Attributes

namespace Node

/-- How a leaf is written, in an element whose text is `verbatim` or not. -/
def leafToHtml (verbatim : Bool) (kind : LeafKind) (value : String) : String :=
  match kind with
  | .text => if verbatim then value else Text.escapeText value
  | .comment => "<!--" ++ value ++ "-->"
  | .raw => value
  | .expression => ""

mutual

/-- The HTML of a tree that stands in an element whose text is `verbatim` or not. -/
def htmlWithin (verbatim : Bool) : Node → String
  | .root children => htmlAll verbatim children
  | .element tag attributes children =>
    "<" ++ tag ++ Attributes.entriesToHtml attributes.entries ++ ">" ++
      (if voidElements.contains tag then ""
       else htmlAll (verbatimElements.contains tag) children ++ "</" ++ tag ++ ">")
  | .leaf kind value => leafToHtml verbatim kind value

/-- The HTML of trees that stand side by side. -/
def htmlAll (verbatim : Bool) : List Node → String
  | [] => ""
  | n :: rest => htmlWithin verbatim n ++ htmlAll verbatim rest

end

/-- The HTML of a tree. -/
def toHtml (n : Node) : String := htmlWithin false n

mutual

/-- A record for every expression that the HTML of a tree leaves out. -/
def htmlLog : Node → Log
  | .root children => htmlLogAll children
  | .element tag attributes children =>
    attributes.htmlLog ++ (if voidElements.contains tag then [] else htmlLogAll children)
  | .leaf .expression source =>
    Log.debug ("MDX expression \x7b" ++ source ++ "\x7d dropped from HTML output")
  | .leaf _ _ => []

/-- A record for every expression that the HTML of trees side by side leaves out. -/
def htmlLogAll : List Node → Log
  | [] => []
  | n :: rest => htmlLog n ++ htmlLogAll rest

end

/-- The text of a tree, without any markup. -/
def toText (n : Node) : String := n.textContent

end Node

end Manuscript
