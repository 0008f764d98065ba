import Manuscript.Document.Node
import Manuscript.Text.Hex

/-!
# Roles of nodes

What a node is for a reader of the document: a paragraph, a link, an image, a block of code, a
heading. The tag alone decides.
-/

namespace Manuscript

/-- The level of a heading tag, from `h1` to `h6`. The number behind the `h` may have a plus sign and
leading zeros. -/
def headingLevel? (tag : String) : Option Nat :=
  match tag.toList with
  | 'h' :: rest =>
    let digits := match rest with
      | '+' :: ds => ds
      | ds => ds
    if digits.isEmpty then none
    else do
      let ds ← digits.mapM Text.digitValue?
      let n := Text.ofDigitValues 10 ds
      if 1 ≤ n && n ≤ 6 then some n else none
  | _ => none

namespace Element

/-- Whether the element is a paragraph. -/
def isParagraph (e : Element) : Bool := e.tag = "p"

/-- Whether the element is a link. -/
def isAnchor (e : Element) : Bool := e.tag = "a"

/-- Whether the element is an image. -/
def isImage (e : Element) : Bool := e.tag = "img"

/-- Whether the element is preformatted text. -/
def isPre (e : Element) : Bool := e.tag = "pre"

/-- Whether the element is code. -/
def isCode (e : Element) : Bool := e.tag = "code"

/-- Whether the element is a path of a vector image. -/
def isPath (e : Element) : Bool := e.tag = "path"

/-- Whether the element is a heading. -/
def isHeading (e : Element) : Bool := (headingLevel? e.tag).isSome

/-- The first code element among the children. -/
def codeChild? (e : Element) : Option Element :=
  e.children.findSome? fun n => n.element?.filter isCode

end Element

namespace Node

/-- The paragraph that a node is. -/
def paragraph? (n : Node) : Option Element := n.element?.filter Element.isParagraph

/-- The link that a node is. -/
def anchor? (n : Node) : Option Element := n.element?.filter Element.isAnchor

/-- The image that a node is. -/
def image? (n : Node) : Option Element := n.element?.filter Element.isImage

/-- The preformatted text that a node is. -/
def pre? (n : Node) : Option Element := n.element?.filter Element.isPre

/-- The code that a node is. -/
def code? (n : Node) : Option Element := n.element?.filter Element.isCode

/-- The path of a vector image that a node is. -/
def path? (n : Node) : Option Element := n.element?.filter Element.isPath

end Node

end Manuscript
