import Manuscript.Document.Html
import Manuscript.Document.Traversal
import Manuscript.Markup.Parser

/-!
# Raw markup

Raw markup may open an element in one leaf and close it in another, so a tree with raw leaves is
written as HTML and read again as a whole.
-/

namespace Manuscript.Node

/-- Whether a node is a leaf of raw markup. -/
def isRaw : Node → Bool
  | .leaf .raw _ => true
  | _ => false

/-- Whether a tree has raw markup in it. -/
def hasRaw (n : Node) : Bool := (n.findFirst? isRaw).isSome

/-- The tree with its raw markup read. A tree without any stays as it is. -/
def passthroughRaw (parser : MarkupParser) (n : Node) : Except MarkupError Node :=
  if n.hasRaw then
    match parser.parseFragment n.toHtml with
    | .ok nodes => .ok (.root nodes)
    | .error e => .error e
  else .ok n

/-- The records of reading the raw markup of a tree. -/
def passthroughRawLog (n : Node) : Log := if n.hasRaw then n.htmlLog else []

end Manuscript.Node
