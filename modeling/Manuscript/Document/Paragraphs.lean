import Manuscript.Document.Role
import Manuscript.Document.Traversal

/-!
# Paragraphs

A paragraph that holds nothing but a paragraph is replaced by it; the first paragraph of a document is
its lead and its excerpt.

## Main definitions

* `collapseParagraphs` — no paragraph has a paragraph as its only child that is not blank
* `markLead` — gives the first paragraph a class
* `firstParagraph?`, `excerptTree` — the first paragraph on its own
-/

namespace Manuscript.Node

/-- Whether a node is a text of blanks only. -/
def isBlankText : Node → Bool
  | .leaf .text value => Text.isAllBlank value
  | _ => false

/-- The paragraph that is the only one among nodes that is not a blank text. -/
def soleParagraph? (nodes : List Node) : Option Node :=
  match nodes.filter (fun n => !n.isBlankText) with
  | [only] => if only.hasTag "p" then some only else none
  | _ => none

mutual

/-- Replaces every paragraph that holds nothing but a paragraph, blank texts apart, by the innermost
one. -/
def collapseParagraphs : Node → Node
  | .root children => .root (collapseParagraphsAll children)
  | .element tag attributes children =>
    let children := collapseParagraphsAll children
    if tag = "p" then (soleParagraph? children).getD (.element tag attributes children)
    else .element tag attributes children
  | .leaf kind value => .leaf kind value

/-- Collapses the paragraphs of trees that stand side by side. -/
def collapseParagraphsAll : List Node → List Node
  | [] => []
  | n :: rest => collapseParagraphs n :: collapseParagraphsAll rest

end

mutual

/-- Gives the first paragraph the class `lead`, unless one was `found` before, and says whether one is
found now. -/
def markLeadFrom (found : Bool) : Node → Bool × Node
  | .root children =>
    if found then (true, .root children)
    else
      let (found, children) := markLeadAll false children
      (found, .root children)
  | .element tag attributes children =>
    if found then (true, .element tag attributes children)
    else if tag = "p" then (true, .element tag (attributes.addClass "lead") children)
    else
      let (found, children) := markLeadAll false children
      (found, .element tag attributes children)
  | .leaf kind value => (found, .leaf kind value)

/-- The same for trees that stand side by side. -/
def markLeadAll (found : Bool) : List Node → Bool × List Node
  | [] => (found, [])
  | n :: rest =>
    let (found, n) := markLeadFrom found n
    let (found, rest) := markLeadAll found rest
    (found, n :: rest)

end

/-- Gives the first paragraph the class `lead`. -/
def markLead (n : Node) : Node := (markLeadFrom false n).2

/-- The first paragraph in pre-order. -/
def firstParagraph? (n : Node) : Option Element :=
  (n.findFirst? fun m => m.paragraph?.isSome).bind Node.element?

/-- A document that holds the first paragraph only, or nothing. -/
def excerptTree (n : Node) : Node := .root (n.firstParagraph?.map Element.toNode).toList

end Manuscript.Node
