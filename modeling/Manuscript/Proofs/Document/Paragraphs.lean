import Manuscript.Document.Paragraphs
import Manuscript.Proofs.Document.Elements

/-!
# The first paragraph

The first paragraph of a document is the first of its elements, in pre-order, that is a paragraph.
An excerpt holds it alone, as the lead.

## Main results

* `firstParagraph?_eq` — the first paragraph among the elements
* `markLead_excerptTree_of_some`, `markLead_excerptTree_of_none` — the excerpt of a document with a
  paragraph, and of one without
-/

namespace Manuscript.Node

variable {n : Node} {p : Element}

/-- The first paragraph is the first element in pre-order that is a paragraph. -/
theorem firstParagraph?_eq (n : Node) :
    n.firstParagraph? = n.elements.find? Element.isParagraph := by
  have hparagraph (m : Node) : m.paragraph?.isSome = m.element?.any Element.isParagraph :=
    Option.isSome_filter
  simp only [firstParagraph?, findFirst?_eq, elements_eq, List.find?_filterMap, hparagraph]

/-- The excerpt of a document holds its first paragraph as the lead. -/
theorem markLead_excerptTree_of_some (h : n.elements.find? Element.isParagraph = some p) :
    n.excerptTree.markLead =
      .root [.element p.tag (p.attributes.addClass "lead") p.children] := by
  have hparagraph : p.isParagraph = true := List.find?_some h
  have htag : p.tag = "p" := of_decide_eq_true hparagraph
  rw [excerptTree, firstParagraph?_eq, h]
  simp [markLead, markLeadFrom, markLeadAll, Element.toNode, htag]

/-- The excerpt of a document without paragraphs is empty. -/
theorem markLead_excerptTree_of_none (h : n.elements.find? Element.isParagraph = none) :
    n.excerptTree.markLead = .root [] := by
  rw [excerptTree, firstParagraph?_eq, h]
  rfl

end Manuscript.Node
