import Manuscript.Markdown.Document
import Manuscript.Proofs.Document.Attributes
import Manuscript.Proofs.Document.Elements
import Manuscript.Proofs.Markdown.Parts

/-!
# The pieces of footnotes

Three kinds of elements belong to footnotes: the links made of references, the links back to them
and the section that collects the footnotes. Each kind is told by its tag and a mark among its
attributes. An author can write a component with the same tag and the same mark, so an element of
a document is either made for a footnote or written as a component.

## Main definitions

* `Drops` — a list without some of the elements of a kind
* `Element.isFootnoteAnchor`, `Element.isBackReference`, `Element.isFootnoteSection` — the three
  kinds
* `Node.pieces` — the elements of the three kinds in a tree
* `Markdown.Writes` — the document has a component with the tag and the attributes of an element

## Main results

* `Drops.append`, `Drops.filter` — dropping goes part by part
* `piecesAll_blockLines`, `piecesAll_withBackReferences` — the pieces of nodes that are put together
* `pieces_footnoteMark`, `pieces_footnoteSection` — the pieces that are made for footnotes
-/

namespace Manuscript

/-! ### Dropping elements -/

/-- The second list is the first one without some of the elements for which `p` holds. -/
inductive Drops {α : Type} (p : α → Prop) : List α → List α → Prop
  /-- Nothing is left of nothing. -/
  | nil : Drops p [] []
  /-- An element is kept. -/
  | keep {x : α} {xs ys : List α} : Drops p xs ys → Drops p (x :: xs) (x :: ys)
  /-- An element for which `p` holds is dropped. -/
  | drop {x : α} {xs ys : List α} : p x → Drops p xs ys → Drops p (x :: xs) ys

namespace Drops

variable {α : Type} {p : α → Prop} {xs ys xs' ys' : List α}

theorem refl (p : α → Prop) : ∀ xs : List α, Drops p xs xs
  | [] => .nil
  | _ :: rest => .keep (refl p rest)

theorem append (h : Drops p xs ys) (h' : Drops p xs' ys') : Drops p (xs ++ xs') (ys ++ ys') := by
  induction h with
  | nil => exact h'
  | keep _ ih => exact .keep ih
  | drop hx _ ih => exact .drop hx ih

/-- Dropping elements and choosing some for another reason can be done in either order. -/
theorem filter (q : α → Bool) (h : Drops p xs ys) : Drops p (xs.filter q) (ys.filter q) := by
  induction h with
  | nil => exact .nil
  | @keep x _ _ _ ih =>
    rw [List.filter_cons, List.filter_cons]
    split
    · exact .keep ih
    · exact ih
  | @drop x _ _ hx _ ih =>
    rw [List.filter_cons]
    split
    · exact .drop hx ih
    · exact ih

end Drops

/-! ### The three kinds -/

namespace Element

/-- Whether an element is marked as a link that refers to a footnote. -/
def isFootnoteAnchor (e : Element) : Bool :=
  e.tag = "a" && e.attributes.contains "data-footnote-ref"

/-- Whether an element is marked as a link back to a reference. -/
def isBackReference (e : Element) : Bool :=
  e.tag = "a" && e.attributes.contains "data-footnote-backref"

/-- Whether an element is marked as the section of footnotes. -/
def isFootnoteSection (e : Element) : Bool :=
  e.tag = "section" && e.attributes.contains "data-footnotes"

/-- Whether an element is of one of the three kinds. -/
def isFootnotePiece (e : Element) : Bool :=
  e.isFootnoteAnchor || e.isBackReference || e.isFootnoteSection

theorem isFootnotePiece_of_tag {e : Element} (ha : e.tag ≠ "a") (hsection : e.tag ≠ "section") :
    e.isFootnotePiece = false := by
  simp [isFootnotePiece, isFootnoteAnchor, isBackReference, isFootnoteSection, ha, hsection]

end Element

namespace Markdown

/-- The name and the attributes of the element that a component becomes. -/
def component? : Markdown → Option (String × Attributes)
  | .branch (.jsxFlow (some name) attributes) _ | .branch (.jsxText (some name) attributes) _ =>
    some (name, Lowering.jsxAttributes attributes)
  | _ => none

/-- A document has a component with the tag and the attributes of an element. -/
def Writes (m : Markdown) (e : Element) : Prop :=
  ∃ part ∈ m.parts, part.component? = some (e.tag, e.attributes)

end Markdown

namespace Node

/-- The elements of the three kinds in a tree, in pre-order. -/
def pieces (n : Node) : List Element := n.elements.filter Element.isFootnotePiece

/-- The elements of the three kinds in trees that stand side by side, in pre-order. -/
def piecesAll (ns : List Node) : List Element := (elementsAll ns).filter Element.isFootnotePiece

variable {tag : String} {attributes : Attributes} {children ns ms : List Node} {n : Node}

@[simp] theorem piecesAll_nil : piecesAll [] = [] := rfl

@[simp] theorem piecesAll_cons : piecesAll (n :: ns) = n.pieces ++ piecesAll ns :=
  List.filter_append ..

@[simp] theorem piecesAll_append : piecesAll (ns ++ ms) = piecesAll ns ++ piecesAll ms := by
  induction ns with
  | nil => rfl
  | cons n rest ih => simp [ih]

@[simp] theorem pieces_leaf {kind : LeafKind} {value : String} :
    (Node.leaf kind value).pieces = [] := rfl

/-- An element of one of the three kinds comes before the pieces inside it. -/
theorem pieces_element_of_piece (h : Element.isFootnotePiece ⟨tag, attributes, children⟩ = true) :
    (Node.element tag attributes children).pieces =
      ⟨tag, attributes, children⟩ :: piecesAll children := by
  rw [pieces, elements, List.filter_cons, if_pos h]
  rfl

/-- An element of another kind has the pieces inside it. -/
theorem pieces_element_of_not_piece
    (h : Element.isFootnotePiece ⟨tag, attributes, children⟩ = false) :
    (Node.element tag attributes children).pieces = piecesAll children := by
  rw [pieces, elements, List.filter_cons, if_neg (Bool.eq_false_iff.mp h)]
  rfl

@[simp] theorem pieces_element_of_tag (ha : tag ≠ "a") (hsection : tag ≠ "section") :
    (Node.element tag attributes children).pieces = piecesAll children :=
  pieces_element_of_not_piece (Element.isFootnotePiece_of_tag ha hsection)

end Node

/-! ### Nodes that are put together -/

namespace Lowering

open Node

variable {nodes backReferences content : List Node}

theorem piecesAll_intersperse {separator : Node} (h : separator.pieces = []) :
    ∀ nodes : List Node, piecesAll (nodes.intersperse separator) = piecesAll nodes
  | [] => rfl
  | [_] => rfl
  | n :: n' :: rest => by
    have ih := piecesAll_intersperse h (n' :: rest)
    rw [List.intersperse_cons_cons, piecesAll_cons, piecesAll_cons, ih, h]
    exact piecesAll_cons.symm

/-- Line feeds between blocks are no pieces. -/
@[simp] theorem piecesAll_blockLines (pad : Bool) (nodes : List Node) :
    piecesAll (blockLines pad nodes) = piecesAll nodes := by
  unfold blockLines
  split
  · simp_all
  · have hfeed : (Node.text "\n").pieces = [] := rfl
    cases pad <;> simp [piecesAll_intersperse hfeed]

@[simp] theorem piecesAll_checkBox {checked : Bool} : piecesAll (checkBox checked) = [] := by
  simp [checkBox]

@[simp] theorem pieces_itemElement {loose : Bool} {checked : Option Bool} :
    (itemElement loose checked content).pieces = piecesAll content := by
  cases checked <;> cases loose <;> simp [itemElement]

@[simp] theorem pieces_listElement {ordered hasTasks : Bool} {start : Option Nat} :
    (listElement ordered start hasTasks nodes).pieces = piecesAll nodes := by
  cases ordered <;> simp [listElement]

@[simp] theorem pieces_tableElement : (tableElement nodes).pieces = piecesAll nodes := by
  cases nodes with
  | nil => simp [tableElement]
  | cons head body => cases body <;> simp [tableElement]

@[simp] theorem pieces_codeBlock {value : String} {language info : Option String} :
    (codeBlock value language info).pieces = [] := by
  simp [codeBlock]

@[simp] theorem pieces_mathPlaceholder {class_ value : String} :
    (mathPlaceholder class_ value).pieces = [] := by
  simp [mathPlaceholder]

@[simp] theorem pieces_imageElement {alt : String} {target : Markdown.Target} :
    (imageElement alt target).pieces = [] := by
  simp [imageElement]

/-- A link that is no component has none of the marks. -/
@[simp] theorem pieces_anchorElement {target : Markdown.Target} {children : List Node} :
    (anchorElement target children).pieces = piecesAll children := by
  refine pieces_element_of_not_piece ?_
  cases target.title <;>
    simp [Element.isFootnotePiece, Element.isFootnoteAnchor, Element.isBackReference,
      Element.isFootnoteSection, titleAttribute, Attributes.ofList, Attributes.contains]

/-- The link made of a reference is of the first kind only. -/
theorem kinds_footnoteAnchor (id : String) (number n : Nat) :
    (footnoteAnchor id number n).isFootnoteAnchor = true ∧
      (footnoteAnchor id number n).isBackReference = false ∧
      (footnoteAnchor id number n).isFootnoteSection = false := by
  simp [footnoteAnchor, Element.isFootnoteAnchor, Element.isBackReference,
    Element.isFootnoteSection, Attributes.ofList, Attributes.contains]

/-- A link back is of the second kind only. -/
theorem kinds_backReference (id : String) (number n : Nat) :
    (backReference id number n).isFootnoteAnchor = false ∧
      (backReference id number n).isBackReference = true ∧
      (backReference id number n).isFootnoteSection = false := by
  simp [backReference, Element.isFootnoteAnchor, Element.isBackReference,
    Element.isFootnoteSection, Attributes.ofList, Attributes.contains]

/-- The section is of the third kind only. -/
theorem kinds_footnoteSection (items : List Node) :
    (footnoteSection items).isFootnoteAnchor = false ∧
      (footnoteSection items).isBackReference = false ∧
      (footnoteSection items).isFootnoteSection = true := by
  simp [footnoteSection, Element.isFootnoteAnchor, Element.isBackReference,
    Element.isFootnoteSection, Attributes.ofList, Attributes.contains]

/-- The mark of a reference has its link as its only piece. -/
@[simp] theorem pieces_footnoteMark {id : String} {number n : Nat} :
    (footnoteMark id number n).pieces = [footnoteAnchor id number n] := by
  have hanchor : (footnoteAnchor id number n).toNode.pieces = [footnoteAnchor id number n] := by
    refine pieces_element_of_piece ?_
    change (footnoteAnchor id number n).isFootnotePiece = true
    simp [Element.isFootnotePiece, kinds_footnoteAnchor]
  simp [footnoteMark, hanchor]

@[simp] theorem pieces_backReference {id : String} {number n : Nat} :
    (backReference id number n).toNode.pieces = [backReference id number n] := by
  refine pieces_element_of_piece ?_
  change (backReference id number n).isFootnotePiece = true
  simp [Element.isFootnotePiece, kinds_backReference]

/-- Wherever they are put, back references come behind the pieces of the content. -/
theorem piecesAll_withBackReferences :
    piecesAll (withBackReferences backReferences content) =
      piecesAll content ++ piecesAll backReferences := by
  have hspaces : ∀ bs : List Node,
      piecesAll (bs.flatMap fun b => [.text " ", b]) = piecesAll bs := by
    intro bs
    induction bs with
    | nil => rfl
    | cons b rest ih => simp [ih]
  unfold withBackReferences
  split
  -- the paragraph that takes them up is the last block, so they still come last
  · rename_i attrs children hlast
    obtain ⟨before, rfl⟩ := List.getLast?_eq_some_iff.mp hlast
    simp [hspaces]
  · exact piecesAll_append

/-- The section of footnotes comes before the pieces of its items. -/
theorem pieces_footnoteSection {items : List Node} :
    (footnoteSection items).toNode.pieces = footnoteSection items :: piecesAll items := by
  have hpiece : (footnoteSection items).isFootnotePiece = true := by
    simp [Element.isFootnotePiece, kinds_footnoteSection]
  refine (pieces_element_of_piece hpiece).trans ?_
  simp [footnoteSection]

end Lowering

end Manuscript
