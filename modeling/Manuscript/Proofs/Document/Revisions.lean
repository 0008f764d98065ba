import Mathlib.Data.List.Forall2
import Manuscript.Proofs.Document.Elements

/-!
# Trees with other attributes

A pass that revises attributes keeps the shape of a tree: every node stays at its place, tags and
leaves are as before, and all that may differ are the attributes of elements. How the attributes of
an element may change is given by a relation, which may look at the whole element.

## Main definitions

* `Node.RevisedBy` — the trees that come from a tree by other attributes

## Main results

* `revisedBy_mapAttributes_iff` — what a pass makes of a tree, in terms of single elements
* `mapAttributes_mapAttributes` — passes that are settled after the first time
-/

namespace Manuscript.Node

/-- The trees that come from a tree when each element `e` gets attributes `new` with `R e new`. All
nodes keep their place, and tags and leaves stay. -/
inductive RevisedBy (R : Element → Attributes → Prop) : Node → Node → Prop
  /-- A root. -/
  | root {children below : List Node} (hbelow : List.Forall₂ (RevisedBy R) children below) :
      RevisedBy R (.root children) (.root below)
  /-- An element. -/
  | element {tag : String} {attributes new : Attributes} {children below : List Node}
      (hnew : R ⟨tag, attributes, children⟩ new)
      (hbelow : List.Forall₂ (RevisedBy R) children below) :
      RevisedBy R (.element tag attributes children) (.element tag new below)
  /-- A leaf. -/
  | leaf {kind : LeafKind} {value : String} : RevisedBy R (.leaf kind value) (.leaf kind value)

variable {R : Element → Attributes → Prop} {tag : String} {attributes new : Attributes}
  {children below : List Node}

theorem revisedBy_root_iff :
    RevisedBy R (.root children) (.root below) ↔ List.Forall₂ (RevisedBy R) children below := by
  constructor
  · rintro ⟨hbelow⟩
    exact hbelow
  · exact .root

theorem revisedBy_element_iff :
    RevisedBy R (.element tag attributes children) (.element tag new below) ↔
      R ⟨tag, attributes, children⟩ new ∧ List.Forall₂ (RevisedBy R) children below := by
  constructor
  · intro h
    cases h with
    | element hnew hbelow => exact ⟨hnew, hbelow⟩
  · rintro ⟨hnew, hbelow⟩
    exact .element hnew hbelow

/-- A pass that revises attributes makes of each element what it makes of it on its own: the tree is
revised by a relation if and only if every element is. -/
theorem revisedBy_mapAttributes_iff {select : Element → Bool} {f : Element → Attributes} {n : Node} :
    RevisedBy R n (n.mapAttributes select f) ↔
      ∀ e ∈ n.elements, R e (if select e then f e else e.attributes) := by
  -- side by side, trees are revised if and only if each of them is
  have hall (ns : List Node) (h : ∀ n ∈ ns, RevisedBy R n (n.mapAttributes select f) ↔
      ∀ e ∈ n.elements, R e (if select e then f e else e.attributes)) :
      List.Forall₂ (RevisedBy R) ns (ns.map (mapAttributes select f)) ↔
        ∀ e ∈ elementsAll ns, R e (if select e then f e else e.attributes) := by
    rw [List.forall₂_map_right_iff, List.forall₂_same, forall_mem_elementsAll]
    exact forall₂_congr h
  induction n using inductionOn with
  | root children ih => rw [mapAttributes_root, revisedBy_root_iff, hall children ih, elements]
  | element tag attributes children ih =>
    rw [mapAttributes_element, revisedBy_element_iff, hall children ih, elements,
      List.forall_mem_cons]
  | leaf kind value =>
    constructor
    · intro _ e he
      cases he
    · intro _
      exact .leaf

/-- A pass that selects elements by their tags, and leaves attributes alone that it has revised,
changes nothing when it is applied again. -/
theorem mapAttributes_mapAttributes {select : Element → Bool} {f : Element → Attributes}
    (hselect : ∀ (e : Element) attributes children,
      select ⟨e.tag, attributes, children⟩ = select e)
    (hsettled : ∀ e children, select e = true → f ⟨e.tag, f e, children⟩ = f e) (n : Node) :
    (n.mapAttributes select f).mapAttributes select f = n.mapAttributes select f := by
  have hall (ns : List Node)
      (h : ∀ n ∈ ns, (n.mapAttributes select f).mapAttributes select f = n.mapAttributes select f) :
      (ns.map (mapAttributes select f)).map (mapAttributes select f) =
        ns.map (mapAttributes select f) := by
    rw [List.map_map]
    exact List.map_congr_left h
  induction n using inductionOn with
  | root children ih => rw [mapAttributes_root, mapAttributes_root, hall children ih]
  | element tag attributes children ih =>
    rw [mapAttributes_element, mapAttributes_element, hall children ih]
    have hagain := hselect ⟨tag, attributes, children⟩
    cases h : select ⟨tag, attributes, children⟩ with
    | true => simp [hagain, h, hsettled ⟨tag, attributes, children⟩ _ h]
    | false => simp [hagain, h]
  | leaf kind value => rfl

end Manuscript.Node
