import Manuscript.Document.Traversal

/-!
# The nodes of a tree

Everything that stands in a tree, at any depth, is a subtree of it. A visit goes through the
elements of a tree in pre-order. Its state is what the visitor makes of the selected elements one
after the other, as if they stood in a list.

## Main definitions

* `Node.subtrees` — the nodes of a tree, in pre-order
* `Node.elements`, `Node.tags` — the elements of a tree and their tags, in pre-order

## Main results

* `Node.inductionOn`, `Node.inductionOnChildren` — induction on trees
* `findFirst?_eq` — a search goes through the nodes
* `elements_eq` — the elements are among the nodes
* `visit_element_of_selected`, `visit_element_of_not_selected` — a visit of an element
* `fst_visit` — the state after a visit
* `tags_visit` — a visitor that renames nothing keeps the tags
* `mapAttributes_element` — what revising attributes does to an element
* `mapAttributes_eq_self` — trees in which there is nothing to revise
-/

namespace Manuscript.Node

/-- A property of trees that every tree has once its children have it. -/
@[elab_as_elim]
theorem inductionOn {motive : Node → Prop}
    (root : ∀ children, (∀ child ∈ children, motive child) → motive (.root children))
    (element : ∀ tag attributes children, (∀ child ∈ children, motive child) →
      motive (.element tag attributes children))
    (leaf : ∀ kind value, motive (.leaf kind value)) (n : Node) : motive n :=
  @Node.rec motive (fun ns => ∀ n ∈ ns, motive n) root element leaf
    (fun _ h => absurd h List.not_mem_nil)
    (fun _ _ hfirst hrest => List.forall_mem_cons.mpr ⟨hfirst, hrest⟩) n

/-- The same for a property that does not tell the kinds of nodes apart. -/
theorem inductionOnChildren {motive : Node → Prop}
    (step : ∀ n : Node, (∀ child ∈ n.children, motive child) → motive n) (n : Node) : motive n := by
  induction n using inductionOn with
  | root children ih => exact step _ ih
  | element tag attributes children ih => exact step _ ih
  | leaf kind value => exact step _ fun _ h => absurd h List.not_mem_nil

/-! ### Subtrees -/

mutual

/-- The nodes of a tree, the tree itself included, in pre-order. -/
def subtrees : Node → List Node
  | .root children => .root children :: subtreesAll children
  | .element tag attributes children =>
    .element tag attributes children :: subtreesAll children
  | .leaf kind value => [.leaf kind value]

/-- The nodes of trees that stand side by side, in pre-order. -/
def subtreesAll : List Node → List Node
  | [] => []
  | n :: rest => subtrees n ++ subtreesAll rest

end

theorem mem_subtreesAll {s : Node} {ns : List Node} :
    s ∈ subtreesAll ns ↔ ∃ n ∈ ns, s ∈ n.subtrees := by
  induction ns with
  | nil => simp [subtreesAll]
  | cons n rest ih => simp [subtreesAll, ih]

theorem self_mem_subtrees (n : Node) : n ∈ n.subtrees := by
  cases n <;> simp [subtrees]

/-- A subtree is the tree itself or stands in one of its children. -/
theorem mem_subtrees_iff {s n : Node} :
    s ∈ n.subtrees ↔ s = n ∨ ∃ child ∈ n.children, s ∈ child.subtrees := by
  cases n with
  | root children => rw [subtrees, List.mem_cons, mem_subtreesAll]; rfl
  | element tag attributes children => rw [subtrees, List.mem_cons, mem_subtreesAll]; rfl
  | leaf kind value => simp [subtrees, children, children?]

theorem hasTag_eq_true_iff {n : Node} {tag : String} :
    n.hasTag tag = true ↔ ∃ attributes children, n = .element tag attributes children := by
  cases n with
  | element t attributes children => simp [hasTag]
  | root children => simp [hasTag]
  | leaf kind value => simp [hasTag]

mutual

/-- A search finds the first node in pre-order. -/
theorem findFirst?_eq (p : Node → Bool) : ∀ n : Node, n.findFirst? p = n.subtrees.find? p
  | .root children => by
    rw [findFirst?, subtrees, List.find?_cons, findFirstIn?_eq]
    cases p (.root children) <;> rfl
  | .element tag attributes children => by
    rw [findFirst?, subtrees, List.find?_cons, findFirstIn?_eq]
    cases p (.element tag attributes children) <;> rfl
  | .leaf kind value => by
    rw [findFirst?, subtrees, List.find?_singleton]

theorem findFirstIn?_eq (p : Node → Bool) : ∀ ns : List Node,
    findFirstIn? p ns = (subtreesAll ns).find? p
  | [] => rfl
  | n :: rest => by
    rw [findFirstIn?, subtreesAll, List.find?_append, findFirst?_eq, findFirstIn?_eq]

end

/-! ### Elements -/

mutual

/-- The elements of a tree, in pre-order. -/
def elements : Node → List Element
  | .root children => elementsAll children
  | .element tag attributes children => ⟨tag, attributes, children⟩ :: elementsAll children
  | .leaf _ _ => []

/-- The elements of trees that stand side by side, in pre-order. -/
def elementsAll : List Node → List Element
  | [] => []
  | n :: rest => elements n ++ elementsAll rest

end

theorem mem_elementsAll {e : Element} {ns : List Node} :
    e ∈ elementsAll ns ↔ ∃ n ∈ ns, e ∈ n.elements := by
  induction ns with
  | nil => simp [elementsAll]
  | cons n rest ih => simp [elementsAll, ih]

theorem forall_mem_elementsAll {p : Element → Prop} {ns : List Node} :
    (∀ e ∈ elementsAll ns, p e) ↔ ∀ n ∈ ns, ∀ e ∈ n.elements, p e := by
  simp only [mem_elementsAll, forall_exists_index, and_imp]
  exact ⟨fun h n hn e he => h e n hn he, fun h e n hn he => h n hn e he⟩

mutual

/-- The elements of a tree are those among its nodes. -/
theorem elements_eq : ∀ n : Node, n.elements = n.subtrees.filterMap element?
  | .root children => by
    rw [elements, subtrees, List.filterMap_cons_none rfl, elementsAll_eq]
  | .element tag attributes children => by
    rw [elements, subtrees, elementsAll_eq]
    rfl
  | .leaf kind value => rfl

theorem elementsAll_eq : ∀ ns : List Node, elementsAll ns = (subtreesAll ns).filterMap element?
  | [] => rfl
  | n :: rest => by
    rw [elementsAll, subtreesAll, List.filterMap_append, elements_eq, elementsAll_eq]

end

theorem elementsAll_append (ns rest : List Node) :
    elementsAll (ns ++ rest) = elementsAll ns ++ elementsAll rest := by
  induction ns with
  | nil => rfl
  | cons n ns ih => rw [List.cons_append, elementsAll, elementsAll, ih, List.append_assoc]

/-- The elements of a tree are itself, if it is one, and those of its children. -/
theorem elements_eq_append (n : Node) :
    n.elements = n.element?.toList ++ elementsAll n.children := by
  cases n <;> rfl

theorem element?_eq_some_iff {n : Node} {e : Element} : n.element? = some e ↔ n = e.toNode := by
  cases n with
  | root children => simp [element?, Element.toNode]
  | element tag attributes children =>
    obtain ⟨t, a, ns⟩ := e
    simp [element?, Element.toNode]
  | leaf kind value => simp [element?, Element.toNode]

/-- An element of a tree is one of its nodes. -/
theorem mem_elements_iff {n : Node} {e : Element} : e ∈ n.elements ↔ e.toNode ∈ n.subtrees := by
  simp only [elements_eq, List.mem_filterMap, element?_eq_some_iff, exists_eq_right]

/-- The tags of the elements of a tree, in pre-order. -/
def tags (n : Node) : List String := n.elements.map (·.tag)

/-- The tags of the elements of trees that stand side by side, in pre-order. -/
def tagsAll (ns : List Node) : List String := (elementsAll ns).map (·.tag)

section Tags

variable {tag : String} {attributes : Attributes} {children ns : List Node}

theorem tags_root : (root children).tags = tagsAll children := rfl

theorem tags_element : (element tag attributes children).tags = tag :: tagsAll children := rfl

theorem tagsAll_cons (n : Node) (rest : List Node) : tagsAll (n :: rest) = n.tags ++ tagsAll rest :=
  List.map_append

theorem tagsAll_singleton (n : Node) : tagsAll [n] = n.tags := by
  rw [tagsAll_cons]
  exact List.append_nil _

theorem mem_tagsAll : tag ∈ tagsAll ns ↔ ∃ n ∈ ns, tag ∈ n.tags := by
  induction ns with
  | nil => simp [tagsAll, elementsAll]
  | cons n rest ih => simp [tagsAll_cons, ih]

end Tags

section Visit

variable {σ : Type} (select : Element → Bool) (f : σ → Element → σ × Revision)

/-- A selected element is revised before its children are visited. -/
theorem visit_element_of_selected {s : σ} {tag : String} {attributes : Attributes}
    {children : List Node} (h : select ⟨tag, attributes, children⟩ = true)
    (hadded : (f s ⟨tag, attributes, children⟩).2.added = []) :
    (Node.element tag attributes children).visit select f s =
      ((visitAll select f (f s ⟨tag, attributes, children⟩).1 children).1,
        .element (f s ⟨tag, attributes, children⟩).2.tag
          (f s ⟨tag, attributes, children⟩).2.attributes
          (visitAll select f (f s ⟨tag, attributes, children⟩).1 children).2) := by
  simp [visit, h, hadded]

/-- An element that is not selected stays, and its children are visited. -/
theorem visit_element_of_not_selected {s : σ} {tag : String} {attributes : Attributes}
    {children : List Node} (h : select ⟨tag, attributes, children⟩ = false) :
    (Node.element tag attributes children).visit select f s =
      ((visitAll select f s children).1,
        .element tag attributes (visitAll select f s children).2) := by
  simp [visit, h, Revision.same]

mutual

/-- The state after a visit is that after going through the selected elements in pre-order. -/
theorem fst_visit (s : σ) : ∀ n : Node,
    (n.visit select f s).1 = (n.elements.filter select).foldl (fun s e => (f s e).1) s
  | .root children => by
    rw [visit, elements]
    exact fst_visitAll s children
  | .element tag attributes children => by
    simp only [visit, elements]
    rw [fst_visitAll]
    by_cases h : select ⟨tag, attributes, children⟩ <;> simp [h]
  | .leaf kind value => rfl

theorem fst_visitAll (s : σ) : ∀ ns : List Node,
    (visitAll select f s ns).1 = ((elementsAll ns).filter select).foldl (fun s e => (f s e).1) s
  | [] => rfl
  | n :: rest => by
    simp only [visitAll, elementsAll]
    rw [fst_visitAll, fst_visit, List.filter_append, List.foldl_append]

end

variable {f}

mutual

/-- A visitor that renames nothing keeps the tags. -/
theorem tags_visit (hadded : ∀ s e, (f s e).2.added = []) (htag : ∀ s e, (f s e).2.tag = e.tag)
    (s : σ) : ∀ n : Node, (n.visit select f s).2.tags = n.tags
  | .root children => tagsAll_visitAll hadded htag s children
  | .element tag attributes children => by
    cases h : select ⟨tag, attributes, children⟩ with
    | true =>
      rw [visit_element_of_selected select f h (hadded _ _), tags_element, tags_element, htag,
        tagsAll_visitAll hadded htag]
    | false =>
      rw [visit_element_of_not_selected select f h, tags_element, tags_element,
        tagsAll_visitAll hadded htag]
  | .leaf kind value => rfl

theorem tagsAll_visitAll (hadded : ∀ s e, (f s e).2.added = [])
    (htag : ∀ s e, (f s e).2.tag = e.tag) (s : σ) :
    ∀ ns : List Node, tagsAll (visitAll select f s ns).2 = tagsAll ns
  | [] => rfl
  | n :: rest => by
    simp only [visitAll]
    rw [tagsAll_cons, tagsAll_cons, tags_visit hadded htag, tagsAll_visitAll hadded htag]

end

end Visit

/-! ### Revising attributes -/

/-- A visit without a state revises trees that stand side by side one by one. -/
theorem snd_visitAll_unit (select : Element → Bool) (f : Element → Revision) (ns : List Node) :
    (visitAll select (fun (_ : Unit) e => ((), f e)) () ns).2 =
      ns.map fun n => (n.visit select (fun (_ : Unit) e => ((), f e)) ()).2 := by
  induction ns with
  | nil => rfl
  | cons n rest ih =>
    simp only [visitAll, List.map_cons]
    rw [← ih]

section MapAttributes

variable (select : Element → Bool) (f : Element → Attributes)

@[simp] theorem mapAttributes_root (children : List Node) :
    (Node.root children).mapAttributes select f =
      .root (children.map (mapAttributes select f)) :=
  congrArg root (snd_visitAll_unit ..)

theorem mapAttributes_element (tag : String) (attributes : Attributes) (children : List Node) :
    (Node.element tag attributes children).mapAttributes select f =
      .element tag
        (if select ⟨tag, attributes, children⟩ then f ⟨tag, attributes, children⟩ else attributes)
        (children.map (mapAttributes select f)) := by
  have hchildren : (visitAll select
      (fun (_ : Unit) e => ((), Revision.withAttributes e (f e))) () children).2 =
        children.map (mapAttributes select f) := snd_visitAll_unit ..
  cases h : select ⟨tag, attributes, children⟩ with
  | true =>
    rw [mapAttributes, visit_element_of_selected _ _ h rfl, hchildren]
    rfl
  | false =>
    rw [mapAttributes, visit_element_of_not_selected _ _ h, hchildren]
    rfl

/-- If no element of a tree is selected, the tree stays. -/
theorem mapAttributes_eq_self {n : Node} (h : ∀ e ∈ n.elements, select e = false) :
    n.mapAttributes select f = n := by
  induction n using inductionOn with
  | root children ih =>
    have hchildren : ∀ child ∈ children, child.mapAttributes select f = child :=
      fun child hchild => ih child hchild (forall_mem_elementsAll.mp h child hchild)
    rw [mapAttributes_root, List.map_congr_left hchildren, List.map_id']
  | element tag attributes children ih =>
    obtain ⟨hself, hbelow⟩ := List.forall_mem_cons.mp h
    have hchildren : ∀ child ∈ children, child.mapAttributes select f = child :=
      fun child hchild => ih child hchild (forall_mem_elementsAll.mp hbelow child hchild)
    rw [mapAttributes_element, hself, List.map_congr_left hchildren, List.map_id']
    rfl
  | leaf kind value => rfl

end MapAttributes

end Manuscript.Node
