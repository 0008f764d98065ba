import Manuscript.Proofs.Document.Elements

/-!
# Places in a tree

The place of a node is the way to it from the root of its tree: the index of a child, then that of
one of its children, and so on. Places are ordered as words in a dictionary, and nodes stand in
pre-order as their places do: a node comes before what stands in it, and what stands in a child comes
before what stands in a later one.

## Main definitions

* `Node.nodeAt?`, `Node.replaceAt` — the node at a place, and a tree with another node there
* `Node.IsFirstAt` — the first selected element of a tree, with its place

## Main results

* `mem_subtrees_iff_exists_nodeAt?` — the nodes of a tree are those at its places
* `isFirstAt_cons_iff` — the first selected element from the point of view of the child it stands in
* `exists_isFirstAt` — there is a first one if there is any
* `IsFirstAt.find?_eq` — it is the first one in the list of elements
* `IsFirstAt.replaceAt` — what is put in its place is the first one then
-/

namespace Manuscript.Node

/-- The node at a place, if the place is in the tree. -/
def nodeAt? : Node → List Nat → Option Node
  | n, [] => some n
  | n, i :: place => n.children[i]?.bind (·.nodeAt? place)

/-- A tree with another node at a place. A place that is not in the tree leaves it as it is. -/
def replaceAt : Node → List Nat → Node → Node
  | _, [], new => new
  | .root children, i :: place, new => .root (children.modify i (·.replaceAt place new))
  | .element tag attributes children, i :: place, new =>
    .element tag attributes (children.modify i (·.replaceAt place new))
  | .leaf kind value, _ :: _, _ => .leaf kind value

/-- Of the selected elements of a tree, `e` is the first one in pre-order, and stands at a place. -/
structure IsFirstAt (n : Node) (select : Element → Bool) (place : List Nat) (e : Element) :
    Prop where
  /-- The element is at the place. -/
  nodeAt?_eq : n.nodeAt? place = some e.toNode
  /-- The element is selected. -/
  selected : select e = true
  /-- No selected element is at an earlier place. -/
  not_lex : ∀ other e', n.nodeAt? other = some (Element.toNode e') → select e' = true →
    ¬ List.Lex (· < ·) other place

variable {n child s new : Node} {ns before after : List Node} {i : Nat} {place : List Nat}
  {e e' : Element} {select : Element → Bool}

/-! ### The node at a place -/

theorem nodeAt?_cons_eq_some_iff :
    n.nodeAt? (i :: place) = some s ↔
      ∃ child, n.children[i]? = some child ∧ child.nodeAt? place = some s := by
  rw [nodeAt?, Option.bind_eq_some_iff]

/-- The nodes of a tree are those at its places. -/
theorem mem_subtrees_iff_exists_nodeAt? : s ∈ n.subtrees ↔ ∃ place, n.nodeAt? place = some s := by
  constructor
  · intro h
    induction n using inductionOnChildren with
    | step n ih =>
      rcases mem_subtrees_iff.mp h with rfl | ⟨child, hchild, hs⟩
      · exact ⟨[], rfl⟩
      · obtain ⟨place, hplace⟩ := ih child hchild hs
        obtain ⟨i, hi⟩ := List.mem_iff_getElem?.mp hchild
        exact ⟨i :: place, nodeAt?_cons_eq_some_iff.mpr ⟨child, hi, hplace⟩⟩
  · rintro ⟨place, h⟩
    induction place generalizing n with
    | nil =>
      obtain rfl := Option.some.inj h
      exact self_mem_subtrees n
    | cons i place ih =>
      obtain ⟨child, hchild, h⟩ := nodeAt?_cons_eq_some_iff.mp h
      exact mem_subtrees_iff.mpr (.inr ⟨child, List.mem_of_getElem? hchild, ih h⟩)

/-- The elements of a tree are those at its places. -/
theorem mem_elements_iff_exists_nodeAt? :
    e ∈ n.elements ↔ ∃ place, n.nodeAt? place = some e.toNode := by
  rw [mem_elements_iff, mem_subtrees_iff_exists_nodeAt?]

/-! ### Another node at a place -/

theorem modify_append_cons (g : Node → Node) :
    (before ++ child :: after).modify before.length g = before ++ g child :: after := by
  induction before with
  | nil => simp
  | cons m before ih => simp [ih]

theorem replaceAt_nil : n.replaceAt [] new = new := by
  cases n <;> rfl

/-- Replacing below the root replaces in one child. -/
theorem children_replaceAt_cons :
    (n.replaceAt (i :: place) new).children = n.children.modify i (·.replaceAt place new) := by
  cases n with
  | root children => rfl
  | element tag attributes children => rfl
  | leaf kind value => simp [replaceAt, children, children?]

/-- Replacing below the root keeps the tag and the attributes of the root. -/
theorem exists_element?_of_replaceAt_cons
    (h : (n.replaceAt (i :: place) new).element? = some e) :
    ∃ children, n.element? = some ⟨e.tag, e.attributes, children⟩ := by
  cases n with
  | root children => cases h
  | element tag attributes children =>
    obtain rfl := Option.some.inj h
    exact ⟨children, rfl⟩
  | leaf kind value => cases h

/-- What was put at a place is lost when the place is taken again. -/
theorem replaceAt_replaceAt (lost : Node) :
    (n.replaceAt place lost).replaceAt place new = n.replaceAt place new := by
  induction place generalizing n with
  | nil => rw [replaceAt_nil, replaceAt_nil]
  | cons i place ih =>
    have hchild : (fun child : Node => child.replaceAt place new) ∘
        (fun child : Node => child.replaceAt place lost) =
          fun child : Node => child.replaceAt place new :=
      funext fun _ => ih
    cases n with
    | root children => simp only [replaceAt, List.modify_modify_eq, hchild]
    | element tag attributes children => simp only [replaceAt, List.modify_modify_eq, hchild]
    | leaf kind value => rfl

/-! ### The first selected element -/

theorem isFirstAt_nil_iff : n.IsFirstAt select [] e ↔ n = e.toNode ∧ select e = true := by
  constructor
  · rintro ⟨hnode, hselected, -⟩
    exact ⟨Option.some.inj hnode, hselected⟩
  · rintro ⟨rfl, hselected⟩
    exact ⟨rfl, hselected, fun _ _ _ _ => List.not_lex_nil⟩

private theorem getElem?_eq_some_iff_append :
    ns[i]? = some child ↔ ∃ before after, ns = before ++ child :: after ∧ before.length = i := by
  constructor
  · intro h
    obtain ⟨hi, rfl⟩ := List.getElem?_eq_some_iff.mp h
    refine ⟨ns.take i, ns.drop (i + 1), ?_, List.length_take_of_le (Nat.le_of_lt hi)⟩
    rw [← List.drop_eq_getElem_cons hi, List.take_append_drop]
  · rintro ⟨before, after, rfl, rfl⟩
    simp

/-- The first selected element of a tree that is none itself stands in a child if none stands in an
earlier one, and it is the first one of the child. -/
theorem isFirstAt_cons_iff :
    n.IsFirstAt select (i :: place) e ↔
      (∀ own, n.element? = some own → select own = false) ∧
        ∃ before child after, n.children = before ++ child :: after ∧ before.length = i ∧
          (∀ e' ∈ elementsAll before, select e' = false) ∧ child.IsFirstAt select place e := by
  constructor
  · rintro ⟨hnode, hselected, hearlier⟩
    obtain ⟨child, hchild, hbelow⟩ := nodeAt?_cons_eq_some_iff.mp hnode
    obtain ⟨before, after, hchildren, rfl⟩ := getElem?_eq_some_iff_append.mp hchild
    refine ⟨?_, before, child, after, hchildren, rfl, ?_, hbelow, hselected, ?_⟩
    · -- the place of the tree itself would be an earlier one
      intro own hown
      refine Bool.eq_false_iff.mpr fun hselected => ?_
      have hroot : n.nodeAt? [] = some own.toNode := congrArg some (element?_eq_some_iff.mp hown)
      exact hearlier [] own hroot hselected .nil
    · -- and so would be a place in an earlier child
      intro e' he'
      refine Bool.eq_false_iff.mpr fun hselected => ?_
      obtain ⟨m, hm, he'⟩ := mem_elementsAll.mp he'
      obtain ⟨other, hother⟩ := mem_elements_iff_exists_nodeAt?.mp he'
      obtain ⟨j, hj⟩ := List.mem_iff_getElem?.mp hm
      have hlt : j < before.length := (List.getElem?_eq_some_iff.mp hj).1
      have hat : n.children[j]? = some m := by
        rw [hchildren, List.getElem?_append_left hlt, hj]
      have hbelow' : n.nodeAt? (j :: other) = some e'.toNode :=
        nodeAt?_cons_eq_some_iff.mpr ⟨m, hat, hother⟩
      exact hearlier (j :: other) e' hbelow' hselected (.rel hlt)
    · -- an earlier place in the same child is one in the tree as well
      intro other e' hother he' hlex
      have hbelow' : n.nodeAt? (before.length :: other) = some e'.toNode :=
        nodeAt?_cons_eq_some_iff.mpr ⟨child, hchild, hother⟩
      exact hearlier (before.length :: other) e' hbelow' he' (.cons hlex)
  · rintro ⟨hown, before, child, after, hchildren, rfl, hbefore, hnode, hselected, hearlier⟩
    have hchild : n.children[before.length]? = some child :=
      getElem?_eq_some_iff_append.mpr ⟨before, after, hchildren, rfl⟩
    refine ⟨nodeAt?_cons_eq_some_iff.mpr ⟨child, hchild, hnode⟩, hselected, ?_⟩
    intro other e' hother he'
    cases other with
    | nil =>
      -- the tree itself is not selected
      have hnot := hown e' (element?_eq_some_iff.mpr (Option.some.inj hother))
      exact absurd he' (Bool.eq_false_iff.mp hnot)
    | cons j other =>
      obtain ⟨m, hm, hother⟩ := nodeAt?_cons_eq_some_iff.mp hother
      rw [List.cons_lex_cons_iff]
      rintro (hlt | ⟨rfl, hlex⟩)
      · -- no selected element stands in an earlier child
        rw [hchildren, List.getElem?_append_left hlt] at hm
        have hmem := mem_elementsAll.mpr
          ⟨m, List.mem_of_getElem? hm, mem_elements_iff_exists_nodeAt?.mpr ⟨other, hother⟩⟩
        exact absurd he' (Bool.eq_false_iff.mp (hbefore e' hmem))
      · obtain rfl : child = m := Option.some.inj (hchild.symm.trans hm)
        exact hearlier other e' hother he' hlex

private theorem exists_first_child (h : ∃ e ∈ elementsAll ns, select e = true) :
    ∃ before child after, ns = before ++ child :: after ∧
      (∀ e ∈ elementsAll before, select e = false) ∧ ∃ e ∈ child.elements, select e = true := by
  induction ns with
  | nil => simp [elementsAll] at h
  | cons n rest ih =>
    by_cases hn : ∃ e ∈ n.elements, select e = true
    · exact ⟨[], n, rest, rfl, by simp [elementsAll], hn⟩
    · simp only [elementsAll, List.mem_append, or_and_right, exists_or] at h
      obtain ⟨before, child, after, rfl, hbefore, hchild⟩ := ih (h.resolve_left hn)
      refine ⟨n :: before, child, after, rfl, ?_, hchild⟩
      rw [elementsAll, List.forall_mem_append]
      refine ⟨fun e he => Bool.eq_false_iff.mpr fun hselected => hn ⟨e, he, hselected⟩, hbefore⟩

/-- If any element of a tree is selected, one is the first. -/
theorem exists_isFirstAt (h : ∃ e ∈ n.elements, select e = true) :
    ∃ place e, n.IsFirstAt select place e := by
  induction n using inductionOnChildren with
  | step n ih =>
    by_cases hown : ∃ own, n.element? = some own ∧ select own = true
    · obtain ⟨own, hown, hselected⟩ := hown
      exact ⟨[], own, isFirstAt_nil_iff.mpr ⟨element?_eq_some_iff.mp hown, hselected⟩⟩
    · have hnot : ∀ own, n.element? = some own → select own = false := by
        intro own heq
        exact Bool.eq_false_iff.mpr fun hselected => hown ⟨own, heq, hselected⟩
      have hbelow : ∃ e ∈ elementsAll n.children, select e = true := by
        obtain ⟨e, he, hselected⟩ := h
        rw [elements_eq_append, List.mem_append, Option.mem_toList] at he
        exact ⟨e, he.resolve_left fun heq => hown ⟨e, heq, hselected⟩, hselected⟩
      obtain ⟨before, child, after, hchildren, hbefore, hchild⟩ := exists_first_child hbelow
      obtain ⟨place, e, hfirst⟩ := ih child (by simp [hchildren]) hchild
      exact ⟨before.length :: place, e,
        isFirstAt_cons_iff.mpr ⟨hnot, before, child, after, hchildren, rfl, hbefore, hfirst⟩⟩

/-- The first selected element is the first one in the list of elements. -/
theorem IsFirstAt.find?_eq (h : n.IsFirstAt select place e) : n.elements.find? select = some e := by
  induction place generalizing n with
  | nil =>
    obtain ⟨rfl, hselected⟩ := isFirstAt_nil_iff.mp h
    exact List.find?_cons_of_pos hselected
  | cons i place ih =>
    obtain ⟨hown, before, child, after, hchildren, -, hbefore, hfirst⟩ := isFirstAt_cons_iff.mp h
    have hself : n.element?.toList.find? select = none := by
      simpa [List.find?_eq_none] using hown
    have hnone : (elementsAll before).find? select = none := by
      simpa [List.find?_eq_none] using hbefore
    rw [elements_eq_append, hchildren, elementsAll_append, elementsAll, List.find?_append,
      List.find?_append, List.find?_append, hself, hnone, ih hfirst]
    rfl

/-- What is put in the place of the first selected element is the first one then, if children do not
matter for the selection. -/
theorem IsFirstAt.replaceAt (hselect : ∀ (e : Element) children,
      select ⟨e.tag, e.attributes, children⟩ = select e)
    (h : n.IsFirstAt select place e) (he' : select e' = true) :
    (n.replaceAt place e'.toNode).IsFirstAt select place e' := by
  induction place generalizing n with
  | nil => exact isFirstAt_nil_iff.mpr ⟨replaceAt_nil, he'⟩
  | cons i place ih =>
    obtain ⟨hown, before, child, after, hchildren, rfl, hbefore, hfirst⟩ := isFirstAt_cons_iff.mp h
    refine isFirstAt_cons_iff.mpr ⟨?_, before, child.replaceAt place e'.toNode, after, ?_, rfl,
      hbefore, ih hfirst⟩
    · -- the root is none before, and only its children are others now
      intro own hown'
      obtain ⟨children, hold⟩ := exists_element?_of_replaceAt_cons hown'
      rw [← hselect own children]
      exact hown _ hold
    · rw [children_replaceAt_cons, hchildren, modify_append_cons]

end Manuscript.Node
