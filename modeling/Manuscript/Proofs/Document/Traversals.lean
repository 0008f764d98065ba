import Manuscript.Document.Role
import Manuscript.Proofs.Document.Leaves
import Manuscript.Proofs.Document.Walks

/-!
# Visiting and rewriting

A visit changes elements in place, and a rewriting walk puts a tree together anew from what its
callback returns. A function that revises elements can be used for either: as a visitor of the
selected elements, or as a callback that revises the selected elements, leaves all other nodes alone
and always goes on in the children. If it keeps the children of the elements, then both walks go
through the tree as it was: they give the same tree and the same state as a visit that cannot change
children, if only they may go as deep as the tree.

The function is called on the selected elements of the tree as it was before, on each of them once
and in pre-order. This is seen from a function that writes down what it is called on.

## Main definitions

* `Node.asVisitor` — a function that revises elements as a visitor that cannot change children
* `Node.KeepsChildren` — the functions that go through the tree as it was
* `Node.logged` — a function with a list of the elements that it was called on
* `Node.skeleton` — the shape of a tree, with its leaves

## Main results

* `isWalk_visit` — a visit does what a function that keeps children says
* `visit_logged` — the calls in a visit
* `skeleton_visit` — a visit keeps the shape and the leaves
* `traversals_agree` — all of this for a tree, and for each of the walks
-/

namespace Manuscript.Node

variable {σ : Type} {g : σ → Element → σ × Element} (select : Element → Bool)

/-- A function that revises elements as a visitor. What it does to children does not count. -/
def asVisitor (g : σ → Element → σ × Element) (s : σ) (e : Element) : σ × Revision :=
  ((g s e).1, ⟨(g s e).2.tag, (g s e).2.attributes, []⟩)

/-- A function that revises elements leaves their children alone. -/
def KeepsChildren (g : σ → Element → σ × Element) : Prop :=
  ∀ s e, (g s e).2.children = e.children

/-- A function that writes down, behind what is written already, the elements that it is called
on. -/
def logged (g : σ → Element → σ × Element) (s : σ × List Element) (e : Element) :
    (σ × List Element) × Element :=
  (((g s.1 e).1, s.2 ++ [e]), (g s.1 e).2)

theorem KeepsChildren.logged (hg : KeepsChildren g) : KeepsChildren (logged g) :=
  fun s e => hg s.1 e

mutual

/-- The shape of a tree: its nodes and its leaves, without the tags and the attributes of
elements. -/
def skeleton : Node → Node
  | .root children => .root (skeletonAll children)
  | .element _ _ children => .element "" ∅ (skeletonAll children)
  | .leaf kind value => .leaf kind value

/-- The shapes of trees that stand side by side. -/
def skeletonAll : List Node → List Node
  | [] => []
  | n :: rest => skeleton n :: skeletonAll rest

end

/-! ### The calls -/

mutual

/-- The calls in a visit are those on the selected elements, in pre-order, and writing them down
changes nothing else. -/
theorem visit_logged (g : σ → Element → σ × Element) : ∀ (n : Node) (s : σ) (log : List Element),
    n.visit select (asVisitor (logged g)) (s, log) =
      (((n.visit select (asVisitor g) s).1, log ++ n.elements.filter select),
        (n.visit select (asVisitor g) s).2)
  | .root children, s, log => by
    simp only [visit, elements, visitAll_logged g children s log]
  | .element tag attributes children, s, log => by
    cases hselect : select ⟨tag, attributes, children⟩ with
    | true =>
      rw [visit_element_of_selected select _ hselect rfl,
        visit_element_of_selected select _ hselect rfl, elements, List.filter_cons_of_pos hselect,
        List.append_cons]
      simp only [asVisitor, logged]
      rw [visitAll_logged g children]
    | false =>
      rw [visit_element_of_not_selected select _ hselect,
        visit_element_of_not_selected select _ hselect, elements,
        List.filter_cons_of_neg (Bool.eq_false_iff.mp hselect), visitAll_logged g children]
  | .leaf kind value, s, log => by
    simp only [visit, elements, List.filter_nil, List.append_nil]

theorem visitAll_logged (g : σ → Element → σ × Element) :
    ∀ (ns : List Node) (s : σ) (log : List Element),
      visitAll select (asVisitor (logged g)) (s, log) ns =
        (((visitAll select (asVisitor g) s ns).1, log ++ (elementsAll ns).filter select),
          (visitAll select (asVisitor g) s ns).2)
  | [], s, log => by simp only [visitAll, elementsAll, List.filter_nil, List.append_nil]
  | n :: rest, s, log => by
    simp only [visitAll, elementsAll, List.filter_append]
    rw [visit_logged g n, visitAll_logged g rest, List.append_assoc]

end

/-! ### The shape -/

section Skeleton

variable {f : σ → Element → σ × Revision}

mutual

/-- A visitor that adds no leaves keeps the shape. -/
theorem skeleton_visit (hadded : ∀ s e, (f s e).2.added = []) (s : σ) : ∀ n : Node,
    (n.visit select f s).2.skeleton = n.skeleton
  | .root children => congrArg root (skeletonAll_visitAll hadded s children)
  | .element tag attributes children => by
    cases h : select ⟨tag, attributes, children⟩ with
    | true =>
      rw [visit_element_of_selected select f h (hadded _ _)]
      exact congrArg (element "" ∅) (skeletonAll_visitAll hadded _ children)
    | false =>
      rw [visit_element_of_not_selected select f h]
      exact congrArg (element "" ∅) (skeletonAll_visitAll hadded s children)
  | .leaf kind value => rfl

theorem skeletonAll_visitAll (hadded : ∀ s e, (f s e).2.added = []) (s : σ) :
    ∀ ns : List Node, skeletonAll (visitAll select f s ns).2 = skeletonAll ns
  | [] => rfl
  | n :: rest => by
    simp only [visitAll, skeletonAll]
    rw [skeleton_visit hadded, skeletonAll_visitAll hadded]

end

end Skeleton

mutual

theorem depth_skeleton : ∀ n : Node, n.skeleton.depth = n.depth
  | .root children => congrArg (· + 1) (depthAll_skeletonAll children)
  | .element _ _ children => congrArg (· + 1) (depthAll_skeletonAll children)
  | .leaf _ _ => rfl

theorem depthAll_skeletonAll : ∀ ns : List Node, depthAll (skeletonAll ns) = depthAll ns
  | [] => rfl
  | n :: rest => by
    rw [skeletonAll, depthAll, depthAll, depth_skeleton n, depthAll_skeletonAll rest]

end

/-! ### The same tree and the same state -/

theorem visitAll_eq (f : σ → Element → σ × Revision) (s : σ) (ns : List Node) :
    visitAll select f s ns = mapWithState (visit select f) s ns := by
  induction ns generalizing s with
  | nil => rfl
  | cons n rest ih => simp only [visitAll, mapWithState, ih]

/-- A visit does what a function says that keeps the children of elements. -/
theorem isWalk_visit (hg : KeepsChildren g) :
    IsWalk (asRewriter select g) (visit select (asVisitor g)) := by
  intro s n
  cases n with
  | root children =>
    simp only [visit, visitAll_eq]
    rfl
  | element tag attributes children =>
    cases h : select ⟨tag, attributes, children⟩ with
    | true =>
      have hchildren := hg s ⟨tag, attributes, children⟩
      rw [visit_element_of_selected select (asVisitor g) h rfl, visitAll_eq]
      simp only [asRewriter, element?, h, if_true, Rewrite.follow, withChildren, Element.toNode,
        hchildren]
      rfl
    | false =>
      rw [visit_element_of_not_selected select (asVisitor g) h, visitAll_eq]
      simp only [asRewriter, element?, h, Bool.false_eq_true, if_false]
      rfl
  | leaf kind value => rfl

theorem depth_visit (s : σ) (n : Node) :
    (n.visit select (asVisitor g) s).2.depth = n.depth := by
  rw [← depth_skeleton, skeleton_visit select (fun _ _ => rfl) s n, depth_skeleton]

/-! ### Whole trees -/

variable {select} in
/-- Both walks come to a visit if they may go as deep as the tree. -/
theorem walks_eq_visit (hg : KeepsChildren g) (s : σ) {n : Node} {depth : Nat}
    (hdepth : n.depth ≤ depth) :
    visitMatching select g depth s n = n.visit select (asVisitor g) s ∧
      rewrite (asRewriter select g) depth s n = n.visit select (asVisitor g) s := by
  have hresult : (n.visit select (asVisitor g) s).2.depth ≤ depth :=
    Nat.le_trans (Nat.le_of_eq (depth_visit select s n)) hdepth
  exact ⟨(isWalk_visit select hg).visitMatching_eq s n hresult,
    (isWalk_visit select hg).rewrite_eq s n hresult⟩

/-- A function that revises elements and keeps their children makes of a tree the same in a visit
and in a rewriting walk that goes on everywhere: the tree and the state at the end are the same. In
both it is called on the selected elements of the tree, on each once and in pre-order. The tree
keeps its shape and its leaves. -/
theorem traversals_agree (hg : KeepsChildren g) (s : σ) (n : Node) :
    (∀ depth, n.depth ≤ depth →
        (visitMatching select g depth s n = n.visit select (asVisitor g) s ∧
          rewrite (asRewriter select g) depth s n = n.visit select (asVisitor g) s) ∧
        visitMatching select (logged g) depth (s, []) n =
            n.visit select (asVisitor (logged g)) (s, []) ∧
          rewrite (asRewriter select (logged g)) depth (s, []) n =
            n.visit select (asVisitor (logged g)) (s, [])) ∧
      n.visit select (asVisitor (logged g)) (s, []) =
        (((n.visit select (asVisitor g) s).1, n.elements.filter select),
          (n.visit select (asVisitor g) s).2) ∧
      (n.visit select (asVisitor g) s).2.skeleton = n.skeleton ∧
      (n.visit select (asVisitor g) s).2.leaves = n.leaves :=
  ⟨fun _ hdepth => ⟨walks_eq_visit hg s hdepth, walks_eq_visit hg.logged (s, []) hdepth⟩,
    visit_logged select g n s [], skeleton_visit select (fun _ _ => rfl) s n,
    leaves_visit select (fun _ _ => rfl) s n⟩

/-- Counts links, and marks each of them. -/
def markLink (count : Nat) (e : Element) : Nat × Element :=
  (count + 1, e.setText "rel" "noopener")

/-- A paragraph with a link in a link, and a link behind it. -/
def nestedLinks : Node :=
  .root [.element "p" ∅ [.element "a" ∅ [.text "notes", .element "a" ∅ []]], .element "a" ∅ []]

/-- Both walks find the three links, the inner one after the outer one. -/
theorem traversals_agree_nestedLinks :
    KeepsChildren markLink ∧ nestedLinks.depth ≤ 4 ∧
      visitMatching Element.isAnchor markLink 4 0 nestedLinks =
        rewrite (asRewriter Element.isAnchor markLink) 4 0 nestedLinks ∧
      (nestedLinks.visit Element.isAnchor (asVisitor markLink) 0).1 = 3 ∧
      (rewrite (asRewriter Element.isAnchor (logged markLink)) 4 (0, []) nestedLinks).1.2.map
        (·.children.length) = [2, 0, 0] := by
  have hkeeps : KeepsChildren markLink := fun _ _ => rfl
  have hdepth : nestedLinks.depth ≤ 4 := by decide
  obtain ⟨hagree, hcalls, -⟩ := traversals_agree Element.isAnchor hkeeps 0 nestedLinks
  obtain ⟨⟨hvisit, hrewrite⟩, -, hlogged⟩ := hagree 4 hdepth
  refine ⟨hkeeps, hdepth, hvisit.trans hrewrite.symm, rfl, ?_⟩
  rw [hlogged, hcalls]
  rfl

end Manuscript.Node
