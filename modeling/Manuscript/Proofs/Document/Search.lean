import Mathlib.Data.List.Lex
import Manuscript.Proofs.Document.Places

/-!
# Searching a tree

A search goes down a tree and stops as soon as it can: it does not look below a node that it has
found, nor into the children behind the one in which it has found something. What it finds is the
first of all nodes in pre-order for which its predicate holds, and it finds nothing only if there is
no such node.

The first node is meant as a place, since a tree may have equal nodes at several places: no node at
an earlier place will do.

## Main definitions

* `Node.IsFirstNodeAt` — the first node of a tree for which a predicate holds, with its place

## Main results

* `subtrees_eq_cons` — the nodes of a tree are itself and those of its children
* `findFirst?_eq_some_iff_of_children` — what a search finds, level by level
* `findFirst?_spec` — what a search finds, in terms of all nodes
-/

namespace Manuscript.Node

variable {p : Node → Bool} {n m m' : Node} {place place' : List Nat}

/-- Of the nodes of a tree for which `p` holds, `m` is the first one in pre-order, and stands at a
place. -/
structure IsFirstNodeAt (n : Node) (p : Node → Bool) (place : List Nat) (m : Node) : Prop where
  /-- The node is at the place. -/
  nodeAt?_eq : n.nodeAt? place = some m
  /-- The predicate holds for it. -/
  holds : p m = true
  /-- It holds for no node at an earlier place. -/
  not_earlier : ∀ earlier other, n.nodeAt? earlier = some other →
    List.Lex (· < ·) earlier place → p other = false

theorem subtreesAll_eq_flatMap (ns : List Node) : subtreesAll ns = ns.flatMap subtrees := by
  induction ns with
  | nil => rfl
  | cons n rest ih => rw [subtreesAll, ih, List.flatMap_cons]

/-- The nodes of a tree are the tree itself and then the nodes of its children, child by child. -/
theorem subtrees_eq_cons (n : Node) : n.subtrees = n :: n.children.flatMap subtrees := by
  cases n with
  | root children => rw [subtrees, subtreesAll_eq_flatMap]; rfl
  | element tag attributes children => rw [subtrees, subtreesAll_eq_flatMap]; rfl
  | leaf kind value => rfl

/-- A search finds nothing if and only if its predicate holds for no node. -/
theorem findFirst?_eq_none_iff : n.findFirst? p = none ↔ ∀ m ∈ n.subtrees, p m = false := by
  rw [findFirst?_eq, List.find?_eq_none]
  simp only [Bool.not_eq_true]

/-- A search finds the tree itself or, if that will not do, what it finds in the first child in
which it finds something. -/
theorem findFirst?_eq_some_iff_of_children :
    n.findFirst? p = some m ↔
      p n = true ∧ n = m ∨
        p n = false ∧ ∃ before child after, n.children = before ++ child :: after ∧
          child.findFirst? p = some m ∧ ∀ c ∈ before, c.findFirst? p = none := by
  simp only [findFirst?_eq]
  rw [subtrees_eq_cons]
  cases h : p n with
  | true => simp [h]
  | false => simp [h, List.find?_flatMap, List.findSome?_eq_some_iff]

/-! ### Places -/

/-- What a search finds is the first node at its place. -/
theorem exists_isFirstNodeAt (h : n.findFirst? p = some m) :
    ∃ place, n.IsFirstNodeAt p place m := by
  induction n using inductionOnChildren with
  | step n ih =>
    rcases findFirst?_eq_some_iff_of_children.mp h with
      ⟨hself, rfl⟩ | ⟨hself, before, child, after, hchildren, hchild, hbefore⟩
    · exact ⟨[], rfl, hself, fun _ _ _ hlex => absurd hlex List.not_lex_nil⟩
    · have hmem : child ∈ n.children := by simp [hchildren]
      have hat : n.children[before.length]? = some child := by simp [hchildren]
      obtain ⟨place, hplace, hholds, hearlier⟩ := ih child hmem hchild
      refine ⟨before.length :: place, nodeAt?_cons_eq_some_iff.mpr ⟨child, hat, hplace⟩, hholds, ?_⟩
      intro earlier other hother
      cases earlier with
      | nil =>
        obtain rfl := Option.some.inj hother
        exact fun _ => hself
      | cons j below =>
        obtain ⟨c, hc, hother⟩ := nodeAt?_cons_eq_some_iff.mp hother
        rw [List.cons_lex_cons_iff]
        rintro (hlt | ⟨rfl, hbelow⟩)
        · -- nothing is found in an earlier child
          rw [hchildren, List.getElem?_append_left hlt] at hc
          exact findFirst?_eq_none_iff.mp (hbefore c (List.mem_of_getElem? hc)) other
            (mem_subtrees_iff_exists_nodeAt?.mpr ⟨below, hother⟩)
        · obtain rfl : child = c := Option.some.inj (hat.symm.trans hc)
          exact hearlier below other hother hbelow

/-- There is one first node at most. -/
theorem IsFirstNodeAt.unique (h : n.IsFirstNodeAt p place m) (h' : n.IsFirstNodeAt p place' m') :
    place = place' ∧ m = m' := by
  have hnot : ¬ List.Lex (· < ·) place place' := by
    intro hlex
    exact Bool.false_ne_true ((h'.not_earlier place m h.nodeAt?_eq hlex).symm.trans h.holds)
  have hnot' : ¬ List.Lex (· < ·) place' place := by
    intro hlex
    exact Bool.false_ne_true ((h.not_earlier place' m' h'.nodeAt?_eq hlex).symm.trans h'.holds)
  obtain rfl : place = place' := Std.Trichotomous.trichotomous place place' hnot hnot'
  exact ⟨rfl, Option.some.inj (h.nodeAt?_eq.symm.trans h'.nodeAt?_eq)⟩

/-- A search finds a node if and only if it is the first one. -/
theorem findFirst?_eq_some_iff : n.findFirst? p = some m ↔ ∃ place, n.IsFirstNodeAt p place m := by
  refine ⟨exists_isFirstNodeAt, fun ⟨place, hfirst⟩ => ?_⟩
  have hmem : m ∈ n.subtrees := mem_subtrees_iff_exists_nodeAt?.mpr ⟨place, hfirst.nodeAt?_eq⟩
  cases hfound : n.findFirst? p with
  | none =>
    exact absurd hfirst.holds (Bool.eq_false_iff.mp (findFirst?_eq_none_iff.mp hfound m hmem))
  | some m' =>
    obtain ⟨place', hfirst'⟩ := exists_isFirstNodeAt hfound
    rw [(hfirst.unique hfirst').2]

/-- A search finds the first node in pre-order for which its predicate holds: the first one in the
list of a tree's nodes, which is the tree itself and then the lists of its children, and the one at
the first place. It finds nothing if and only if the predicate holds for no node. -/
theorem findFirst?_spec (p : Node → Bool) (n : Node) :
    n.subtrees = n :: n.children.flatMap subtrees ∧
      n.findFirst? p = n.subtrees.find? p ∧
      (∀ m, n.findFirst? p = some m ↔ ∃ place, n.IsFirstNodeAt p place m) ∧
      (n.findFirst? p = none ↔ ∀ m ∈ n.subtrees, p m = false) :=
  ⟨subtrees_eq_cons n, findFirst?_eq p n, fun _ => findFirst?_eq_some_iff, findFirst?_eq_none_iff⟩

end Manuscript.Node
