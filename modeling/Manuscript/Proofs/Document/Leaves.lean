import Manuscript.Proofs.Document.Elements

/-!
# The leaves of a tree

What a tree says is in its leaves. They are listed in pre-order, so whatever changes elements only
keeps the list, and the text of the tree is that of the text leaves among them.

## Main definitions

* `Node.leaves` — the leaves of a tree, in pre-order
* `Node.textOf` — the text that leaves show

## Main results

* `leavesAll_map` — what keeps the leaves of each tree keeps those of trees side by side
* `leaves_visit`, `leaves_mapAttributes` — a visitor that adds no leaves keeps them
* `textContent_eq` — the leaves decide the text
-/

namespace Manuscript.Node

mutual

/-- The leaves of a tree with their kinds, in pre-order. -/
def leaves : Node → List (LeafKind × String)
  | .root children | .element _ _ children => leavesAll children
  | .leaf kind value => [(kind, value)]

/-- The leaves of trees that stand side by side. -/
def leavesAll : List Node → List (LeafKind × String)
  | [] => []
  | n :: rest => leaves n ++ leavesAll rest

end

/-- The text that leaves show: that of the text leaves among them. -/
def textOf : List (LeafKind × String) → String
  | [] => ""
  | (.text, value) :: rest => value ++ textOf rest
  | _ :: rest => textOf rest

variable {ns : List Node}

theorem leavesAll_append (ns rest : List Node) :
    leavesAll (ns ++ rest) = leavesAll ns ++ leavesAll rest := by
  induction ns with
  | nil => rfl
  | cons n ns ih => rw [List.cons_append, leavesAll, leavesAll, ih, List.append_assoc]

theorem leavesAll_singleton (n : Node) : leavesAll [n] = n.leaves := List.append_nil _

/-- What keeps the leaves of each tree keeps those of trees side by side. -/
theorem leavesAll_map {g : Node → Node} (h : ∀ n ∈ ns, (g n).leaves = n.leaves) :
    leavesAll (ns.map g) = leavesAll ns := by
  induction ns with
  | nil => rfl
  | cons n rest ih =>
    obtain ⟨hfirst, hrest⟩ := List.forall_mem_cons.mp h
    rw [List.map_cons, leavesAll, leavesAll, hfirst, ih hrest]

/-! ### Text -/

theorem textOf_append (leaves more : List (LeafKind × String)) :
    textOf (leaves ++ more) = textOf leaves ++ textOf more := by
  induction leaves with
  | nil => rw [List.nil_append, textOf, String.empty_append]
  | cons leaf rest ih =>
    obtain ⟨kind, value⟩ := leaf
    cases kind with
    | text => rw [List.cons_append, textOf, textOf, ih, String.append_assoc]
    | comment => exact ih
    | raw => exact ih
    | expression => exact ih

mutual

/-- The leaves of a tree decide its text. -/
theorem textContent_eq : ∀ n : Node, n.textContent = textOf n.leaves
  | .root children => by
    rw [textContent, leaves]
    exact textContentAll_eq children
  | .element tag attributes children => by
    rw [textContent, leaves]
    exact textContentAll_eq children
  | .leaf kind value => by
    cases kind with
    | text => rw [textContent, leaves, textOf, textOf, String.append_empty]
    | comment => rfl
    | raw => rfl
    | expression => rfl

theorem textContentAll_eq : ∀ ns : List Node, textContentAll ns = textOf (leavesAll ns)
  | [] => rfl
  | n :: rest => by
    rw [textContentAll, leavesAll, textOf_append, textContent_eq, textContentAll_eq]

end

theorem textContentAll_append (ns rest : List Node) :
    textContentAll (ns ++ rest) = textContentAll ns ++ textContentAll rest := by
  simp only [textContentAll_eq, leavesAll_append, textOf_append]

theorem textContentAll_singleton (n : Node) : textContentAll [n] = n.textContent :=
  String.append_empty

/-- What keeps the leaves of each tree keeps the text of trees side by side. -/
theorem textContentAll_map {g : Node → Node} (h : ∀ n ∈ ns, (g n).leaves = n.leaves) :
    textContentAll (ns.map g) = textContentAll ns := by
  rw [textContentAll_eq, textContentAll_eq, leavesAll_map h]

/-! ### Visits -/

section Visit

variable {σ : Type} (select : Element → Bool) {f : σ → Element → σ × Revision}

mutual

/-- A visitor that adds no leaves keeps the leaves. -/
theorem leaves_visit (hadded : ∀ s e, (f s e).2.added = []) (s : σ) : ∀ n : Node,
    (n.visit select f s).2.leaves = n.leaves
  | .root children => by
    simp only [visit, leaves]
    exact leavesAll_visitAll hadded s children
  | .element tag attributes children => by
    cases h : select ⟨tag, attributes, children⟩ with
    | true =>
      rw [visit_element_of_selected select f h (hadded _ _)]
      exact leavesAll_visitAll hadded _ children
    | false =>
      rw [visit_element_of_not_selected select f h]
      exact leavesAll_visitAll hadded s children
  | .leaf kind value => rfl

theorem leavesAll_visitAll (hadded : ∀ s e, (f s e).2.added = []) (s : σ) :
    ∀ ns : List Node, leavesAll (visitAll select f s ns).2 = leavesAll ns
  | [] => rfl
  | n :: rest => by
    simp only [visitAll, leavesAll]
    rw [leaves_visit hadded, leavesAll_visitAll hadded]

end

/-- A visitor that adds no leaves keeps the text. -/
theorem textContentAll_visitAll (hadded : ∀ s e, (f s e).2.added = []) (s : σ)
    (ns : List Node) : textContentAll (visitAll select f s ns).2 = textContentAll ns := by
  rw [textContentAll_eq, textContentAll_eq, leavesAll_visitAll select hadded]

end Visit

/-- Revising attributes keeps the leaves. -/
theorem leaves_mapAttributes (select : Element → Bool) (f : Element → Attributes) (n : Node) :
    (n.mapAttributes select f).leaves = n.leaves :=
  leaves_visit select (fun _ _ => rfl) () n

end Manuscript.Node
