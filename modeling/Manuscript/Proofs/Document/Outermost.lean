import Manuscript.Proofs.Document.Places
import Manuscript.Proofs.Document.Walks

/-!
# Outermost elements

Of some selected elements of a tree, the outermost ones are those that stand in no other. No two of
their places lie on one way from the root, so each of them can be replaced on its own, in any order,
and nothing else of the tree is touched by it.

## Main definitions

* `Node.IsOutermostAt` — an outermost element and its place
* `Node.outermost` — the outermost elements with their places, in pre-order
* `Node.replaceEach` — a tree with other nodes at several places
* `Node.replaceOutermost` — a tree with its outermost elements replaced one after the other

## Main results

* `mem_outermost_iff`, `pairwise_outermost` — the list has each outermost element once, in pre-order
* `isWalk_replaceOutermost` — replacing them is a walk that does not go on in what it put in
-/

namespace Manuscript.Node

/-- An element of some kind at a place of a tree, with none of the kind around it. -/
structure IsOutermostAt (n : Node) (kind : Element → Prop) (place : List Nat) (e : Element) :
    Prop where
  /-- The element is at the place. -/
  nodeAt?_eq : n.nodeAt? place = some e.toNode
  /-- It is of the kind. -/
  isKind : kind e
  /-- No element on the way to the place is of the kind. -/
  not_around : ∀ above i below around, place = above ++ i :: below →
    n.nodeAt? above = some (Element.toNode around) → ¬ kind around

mutual

/-- The outermost selected elements of a tree with their places, in pre-order. -/
def outermost (select : Element → Bool) : Node → List (List Nat × Element)
  | .root children => outermostFrom select 0 children
  | .element tag attributes children =>
    if select ⟨tag, attributes, children⟩ then [([], ⟨tag, attributes, children⟩)]
    else outermostFrom select 0 children
  | .leaf _ _ => []

/-- The outermost selected elements of the children of a tree, from the child with an index on. -/
def outermostFrom (select : Element → Bool) (i : Nat) : List Node → List (List Nat × Element)
  | [] => []
  | n :: rest =>
    (outermost select n).map (fun found => (i :: found.1, found.2)) ++
      outermostFrom select (i + 1) rest

end

/-- A tree with other nodes at some places, put there one after the other. -/
def replaceEach (n : Node) (results : List (List Nat × Node)) : Node :=
  results.foldl (fun n result => n.replaceAt result.1 result.2) n

section Replacer

variable {σ : Type} (select : Element → Bool) (new : σ → Element → σ × Node)

/-- The rewriting callback that replaces the selected elements, without going on in what it put in
their place. -/
def replacer (s : σ) (n : Node) : σ × Rewrite :=
  match n.element? with
  | some e => if select e then ((new s e).1, .skip (new s e).2) else (s, .descend n)
  | none => (s, .descend n)

/-- What is put at the place of an element that was found there. -/
def newAt (s : σ) (found : List Nat × Element) : σ × (List Nat × Node) :=
  ((new s found.2).1, found.1, (new s found.2).2)

/-- A tree with its outermost selected elements replaced, from the first in pre-order to the last. -/
def replaceOutermost (s : σ) (n : Node) : σ × Node :=
  ((mapWithState (newAt new) s (n.outermost select)).1,
    n.replaceEach (mapWithState (newAt new) s (n.outermost select)).2)

end Replacer

variable {kind : Element → Prop} {select : Element → Bool} {n : Node} {ns before : List Node}
  {i : Nat} {place : List Nat} {e : Element}

/-! ### The list of them -/

theorem isOutermostAt_nil_iff : n.IsOutermostAt kind [] e ↔ n = e.toNode ∧ kind e := by
  constructor
  · rintro ⟨hnode, hkind, -⟩
    exact ⟨Option.some.inj hnode, hkind⟩
  · rintro ⟨rfl, hkind⟩
    refine ⟨rfl, hkind, ?_⟩
    intro above i below around hplace
    simp at hplace

/-- An outermost element below the root of a tree is one of the child that it stands in, and the root
is none. -/
theorem isOutermostAt_cons_iff :
    n.IsOutermostAt kind (i :: place) e ↔
      (∀ own, n.element? = some own → ¬ kind own) ∧
        ∃ child, n.children[i]? = some child ∧ child.IsOutermostAt kind place e := by
  constructor
  · rintro ⟨hnode, hkind, haround⟩
    obtain ⟨child, hchild, hbelow⟩ := nodeAt?_cons_eq_some_iff.mp hnode
    refine ⟨?_, child, hchild, hbelow, hkind, ?_⟩
    · intro own hown
      exact haround [] i place own rfl (congrArg some (element?_eq_some_iff.mp hown))
    · rintro above j below around rfl habove
      exact haround (i :: above) j below around rfl
        (nodeAt?_cons_eq_some_iff.mpr ⟨child, hchild, habove⟩)
  · rintro ⟨hown, child, hchild, hnode, hkind, haround⟩
    refine ⟨nodeAt?_cons_eq_some_iff.mpr ⟨child, hchild, hnode⟩, hkind, ?_⟩
    intro above j below around hplace habove
    -- the way begins at the root, and goes on in the child
    cases above with
    | nil => exact hown around (element?_eq_some_iff.mpr (Option.some.inj habove))
    | cons k above =>
      obtain ⟨rfl, rfl⟩ := List.cons.inj hplace
      obtain ⟨m, hm, habove⟩ := nodeAt?_cons_eq_some_iff.mp habove
      obtain rfl : child = m := Option.some.inj (hchild.symm.trans hm)
      exact haround above j below around rfl habove

theorem mem_outermostFrom_iff :
    (place, e) ∈ outermostFrom select i ns ↔
      ∃ j n below, ns[j]? = some n ∧ place = (i + j) :: below ∧ (below, e) ∈ n.outermost select := by
  induction ns generalizing i with
  | nil => simp [outermostFrom]
  | cons n rest ih =>
    rw [outermostFrom, List.mem_append, List.mem_map, ih]
    constructor
    · rintro (⟨⟨below, found⟩, hfound, heq⟩ | ⟨j, m, below, hm, rfl, hfound⟩)
      · obtain ⟨rfl, rfl⟩ := Prod.mk.inj heq
        exact ⟨0, n, below, rfl, rfl, hfound⟩
      · exact ⟨j + 1, m, below, hm, by rw [Nat.add_right_comm, Nat.add_assoc], hfound⟩
    · rintro ⟨j, m, below, hm, rfl, hfound⟩
      cases j with
      | zero =>
        obtain rfl : n = m := Option.some.inj hm
        exact .inl ⟨(below, e), hfound, rfl⟩
      | succ j => exact .inr ⟨j, m, below, hm, by rw [Nat.add_right_comm, Nat.add_assoc], hfound⟩

theorem outermost_of_selected (hself : n.element? = some e) (h : select e = true) :
    n.outermost select = [([], e)] := by
  obtain rfl := element?_eq_some_iff.mp hself
  rw [Element.toNode, outermost, if_pos h]

theorem outermost_of_not_selected (h : ∀ own, n.element? = some own → ¬ select own = true) :
    n.outermost select = outermostFrom select 0 n.children := by
  cases n with
  | root children => rfl
  | element tag attributes children =>
    rw [outermost, if_neg (h _ rfl)]
    rfl
  | leaf kind value => rfl

/-- The list has the outermost elements and no others. -/
theorem mem_outermost_iff :
    (place, e) ∈ n.outermost select ↔ n.IsOutermostAt (select · = true) place e := by
  induction n using inductionOnChildren generalizing place with
  | step n ih =>
    by_cases hself : ∃ own, n.element? = some own ∧ select own = true
    · -- what stands in a selected element is not looked at
      obtain ⟨own, hself, hselect⟩ := hself
      rw [outermost_of_selected hself hselect, List.mem_singleton]
      cases place with
      | nil =>
        rw [isOutermostAt_nil_iff, ← element?_eq_some_iff, hself]
        grind
      | cons i place => simp [isOutermostAt_cons_iff, hself, hselect]
    · have hnot : ∀ own, n.element? = some own → ¬ select own = true :=
        fun own hown hselect => hself ⟨own, hown, hselect⟩
      rw [outermost_of_not_selected hnot, mem_outermostFrom_iff]
      cases place with
      | nil =>
        rw [isOutermostAt_nil_iff, ← element?_eq_some_iff]
        grind
      | cons i place =>
        rw [isOutermostAt_cons_iff, and_iff_right hnot]
        constructor
        · rintro ⟨j, child, below, hchild, heq, hfound⟩
          obtain ⟨rfl, rfl⟩ := List.cons.inj heq
          rw [Nat.zero_add]
          exact ⟨child, hchild, (ih child (List.mem_of_getElem? hchild)).mp hfound⟩
        · rintro ⟨child, hchild, hfound⟩
          exact ⟨i, child, place, hchild, by rw [Nat.zero_add],
            (ih child (List.mem_of_getElem? hchild)).mpr hfound⟩

mutual

/-- The list is in pre-order, so that it has no place twice. -/
theorem pairwise_outermost (select : Element → Bool) : ∀ n : Node,
    (n.outermost select).Pairwise fun a b => List.Lex (· < ·) a.1 b.1
  | .root children => pairwise_outermostFrom select 0 children
  | .element tag attributes children => by
    rw [outermost]
    split
    · exact List.pairwise_singleton _ _
    · exact pairwise_outermostFrom select 0 children
  | .leaf kind value => .nil

theorem pairwise_outermostFrom (select : Element → Bool) (i : Nat) : ∀ ns : List Node,
    (outermostFrom select i ns).Pairwise fun a b => List.Lex (· < ·) a.1 b.1
  | [] => .nil
  | n :: rest => by
    rw [outermostFrom, List.pairwise_append, List.pairwise_map]
    refine ⟨(pairwise_outermost select n).imp fun h => .cons h,
      pairwise_outermostFrom select (i + 1) rest, ?_⟩
    -- a later child has a greater index
    rintro a ha ⟨place, e⟩ hb
    obtain ⟨found, -, rfl⟩ := List.mem_map.mp ha
    obtain ⟨j, m, below, -, rfl, -⟩ := mem_outermostFrom_iff.mp hb
    exact .rel (by omega)

end

/-! ### Replacing them -/

theorem replaceEach_append {results more : List (List Nat × Node)} :
    n.replaceEach (results ++ more) = (n.replaceEach results).replaceEach more :=
  List.foldl_append

/-- Replacing at places in one child replaces in that child. -/
theorem replaceEach_map_cons {wrap : List Node → Node}
    (hwrap : ∀ ns i place m, (wrap ns).replaceAt (i :: place) m =
      wrap (ns.modify i (·.replaceAt place m)))
    (results : List (List Nat × Node)) :
    (wrap (before ++ n :: ns)).replaceEach
        (results.map fun result => (before.length :: result.1, result.2)) =
      wrap (before ++ n.replaceEach results :: ns) := by
  induction results generalizing n with
  | nil => rfl
  | cons first rest ih =>
    rw [List.map_cons]
    simp only [replaceEach, List.foldl_cons]
    rw [hwrap, modify_append_cons]
    exact ih

section Replacer

variable {σ : Type} {new : σ → Element → σ × Node}

/-- What is put into a tree does not depend on where the tree stands. -/
theorem mapWithState_newAt_map_cons (s : σ) (i : Nat) (found : List (List Nat × Element)) :
    mapWithState (newAt new) s (found.map fun found => (i :: found.1, found.2)) =
      ((mapWithState (newAt new) s found).1,
        (mapWithState (newAt new) s found).2.map fun result => (i :: result.1, result.2)) :=
  mapWithState_map id (fun found : List Nat × Element => (i :: found.1, found.2))
    (fun result : List Nat × Node => (i :: result.1, result.2)) (fun _ _ => rfl) s found

/-- Replacing the outermost elements of several children replaces those of one after the other. -/
theorem replaceOutermost_children (s : σ) (before ns : List Node) {wrap : List Node → Node}
    (hwrap : ∀ ns i place m, (wrap ns).replaceAt (i :: place) m =
      wrap (ns.modify i (·.replaceAt place m))) :
    ((mapWithState (newAt new) s (outermostFrom select before.length ns)).1,
      (wrap (before ++ ns)).replaceEach
        (mapWithState (newAt new) s (outermostFrom select before.length ns)).2) =
      ((mapWithState (replaceOutermost select new) s ns).1,
        wrap (before ++ (mapWithState (replaceOutermost select new) s ns).2)) := by
  induction ns generalizing s before with
  | nil => rfl
  | cons n rest ih =>
    have hnext := ih (replaceOutermost select new s n).1
      (before ++ [(replaceOutermost select new s n).2])
    simp only [List.length_append, List.length_singleton, List.append_assoc,
      List.singleton_append] at hnext
    rw [outermostFrom, mapWithState_append, mapWithState_newAt_map_cons, replaceEach_append,
      replaceEach_map_cons hwrap]
    exact hnext

/-- Replacing the outermost elements is a walk that goes past what it replaces. -/
theorem isWalk_replaceOutermost (select : Element → Bool) (new : σ → Element → σ × Node) :
    IsWalk (replacer select new) (replaceOutermost select new) := by
  intro s n
  by_cases hself : ∃ own, n.element? = some own ∧ select own = true
  · -- such an element is replaced at the root of its own tree
    obtain ⟨own, hself, hselect⟩ := hself
    rw [replaceOutermost, outermost_of_selected hself hselect]
    simp only [replacer, hself, hselect, if_true]
    rfl
  · have hnot : ∀ own, n.element? = some own → ¬ select own = true :=
      fun own hown hselect => hself ⟨own, hown, hselect⟩
    have hgoes : replacer select new s n = (s, .descend n) := by
      unfold replacer
      split
      · exact if_neg (hnot _ ‹_›)
      · rfl
    rw [replaceOutermost, outermost_of_not_selected hnot, hgoes]
    cases n with
    | root children => exact replaceOutermost_children s [] children (fun _ _ _ _ => rfl)
    | element tag attributes children =>
      exact replaceOutermost_children s [] children (fun _ _ _ _ => rfl)
    | leaf kind value => rfl

end Replacer

end Manuscript.Node
