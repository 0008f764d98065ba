import Manuscript.Proofs.Document.Leaves
import Manuscript.Document.Headings

/-!
# Levels of headings

The levels of the headings of a tree are listed in pre-order, and the least of them is the one that
decides how far the headings are moved. All headings are moved by the same distance, so moving them
renames headings and touches nothing else, and no heading becomes anything but a heading.

## Main definitions

* `Node.levels` — the levels of the headings of a tree, in pre-order
* `Node.leastLevel` — the least level, or zero for a tree without headings
* `Node.shiftHeadings` — a tree with its headings moved for a given least level

## Main results

* `minHeadingLevel?_eq` — the least level is found
* `headingLevel?_normalizedTag` — the level of a heading that was moved
* `normalizeHeadings_eq` — moving headings, for trees with headings and without
* `shiftHeadings_element` — what moving headings does to an element
-/

namespace Manuscript.Node

variable {tag : String} {attributes : Attributes} {children : List Node} {least level : Nat}

/-- The levels of the headings of a tree, in pre-order. -/
def levels (n : Node) : List Nat := n.tags.filterMap headingLevel?

/-- The levels of the headings of trees that stand side by side, in pre-order. -/
def levelsAll (ns : List Node) : List Nat := (tagsAll ns).filterMap headingLevel?

/-- The least level of the headings of a tree, or zero if it has none. -/
def leastLevel (n : Node) : Nat := n.levels.min?.getD 0

/-- A tree with all headings moved as in a document of a given least level. -/
def shiftHeadings (least : Nat) (n : Node) : Node :=
  (n.visit Element.isHeading
    (fun (_ : Unit) e => ((), ⟨normalizedTag least e.tag, e.attributes, []⟩)) ()).2

/-! ### The least level -/

theorem levels_root : (root children).levels = levelsAll children := rfl

theorem levels_element :
    (element tag attributes children).levels =
      (headingLevel? tag).toList ++ levelsAll children := by
  cases h : headingLevel? tag <;> simp [levels, levelsAll, tags_element, h]

theorem levelsAll_cons (n : Node) (rest : List Node) :
    levelsAll (n :: rest) = n.levels ++ levelsAll rest := by
  rw [levelsAll, tagsAll_cons, List.filterMap_append, levels, levelsAll]

theorem mem_levelsAll {ns : List Node} : level ∈ levelsAll ns ↔ ∃ n ∈ ns, level ∈ n.levels := by
  induction ns with
  | nil => simp [levelsAll, tagsAll, elementsAll]
  | cons n rest ih => simp [levelsAll_cons, ih]

theorem levelsAll_eq_nil_iff {ns : List Node} : levelsAll ns = [] ↔ ∀ n ∈ ns, n.levels = [] := by
  induction ns with
  | nil => simp [levelsAll, tagsAll, elementsAll]
  | cons n rest ih => simp [levelsAll_cons, ih]

private theorem lesserLevel_assoc (a b c : Option Nat) :
    lesserLevel (lesserLevel a b) c = lesserLevel a (lesserLevel b c) := by
  cases a <;> cases b <;> cases c <;> simp [lesserLevel, Nat.min_assoc]

private theorem min?_cons_eq (level : Nat) (rest : List Nat) :
    (level :: rest).min? = lesserLevel (some level) rest.min? := by
  rw [List.min?_cons]
  cases rest.min? <;> rfl

private theorem min?_append (front back : List Nat) :
    (front ++ back).min? = lesserLevel front.min? back.min? := by
  induction front with
  | nil => cases h : back.min? <;> simp [lesserLevel, h]
  | cons level rest ih =>
    rw [List.cons_append, min?_cons_eq, ih, min?_cons_eq, lesserLevel_assoc]

mutual

/-- The least level of the headings of a tree is found. -/
theorem minHeadingLevel?_eq : ∀ n : Node, n.minHeadingLevel? = n.levels.min?
  | .root children => by
    rw [minHeadingLevel?, levels_root]
    exact minHeadingLevelAll?_eq children
  | .element tag attributes children => by
    rw [minHeadingLevel?, levels_element, min?_append, minHeadingLevelAll?_eq]
    cases headingLevel? tag <;> rfl
  | .leaf kind value => rfl

theorem minHeadingLevelAll?_eq : ∀ ns : List Node, minHeadingLevelAll? ns = (levelsAll ns).min?
  | [] => rfl
  | n :: rest => by
    rw [minHeadingLevelAll?, levelsAll_cons, min?_append, minHeadingLevel?_eq,
      minHeadingLevelAll?_eq]

end

theorem leastLevel_le {n : Node} (h : level ∈ n.levels) : n.leastLevel ≤ level := by
  obtain ⟨least, hleast⟩ := Option.isSome_iff_exists.mp (List.isSome_min?_of_mem h)
  rw [leastLevel, hleast]
  exact (List.min?_eq_some_iff.mp hleast).2 level h

/-! ### Moving one heading -/

/-- What is no heading keeps its tag. -/
theorem normalizedTag_of_none (h : headingLevel? tag = none) : normalizedTag least tag = tag := by
  rw [normalizedTag, h]

/-- A heading is moved to the level that is its own, less the least one, plus two, but to no lower
one than level six. -/
theorem headingLevel?_normalizedTag (hlevel : headingLevel? tag = some level)
    (hleast : least ≤ level) :
    headingLevel? (normalizedTag least tag) = some (min (level + 2 - least) 6) := by
  simp only [normalizedTag, hlevel]
  have hlower : 2 ≤ min (level + 2 - least) 6 := by omega
  have hupper : min (level + 2 - least) 6 ≤ 6 := Nat.min_le_right _ _
  generalize min (level + 2 - least) 6 = moved at hlower hupper ⊢
  -- five levels are left
  obtain rfl | rfl | rfl | rfl | rfl :
      moved = 2 ∨ moved = 3 ∨ moved = 4 ∨ moved = 5 ∨ moved = 6 := by omega
  all_goals rfl

/-! ### Moving all headings -/

theorem shiftHeadings_root :
    (root children).shiftHeadings least = .root (children.map (shiftHeadings least)) :=
  congrArg root (snd_visitAll_unit ..)

/-- Moving headings renames elements and touches nothing else of them. -/
theorem shiftHeadings_element :
    (element tag attributes children).shiftHeadings least =
      .element (normalizedTag least tag) attributes (children.map (shiftHeadings least)) := by
  have hchildren : (visitAll Element.isHeading
      (fun (_ : Unit) e => ((), ⟨normalizedTag least e.tag, e.attributes, []⟩)) () children).2 =
        children.map (shiftHeadings least) := snd_visitAll_unit ..
  cases h : headingLevel? tag with
  | some level =>
    have hselected : Element.isHeading ⟨tag, attributes, children⟩ = true :=
      Option.isSome_of_eq_some h
    rw [shiftHeadings, visit_element_of_selected _ _ hselected rfl, hchildren]
  | none =>
    have hselected : Element.isHeading ⟨tag, attributes, children⟩ = false := by
      rw [Element.isHeading, h]
      rfl
    rw [shiftHeadings, visit_element_of_not_selected _ _ hselected, hchildren,
      normalizedTag_of_none h]

theorem leaves_shiftHeadings (n : Node) : (n.shiftHeadings least).leaves = n.leaves :=
  leaves_visit Element.isHeading (fun _ _ => rfl) () n

/-- A tree without headings stays. -/
theorem shiftHeadings_eq_self (n : Node) (h : n.levels = []) : n.shiftHeadings least = n := by
  induction n using inductionOn with
  | root children ih =>
    have hchildren : ∀ child ∈ children, child.levels = [] := levelsAll_eq_nil_iff.mp h
    rw [shiftHeadings_root, List.map_congr_left fun child hchild =>
      ih child hchild (hchildren child hchild), List.map_id']
  | element tag attributes children ih =>
    rw [levels_element, List.append_eq_nil_iff] at h
    have htag : headingLevel? tag = none := Option.toList_eq_nil_iff.mp h.1
    have hchildren : ∀ child ∈ children, child.levels = [] := levelsAll_eq_nil_iff.mp h.2
    rw [shiftHeadings_element, normalizedTag_of_none htag, List.map_congr_left fun child hchild =>
      ih child hchild (hchildren child hchild), List.map_id']
  | leaf kind value => rfl

/-- The headings of a document are moved as its least level demands; without headings it stays. -/
theorem normalizeHeadings_eq (n : Node) :
    n.normalizeHeadings = n.shiftHeadings n.leastLevel := by
  rw [normalizeHeadings, minHeadingLevel?_eq, leastLevel]
  cases h : n.levels.min? with
  | none => exact (shiftHeadings_eq_self n (List.min?_eq_none_iff.mp h)).symm
  | some least => rfl

end Manuscript.Node
