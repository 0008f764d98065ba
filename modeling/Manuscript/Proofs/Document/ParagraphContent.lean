import Mathlib.Data.List.Basic
import Mathlib.Data.List.Flatten
import Manuscript.Proofs.Document.NestedParagraphs

/-!
# What collapsing paragraphs keeps

The nodes of a tree are listed in pre-order, each without what stands in it. Collapsing paragraphs
drops some of them from the list, adds none and moves none, and what it drops are paragraphs and
blank texts. As blanks are all that these say, the text of the tree keeps its other characters.

## Main definitions

* `Node.bareNodes` — the nodes of a tree without what stands in them, in pre-order
* `Node.isContent` — whether a node is neither a paragraph nor a blank text
* `Text.inked` — the characters of a text that are not blank

## Main results

* `filter_bareNodes_collapseParagraphs` — other nodes than paragraphs and blank texts are kept
* `sublist_bareNodes_collapseParagraphs` — no node is added, changed or moved
* `inked_textContent` — the inked characters of a text are those of its content
* `collapseParagraphs_content` — all of this for a whole tree
-/

namespace Manuscript

/-- The characters of a text that are not blank, in order. -/
def Text.inked (text : String) : List Char := text.toList.filter fun c => !Text.isBlank c

namespace Node

/-- A node without what stands in it. -/
def bare : Node → Node
  | .root _ => .root []
  | .element tag attributes _ => .element tag attributes []
  | .leaf kind value => .leaf kind value

/-- The nodes of a tree without what stands in them, in pre-order. -/
def bareNodes (n : Node) : List Node := n.subtrees.map bare

/-- Whether a node is neither a paragraph nor a blank text. -/
def isContent (n : Node) : Bool := !n.hasTag "p" && !n.isBlankText

/-- The characters of a text leaf that are not blank; other nodes have none of their own. -/
def ink : Node → List Char
  | .leaf .text value => Text.inked value
  | _ => []

variable {tag : String} {attributes : Attributes} {children ns : List Node} {n p : Node}

/-! ### Bare nodes -/

theorem map_bare_subtreesAll (ns : List Node) : (subtreesAll ns).map bare = ns.flatMap bareNodes := by
  induction ns with
  | nil => rfl
  | cons n rest ih => rw [subtreesAll, List.map_append, ih, List.flatMap_cons, bareNodes]

theorem bareNodes_root : (root children).bareNodes = .root [] :: children.flatMap bareNodes := by
  rw [bareNodes, subtrees, List.map_cons, map_bare_subtreesAll, bare]

theorem bareNodes_element :
    (element tag attributes children).bareNodes =
      .element tag attributes [] :: children.flatMap bareNodes := by
  rw [bareNodes, subtrees, List.map_cons, map_bare_subtreesAll, bare]

/-- The nodes of a child are among those of its parent. -/
theorem sublist_bareNodes_of_mem_children (h : p ∈ n.children) : p.bareNodes.Sublist n.bareNodes := by
  have hbelow : p.bareNodes.Sublist (n.children.flatMap bareNodes) :=
    List.sublist_flatten_of_mem (List.mem_map_of_mem h)
  cases n with
  | root children =>
    rw [bareNodes_root]
    exact hbelow.cons _
  | element tag attributes children =>
    rw [bareNodes_element]
    exact hbelow.cons _
  | leaf kind value => cases h

/-- A blank text has no content. -/
theorem filter_bareNodes_of_isBlankText (h : n.isBlankText = true) :
    n.bareNodes.filter isContent = [] := by
  cases n with
  | leaf kind value => simp [bareNodes, subtrees, bare, isContent, h]
  | root children => cases h
  | element tag attributes children => cases h

/-- A shell has the content of the paragraph in it. -/
theorem IsShellOf.filter_bareNodes_eq (h : n.IsShellOf p) :
    n.bareNodes.filter isContent = p.bareNodes.filter isContent := by
  obtain ⟨attributes, children, rfl, -⟩ := h.exists_eq
  obtain ⟨-, -, before, after, hchildren, hblank⟩ := h
  obtain rfl : children = before ++ p :: after := hchildren
  -- blank texts stand on both sides of the paragraph
  have hsides : ∀ side ⊆ before ++ after, side.flatMap (fun m => m.bareNodes.filter isContent) = [] :=
    fun side hside => List.flatMap_eq_nil_iff.mpr fun m hm =>
      filter_bareNodes_of_isBlankText (hblank m (hside hm))
  have hshell : (element "p" attributes []).isContent = false := rfl
  rw [bareNodes_element, List.filter_cons_of_neg (by simp [hshell]), List.filter_flatMap,
    List.flatMap_append, List.flatMap_cons, hsides before (List.subset_append_left ..),
    hsides after (List.subset_append_right ..), List.nil_append, List.append_nil]

/-! ### Collapsing -/

/-- Collapsing paragraphs adds no node, changes none and moves none. -/
theorem sublist_bareNodes_collapseParagraphs (n : Node) :
    n.collapseParagraphs.bareNodes.Sublist n.bareNodes := by
  induction n using shellInduction with
  | shell n p hshell ih =>
    rw [hshell.collapseParagraphs_eq]
    exact ih.trans (sublist_bareNodes_of_mem_children hshell.mem_children)
  | root children ih =>
    rw [collapseParagraphs_root, bareNodes_root, bareNodes_root, List.flatMap_map]
    exact (List.Sublist.flatMap_right children ih).cons_cons _
  | element tag attributes children hnot ih =>
    rw [collapseParagraphs_of_not_isShell hnot, bareNodes_element, bareNodes_element,
      List.flatMap_map]
    exact (List.Sublist.flatMap_right children ih).cons_cons _
  | leaf kind value => exact List.Sublist.refl _

/-- Collapsing paragraphs keeps all other nodes than paragraphs and blank texts. -/
theorem filter_bareNodes_collapseParagraphs (n : Node) :
    n.collapseParagraphs.bareNodes.filter isContent = n.bareNodes.filter isContent := by
  induction n using shellInduction with
  | shell n p hshell ih => rw [hshell.collapseParagraphs_eq, ih, hshell.filter_bareNodes_eq]
  | root children ih =>
    rw [collapseParagraphs_root, bareNodes_root, bareNodes_root, List.flatMap_map,
      List.filter_cons, List.filter_cons, List.filter_flatMap, List.filter_flatMap,
      List.flatMap_congr ih]
  | element tag attributes children hnot ih =>
    rw [collapseParagraphs_of_not_isShell hnot, bareNodes_element, bareNodes_element,
      List.flatMap_map, List.filter_cons, List.filter_cons, List.filter_flatMap,
      List.filter_flatMap, List.flatMap_congr ih]
  | leaf kind value => rfl

/-- An element that is left has its tag and its attributes from the tree, and its children are those
that it has there, collapsed. -/
theorem exists_of_mem_subtrees_collapseParagraphs
    (h : .element tag attributes children ∈ n.collapseParagraphs.subtrees) :
    ∃ below, .element tag attributes below ∈ n.subtrees ∧
      children = below.map collapseParagraphs := by
  induction n using shellInduction with
  | shell n p hshell ih =>
    rw [hshell.collapseParagraphs_eq] at h
    obtain ⟨below, hbelow, hchildren⟩ := ih h
    exact ⟨below, mem_subtrees_iff.mpr (.inr ⟨p, hshell.mem_children, hbelow⟩), hchildren⟩
  | root ns ih =>
    rw [collapseParagraphs_root, mem_subtrees_iff] at h
    obtain ⟨child, hchild, h⟩ := h.resolve_left (nomatch ·)
    obtain ⟨m, hm, rfl⟩ := List.mem_map.mp hchild
    obtain ⟨below, hbelow, hchildren⟩ := ih m hm h
    exact ⟨below, mem_subtrees_iff.mpr (.inr ⟨m, hm, hbelow⟩), hchildren⟩
  | element t a ns hnot ih =>
    rw [collapseParagraphs_of_not_isShell hnot, mem_subtrees_iff] at h
    rcases h with heq | ⟨child, hchild, h⟩
    · obtain ⟨rfl, rfl, rfl⟩ := element.inj heq
      exact ⟨ns, self_mem_subtrees _, rfl⟩
    · obtain ⟨m, hm, rfl⟩ := List.mem_map.mp hchild
      obtain ⟨below, hbelow, hchildren⟩ := ih m hm h
      exact ⟨below, mem_subtrees_iff.mpr (.inr ⟨m, hm, hbelow⟩), hchildren⟩
  | leaf kind value => cases List.mem_singleton.mp h

/-! ### Text -/

theorem inked_append (text more : String) :
    Text.inked (text ++ more) = Text.inked text ++ Text.inked more := by
  rw [Text.inked, String.toList_append, List.filter_append]
  rfl

theorem inked_textContentAll (ns : List Node) :
    Text.inked (textContentAll ns) = ns.flatMap fun n => Text.inked n.textContent := by
  induction ns with
  | nil => rfl
  | cons n rest ih => rw [textContentAll, inked_append, ih, List.flatMap_cons]

/-- What a text shows is the ink of the text leaves. -/
theorem inked_textContent (n : Node) : Text.inked n.textContent = n.bareNodes.flatMap ink := by
  induction n using inductionOn with
  | root children ih =>
    have hnone : ink (.root []) = [] := rfl
    rw [textContent, inked_textContentAll, bareNodes_root, List.flatMap_cons, hnone,
      List.nil_append, List.flatMap_assoc, List.flatMap_congr ih]
  | element tag attributes children ih =>
    have hnone : ink (.element tag attributes []) = [] := rfl
    rw [textContent, inked_textContentAll, bareNodes_element, List.flatMap_cons, hnone,
      List.nil_append, List.flatMap_assoc, List.flatMap_congr ih]
  | leaf kind value => cases kind <;> simp [textContent, bareNodes, subtrees, bare, ink, Text.inked]

/-- Paragraphs and blank texts have no ink of their own. -/
theorem ink_of_not_isContent (h : n.isContent = false) : n.ink = [] := by
  cases n with
  | root children => rfl
  | element tag attributes children => rfl
  | leaf kind value =>
    cases kind with
    | text =>
      have hblank : Text.isAllBlank value = true := by simpa [isContent, hasTag, isBlankText] using h
      have hall : ∀ c ∈ value.toList, Text.isBlank c = true := List.all_eq_true.mp hblank
      exact List.filter_eq_nil_iff.mpr fun c hc => by simp [hall c hc]
    | comment => rfl
    | raw => rfl
    | expression => rfl

theorem flatMap_ink_filter_isContent (ns : List Node) :
    (ns.filter isContent).flatMap ink = ns.flatMap ink := by
  induction ns with
  | nil => rfl
  | cons n rest ih =>
    cases h : n.isContent with
    | true => rw [List.filter_cons_of_pos h, List.flatMap_cons, List.flatMap_cons, ih]
    | false =>
      rw [List.filter_cons_of_neg (by simp [h]), List.flatMap_cons, ih, ink_of_not_isContent h,
        List.nil_append]

/-- Collapsing paragraphs loses no content: all other nodes than paragraphs and blank texts stay, in
the same order; what is left of paragraphs and blank texts stood in the tree as well, in the same
order; an element that is left has its own attributes and its own children, collapsed; and the text
of the tree keeps all characters that are not blank, in order. -/
theorem collapseParagraphs_content (n : Node) :
    n.collapseParagraphs.bareNodes.filter isContent = n.bareNodes.filter isContent ∧
      n.collapseParagraphs.bareNodes.Sublist n.bareNodes ∧
      (∀ tag attributes children,
        .element tag attributes children ∈ n.collapseParagraphs.subtrees →
          ∃ below, .element tag attributes below ∈ n.subtrees ∧
            children = below.map collapseParagraphs) ∧
      Text.inked n.collapseParagraphs.textContent = Text.inked n.textContent := by
  have hcontent := filter_bareNodes_collapseParagraphs n
  refine ⟨hcontent, sublist_bareNodes_collapseParagraphs n,
    fun _ _ _ => exists_of_mem_subtrees_collapseParagraphs, ?_⟩
  calc Text.inked n.collapseParagraphs.textContent
      = (n.collapseParagraphs.bareNodes.filter isContent).flatMap ink := by
        rw [inked_textContent, flatMap_ink_filter_isContent]
    _ = (n.bareNodes.filter isContent).flatMap ink := by rw [hcontent]
    _ = Text.inked n.textContent := by rw [inked_textContent, flatMap_ink_filter_isContent]

end Node

end Manuscript
