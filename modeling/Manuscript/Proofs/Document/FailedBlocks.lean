import Manuscript.Proofs.Document.Highlighting
import Manuscript.Proofs.Document.Attributes
import Manuscript.Proofs.Document.Places

/-!
# Blocks whose highlighting fails

Highlighting goes into every node but what it replaces, and what it makes of a node that it comes to
does not depend on where the node stands. Where highlighting fails, the text of the block stays, but
not all of the block: like any block it gets the class of its language, in a class attribute that is a
list from then on, and the blocks in it are highlighted. So it stays as it was only if it has the
class already, in a list, and nothing in it is changed.

## Main definitions

* `CodeBlock.Fails` — the highlighter fails, or its markup cannot be read
* `Node.Reaches` — the places that highlighting comes to
* `Node.LeavesFailedBlocks` — every block stays whose highlighting fails

## Main results

* `nodeAt?_highlightResult` — the result at a place is that of the node there
* `leavesFailedBlocks_iff` — what becomes of the blocks, and when all of them stay
-/

namespace Manuscript

variable {highlighter : Highlighter} {parser : MarkupParser}
  {fresh : RequestTrace → List Node → RequestTrace × List Node}

/-- The code of a block cannot be highlighted: the highlighter fails, or its markup is refused. -/
def CodeBlock.Fails (highlighter : Highlighter) (parser : MarkupParser) (b : CodeBlock) : Prop :=
  (∃ e, highlighter b.language b.source = .error e) ∨
    ∃ html e, highlighter b.language b.source = .ok (some html) ∧
      parser.parseFragment html = .error e

/-- There are no highlighted nodes for a block that fails. -/
theorem CodeBlock.Fails.highlightedNodes?_eq {b : CodeBlock} (h : b.Fails highlighter parser) :
    highlightedNodes? highlighter parser b.language b.source = none := by
  rcases h with ⟨e, he⟩ | ⟨html, e, hhtml, he⟩
  · simp [highlightedNodes?, highlighted, parsedHighlighting, he]
  · simp [highlightedNodes?, highlighted, parsedHighlighting, hhtml, he]

namespace Node

section Places

variable (highlighter) (parser)

/-- Highlighting goes on in the child with an index, unless the child is the code of a block that takes
highlighted nodes. -/
def Enters (n : Node) (i : Nat) : Prop :=
  ∀ b : CodeBlock, n = b.toNode → i = b.before.length →
    highlightedNodes? highlighter parser b.language b.source = none

/-- Highlighting a tree comes to the node at a place. -/
inductive Reaches : Node → List Nat → Prop
  /-- It comes to the root. -/
  | here (n : Node) : Reaches n []
  /-- From a node it comes to a child in which it goes on. -/
  | child {n m : Node} {i : Nat} {place : List Nat} (hchild : n.children[i]? = some m)
      (henters : n.Enters highlighter parser i) (h : Reaches m place) : Reaches n (i :: place)

end Places

/-- Every block that highlighting comes to stays as it was if its code cannot be highlighted. -/
def LeavesFailedBlocks (highlighter : Highlighter) (parser : MarkupParser) (rounds : Nat)
    (n : Node) : Prop :=
  ∀ place (b : CodeBlock), n.Reaches highlighter parser place →
    n.nodeAt? place = some b.toNode → b.Fails highlighter parser →
      (n.highlightCodeBlocks highlighter parser rounds).2.nodeAt? place = some b.toNode

variable {n child m : Node} {i : Nat} {place : List Nat}

/-! ### What becomes of the node at a place -/

/-- A child in which highlighting goes on is a child of the result, highlighted. -/
theorem getElem?_children_highlightResult (hfresh : AddsRequests fresh)
    (hchild : n.children[i]? = some child) (henters : n.Enters highlighter parser i) :
    (n.highlightResult highlighter parser fresh).children[i]? =
      some (child.highlightResult highlighter parser fresh) := by
  have hmap {children : List Node} (h : children[i]? = some child) :
      (children.map (·.highlightResult highlighter parser fresh))[i]? =
        some (child.highlightResult highlighter parser fresh) := by
    rw [List.getElem?_map, h, Option.map_some]
  induction n using blockInduction with
  | root children =>
    rw [highlightResult_root hfresh]
    exact hmap hchild
  | block b =>
    rw [b.highlightResult_toNode hfresh]
    change (b.highlight highlighter parser fresh).children[i]? = _
    by_cases hi : i = b.before.length
    · -- the code is gone into only if there are no highlighted nodes
      rw [b.children_highlight_of_none hfresh (henters b rfl hi)]
      exact hmap hchild
    · exact (b.getElem?_children_highlight hi).trans (congrArg (Option.map _) hchild)
  | other tag attributes children hnot =>
    rw [highlightResult_other hfresh hnot]
    exact hmap hchild
  | leaf kind value => cases hchild

/-- Highlighting makes the same of a node that it comes to as of the node alone. -/
theorem nodeAt?_highlightResult (hfresh : AddsRequests fresh)
    (hreaches : n.Reaches highlighter parser place) (hm : n.nodeAt? place = some m) :
    (n.highlightResult highlighter parser fresh).nodeAt? place =
      some (m.highlightResult highlighter parser fresh) := by
  induction hreaches with
  | here n =>
    obtain rfl := Option.some.inj hm
    rfl
  | child hchild henters _ ih =>
    obtain ⟨child', hchild', hm⟩ := nodeAt?_cons_eq_some_iff.mp hm
    obtain rfl := Option.some.inj (hchild.symm.trans hchild')
    exact nodeAt?_cons_eq_some_iff.mpr
      ⟨_, getElem?_children_highlightResult hfresh hchild henters, ih hm⟩

/-! ### Failures -/

/-- What becomes of a block that fails: it gets the class of its language, and its children are
highlighted. -/
theorem highlightResult_of_fails (hfresh : AddsRequests fresh) {b : CodeBlock}
    (h : b.Fails highlighter parser) :
    b.toNode.highlightResult highlighter parser fresh =
      .element "pre" (b.attributes.addClass b.languageClass)
        (b.children.map (·.highlightResult highlighter parser fresh)) :=
  (yields_toNode_of_none h.highlightedNodes?_eq
    (hfresh.isRegular b.children)).eq.2

theorem map_eq_self_iff {f : Node → Node} {ns : List Node} :
    ns.map f = ns ↔ ∀ n ∈ ns, f n = n := by
  simpa using List.map_inj_left (f := f) (g := id) (l := ns)

/-- What becomes of the blocks that highlighting comes to and whose code cannot be highlighted: they
get the class of their language, and their children are highlighted. So all of them stay as they were
if and only if each has its class already, in a class attribute that is a list, and no child of them
is changed. -/
theorem leavesFailedBlocks_iff (highlighter : Highlighter) (parser : MarkupParser) (rounds : Nat)
    (n : Node) :
    (∀ place (b : CodeBlock), n.Reaches highlighter parser place →
      n.nodeAt? place = some b.toNode → b.Fails highlighter parser →
        (n.highlightCodeBlocks highlighter parser rounds).2.nodeAt? place =
          some (.element "pre" (b.attributes.addClass b.languageClass)
            (b.children.map fun child =>
              (child.highlightCodeBlocks highlighter parser rounds).2))) ∧
      (LeavesFailedBlocks highlighter parser rounds n ↔
        ∀ place (b : CodeBlock), n.Reaches highlighter parser place →
          n.nodeAt? place = some b.toNode → b.Fails highlighter parser →
            (∃ tokens, b.attributes.get? "class" = some (.list tokens) ∧
              b.languageClass ∈ tokens) ∧
            ∀ child ∈ b.children,
              (child.highlightCodeBlocks highlighter parser rounds).2 = child) := by
  have hfresh : AddsRequests fun t ns => highlightAll highlighter.recording parser rounds t ns :=
    addsRequests_highlightAll rounds
  have hresult : ∀ place (b : CodeBlock), n.Reaches highlighter parser place →
      n.nodeAt? place = some b.toNode → b.Fails highlighter parser →
        (n.highlightCodeBlocks highlighter parser rounds).2.nodeAt? place =
          some (.element "pre" (b.attributes.addClass b.languageClass)
            (b.children.map fun child =>
              (child.highlightCodeBlocks highlighter parser rounds).2)) :=
    fun place b hreaches hplace hfails =>
      (nodeAt?_highlightResult hfresh hreaches hplace).trans
        (congrArg some (highlightResult_of_fails hfresh hfails))
  -- a block is what it becomes if the class and the children are
  have hstays (b : CodeBlock) :
      Node.element "pre" (b.attributes.addClass b.languageClass)
          (b.children.map fun child => (child.highlightCodeBlocks highlighter parser rounds).2) =
        b.toNode ↔
      (∃ tokens, b.attributes.get? "class" = some (.list tokens) ∧ b.languageClass ∈ tokens) ∧
        ∀ child ∈ b.children, (child.highlightCodeBlocks highlighter parser rounds).2 = child := by
    rw [CodeBlock.toNode, Node.element.injEq, Attributes.addClass_eq_self_iff, map_eq_self_iff]
    exact and_iff_right rfl
  refine ⟨hresult, fun h place b hreaches hplace hfails => ?_,
    fun h place b hreaches hplace hfails => ?_⟩
  · have hkept := h place b hreaches hplace hfails
    rw [hresult place b hreaches hplace hfails] at hkept
    exact (hstays b).mp (Option.some.inj hkept)
  · rw [hresult place b hreaches hplace hfails]
    exact congrArg some ((hstays b).mpr (h place b hreaches hplace hfails))

/-- A block whose highlighting fails has its class already if it stays. -/
theorem LeavesFailedBlocks.exists_tokens {rounds : Nat} {b : CodeBlock}
    (h : LeavesFailedBlocks highlighter parser rounds b.toNode)
    (hfails : b.Fails highlighter parser) :
    ∃ tokens, b.attributes.get? "class" = some (.list tokens) ∧ b.languageClass ∈ tokens := by
  have hfresh : AddsRequests fun t ns => highlightAll highlighter.recording parser rounds t ns :=
    addsRequests_highlightAll rounds
  have hkept : b.toNode.highlightResult highlighter parser _ = b.toNode :=
    Option.some.inj (h [] b (.here _) rfl hfails)
  rw [highlightResult_of_fails hfresh hfails] at hkept
  injection hkept with _ hattributes _
  exact Attributes.addClass_eq_self_iff.mp hattributes

/-- A block with the code of a shader. -/
def shaderBlock : CodeBlock :=
  .ofText (Attributes.ofList [("class", .list ["language-fail-shader"])]) "fail-shader"
    "void main();" (by decide) (by decide)

/-- A block whose highlighting fails gets a class that it did not have. -/
theorem not_leavesFailedBlocks_shaderBlock :
    ¬ LeavesFailedBlocks (fun language _ => .error (.highlight language "no such syntax"))
        ⟨fun _ => .ok (.root []), fun _ => .ok []⟩ 0 shaderBlock.toNode := by
  intro h
  obtain ⟨tokens, htokens, -⟩ := h.exists_tokens (.inl ⟨_, rfl⟩)
  cases htokens

end Node

end Manuscript
