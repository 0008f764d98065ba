import Manuscript.Proofs.Document.Leaves
import Manuscript.Proofs.Footnotes.Walk

/-!
# What a document shows

The leaves of a document tree are the text, the markup and the expressions of the Markdown tree it
was made of, in the same order. The walk puts line feeds between them and nothing else: a list that
is not loose gives up its paragraphs, a table is divided into head and body, a component without a
name gives up its children, and a reference whose label leads nowhere falls back to text.

## Main definitions

* `Markdown.content`, `Markdown.statements` — the leaves and the statements that a document stands
  for, in document order
* `Markdown.TablesFit` — rows stand in tables, cells in rows, and nothing else does
* `Conveys` — what a walk makes of the content of parts

## Main results

* `withoutFeeds_blockLines` — line feeds are put around nodes and between them
* `lowerLeaf_conveys`, `lowerNode_conveys` — the walk keeps the content
* `leaves_toDocument` — the leaves and the statements of a document without footnotes
-/

namespace Manuscript

/-- Leaves without the texts that are one line feed. -/
def withoutFeeds (leaves : List (LeafKind × String)) : List (LeafKind × String) :=
  leaves.filter fun leaf => leaf ≠ (.text, "\n")

namespace Markdown

/-! ### Content -/

/-- What a leaf shows in a document: its value as a text, as markup or as an expression. A block of
code ends in a line feed unless it is empty, and an image whose label leads nowhere shows its
text. -/
def leafContent (doc : Markdown) : Leaf → List (LeafKind × String)
  | .text value | .inlineCode value | .inlineMath value | .math value _ => [(.text, value)]
  | .code value _ _ => [(.text, if value.isEmpty then "" else value ++ "\n")]
  | .html value => [(.raw, value)]
  | .flowExpression source | .textExpression source => [(.expression, source)]
  | .imageReference alt reference =>
    if (doc.target? reference.identifier).isSome then [] else [(.text, "![" ++ alt ++ "]")]
  | .yaml _ | .toml _ | .esm _ | .hardBreak | .thematicBreak | .image _ _ | .definition _ _ _
  | .footnoteReference _ _ => []

/-- What a branch shows in a document, given what its parts show: a space for a check box, brackets
around a link whose label leads nowhere, and nothing for a footnote. -/
def branchContent (doc : Markdown) (kind : Branch) (inner : List (LeafKind × String)) :
    List (LeafKind × String) :=
  match kind with
  | .listItem _ (some _) => (.text, " ") :: inner
  | .linkReference reference =>
    if (doc.target? reference.identifier).isSome then inner
    else (.text, "[") :: (inner ++ [(.text, "]")])
  | .footnoteDefinition _ _ => []
  | _ => inner

mutual

/-- What a tree shows in a document, in document order. -/
def contentIn (doc : Markdown) : Markdown → List (LeafKind × String)
  | .branch kind children => branchContent doc kind (contentAllIn doc children)
  | .leaf kind => leafContent doc kind

/-- What trees side by side show in a document. -/
def contentAllIn (doc : Markdown) : List Markdown → List (LeafKind × String)
  | [] => []
  | m :: rest => contentIn doc m ++ contentAllIn doc rest

end

/-- What a document shows, in document order. -/
def content (m : Markdown) : List (LeafKind × String) := m.contentIn m

mutual

/-- The import and export statements of a tree outside of footnotes, in document order. -/
def statements : Markdown → List String
  | .branch (.footnoteDefinition _ _) _ => []
  | .branch _ children => statementsAll children
  | .leaf (.esm value) => [value]
  | .leaf _ => []

/-- The import and export statements of trees that stand side by side. -/
def statementsAll : List Markdown → List String
  | [] => []
  | m :: rest => statements m ++ statementsAll rest

end

/-! ### Tables -/

/-- Whether a part is a table. -/
def isTable : Markdown → Bool
  | .branch (.table _) _ => true
  | _ => false

/-- Whether a part is a row of a table. -/
def isRow : Markdown → Bool
  | .branch .tableRow _ => true
  | _ => false

/-- Whether a part is a cell of a row. -/
def isCell : Markdown → Bool
  | .branch .tableCell _ => true
  | _ => false

/-- Tables hold rows and rows hold cells; they hold nothing else, and nothing else holds them. -/
structure TablesFit (m : Markdown) : Prop where
  /-- The document is no row of a table. -/
  not_isRow : m.isRow = false
  /-- The document is no cell of a row. -/
  not_isCell : m.isCell = false
  /-- The parts of tables are rows, and those of other parts are not. -/
  rows : ∀ part ∈ m.parts, ∀ child ∈ part.children, child.isRow = part.isTable
  /-- The parts of rows are cells, and those of other parts are not. -/
  cells : ∀ part ∈ m.parts, ∀ child ∈ part.children, child.isCell = part.isRow

/-- Trees that are neither rows nor cells. -/
def OutsideTables (ms : List Markdown) : Prop := ∀ m ∈ ms, m.isRow = false ∧ m.isCell = false

/-- What a part holds that is no table and no row. -/
theorem TablesFit.outsideTables {doc : Markdown} {kind : Branch} {children : List Markdown}
    (hdoc : doc.TablesFit) (hpart : .branch kind children ∈ doc.parts)
    (htable : isTable (.branch kind children) = false)
    (hrow : isRow (.branch kind children) = false) : OutsideTables children := by
  intro m hm
  exact ⟨(hdoc.rows _ hpart m hm).trans htable, (hdoc.cells _ hpart m hm).trans hrow⟩

end Markdown

namespace Lowering

open Markdown hiding children
open Node hiding children

variable {doc : Markdown} {p : Progress} {leaves more : List (LeafKind × String)}
  {before stmts others : List String} {result next : Progress × List Node} {nodes : List Node}

/-! ### Leaves -/

theorem withoutFeeds_append (leaves more : List (LeafKind × String)) :
    withoutFeeds (leaves ++ more) = withoutFeeds leaves ++ withoutFeeds more :=
  List.filter_append ..

theorem withoutFeeds_cons {leaf : LeafKind × String} (h : leaf ≠ (.text, "\n"))
    (leaves : List (LeafKind × String)) :
    withoutFeeds (leaf :: leaves) = leaf :: withoutFeeds leaves :=
  List.filter_cons_of_pos (decide_eq_true h)

theorem withoutFeeds_leavesAll_feed (nodes : List Node) :
    withoutFeeds (leavesAll (.text "\n" :: nodes)) = withoutFeeds (leavesAll nodes) := rfl

theorem withoutFeeds_intersperse (nodes : List Node) :
    withoutFeeds (leavesAll (nodes.intersperse (.text "\n"))) = withoutFeeds (leavesAll nodes) := by
  induction nodes with
  | nil => rfl
  | cons n rest ih =>
    cases rest with
    | nil => rfl
    | cons other rest =>
      rw [List.intersperse_cons_cons, leavesAll, withoutFeeds_append, withoutFeeds_leavesAll_feed,
        ih, ← withoutFeeds_append]
      rfl

/-- Line feeds are put around nodes and between them. -/
theorem withoutFeeds_blockLines (pad : Bool) (nodes : List Node) :
    withoutFeeds (leavesAll (blockLines pad nodes)) = withoutFeeds (leavesAll nodes) := by
  unfold blockLines
  split
  · rename_i hempty
    rw [List.isEmpty_iff.mp hempty]
  · cases pad with
    | true =>
      have hfeed : withoutFeeds (leavesAll [.text "\n"]) = [] := rfl
      simp only [if_true]
      rw [leavesAll_append, leavesAll_append, withoutFeeds_append, withoutFeeds_append,
        withoutFeeds_intersperse, hfeed, List.nil_append, List.append_nil]
    | false => simpa using withoutFeeds_intersperse nodes

/-- A table is divided into its head and its body. -/
theorem leaves_tableElement (rows : List Node) : (tableElement rows).leaves = leavesAll rows := by
  cases rows with
  | nil => rfl
  | cons head body =>
    cases body with
    | nil => simp [tableElement, Node.leaves, leavesAll]
    | cons row body => simp [tableElement, Node.leaves, leavesAll]

/-! ### One part -/

/-- What a walk makes of parts that show given leaves and have given statements: the nodes have
these leaves apart from line feeds, and the statements are put behind those met before. -/
structure Conveys (leaves : List (LeafKind × String)) (before stmts : List String)
    (result : Progress × List Node) : Prop where
  /-- The nodes show the leaves. -/
  leaves_eq : withoutFeeds (leavesAll result.2) = withoutFeeds leaves
  /-- The statements are recorded. -/
  statements_eq : result.1.statements = before ++ stmts

namespace Conveys

/-- One walk after another. -/
theorem append (h : Conveys leaves before stmts result)
    (hnext : Conveys more result.1.statements others next) :
    Conveys (leaves ++ more) before (stmts ++ others) (next.1, result.2 ++ next.2) := by
  refine ⟨?_, ?_⟩
  · rw [leavesAll_append, withoutFeeds_append, withoutFeeds_append, h.leaves_eq, hnext.leaves_eq]
  · rw [hnext.statements_eq, h.statements_eq, List.append_assoc]

/-- What is put around the nodes does not matter if it adds only line feeds. -/
theorem wrap (h : Conveys leaves before stmts result)
    (hnodes : withoutFeeds (leavesAll nodes) = withoutFeeds (leavesAll result.2)) :
    Conveys leaves before stmts (result.1, nodes) :=
  ⟨hnodes.trans h.leaves_eq, h.statements_eq⟩

/-- An element around the nodes adds no leaves. -/
theorem element (h : Conveys leaves before stmts result) (tag : String) (attributes : Attributes) :
    Conveys leaves before stmts (result.1, [.element tag attributes result.2]) :=
  h.wrap (by rw [leavesAll_singleton, Node.leaves])

/-- A walk that meets nothing to show. -/
theorem of_leaves_eq (hleaves : leavesAll nodes = leaves) :
    Conveys leaves p.statements [] (p, nodes) :=
  ⟨congrArg withoutFeeds hleaves, (List.append_nil _).symm⟩

end Conveys

/-- A document without references to footnotes has none among its parts. -/
theorem referenceLabel?_of_mem (hrefs : doc.referenceLabels = []) {part : Markdown}
    (hpart : part ∈ doc.parts) : part.referenceLabel? = none :=
  List.filterMap_eq_nil_iff.mp hrefs part hpart

theorem lowerLeaf_conveys (hrefs : doc.referenceLabels = []) (p : Progress) (kind : Leaf)
    (hpart : .leaf kind ∈ doc.parts) :
    Conveys (leafContent doc kind) p.statements (statements (.leaf kind))
      (lowerLeaf (.ofMarkdown doc) p kind) := by
  cases kind with
  -- the mark of a reference would show its number
  | footnoteReference identifier label => cases referenceLabel?_of_mem hrefs hpart
  | imageReference alt reference =>
    rw [lowerLeaf, leafContent, target?_ofMarkdown]
    cases doc.target? reference.identifier with
    | none => exact .of_leaves_eq rfl
    | some target => exact .of_leaves_eq rfl
  | esm value => exact ⟨rfl, rfl⟩
  | _ => exact .of_leaves_eq rfl

theorem statements_noteBranch (p : Progress) (kind : Branch) :
    (noteBranch p kind).statements = p.statements := by
  unfold noteBranch
  split <;> rfl

/-- An item shows a space behind its check box. -/
theorem itemElement_conveys (loose spread : Bool) (checked : Option Bool)
    (h : Conveys leaves before stmts result) :
    Conveys (branchContent doc (.listItem spread checked) leaves) before stmts
      (result.1, [itemElement loose checked result.2]) := by
  cases checked with
  | none =>
    refine h.wrap ?_
    rw [leavesAll_singleton, itemElement, Node.leaves]
    cases loose with
    | true => exact withoutFeeds_blockLines true result.2
    | false => rfl
  | some state =>
    -- an item with a check box gets no line feeds, even in a loose list
    have hleaves : leavesAll [itemElement loose (some state) result.2] =
        (.text, " ") :: leavesAll result.2 := by
      simp [itemElement, checkBox, leavesAll, Node.leaves]
    refine ⟨?_, h.statements_eq⟩
    rw [hleaves, branchContent, withoutFeeds_cons (by decide), withoutFeeds_cons (by decide),
      h.leaves_eq]

/-- Brackets stand around a link whose label leads nowhere. -/
theorem linkReference_conveys (reference : Reference) (h : Conveys leaves before stmts result) :
    Conveys (branchContent doc (.linkReference reference) leaves) before stmts
      (result.1, lowerBranch (.ofMarkdown doc) (.linkReference reference) result.2) := by
  rw [lowerBranch, branchContent, target?_ofMarkdown]
  cases doc.target? reference.identifier with
  | some target => exact h.element _ _
  | none =>
    refine ⟨?_, h.statements_eq⟩
    simp only [Option.isSome_none, Bool.false_eq_true, if_false, leavesAll, Node.leaves,
      leavesAll_append, List.singleton_append]
    rw [withoutFeeds_cons (by decide), withoutFeeds_cons (by decide), withoutFeeds_append,
      withoutFeeds_append, h.leaves_eq]

/-! ### The walk -/

section Walk

variable (hdoc : doc.TablesFit) (hrefs : doc.referenceLabels = [])

include hdoc hrefs

-- some members of the block use the assumptions through others only
set_option linter.unusedSectionVars false

mutual

/-- The walk through a tree. Every branch puts nothing but line feeds around what its parts show,
apart from check boxes and brackets. -/
theorem lowerNode_conveys (p : Progress) : ∀ m : Markdown,
    m.isRow = false → m.isCell = false → m.parts ⊆ doc.parts →
      Conveys (contentIn doc m) p.statements m.statements (lowerNode (.ofMarkdown doc) p m)
  | .leaf kind, _, _, hparts => lowerLeaf_conveys hrefs p kind (hparts (self_mem_parts _))
  | .branch kind children, hrow, hcell, hparts => by
    have hpart : .branch kind children ∈ doc.parts := hparts (self_mem_parts _)
    have hchildren := partsAll_children_subset hparts
    -- the parts of all branches but tables and rows are walked through alike
    have houtside (htable : isTable (.branch kind children) = false) : OutsideTables children :=
      hdoc.outsideTables hpart htable hrow
    have hall (htable : isTable (.branch kind children) = false) :
        Conveys (contentAllIn doc children) p.statements (statementsAll children)
          (lowerAll (.ofMarkdown doc) (noteBranch p kind) children) := by
      rw [← statements_noteBranch p kind]
      exact lowerAll_conveys _ children (houtside htable) hchildren
    cases kind with
    | list ordered spread start =>
      have hitems := lowerItems_conveys (spread || children.any isSpreadItem) p children
        (houtside rfl) hchildren
      apply hitems.wrap
      rw [leavesAll_singleton]
      exact withoutFeeds_blockLines true _
    | listItem spread checked =>
      have hcontent := lowerContent_conveys spread p children (houtside rfl) hchildren
      exact itemElement_conveys spread spread checked hcontent
    | table alignment =>
      have hrows : ∀ m ∈ children, m.isRow = true := fun m hm => hdoc.rows _ hpart m hm
      have htable := lowerRows_conveys alignment "th" p children hrows hchildren
      apply htable.wrap
      rw [leavesAll_singleton, leaves_tableElement]
    -- rows and cells are passed over, but they do not occur outside of tables
    | tableRow => cases hrow
    | tableCell => cases hcell
    | footnoteDefinition identifier label => exact .of_leaves_eq rfl
    | blockquote =>
      apply (hall rfl).wrap
      rw [lowerBranch, leavesAll_singleton, Node.leaves]
      exact withoutFeeds_blockLines true _
    | linkReference reference => exact linkReference_conveys reference (hall rfl)
    | jsxFlow name attributes =>
      cases name with
      | none => exact hall rfl
      | some name => exact (hall rfl).element name (jsxAttributes attributes)
    | jsxText name attributes =>
      cases name with
      | none => exact hall rfl
      | some name => exact (hall rfl).element name (jsxAttributes attributes)
    | root => exact hall rfl
    | _ => exact (hall rfl).element _ _

/-- The walk through trees that stand side by side. -/
theorem lowerAll_conveys (p : Progress) : ∀ ms : List Markdown,
    OutsideTables ms → partsAll ms ⊆ doc.parts →
      Conveys (contentAllIn doc ms) p.statements (statementsAll ms)
        (lowerAll (.ofMarkdown doc) p ms)
  | [], _, _ => .of_leaves_eq rfl
  | m :: rest, houtside, hparts => by
    obtain ⟨⟨hrow, hcell⟩, hothers⟩ := List.forall_mem_cons.mp houtside
    obtain ⟨hm, hrest⟩ := List.append_subset.mp hparts
    have hnode := lowerNode_conveys p m hrow hcell hm
    exact hnode.append (lowerAll_conveys _ rest hothers hrest)

/-- The walk through the parts of a list. -/
theorem lowerItems_conveys (loose : Bool) (p : Progress) : ∀ ms : List Markdown,
    OutsideTables ms → partsAll ms ⊆ doc.parts →
      Conveys (contentAllIn doc ms) p.statements (statementsAll ms)
        (lowerItems (.ofMarkdown doc) loose p ms)
  | [], _, _ => .of_leaves_eq rfl
  | .leaf kind :: rest, houtside, hparts => by
    obtain ⟨-, hothers⟩ := List.forall_mem_cons.mp houtside
    obtain ⟨hm, hrest⟩ := List.append_subset.mp hparts
    have hnode := lowerLeaf_conveys hrefs p kind (hm (self_mem_parts _))
    exact hnode.append (lowerItems_conveys loose _ rest hothers hrest)
  | .branch kind children :: rest, houtside, hparts => by
    obtain ⟨⟨hrow, hcell⟩, hothers⟩ := List.forall_mem_cons.mp houtside
    obtain ⟨hm, hrest⟩ := List.append_subset.mp hparts
    have hnode := lowerNode_conveys p (.branch kind children) hrow hcell hm
    have hitems (p : Progress) := lowerItems_conveys loose p rest hothers hrest
    -- items share the looseness of their list; everything else goes through the general walk
    cases kind with
    | listItem spread checked =>
      have hchildren : OutsideTables children :=
        hdoc.outsideTables (hm (self_mem_parts _)) rfl rfl
      have hcontent := lowerContent_conveys loose p children hchildren (partsAll_children_subset hm)
      exact (itemElement_conveys loose spread checked hcontent).append (hitems _)
    | _ => exact hnode.append (hitems _)

/-- The walk through the parts of an item. -/
theorem lowerContent_conveys (loose : Bool) (p : Progress) : ∀ ms : List Markdown,
    OutsideTables ms → partsAll ms ⊆ doc.parts →
      Conveys (contentAllIn doc ms) p.statements (statementsAll ms)
        (lowerContent (.ofMarkdown doc) loose p ms)
  | [], _, _ => .of_leaves_eq rfl
  | .leaf kind :: rest, houtside, hparts => by
    obtain ⟨-, hothers⟩ := List.forall_mem_cons.mp houtside
    obtain ⟨hm, hrest⟩ := List.append_subset.mp hparts
    have hnode := lowerLeaf_conveys hrefs p kind (hm (self_mem_parts _))
    exact hnode.append (lowerContent_conveys loose _ rest hothers hrest)
  | .branch kind children :: rest, houtside, hparts => by
    obtain ⟨⟨hrow, hcell⟩, hothers⟩ := List.forall_mem_cons.mp houtside
    obtain ⟨hm, hrest⟩ := List.append_subset.mp hparts
    have hnode := lowerNode_conveys p (.branch kind children) hrow hcell hm
    have hcontent (p : Progress) := lowerContent_conveys loose p rest hothers hrest
    -- paragraphs may lose their element; everything else goes through the general walk
    cases kind with
    | paragraph =>
      have hchildren : OutsideTables children :=
        hdoc.outsideTables (hm (self_mem_parts _)) rfl rfl
      have hall := lowerAll_conveys p children hchildren (partsAll_children_subset hm)
      cases loose with
      | true => exact (hall.element "p" ∅).append (hcontent _)
      | false => exact hall.append (hcontent _)
    | _ => exact hnode.append (hcontent _)

/-- The walk through the rows of a table. -/
theorem lowerRows_conveys (alignment : List Markdown.Alignment) (first : String) (p : Progress) :
    ∀ ms : List Markdown, (∀ m ∈ ms, m.isRow = true) → partsAll ms ⊆ doc.parts →
      Conveys (contentAllIn doc ms) p.statements (statementsAll ms)
        (lowerRows (.ofMarkdown doc) alignment first p ms)
  | [], _, _ => .of_leaves_eq rfl
  | .leaf kind :: rest, hrows, _ => by cases hrows _ List.mem_cons_self
  | .branch kind children :: rest, hrows, hparts => by
    obtain ⟨hrow, hothers⟩ := List.forall_mem_cons.mp hrows
    obtain ⟨hm, hrest⟩ := List.append_subset.mp hparts
    cases kind with
    | tableRow =>
      have hcell : ∀ m ∈ children, m.isCell = true := fun m hmem =>
        hdoc.cells _ (hm (self_mem_parts _)) m hmem
      have hcells := lowerCells_conveys first alignment p children hcell
        (partsAll_children_subset hm)
      exact (hcells.element "tr" ∅).append (lowerRows_conveys alignment "td" _ rest hothers hrest)
    | _ => cases hrow

/-- The walk through the cells of a row. -/
theorem lowerCells_conveys (tag : String) (alignment : List Markdown.Alignment) (p : Progress) :
    ∀ ms : List Markdown, (∀ m ∈ ms, m.isCell = true) → partsAll ms ⊆ doc.parts →
      Conveys (contentAllIn doc ms) p.statements (statementsAll ms)
        (lowerCells (.ofMarkdown doc) tag alignment p ms)
  | [], _, _ => .of_leaves_eq rfl
  | .leaf kind :: rest, hcells, _ => by cases hcells _ List.mem_cons_self
  | .branch kind children :: rest, hcells, hparts => by
    obtain ⟨hcell, hothers⟩ := List.forall_mem_cons.mp hcells
    obtain ⟨hm, hrest⟩ := List.append_subset.mp hparts
    cases kind with
    | tableCell =>
      have hchildren : OutsideTables children :=
        hdoc.outsideTables (hm (self_mem_parts _)) rfl rfl
      have hall := lowerAll_conveys p children hchildren (partsAll_children_subset hm)
      exact (hall.element tag (alignAttributes alignment.head?)).append
        (lowerCells_conveys tag alignment.tail _ rest hothers hrest)
    | _ => cases hcell

end

end Walk

/-- Without references the walk through a document meets no label. -/
theorem order_lowerNode (hrefs : doc.referenceLabels = []) :
    (lowerNode (.ofMarkdown doc) {} doc).1.order = [] := by
  have hnone : doc.references = [] :=
    List.subset_nil.mp (hrefs ▸ references_subset doc)
  have hrecords := (lowerNode_walked (d := .ofMarkdown doc) Progress.records_empty doc
    (List.Subset.refl doc.parts)).records.order_eq
  rw [hrecords, hnone]
  rfl

end Lowering

namespace Markdown

open Lowering

/-- A document without references to footnotes shows its content and nothing else, apart from line
feeds, and has its statements. -/
theorem leaves_toDocument {m : Markdown} (hm : m.TablesFit) (hrefs : m.referenceLabels = []) :
    withoutFeeds m.toDocument.tree.leaves = withoutFeeds m.content ∧
      m.toDocument.statements = m.statements := by
  have hconveys := lowerNode_conveys hm hrefs {} m hm.not_isRow hm.not_isCell
    (List.Subset.refl m.parts)
  -- no label was met, so that there is no section of footnotes
  have hsection : footnoteSection? (.ofMarkdown m) (lowerNode (.ofMarkdown m) {} m).1 =
      ((lowerNode (.ofMarkdown m) {} m).1, []) := by
    rw [footnoteSection?, order_lowerNode hrefs]
    rfl
  unfold toDocument
  simp only [hsection, List.append_nil]
  exact ⟨(withoutFeeds_blockLines false _).trans hconveys.leaves_eq, hconveys.statements_eq⟩

/-- A tight list with a task and a link whose label leads nowhere, a table with an expression, code
and HTML. -/
def shoppingList : Markdown :=
  .branch .root [
    .leaf (.esm "export const rate = 2"),
    .branch (.list false false none) [
      .branch (.listItem false (some true)) [
        .branch .paragraph [.leaf (.text "Flour "),
          .branch (.linkReference ⟨"mill", none, .shortcut⟩) [.leaf (.text "mill")]]]],
    .branch (.table []) [
      .branch .tableRow [.branch .tableCell [.leaf (.text "Price")]],
      .branch .tableRow [.branch .tableCell [.leaf (.textExpression "rate")]]],
    .leaf (.code "bake" none none),
    .leaf (.html "<hr>")]

/-- The document of the list shows all of it in order. -/
theorem leaves_toDocument_shoppingList :
    shoppingList.TablesFit ∧ shoppingList.referenceLabels = [] ∧
      withoutFeeds shoppingList.toDocument.tree.leaves =
        [(.text, " "), (.text, "Flour "), (.text, "["), (.text, "mill"), (.text, "]"),
          (.text, "Price"), (.expression, "rate"), (.text, "bake\n"), (.raw, "<hr>")] ∧
      shoppingList.toDocument.statements = ["export const rate = 2"] := by
  have hfit : shoppingList.TablesFit := ⟨rfl, rfl, by decide, by decide⟩
  have hrefs : shoppingList.referenceLabels = [] := by decide
  obtain ⟨hleaves, hstatements⟩ := leaves_toDocument hfit hrefs
  exact ⟨hfit, hrefs, hleaves.trans (by decide), hstatements⟩

end Markdown

end Manuscript
