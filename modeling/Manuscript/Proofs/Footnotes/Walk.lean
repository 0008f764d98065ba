import Manuscript.Proofs.Footnotes.Pieces
import Manuscript.Proofs.Footnotes.References

/-!
# What the walk does for footnotes

The walk through a Markdown tree meets the references in order. For each it counts on and makes
one link, whatever the parts around the reference are: lists, tables, links, components. It makes
no other piece of footnotes, save for what the author writes as a component.

## Main definitions

* `Walked` — what a walk does, given the labels met before and those that it meets

## Main results

* `Walked.append` — one walk after another
* `lowerLeaf_walked`, `lowerBranch_walked` — what one part does
* `lowerNode_walked`, `lowerAll_walked` — the walks through trees
-/

namespace Manuscript.Lowering

open Markdown hiding children
open Node hiding children

/-- What a walk through parts of a document does when it meets references to given footnotes behind
others: it goes on recording the labels, and it makes their links and, apart from what the document
writes itself, no other pieces of footnotes. -/
structure Walked (doc : Markdown) (seen refs : List String) (result : Progress × List Node) :
    Prop where
  /-- The labels are recorded. -/
  records : result.1.Records (seen ++ refs)
  /-- The links are made in order. -/
  pieces : Drops doc.Writes (piecesAll result.2) ((anchorsFrom seen refs).map Prod.snd)

variable {doc : Markdown} {d : Definitions} {p : Progress} {seen refs more : List String}
  {result next : Progress × List Node} {nodes : List Node}

namespace Walked

/-- A walk that meets no reference. -/
theorem of_pieces_eq_nil (hp : p.Records seen) (hnodes : piecesAll nodes = []) :
    Walked doc seen [] (p, nodes) := by
  refine ⟨by rwa [List.append_nil], ?_⟩
  rw [hnodes]
  exact .nil

/-- One walk after another. -/
theorem append (h : Walked doc seen refs result) (hnext : Walked doc (seen ++ refs) more next) :
    Walked doc seen (refs ++ more) (next.1, result.2 ++ next.2) := by
  refine ⟨by simpa using hnext.records, ?_⟩
  rw [piecesAll_append, anchorsFrom_append, List.map_append]
  exact h.pieces.append hnext.pieces

/-- What is put around the nodes does not matter if it has no pieces itself. -/
theorem wrap (h : Walked doc seen refs result) (nodes : List Node)
    (hnodes : piecesAll nodes = piecesAll result.2) :
    Walked doc seen refs (result.1, nodes) :=
  ⟨h.records, hnodes ▸ h.pieces⟩

/-- A component around the nodes is written by the document. -/
theorem component (h : Walked doc seen refs result) {tag : String} {attributes : Attributes}
    (hwrites : ∀ children, doc.Writes ⟨tag, attributes, children⟩) :
    Walked doc seen refs (result.1, [.element tag attributes result.2]) := by
  cases hpiece : Element.isFootnotePiece ⟨tag, attributes, result.2⟩ with
  | true =>
    refine ⟨h.records, ?_⟩
    rw [piecesAll_cons, pieces_element_of_piece hpiece, piecesAll_nil, List.append_nil]
    exact .drop (hwrites _) h.pieces
  | false =>
    refine h.wrap _ ?_
    rw [piecesAll_cons, pieces_element_of_not_piece hpiece, piecesAll_nil, List.append_nil]

end Walked

/-! ### One part -/

theorem records_note (hp : p.Records seen) (records : Log) : (p.note records).Records seen :=
  ⟨hp.order_eq, hp.count_eq⟩

theorem records_noteBranch (hp : p.Records seen) (kind : Branch) :
    (noteBranch p kind).Records seen := by
  unfold noteBranch
  split
  · exact records_note hp _
  · exact records_note hp _
  · exact hp

/-- A reference is the only leaf that makes a link. -/
theorem lowerLeaf_walked (hp : p.Records seen) (kind : Leaf) :
    Walked doc seen (references (.leaf kind)) (lowerLeaf d p kind) := by
  cases kind with
  | footnoteReference identifier _ =>
    -- the number and the suffix of the link are those of the recorded labels
    obtain ⟨hrecords, hnumbers⟩ := hp.reference (Text.Unicode.toLower identifier)
    refine ⟨hrecords, ?_⟩
    change Drops _ (piecesAll [footnoteMark _ (p.reference _).2.1 (p.reference _).2.2]) _
    rw [hnumbers, piecesAll_cons, pieces_footnoteMark]
    exact .refl _ _
  | imageReference alt reference =>
    change Walked doc seen [] _
    unfold lowerLeaf
    dsimp only
    split <;> exact Walked.of_pieces_eq_nil hp (by simp)
  | esm value => exact Walked.of_pieces_eq_nil ⟨hp.order_eq, hp.count_eq⟩ rfl
  | _ => exact Walked.of_pieces_eq_nil hp (by simp)

theorem heading_tag_ne {depth tag : String} (h : tag.toList.head? ≠ some 'h') :
    "h" ++ depth ≠ tag := by
  rintro rfl
  simp at h

/-- Branches that are elements of their own have the pieces of their parts, and those that are
components come from the document. -/
theorem lowerBranch_walked {kind : Branch} {children : List Markdown}
    (hpart : .branch kind children ∈ doc.parts) (h : Walked doc seen refs result) :
    Walked doc seen refs (result.1, lowerBranch d kind result.2) := by
  cases kind with
  | heading depth =>
    refine h.wrap _ ?_
    rw [lowerBranch, piecesAll_cons, piecesAll_nil, List.append_nil,
      pieces_element_of_tag (heading_tag_ne (by decide)) (heading_tag_ne (by decide))]
  | linkReference reference =>
    refine h.wrap _ ?_
    unfold lowerBranch
    dsimp only
    split <;> simp
  | jsxFlow name attributes =>
    cases name with
    | none => exact h
    | some name => exact h.component fun _ => ⟨_, hpart, rfl⟩
  | jsxText name attributes =>
    cases name with
    | none => exact h
    | some name => exact h.component fun _ => ⟨_, hpart, rfl⟩
  | _ => exact h.wrap _ (by simp [lowerBranch])

/-! ### The walk -/

/-- Content of an item, with paragraphs that give their content only. -/
theorem paragraph_walked (loose : Bool) (h : Walked doc seen refs result) :
    Walked doc seen refs (result.1, if loose then [.element "p" ∅ result.2] else result.2) := by
  cases loose with
  | true => exact h.wrap _ (by simp)
  | false => exact h

mutual

/-- The walk through a tree. Parts that the walk passes over meet no reference, and every other
branch puts something without pieces around what its parts give. -/
theorem lowerNode_walked {p : Progress} {seen : List String} (hp : p.Records seen) :
    ∀ m : Markdown, m.parts ⊆ doc.parts →
      Walked doc seen m.references (lowerNode d p m)
  | .leaf kind, _ => lowerLeaf_walked hp kind
  | .branch kind children, hparts => by
    have hchildren : partsAll children ⊆ doc.parts := fun _ hpart =>
      hparts (List.mem_cons_of_mem _ hpart)
    have hpart : .branch kind children ∈ doc.parts := hparts (self_mem_parts _)
    have hbranch := lowerBranch_walked (d := d) hpart
      (lowerAll_walked (records_noteBranch hp kind) children hchildren)
    cases kind with
    | list ordered spread start =>
      exact (lowerItems_walked _ hp children hchildren).wrap _ (by simp)
    | listItem spread checked =>
      exact (lowerContent_walked _ hp children hchildren).wrap _ (by simp)
    | table alignment =>
      exact (lowerRows_walked alignment "th" (by decide) hp children hchildren).wrap _ (by simp)
    | tableRow => exact Walked.of_pieces_eq_nil (records_note hp _) rfl
    | tableCell => exact Walked.of_pieces_eq_nil (records_note hp _) rfl
    | footnoteDefinition identifier label => exact Walked.of_pieces_eq_nil hp rfl
    | _ => exact hbranch

/-- The walk through trees that stand side by side. -/
theorem lowerAll_walked {p : Progress} {seen : List String} (hp : p.Records seen) :
    ∀ ms : List Markdown, partsAll ms ⊆ doc.parts →
      Walked doc seen (referencesAll ms) (lowerAll d p ms)
  | [], _ => Walked.of_pieces_eq_nil hp rfl
  | m :: rest, hparts => by
    obtain ⟨hm, hrest⟩ := List.append_subset.mp hparts
    have hnode := lowerNode_walked hp m hm
    exact hnode.append (lowerAll_walked hnode.records rest hrest)

/-- The walk through the parts of a list. -/
theorem lowerItems_walked (loose : Bool) {p : Progress} {seen : List String}
    (hp : p.Records seen) : ∀ ms : List Markdown, partsAll ms ⊆ doc.parts →
      Walked doc seen (referencesAll ms) (lowerItems d loose p ms)
  | [], _ => Walked.of_pieces_eq_nil hp rfl
  | .leaf kind :: rest, hparts => by
    have hnode : Walked doc seen (references (.leaf kind)) (lowerLeaf d p kind) :=
      lowerLeaf_walked hp kind
    exact hnode.append (lowerItems_walked loose hnode.records rest (List.append_subset.mp hparts).2)
  | .branch kind children :: rest, hparts => by
    obtain ⟨hm, hrest⟩ := List.append_subset.mp hparts
    have hnode := lowerNode_walked hp (.branch kind children) hm
    have hitems := lowerItems_walked loose hnode.records rest hrest
    -- items share the looseness of their list; everything else goes through the general walk
    cases kind with
    | listItem spread checked =>
      have hcontent := lowerContent_walked loose hp children fun _ hpart =>
        hm (List.mem_cons_of_mem _ hpart)
      have hitem := hcontent.wrap [itemElement loose checked (lowerContent d loose p children).2]
        (by simp)
      exact hitem.append (lowerItems_walked loose hitem.records rest hrest)
    | _ => exact hnode.append hitems

/-- The walk through the parts of an item. -/
theorem lowerContent_walked (loose : Bool) {p : Progress} {seen : List String}
    (hp : p.Records seen) : ∀ ms : List Markdown, partsAll ms ⊆ doc.parts →
      Walked doc seen (referencesAll ms) (lowerContent d loose p ms)
  | [], _ => Walked.of_pieces_eq_nil hp rfl
  | .leaf kind :: rest, hparts => by
    have hnode : Walked doc seen (references (.leaf kind)) (lowerLeaf d p kind) :=
      lowerLeaf_walked hp kind
    exact hnode.append
      (lowerContent_walked loose hnode.records rest (List.append_subset.mp hparts).2)
  | .branch kind children :: rest, hparts => by
    obtain ⟨hm, hrest⟩ := List.append_subset.mp hparts
    have hnode := lowerNode_walked hp (.branch kind children) hm
    have hcontent := lowerContent_walked loose hnode.records rest hrest
    -- paragraphs may lose their element; everything else goes through the general walk
    cases kind with
    | paragraph =>
      have hparagraph := paragraph_walked loose (lowerAll_walked hp children fun _ hpart =>
        hm (List.mem_cons_of_mem _ hpart))
      exact hparagraph.append (lowerContent_walked loose hparagraph.records rest hrest)
    | _ => exact hnode.append hcontent

/-- The walk through the rows of a table. -/
theorem lowerRows_walked (alignment : List Markdown.Alignment) (first : String)
    (hfirst : first ≠ "a" ∧ first ≠ "section") {p : Progress} {seen : List String}
    (hp : p.Records seen) : ∀ ms : List Markdown, partsAll ms ⊆ doc.parts →
      Walked doc seen (referencesRows ms) (lowerRows d alignment first p ms)
  | [], _ => Walked.of_pieces_eq_nil hp rfl
  | .leaf kind :: rest, hparts =>
    lowerRows_walked alignment first hfirst hp rest (List.append_subset.mp hparts).2
  | .branch kind children :: rest, hparts => by
    obtain ⟨hm, hrest⟩ := List.append_subset.mp hparts
    have hskipped := lowerRows_walked alignment first hfirst hp rest hrest
    -- only rows are walked through, and the tag of later ones is not the one given
    cases kind with
    | tableRow =>
      have hcells := lowerCells_walked first hfirst alignment hp children fun _ hpart =>
        hm (List.mem_cons_of_mem _ hpart)
      have hrow := hcells.wrap [.element "tr" ∅ (lowerCells d first alignment p children).2]
        (by simp)
      exact hrow.append (lowerRows_walked alignment "td" (by decide) hrow.records rest hrest)
    | _ => exact hskipped

/-- The walk through the cells of a row. -/
theorem lowerCells_walked (tag : String) (htag : tag ≠ "a" ∧ tag ≠ "section")
    (alignment : List Markdown.Alignment) {p : Progress} {seen : List String}
    (hp : p.Records seen) : ∀ ms : List Markdown, partsAll ms ⊆ doc.parts →
      Walked doc seen (referencesCells ms) (lowerCells d tag alignment p ms)
  | [], _ => Walked.of_pieces_eq_nil hp rfl
  | .leaf kind :: rest, hparts =>
    lowerCells_walked tag htag alignment.tail hp rest (List.append_subset.mp hparts).2
  | .branch kind children :: rest, hparts => by
    obtain ⟨hm, hrest⟩ := List.append_subset.mp hparts
    have hskipped := lowerCells_walked tag htag alignment.tail hp rest hrest
    cases kind with
    | tableCell =>
      have hchildren := lowerAll_walked hp children fun _ hpart =>
        hm (List.mem_cons_of_mem _ hpart)
      have hcell := hchildren.wrap
        [.element tag (alignAttributes alignment.head?) (lowerAll d p children).2] (by simp [htag])
      exact hcell.append (lowerCells_walked tag htag alignment.tail hcell.records rest hrest)
    | _ => exact hskipped

end

end Manuscript.Lowering
