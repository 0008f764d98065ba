import Manuscript.Proofs.Footnotes.Walk

/-!
# The section of footnotes

After the walk through the document the texts of the footnotes are walked through, one after the
other, in the order in which the walk through the document first met their labels. An item has a
link back for every reference met before its own text: those in the document and in the items
before it. Footnotes that are first referred to in the text of another one get no item.

## Main definitions

* `FootnoteItem` — an item with the links back that were made for it
* `FootnoteItem.IsFor` — what an item shows of its footnote
* `Markdown.noteOrder`, `Markdown.referencesBefore`, `Markdown.allReferences` — the footnotes that
  get an item, and the references met before one of them and in all
* `Markdown.HasFootnotes` — the links and the items that were made for a document

## Main results

* `footnoteItem_records`, `footnoteItem_pieces` — one item
* `footnoteItems_spec` — all items
* `toDocument_footnotes` — the footnotes of a document
-/

namespace Manuscript

open Lowering

/-- An item of the section of footnotes with the links back that were made for it. -/
structure FootnoteItem where
  /-- The item. -/
  element : Element
  /-- The links back from it to the references. -/
  backReferences : List Element

namespace Lowering

/-- The links back from a footnote to its first references. -/
def backReferences (id : String) (number count : Nat) : List Element :=
  (List.range count).map fun k => backReference id number (k + 1)

/-- The section with given items. Without items there is none. -/
def sectionOf (items : List FootnoteItem) : List Element :=
  if items.isEmpty then [] else [footnoteSection (items.map (·.element.toNode))]

/-- The labels of the references in the text of a footnote. -/
def noteReferences (d : Definitions) (id : String) : List String :=
  (d.footnote? id).elim [] Markdown.referencesAll

end Lowering

/-- An item shows a footnote: it is named for its label, and it has a link back to each of its first
`count` references. Its other links back are written by the document. -/
structure FootnoteItem.IsFor (doc : Markdown) (id : String) (number count : Nat)
    (item : FootnoteItem) : Prop where
  /-- It is an item of a list. -/
  tag_eq : item.element.tag = "li"
  /-- It is named for the label of the footnote. -/
  id_eq : item.element.attrText? "id" = some ("user-content-fn-" ++ footnoteId id)
  /-- The links back lead to the references one by one. -/
  backReferences_eq : item.backReferences = Lowering.backReferences id number count
  /-- The links back are in the item. -/
  drops : Drops doc.Writes (item.element.toNode.elements.filter Element.isBackReference)
    item.backReferences

namespace Lowering

open Markdown hiding children
open Node hiding children

variable {doc : Markdown} {d : Definitions} {p : Progress} {seen refs ids : List String}
  {text : List Markdown} {q : Element → Bool}

/-! ### Telling the kinds apart -/

theorem filter_pieces (hq : ∀ e, q e = true → e.isFootnotePiece = true) (n : Node) :
    n.pieces.filter q = n.elements.filter q := by
  rw [pieces, List.filter_filter]
  exact List.filter_congr fun e _ => by cases h : q e <;> simp [h, hq]

theorem filter_anchorsFrom_of_true (hq : ∀ id number n, q (footnoteAnchor id number n) = true) :
    ((anchorsFrom seen refs).map Prod.snd).filter q = (anchorsFrom seen refs).map Prod.snd :=
  List.filter_eq_self.mpr fun _ he => by
    obtain ⟨_, _, _, rfl⟩ := mem_anchorsFrom he
    exact hq ..

theorem filter_anchorsFrom_of_false (hq : ∀ id number n, q (footnoteAnchor id number n) = false) :
    ((anchorsFrom seen refs).map Prod.snd).filter q = [] :=
  List.filter_eq_nil_iff.mpr fun _ he => by
    obtain ⟨_, _, _, rfl⟩ := mem_anchorsFrom he
    simp [hq]

theorem filter_backReferences_of_true (hq : ∀ id number n, q (backReference id number n) = true)
    (id : String) (number count : Nat) :
    (backReferences id number count).filter q = backReferences id number count :=
  List.filter_eq_self.mpr fun _ he => by
    obtain ⟨_, _, rfl⟩ := List.mem_map.mp he
    exact hq ..

theorem filter_backReferences_of_false (hq : ∀ id number n, q (backReference id number n) = false)
    (id : String) (number count : Nat) :
    (backReferences id number count).filter q = [] :=
  List.filter_eq_nil_iff.mpr fun _ he => by
    obtain ⟨_, _, rfl⟩ := List.mem_map.mp he
    simp [hq]

theorem filter_sectionOf_of_true (hq : ∀ items, q (footnoteSection items) = true)
    (items : List FootnoteItem) : (sectionOf items).filter q = sectionOf items := by
  unfold sectionOf
  split
  · rfl
  · exact List.filter_cons_of_pos (hq _)

theorem filter_sectionOf_of_false (hq : ∀ items, q (footnoteSection items) = false)
    (items : List FootnoteItem) : (sectionOf items).filter q = [] := by
  unfold sectionOf
  split
  · rfl
  · exact List.filter_cons_of_neg (by simp [hq])

/-! ### One item -/

/-- The walk through the text of a footnote goes on recording. -/
theorem footnoteItem_records (number : Nat) (id : String) (hp : p.Records seen)
    (htext : partsAll text ⊆ doc.parts) :
    (footnoteItem d p number id text).1.Records (seen ++ referencesAll text) :=
  (lowerAll_walked hp text htext).records

/-- An item has the links made of the references in its text and a link back for every reference met
before. -/
theorem footnoteItem_pieces (number : Nat) (id : String) (hp : p.Records seen)
    (htext : partsAll text ⊆ doc.parts) :
    Drops doc.Writes (footnoteItem d p number id text).2.toNode.pieces
      ((anchorsFrom seen (referencesAll text)).map Prod.snd ++
        backReferences id number (seen.count id)) := by
  have hbacks : piecesAll ((List.range (p.count id)).map fun k =>
      (backReference id number (k + 1)).toNode) = backReferences id number (seen.count id) := by
    rw [hp.count_eq, backReferences]
    induction List.range (seen.count id) with
    | nil => rfl
    | cons k rest ih => simp [ih]
  -- the count is read before the text is walked through
  have hpieces : (footnoteItem d p number id text).2.toNode.pieces =
      piecesAll (lowerAll d p text).2 ++ backReferences id number (seen.count id) := by
    rw [← hbacks, ← piecesAll_withBackReferences]
    have htag : (footnoteItem d p number id text).2.tag = "li" := rfl
    exact pieces_element_of_tag (by simp [htag]) (by simp [htag])
  rw [hpieces]
  exact (lowerAll_walked hp text htext).pieces.append (.refl _ _)

/-- An item shows its footnote. -/
theorem footnoteItem_isFor (number : Nat) (id : String) (hp : p.Records seen)
    (htext : partsAll text ⊆ doc.parts) :
    FootnoteItem.IsFor doc id number (seen.count id)
      ⟨(footnoteItem d p number id text).2, backReferences id number (seen.count id)⟩ := by
  have hdrops := (footnoteItem_pieces (d := d) number id hp htext).filter Element.isBackReference
  rw [filter_pieces fun e he => by simp [Element.isFootnotePiece, he], List.filter_append,
    filter_anchorsFrom_of_false fun id number n => (kinds_footnoteAnchor id number n).2.1,
    filter_backReferences_of_true fun id number n => (kinds_backReference id number n).2.1,
    List.nil_append] at hdrops
  refine ⟨rfl, ?_, rfl, hdrops⟩
  simp [footnoteItem, Element.attrText?, Element.attr?, Attributes.ofList, AttributeValue.text?]

/-! ### All items -/

/-- The items of footnotes show one footnote each, with a link back for every reference met before
its text. The links made of the references in their texts come in order. -/
theorem footnoteItems_spec (doc : Markdown) (number : Nat) (ids : List String) (hp : p.Records seen)
    (hdefined : ∀ id ∈ ids, ∃ text, d.footnote? id = some text ∧ partsAll text ⊆ doc.parts) :
    ∃ items : List FootnoteItem,
      (footnoteItems d p number ids).2 = items.map (·.element.toNode) ∧
      Drops doc.Writes ((piecesAll (items.map (·.element.toNode))).filter Element.isFootnoteAnchor)
        ((anchorsFrom seen (ids.flatMap (noteReferences d))).map Prod.snd) ∧
      Drops doc.Writes ((piecesAll (items.map (·.element.toNode))).filter Element.isFootnoteSection)
        [] ∧
      items.length = ids.length ∧
      ∀ i id, ids[i]? = some id → ∃ item : FootnoteItem, items[i]? = some item ∧
        item.IsFor doc id (number + i)
          ((seen ++ (ids.take i).flatMap (noteReferences d)).count id) := by
  induction ids generalizing p seen number with
  | nil => exact ⟨[], rfl, .nil, .nil, rfl, by simp⟩
  | cons id rest ih =>
    obtain ⟨text, htext, hparts⟩ := hdefined id List.mem_cons_self
    have hlabels : noteReferences d id = referencesAll text := by rw [noteReferences, htext]; rfl
    obtain ⟨items, hnodes, hanchors, hsections, hlength, hitems⟩ :=
      ih (number + 1) (footnoteItem_records (d := d) number id hp hparts)
        fun other hmem => hdefined other (List.mem_cons_of_mem _ hmem)
    have hpieces := footnoteItem_pieces (d := d) number id hp hparts
    -- what has been met before the next item grows by the references in this one
    refine ⟨⟨(footnoteItem d p number id text).2, backReferences id number (seen.count id)⟩ ::
      items, ?_, ?_, ?_, congrArg (· + 1) hlength, ?_⟩
    · simp only [footnoteItems, htext, hnodes, List.map_cons]
    · have hfirst := hpieces.filter Element.isFootnoteAnchor
      rw [List.filter_append,
        filter_anchorsFrom_of_true fun id number n => (kinds_footnoteAnchor id number n).1,
        filter_backReferences_of_false fun id number n => (kinds_backReference id number n).1,
        List.append_nil] at hfirst
      rw [List.map_cons, piecesAll_cons, List.filter_append, List.flatMap_cons, hlabels,
        anchorsFrom_append, List.map_append]
      exact hfirst.append hanchors
    · have hfirst := hpieces.filter Element.isFootnoteSection
      rw [List.filter_append,
        filter_anchorsFrom_of_false fun id number n => (kinds_footnoteAnchor id number n).2.2,
        filter_backReferences_of_false fun id number n => (kinds_backReference id number n).2.2]
        at hfirst
      rw [List.map_cons, piecesAll_cons, List.filter_append]
      exact hfirst.append hsections
    · intro i other hother
      cases i with
      | zero =>
        obtain rfl : id = other := by simpa using hother
        refine ⟨_, rfl, ?_⟩
        simpa using footnoteItem_isFor (d := d) number id hp hparts
      | succ i =>
        obtain ⟨item, hitem, hfor⟩ := hitems i other (by simpa using hother)
        refine ⟨item, by simpa using hitem, ?_⟩
        rw [List.take_succ_cons, List.flatMap_cons, hlabels, ← List.append_assoc,
          show number + (i + 1) = number + 1 + i by omega]
        exact hfor

/-- The section has the pieces of its items and is one itself. Without items there is none. -/
theorem piecesAll_footnoteSection? (d : Definitions) (p : Progress) {items : List FootnoteItem}
    (hitems : (footnoteItems d p 1 p.order).2 = items.map (·.element.toNode))
    (hlength : items.length = p.order.length) :
    piecesAll (footnoteSection? d p).2 =
      sectionOf items ++ piecesAll (items.map (·.element.toNode)) := by
  have hempty : p.order.isEmpty = items.isEmpty := by
    rw [Bool.eq_iff_iff, List.isEmpty_iff_length_eq_zero, List.isEmpty_iff_length_eq_zero, hlength]
  unfold footnoteSection?
  rw [hempty]
  cases items with
  | nil => rfl
  | cons item rest =>
    change piecesAll [(footnoteSection (footnoteItems d p 1 p.order).2).toNode] = _
    rw [hitems, piecesAll_cons, pieces_footnoteSection, piecesAll_nil, List.append_nil]
    rfl

end Lowering

/-! ### Whole documents -/

/-- If there is an item for every label and there are no more items than labels, every item comes
from a label. -/
theorem exists_label_of_getElem? {ids : List String} {items : List FootnoteItem}
    {P : Nat → String → FootnoteItem → Prop} {i : Nat} {item : FootnoteItem}
    (hlength : items.length = ids.length)
    (hitems : ∀ i id, ids[i]? = some id →
      ∃ item : FootnoteItem, items[i]? = some item ∧ P i id item)
    (hitem : items[i]? = some item) : ∃ id, ids[i]? = some id ∧ P i id item := by
  obtain ⟨hlt, -⟩ := List.getElem?_eq_some_iff.mp hitem
  have hid : ids[i]? = some ids[i] := List.getElem?_eq_getElem (hlength ▸ hlt)
  obtain ⟨other, hother, hP⟩ := hitems i _ hid
  obtain rfl : other = item := Option.some.inj (hother.symm.trans hitem)
  exact ⟨_, hid, hP⟩

namespace Markdown

/-- The labels of the footnotes that get an item, in the order of their items. -/
def noteOrder (m : Markdown) : List String := m.references.eraseDups

/-- The labels of the references that are met before the text of the footnote at a place of the
section: those outside of footnotes and those in the items before it. -/
def referencesBefore (m : Markdown) (i : Nat) : List String :=
  m.references ++ (m.noteOrder.take i).flatMap (noteReferences (Definitions.ofMarkdown m))

/-- The labels of all references that are met. -/
def allReferences (m : Markdown) : List String :=
  m.references ++ m.noteOrder.flatMap (noteReferences (Definitions.ofMarkdown m))

/-- The links and the items that were made for the footnotes of a document. Whatever else in its
tree looks like one of them is written by the document itself. -/
structure HasFootnotes (m : Markdown) (anchors : List Element) (items : List FootnoteItem) :
    Prop where
  /-- The links made of references, in the order of the tree. -/
  anchors : Drops m.Writes (m.toDocument.tree.elements.filter Element.isFootnoteAnchor) anchors
  /-- If there are items, there is one section, and it holds just the items. -/
  sections : Drops m.Writes (m.toDocument.tree.elements.filter Element.isFootnoteSection)
    (sectionOf items)
  /-- The links back in each item. -/
  backReferences : ∀ item ∈ items,
    Drops m.Writes (item.element.toNode.elements.filter Element.isBackReference) item.backReferences

variable {m : Markdown} {id : String}

/-- The label of every reference that is met stands for a footnote, whose text is part of the
document. -/
theorem ReferencesDefined.exists_footnote (h : m.ReferencesDefined) (hid : id ∈ m.references) :
    ∃ text, (Definitions.ofMarkdown m).footnote? id = some text ∧ partsAll text ⊆ m.parts := by
  obtain ⟨footnote, hmem, hlabel⟩ := List.mem_map.mp (h id (references_subset m hid))
  have hsome : ((Definitions.ofMarkdown m).footnote? id).isSome := by
    simp only [Definitions.footnote?, List.lookup_isSome_iff]
    exact ⟨footnote, hmem, by simp [hlabel]⟩
  obtain ⟨text, htext⟩ := Option.isSome_iff_exists.mp hsome
  refine ⟨text, htext, fun part hpart => ?_⟩
  obtain ⟨top, htop, hpart⟩ := mem_partsAll.mp hpart
  exact mem_parts_trans hpart m (mem_parts_of_footnote? htext htop)

end Markdown

open Node in
/-- A document in which every reference has a footnote has one item for each footnote that is
referred to outside of footnotes, in the order of the first references. -/
theorem toDocument_footnotes (m : Markdown) (hdefined : m.ReferencesDefined) :
    ∃ items : List FootnoteItem,
      m.HasFootnotes ((anchorsFrom [] m.allReferences).map Prod.snd) items ∧
      items.length = m.noteOrder.length ∧
      ∀ i id, m.noteOrder[i]? = some id → ∃ item : FootnoteItem, items[i]? = some item ∧
        item.IsFor m id (i + 1) ((m.referencesBefore i).count id) := by
  have hwalk : Walked m [] m.references (lowerNode (Definitions.ofMarkdown m) {} m) :=
    lowerNode_walked Progress.records_empty m (List.Subset.refl _)
  have hrecords := hwalk.records
  rw [List.nil_append] at hrecords
  -- the loop goes over the labels met so far, whatever labels it adds on the way
  obtain ⟨items, hnodes, hanchors, hsections, hlength, hitems⟩ :=
    footnoteItems_spec m 1 m.noteOrder hrecords fun id hid =>
      hdefined.exists_footnote (List.mem_eraseDups.mp hid)
  have horder : (lowerNode (Definitions.ofMarkdown m) {} m).1.order = m.noteOrder :=
    hrecords.order_eq
  have hpieces : m.toDocument.tree.pieces =
      piecesAll (lowerNode (Definitions.ofMarkdown m) {} m).2 ++
        (sectionOf items ++ piecesAll (items.map (·.element.toNode))) := by
    rw [← piecesAll_footnoteSection? _ _ (horder ▸ hnodes) (horder ▸ hlength),
      ← piecesAll_append, ← piecesAll_blockLines false]
    rfl
  refine ⟨items, ⟨?_, ?_, fun item hmem => ?_⟩, hlength, fun i id hid => ?_⟩
  · have hbody := hwalk.pieces.filter Element.isFootnoteAnchor
    rw [filter_anchorsFrom_of_true fun id number n => (kinds_footnoteAnchor id number n).1]
      at hbody
    rw [← filter_pieces fun e he => by simp [Element.isFootnotePiece, he], hpieces,
      List.filter_append, List.filter_append,
      filter_sectionOf_of_false fun items => (kinds_footnoteSection items).1,
      List.nil_append, Markdown.allReferences, anchorsFrom_append, List.map_append]
    exact hbody.append hanchors
  · have hbody := hwalk.pieces.filter Element.isFootnoteSection
    rw [filter_anchorsFrom_of_false fun id number n => (kinds_footnoteAnchor id number n).2.2]
      at hbody
    rw [← filter_pieces fun e he => by simp [Element.isFootnotePiece, he], hpieces,
      List.filter_append, List.filter_append,
      filter_sectionOf_of_true fun items => (kinds_footnoteSection items).2.2]
    simpa using hbody.append ((Drops.refl _ (sectionOf items)).append hsections)
  · obtain ⟨i, hi⟩ := List.mem_iff_getElem?.mp hmem
    obtain ⟨id, -, hfor⟩ := exists_label_of_getElem? hlength hitems hi
    exact hfor.drops
  · obtain ⟨item, hitem, hfor⟩ := hitems i id hid
    exact ⟨item, hitem, by rwa [Nat.add_comm] at hfor⟩

end Manuscript
