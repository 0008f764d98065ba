import Manuscript.Document.Headings
import Manuscript.Proofs.Document.Attributes
import Manuscript.Proofs.Document.Leaves
import Manuscript.Proofs.Slug.Slugger

/-!
# Ids of headings

Giving ids to headings touches nothing but the ids of headings. The list that comes with the new
tree describes its headings in document order, and the ids made for it differ from each other and
from all ids that the tree had, wherever in the tree they stand: a first visit reserves those, and
the second visit asks the same slugger for the others.

## Main definitions

* `Node.headings` — the headings of a tree, in pre-order
* `HeadingEntry.ofElement?` — the entry that describes a heading
* `generatedIds` — the ids that headings got which had no plain one
* `Node.withoutHeadingIds` — a tree without the ids of its headings

## Main results

* `entries_visit` — the entries describe the headings of the new tree
* `withoutHeadingIds_visit` — the new tree differs in ids of headings only
* `generatedIds_foldl` — generated ids collide with nothing
* `assignHeadingIds_spec` — all of this for a whole tree
-/

namespace Manuscript.Node

open Text (Slugger)

/-- The headings of a tree, in pre-order. -/
def headings (n : Node) : List Element := n.elements.filter Element.isHeading

/-- The headings of trees that stand side by side, in pre-order. -/
def headingsAll (ns : List Node) : List Element := (elementsAll ns).filter Element.isHeading

/-- The entry of the table of contents that describes a heading: its level, its id and its text. An
element that is no heading or has no id has none. -/
def HeadingEntry.ofElement? (e : Element) : Option HeadingEntry := do
  let depth ← headingLevel? e.tag
  let id ← e.attrString? "id"
  return ⟨depth, id, Text.trimmed e.textContent⟩

/-- The ids made for those among some headings that had no plain id, given the entries of all. -/
def generatedIds (headings : List Element) (entries : List HeadingEntry) : List String :=
  (headings.zip entries).filterMap fun (e, entry) =>
    if (e.attrText? "id").isNone then some entry.slug else none

/-- A tree without the ids of its headings. -/
def withoutHeadingIds (n : Node) : Node :=
  n.mapAttributes Element.isHeading fun e => e.attributes.erase "id"

variable {s : Slugger × List HeadingEntry} {e : Element} {hs : List Element}

/-! ### One heading -/

/-- Whether an element is a heading depends on its tag only. -/
theorem isHeading_mk {tag : String} {attributes : Attributes} {children : List Node} :
    Element.isHeading ⟨tag, attributes, children⟩ = (headingLevel? tag).isSome := rfl

theorem added_assignHeadingId (s : Slugger × List HeadingEntry) (e : Element) :
    (assignHeadingId s e).2.added = [] := by
  unfold assignHeadingId
  dsimp only
  split <;> rfl

theorem tag_assignHeadingId : (assignHeadingId s e).2.tag = e.tag := by
  unfold assignHeadingId
  dsimp only
  split <;> rfl

theorem erase_assignHeadingId :
    (assignHeadingId s e).2.attributes.erase "id" = e.attributes.erase "id" := by
  unfold assignHeadingId
  dsimp only
  split
  · rfl
  · exact Attributes.erase_insert

/-- A visit of a heading: it gets its id before those inside it. -/
theorem visit_heading {tag : String} {attributes : Attributes} {children : List Node}
    (h : Element.isHeading ⟨tag, attributes, children⟩ = true) :
    (Node.element tag attributes children).visit Element.isHeading assignHeadingId s =
      ((visitAll Element.isHeading assignHeadingId
          (assignHeadingId s ⟨tag, attributes, children⟩).1 children).1,
        .element tag (assignHeadingId s ⟨tag, attributes, children⟩).2.attributes
          (visitAll Element.isHeading assignHeadingId
            (assignHeadingId s ⟨tag, attributes, children⟩).1 children).2) := by
  rw [visit_element_of_selected _ _ h (added_assignHeadingId _ _), tag_assignHeadingId]

/-- A heading gets one entry, which describes what the heading becomes, whatever is made of its
children as long as their text is kept. -/
theorem ofElement?_assignHeadingId (s : Slugger × List HeadingEntry) (he : e.isHeading)
    {children : List Node} (htext : textContentAll children = e.textContent) :
    ∃ entry, (assignHeadingId s e).1.2 = s.2 ++ [entry] ∧
      HeadingEntry.ofElement? ⟨e.tag, (assignHeadingId s e).2.attributes, children⟩ =
        some entry := by
  obtain ⟨level, hlevel⟩ := Option.isSome_iff_exists.mp he
  have hchildren (attributes : Attributes) :
      Element.textContent ⟨e.tag, attributes, children⟩ = e.textContent := htext
  unfold assignHeadingId
  dsimp only
  split
  · rename_i id hid
    have hstring : Element.attrString? ⟨e.tag, e.attributes, children⟩ "id" = some id :=
      Element.attrString?_of_attrText? (e := ⟨e.tag, e.attributes, children⟩) hid
    refine ⟨_, rfl, ?_⟩
    simp [HeadingEntry.ofElement?, Revision.same, hlevel, hstring, hchildren]
  · refine ⟨_, rfl, ?_⟩
    simp [HeadingEntry.ofElement?, Revision.withAttributes, hlevel, hchildren, Element.attrString?,
      Element.attr?, AttributeValue.toMarkup]

/-! ### The entries -/

mutual

/-- The entries added by a visit are those of the headings of the new tree. -/
theorem entries_visit (s : Slugger × List HeadingEntry) : ∀ n : Node,
    (n.visit Element.isHeading assignHeadingId s).1.2.map some =
      s.2.map some ++
        (n.visit Element.isHeading assignHeadingId s).2.headings.map HeadingEntry.ofElement?
  | .root children => by
    simp only [visit, headings, elements]
    exact entries_visitAll s children
  | .element tag attributes children => by
    cases h : (headingLevel? tag).isSome with
    | true =>
      -- the text of the heading is that of its children, which the visit keeps
      have htext := textContentAll_visitAll Element.isHeading added_assignHeadingId
        (assignHeadingId s ⟨tag, attributes, children⟩).1 children
      obtain ⟨entry, hentry, hdescribes⟩ :=
        ofElement?_assignHeadingId s (e := ⟨tag, attributes, children⟩) h htext
      rw [visit_heading h, headings, elements, List.filter_cons, isHeading_mk, if_pos h,
        List.map_cons, hdescribes, entries_visitAll, hentry, List.map_append, List.append_assoc]
      rfl
    | false =>
      rw [visit_element_of_not_selected _ _ h, headings, elements, List.filter_cons, isHeading_mk,
        if_neg (Bool.eq_false_iff.mp h)]
      exact entries_visitAll s children
  | .leaf kind value => by simp [visit, headings, elements]

theorem entries_visitAll (s : Slugger × List HeadingEntry) : ∀ ns : List Node,
    (visitAll Element.isHeading assignHeadingId s ns).1.2.map some =
      s.2.map some ++
        (headingsAll (visitAll Element.isHeading assignHeadingId s ns).2).map
          HeadingEntry.ofElement?
  | [] => by simp [visitAll, headingsAll, elementsAll]
  | n :: rest => by
    simp only [visitAll, headingsAll, elementsAll, List.filter_append, List.map_append]
    rw [entries_visitAll, entries_visit, List.append_assoc]
    rfl

end

/-! ### What stays -/

mutual

/-- A visit that gives ids to headings changes nothing else. -/
theorem withoutHeadingIds_visit (s : Slugger × List HeadingEntry) : ∀ n : Node,
    (n.visit Element.isHeading assignHeadingId s).2.withoutHeadingIds = n.withoutHeadingIds
  | .root children => by
    simp only [visit, withoutHeadingIds, mapAttributes_root]
    exact congrArg Node.root (map_withoutHeadingIds_visitAll s children)
  | .element tag attributes children => by
    cases h : (headingLevel? tag).isSome with
    | true =>
      rw [visit_heading h, withoutHeadingIds, withoutHeadingIds, mapAttributes_element,
        mapAttributes_element, isHeading_mk, isHeading_mk, if_pos h, if_pos h,
        erase_assignHeadingId]
      exact congrArg _ (map_withoutHeadingIds_visitAll _ children)
    | false =>
      rw [visit_element_of_not_selected _ _ h, withoutHeadingIds, withoutHeadingIds,
        mapAttributes_element, mapAttributes_element, isHeading_mk, isHeading_mk,
        if_neg (Bool.eq_false_iff.mp h)]
      exact congrArg _ (map_withoutHeadingIds_visitAll s children)
  | .leaf kind value => rfl

theorem map_withoutHeadingIds_visitAll (s : Slugger × List HeadingEntry) : ∀ ns : List Node,
    (visitAll Element.isHeading assignHeadingId s ns).2.map withoutHeadingIds =
      ns.map withoutHeadingIds
  | [] => rfl
  | n :: rest => by
    simp only [visitAll, List.map_cons]
    rw [withoutHeadingIds_visit, map_withoutHeadingIds_visitAll]

end

/-! ### Generated ids -/

/-- A heading with a plain id keeps it, and the slugger is not asked. -/
theorem assignHeadingId_of_id {id : String} (h : e.attrText? "id" = some id) :
    ∃ entry, (assignHeadingId s e).1 = (s.1, s.2 ++ [entry]) := by
  unfold assignHeadingId
  simp only [h]
  exact ⟨_, rfl⟩

/-- A heading without a plain id is asked of the slugger. -/
theorem assignHeadingId_of_none (h : e.attrText? "id" = none) :
    ∃ entry, (assignHeadingId s e).1 = ((s.1.slug e.textContent).2, s.2 ++ [entry]) ∧
      entry.slug = (s.1.slug e.textContent).1 := by
  unfold assignHeadingId
  simp only [h]
  exact ⟨_, rfl, rfl⟩

/-- Going through headings with a consistent slugger makes ids that differ from each other and
from the ids that are taken. -/
theorem generatedIds_foldl (hs : List Element) (hconsistent : s.1.Consistent) :
    ∃ entries, (hs.foldl (fun s e => (assignHeadingId s e).1) s).2 = s.2 ++ entries ∧
      (generatedIds hs entries).Nodup ∧ ∀ id ∈ generatedIds hs entries, id ∉ s.1.ids := by
  induction hs generalizing s with
  | nil => exact ⟨[], by simp, by simp [generatedIds], by simp [generatedIds]⟩
  | cons e rest ih =>
    cases hid : e.attrText? "id" with
    | some id =>
      obtain ⟨entry, hstep⟩ := assignHeadingId_of_id (s := s) hid
      obtain ⟨entries, hentries, hnodup, hnot⟩ := ih (s := (s.1, s.2 ++ [entry])) hconsistent
      have hgenerated :
          generatedIds (e :: rest) (entry :: entries) = generatedIds rest entries := by
        simp [generatedIds, hid]
      refine ⟨entry :: entries, ?_, hgenerated ▸ hnodup, hgenerated ▸ hnot⟩
      rw [List.foldl_cons, hstep, hentries, List.append_assoc]
      rfl
    | none =>
      obtain ⟨entry, hstep, hslug⟩ := assignHeadingId_of_none (s := s) hid
      obtain ⟨slugger, hspec, hids, hconsistent'⟩ :=
        Slugger.slug_spec hconsistent e.textContent
      rw [hspec] at hstep hslug
      replace hslug : entry.slug = Text.firstFree s.1.ids (Text.slugify e.textContent) := hslug
      obtain ⟨entries, hentries, hnodup, hnot⟩ := ih (s := (slugger, s.2 ++ [entry])) hconsistent'
      have hgenerated : generatedIds (e :: rest) (entry :: entries) =
          entry.slug :: generatedIds rest entries := by
        simp [generatedIds, hid]
      have hfree : entry.slug ∉ s.1.ids := hslug ▸ Text.firstFree_notMem _ _
      -- the slugger has taken this id when it makes the later ones
      have htaken : ∀ id ∈ generatedIds rest entries, id ≠ entry.slug ∧ id ∉ s.1.ids := by
        intro id hmem
        have hout := hnot id hmem
        rw [hids, ← hslug, Finset.mem_insert, not_or] at hout
        exact hout
      refine ⟨entry :: entries, ?_, ?_, ?_⟩
      · rw [List.foldl_cons, hstep, hentries, List.append_assoc]
        rfl
      · rw [hgenerated, List.nodup_cons]
        exact ⟨fun hmem => (htaken _ hmem).1 rfl, hnodup⟩
      · rw [hgenerated]
        intro id hmem
        rcases List.mem_cons.mp hmem with rfl | hmem
        · exact hfree
        · exact (htaken id hmem).2

/-! ### Reserved ids -/

mutual

/-- The ids that are reserved are those of the elements, in pre-order. -/
theorem ids_eq : ∀ n : Node, n.ids = n.elements.filterMap (·.attrString? "id")
  | .root children => by
    rw [ids, elements]
    exact idsAll_eq children
  | .element tag attributes children => by
    rw [ids, elements, List.filterMap_cons, idsAll_eq]
    cases h : attributes.get? "id" <;> simp [Element.attrString?, Element.attr?, h]
  | .leaf kind value => rfl

theorem idsAll_eq : ∀ ns : List Node,
    idsAll ns = (elementsAll ns).filterMap (·.attrString? "id")
  | [] => rfl
  | n :: rest => by rw [idsAll, elementsAll, List.filterMap_append, ids_eq, idsAll_eq]

end

private theorem foldl_reserve (reserved : List String) {s : Slugger} (hs : s.Consistent) :
    (reserved.foldl Slugger.reserve s).Consistent ∧
      ∀ id, id ∈ (reserved.foldl Slugger.reserve s).ids ↔ id ∈ s.ids ∨ id ∈ reserved := by
  induction reserved generalizing s with
  | nil => simp [hs]
  | cons id rest ih =>
    obtain ⟨hconsistent, hids⟩ := ih (hs.reserve id)
    refine ⟨hconsistent, fun other => ?_⟩
    rw [List.foldl_cons, hids, Slugger.ids_reserve, Finset.mem_insert, List.mem_cons]
    tauto

theorem consistent_reservedIds (n : Node) : n.reservedIds.Consistent :=
  (foldl_reserve n.ids Slugger.consistent_empty).1

/-- The ids that are reserved before headings get theirs are those that occur in the tree. -/
theorem mem_ids_reservedIds {n : Node} {id : String} :
    id ∈ n.reservedIds.ids ↔ ∃ e ∈ n.elements, e.attrString? "id" = some id := by
  rw [reservedIds, (foldl_reserve n.ids Slugger.consistent_empty).2, ids_eq, List.mem_filterMap,
    Slugger.ids_empty]
  simp

/-! ### Whole trees -/

/-- Of the ids of headings: every heading of the new tree has one; those generated differ from
each other and from every id of the old tree; the entries describe the headings of the new tree,
in order; and nothing but ids of headings differs between the trees. -/
theorem assignHeadingIds_spec (n : Node) :
    (∀ h ∈ n.assignHeadingIds.1.headings, (h.attr? "id").isSome) ∧
      (generatedIds n.headings n.assignHeadingIds.2).Nodup ∧
      (∀ id ∈ generatedIds n.headings n.assignHeadingIds.2,
        ∀ e ∈ n.elements, e.attrString? "id" ≠ some id) ∧
      n.assignHeadingIds.2.map some =
        n.assignHeadingIds.1.headings.map HeadingEntry.ofElement? ∧
      n.assignHeadingIds.1.withoutHeadingIds = n.withoutHeadingIds := by
  have hentries : n.assignHeadingIds.2.map some =
      n.assignHeadingIds.1.headings.map HeadingEntry.ofElement? :=
    entries_visit (n.reservedIds, []) n
  -- the visit makes the same ids as going through the list of headings
  obtain ⟨entries, hfold, hnodup, hnot⟩ :=
    generatedIds_foldl (s := (n.reservedIds, [])) n.headings (consistent_reservedIds n)
  have heq : n.assignHeadingIds.2 = entries := by
    rw [← List.nil_append entries, ← hfold]
    exact congrArg Prod.snd (fst_visit Element.isHeading assignHeadingId (n.reservedIds, []) n)
  refine ⟨fun h hmem => ?_, heq ▸ hnodup, ?_, hentries, withoutHeadingIds_visit _ n⟩
  -- a heading without an id would have no entry
  · have hsome : HeadingEntry.ofElement? h ∈ n.assignHeadingIds.2.map some := by
      rw [hentries]
      exact List.mem_map_of_mem hmem
    obtain ⟨entry, -, hentry⟩ := List.mem_map.mp hsome
    cases hid : h.attr? "id" with
    | some _ => rfl
    | none => simp [HeadingEntry.ofElement?, Element.attrString?, hid] at hentry
  · rw [heq]
    intro id hid e he hattr
    exact hnot id hid (mem_ids_reservedIds.mpr ⟨e, he, hattr⟩)

end Manuscript.Node
