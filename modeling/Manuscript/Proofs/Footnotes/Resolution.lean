import Manuscript.Proofs.Footnotes.Section
import Manuscript.Proofs.Text.Decimal

/-!
# Where the links of footnotes lead

The link made of a reference should lead to the item of its footnote, and that item back to the
link. For references inside of footnotes this can fail: a footnote that is first referred to in
the text of another one has no item, and an item has no link back to references met after it was
begun. It can also fail for two labels that become the same id.

## Main definitions

* `Element.LeadsTo` — the target of a link is an element
* `Element.Resolves` — a link leads to exactly one item, which leads back
* `Markdown.Settled` — what it takes for a reference to resolve

## Main results

* `footnoteAnchor_leadsTo_iff`, `backReference_leadsTo_iff` — where single links lead
* `resolves_iff_settled` — which references of a document resolve
-/

namespace Manuscript

open Lowering

namespace Element

/-- The target of a link is an element: the link's address is `#` and the id of the element. -/
def LeadsTo (link target : Element) : Prop :=
  ∃ id, target.attrText? "id" = some id ∧ link.attrText? "href" = some ("#" ++ id)

/-- A link resolves if it leads to exactly one of some items and a link back that was made for that
item leads to it. -/
def Resolves (anchor : Element) (items : List FootnoteItem) : Prop :=
  ∃ (i : Nat) (item : FootnoteItem), items[i]? = some item ∧ anchor.LeadsTo item.element ∧
    (∀ (j : Nat) (other : FootnoteItem), items[j]? = some other →
      anchor.LeadsTo other.element → j = i) ∧
    ∃ back ∈ item.backReferences, back.LeadsTo anchor

end Element

/-- What it takes for the reference at a place among all references of a document to resolve:
exactly one footnote that has an item gets the same id as its label, and the reference is not a
later one than those met before the text of that footnote. -/
def Markdown.Settled (m : Markdown) (k : Nat) (label : String) : Prop :=
  ∃ i id, m.noteOrder[i]? = some id ∧ footnoteId id = footnoteId label ∧
    (∀ j other, m.noteOrder[j]? = some other → footnoteId other = footnoteId label → j = i) ∧
    (m.allReferences.take (k + 1)).count label ≤ (m.referencesBefore i).count id

namespace Lowering

variable {doc : Markdown} {id label : String} {number count n k i : Nat} {item : FootnoteItem}

/-! ### Single links -/

theorem attrText?_href_footnoteAnchor :
    (footnoteAnchor label number n).attrText? "href" =
      some ("#user-content-fn-" ++ footnoteId label) := by
  simp [footnoteAnchor, Element.attrText?, Element.attr?, Attributes.ofList, AttributeValue.text?]

theorem attrText?_id_footnoteAnchor :
    (footnoteAnchor label number n).attrText? "id" =
      some ("user-content-fnref-" ++ footnoteId label ++ repeatSuffix n) := by
  simp [footnoteAnchor, Element.attrText?, Element.attr?, Attributes.ofList, AttributeValue.text?]

theorem attrText?_href_backReference :
    (backReference id number n).attrText? "href" =
      some ("#user-content-fnref-" ++ footnoteId id ++ repeatSuffix n) := by
  simp [backReference, Element.attrText?, Element.attr?, Attributes.ofList, AttributeValue.text?]

/-- References to one footnote end in different suffixes. -/
theorem repeatSuffix_inj (hn : 0 < n) (hk : 0 < k) : repeatSuffix n = repeatSuffix k ↔ n = k := by
  refine ⟨fun h => ?_, congrArg _⟩
  unfold repeatSuffix at h
  split at h <;> split at h
  · exact Text.toString_nat_injective ((String.append_right_inj "-").mp h)
  · simp at h
  · simp at h
  · omega

/-- The link made of a reference leads to the items of footnotes with the same id. -/
theorem footnoteAnchor_leadsTo_iff (hitem : item.IsFor doc id i count) :
    (footnoteAnchor label number n).LeadsTo item.element ↔ footnoteId id = footnoteId label := by
  have hsplit : "#user-content-fn-" = "#" ++ "user-content-fn-" := rfl
  constructor
  · rintro ⟨target, htarget, hhref⟩
    rw [hitem.id_eq] at htarget
    obtain rfl := Option.some.inj htarget
    rw [attrText?_href_footnoteAnchor, hsplit, String.append_assoc] at hhref
    have hrest := (String.append_right_inj _).mp (Option.some.inj hhref)
    exact ((String.append_right_inj _).mp hrest).symm
  · intro h
    refine ⟨_, hitem.id_eq, ?_⟩
    rw [attrText?_href_footnoteAnchor, hsplit, String.append_assoc, h]

/-- A link back leads to the link made of a reference if they agree in the id of the footnote and in
the suffix. -/
theorem backReference_leadsTo_iff (h : footnoteId id = footnoteId label) (hk : 0 < k) (hn : 0 < n) :
    (backReference id i k).LeadsTo (footnoteAnchor label number n) ↔ k = n := by
  have hsplit : "#user-content-fnref-" = "#" ++ "user-content-fnref-" := rfl
  rw [← repeatSuffix_inj hk hn]
  constructor
  · rintro ⟨target, htarget, hhref⟩
    rw [attrText?_id_footnoteAnchor] at htarget
    obtain rfl := Option.some.inj htarget
    rw [attrText?_href_backReference, h, hsplit, String.append_assoc, String.append_assoc,
      String.append_assoc] at hhref
    have hrest := (String.append_right_inj _).mp (Option.some.inj hhref)
    exact (String.append_right_inj _).mp ((String.append_right_inj _).mp hrest)
  · intro hsuffix
    refine ⟨_, attrText?_id_footnoteAnchor, ?_⟩
    rw [attrText?_href_backReference, h, hsuffix, hsplit]
    simp only [String.append_assoc]

/-- An item leads back to the link made of a reference if it is no later one than those that the
item counts. -/
theorem exists_backReference_leadsTo_iff (hitem : item.IsFor doc id i count)
    (h : footnoteId id = footnoteId label) (hn : 0 < n) :
    (∃ back ∈ item.backReferences, back.LeadsTo (footnoteAnchor label number n)) ↔ n ≤ count := by
  rw [hitem.backReferences_eq]
  constructor
  · rintro ⟨back, hback, hleads⟩
    obtain ⟨j, hj, rfl⟩ := List.mem_map.mp hback
    rw [backReference_leadsTo_iff h (Nat.succ_pos j) hn] at hleads
    have hlt := List.mem_range.mp hj
    omega
  · intro hle
    refine ⟨backReference id i (n - 1 + 1), ?_, ?_⟩
    · exact List.mem_map_of_mem (List.mem_range.mpr (by omega))
    · rw [backReference_leadsTo_iff h (Nat.succ_pos _) hn]
      omega

end Lowering

/-! ### All references of a document -/

/-- The links made of references in a document whose references all have footnotes, each with the
label of its reference: one of them resolves if and only if its reference is settled. -/
theorem resolves_iff_settled (m : Markdown) (hdefined : m.ReferencesDefined) :
    ∃ (anchors : List (String × Element)) (items : List FootnoteItem),
      m.HasFootnotes (anchors.map Prod.snd) items ∧ anchors.map Prod.fst = m.allReferences ∧
      ∀ k label anchor, anchors[k]? = some (label, anchor) →
        (anchor.Resolves items ↔ m.Settled k label) := by
  obtain ⟨items, hfootnotes, hlength, hitems⟩ := toDocument_footnotes m hdefined
  refine ⟨_, items, hfootnotes, map_fst_anchorsFrom _ _, fun k _ anchor hanchor => ?_⟩
  rw [getElem?_anchorsFrom, Option.map_eq_some_iff] at hanchor
  -- the link of the `k`-th reference ends in the number of its occurrences up to there
  obtain ⟨label, hlabel, hmade⟩ := hanchor
  obtain ⟨rfl, rfl⟩ := Prod.mk.inj hmade
  have hcount : ([] ++ m.allReferences.take k ++ [label]).count label =
      (m.allReferences.take (k + 1)).count label := by
    rw [List.take_add_one, hlabel]
    rfl
  have hpositive : 0 < ([] ++ m.allReferences.take k ++ [label]).count label :=
    List.count_pos_iff.mpr (by simp)
  rw [anchorAfter, Markdown.Settled, ← hcount]
  constructor
  · rintro ⟨i, item, hi, hleads, hunique, hback⟩
    obtain ⟨id, hid, hfor⟩ := exists_label_of_getElem? hlength hitems hi
    have hsame := (footnoteAnchor_leadsTo_iff hfor).mp hleads
    refine ⟨i, id, hid, hsame, fun j other hother hotherId => ?_,
      (exists_backReference_leadsTo_iff hfor hsame hpositive).mp hback⟩
    obtain ⟨otherItem, hj, hotherFor⟩ := hitems j other hother
    exact hunique j otherItem hj ((footnoteAnchor_leadsTo_iff hotherFor).mpr hotherId)
  · rintro ⟨i, id, hid, hsame, hunique, hle⟩
    obtain ⟨item, hi, hfor⟩ := hitems i id hid
    refine ⟨i, item, hi, (footnoteAnchor_leadsTo_iff hfor).mpr hsame, fun j other hj hleads => ?_,
      (exists_backReference_leadsTo_iff hfor hsame hpositive).mpr hle⟩
    obtain ⟨otherId, hotherId, hotherFor⟩ := exists_label_of_getElem? hlength hitems hj
    exact hunique j otherId hotherId ((footnoteAnchor_leadsTo_iff hotherFor).mp hleads)

/-- A document whose first footnote refers to a second one that nothing else refers to. -/
def nestedFootnotes : Markdown :=
  .branch .root [
    .branch .paragraph [.leaf (.text "A"), .leaf (.footnoteReference "a" (some "a"))],
    .branch (.footnoteDefinition "a" (some "a")) [
      .branch .paragraph [.leaf (.text "see"), .leaf (.footnoteReference "b" (some "b"))]],
    .branch (.footnoteDefinition "b" (some "b")) [.branch .paragraph [.leaf (.text "note")]]]

/-- The condition under which references resolve applies to nested footnotes. -/
theorem resolves_iff_settled_nestedFootnotes :
    nestedFootnotes.ReferencesDefined ∧
      ∃ (anchors : List (String × Element)) (items : List FootnoteItem),
        nestedFootnotes.HasFootnotes (anchors.map Prod.snd) items ∧
        anchors.map Prod.fst = ["a", "b"] ∧
        ∀ k label anchor, anchors[k]? = some (label, anchor) →
          (anchor.Resolves items ↔ nestedFootnotes.Settled k label) := by
  have hdefined : nestedFootnotes.ReferencesDefined := by decide +kernel
  have hall : nestedFootnotes.allReferences = ["a", "b"] := by decide +kernel
  exact ⟨hdefined, hall ▸ resolves_iff_settled nestedFootnotes hdefined⟩

/-- All references in nested footnotes have footnotes, but one of the links leads to no item. -/
theorem exists_unresolved_nestedFootnotes :
    nestedFootnotes.ReferencesDefined ∧
      ∃ anchor ∈ nestedFootnotes.toDocument.tree.elements.filter Element.isFootnoteAnchor,
        ∀ item ∈ nestedFootnotes.toDocument.tree.elements, item.tag = "li" →
          ¬ anchor.LeadsTo item := by
  have hhref : some "#user-content-fn-b" ∈ (nestedFootnotes.toDocument.tree.elements.filter
      Element.isFootnoteAnchor).map (·.attrText? "href") := by decide +kernel
  have hids : (nestedFootnotes.toDocument.tree.elements.filter (·.tag = "li")).map
      (·.attrText? "id") = [some "user-content-fn-a"] := by decide +kernel
  obtain ⟨anchor, hanchor, hhref⟩ := List.mem_map.mp hhref
  refine ⟨by decide +kernel, anchor, hanchor, fun item hitem htag ⟨id, hid, hleads⟩ => ?_⟩
  have hmem : item.attrText? "id" ∈ [some "user-content-fn-a"] := by
    rw [← hids]
    exact List.mem_map_of_mem (List.mem_filter.mpr ⟨hitem, by simpa using htag⟩)
  rw [hid, List.mem_singleton, Option.some.injEq] at hmem
  rw [hhref, hmem] at hleads
  exact absurd hleads (by decide)

end Manuscript
