import Manuscript.Proofs.Footnotes.Resolution

/-!
# Footnotes without references in them

If no footnote contains a reference, the section and the links agree in everything: there is an
item for every footnote referred to, in the order of the first references, links show the places
of the items, and every item leads back to all the links that lead to it, one by one.

## Main results

* `forall₂_leadsTo_anchorsFrom` — the links back lead to the links of one label, one by one
* `footnotes_agree` — the section agrees with the links
-/

namespace Manuscript

open Lowering

namespace Lowering

variable {seen refs : List String} {id : String} {number n : Nat} {anchor : Element}

theorem textContent_footnoteAnchor :
    (footnoteAnchor id number n).textContent = toString number := by
  simp [footnoteAnchor, Element.textContent, Node.textContentAll, Node.textContent]

/-- The links back to a footnote's references, counted on from those met before, lead to the links
made of its references, one by one. -/
theorem forall₂_leadsTo_anchorsFrom (seen refs : List String) (id : String) (number : Nat) :
    List.Forall₂ Element.LeadsTo
      ((List.range' (seen.count id) (refs.count id)).map fun k => backReference id number (k + 1))
      (((anchorsFrom seen refs).filter (·.1 = id)).map Prod.snd) := by
  induction refs generalizing seen with
  | nil => exact .nil
  | cons first rest ih =>
    have hrest := ih (seen ++ [first])
    by_cases hfirst : first = id
    · subst hfirst
      -- the link back to this reference is the one after those to the references before it
      have hcount : (seen ++ [first]).count first = seen.count first + 1 := by simp
      rw [hcount] at hrest
      rw [List.count_cons_self, List.range'_succ, anchorsFrom, List.filter_cons_of_pos (by simp)]
      refine .cons ?_ hrest
      rw [anchorAfter, hcount]
      exact (backReference_leadsTo_iff rfl (Nat.succ_pos _) (Nat.succ_pos _)).mpr rfl
    · have hcount : (seen ++ [first]).count id = seen.count id := by simp [hfirst]
      rw [hcount] at hrest
      rw [List.count_cons_of_ne hfirst, anchorsFrom,
        List.filter_cons_of_neg (by simpa using hfirst)]
      exact hrest

/-- The link made of a reference shows the place of its label among the different ones. -/
theorem exists_eq_footnoteAnchor (h : (id, anchor) ∈ anchorsFrom [] refs) :
    ∃ n, anchor = footnoteAnchor id (refs.eraseDups.idxOf id + 1) n := by
  obtain ⟨k, hk⟩ := List.mem_iff_getElem?.mp h
  rw [getElem?_anchorsFrom, Option.map_eq_some_iff] at hk
  obtain ⟨id, hid, hmade⟩ := hk
  obtain ⟨rfl, rfl⟩ := Prod.mk.inj hmade
  -- the place is fixed at the first occurrence, so references behind the link do not matter
  have hsplit : refs = refs.take k ++ [id] ++ refs.drop (k + 1) := by
    have htake : refs.take (k + 1) = refs.take k ++ [id] := by
      rw [List.take_add_one, hid]
      rfl
    rw [← htake, List.take_append_drop]
  have hmem : id ∈ refs.take k ++ [id] := List.mem_append_right _ List.mem_cons_self
  have hplace := idxOf_eraseDups_append hmem (refs.drop (k + 1))
  rw [← hsplit] at hplace
  refine ⟨(refs.take k ++ [id]).count id, ?_⟩
  rw [hplace, anchorAfter, List.nil_append]

end Lowering

namespace Markdown

variable {m : Markdown}

/-- No reference is met in a footnote. -/
theorem FootnotesFlat.noteReferences_eq_nil (h : m.FootnotesFlat) (id : String) :
    noteReferences (Definitions.ofMarkdown m) id = [] := by
  unfold noteReferences
  cases htext : (Definitions.ofMarkdown m).footnote? id with
  | none => rfl
  | some text =>
    have hlabels : referenceLabelsAll text = [] := h _ (mem_of_footnote?_ofMarkdown htext)
    exact List.subset_nil.mp (hlabels ▸ referencesAll_subset text)

end Markdown

/-- In a document whose references all have footnotes and whose footnotes contain no references:
there is a section if there is a reference, its items are the footnotes in the order of the first
references, links show the places of the items to which they lead, and the links back in an item
lead to the links made of its references, one by one. -/
theorem footnotes_agree (m : Markdown) (hdefined : m.ReferencesDefined) (hflat : m.FootnotesFlat) :
    ∃ (anchors : List (String × Element)) (items : List FootnoteItem),
      m.HasFootnotes (anchors.map Prod.snd) items ∧ anchors.map Prod.fst = m.references ∧
      (items = [] ↔ m.references = []) ∧ items.length = m.noteOrder.length ∧
      ∀ i id, m.noteOrder[i]? = some id → ∃ item : FootnoteItem, items[i]? = some item ∧
        item.element.tag = "li" ∧
        (∀ anchor, (id, anchor) ∈ anchors →
          anchor.LeadsTo item.element ∧ anchor.textContent = toString (i + 1)) ∧
        List.Forall₂ Element.LeadsTo item.backReferences
          ((anchors.filter (·.1 = id)).map Prod.snd) := by
  have hnotes : ∀ ids : List String,
      ids.flatMap (noteReferences (Definitions.ofMarkdown m)) = [] := fun ids => by
    simp [hflat.noteReferences_eq_nil]
  -- nothing is met in the section, so every item counts all references
  obtain ⟨items, hfootnotes, hlength, hitems⟩ := toDocument_footnotes m hdefined
  rw [Markdown.allReferences, hnotes, List.append_nil] at hfootnotes
  refine ⟨anchorsFrom [] m.references, items, hfootnotes, map_fst_anchorsFrom _ _, ?_, hlength,
    fun i id hid => ?_⟩
  · rw [← List.length_eq_zero_iff, hlength, List.length_eq_zero_iff, Markdown.noteOrder]
    cases m.references <;> simp [List.eraseDups_cons]
  obtain ⟨item, hitem, hfor⟩ := hitems i id hid
  rw [Markdown.referencesBefore, hnotes, List.append_nil] at hfor
  have hplace : m.references.eraseDups.idxOf id = i := by
    obtain ⟨hlt, rfl⟩ := List.getElem?_eq_some_iff.mp hid
    exact (nodup_eraseDups m.references).idxOf_getElem i hlt
  refine ⟨item, hitem, hfor.tag_eq, fun anchor hanchor => ?_, ?_⟩
  · obtain ⟨n, rfl⟩ := exists_eq_footnoteAnchor hanchor
    exact ⟨(footnoteAnchor_leadsTo_iff hfor).mpr rfl, by rw [textContent_footnoteAnchor, hplace]⟩
  · rw [hfor.backReferences_eq, backReferences, List.range_eq_range']
    exact forall₂_leadsTo_anchorsFrom [] m.references id (i + 1)

/-- A document that refers to two footnotes, to the second one twice and in a different case. -/
def flatFootnotes : Markdown :=
  .branch .root [
    .branch .paragraph [
      .leaf (.footnoteReference "b" (some "b")), .leaf (.footnoteReference "a" (some "a")),
      .leaf (.footnoteReference "A" (some "A"))],
    .branch (.footnoteDefinition "a" (some "a")) [.branch .paragraph [.leaf (.text "first")]],
    .branch (.footnoteDefinition "b" (some "b")) [.branch .paragraph [.leaf (.text "second")]]]

theorem footnotes_agree_flatFootnotes :
    flatFootnotes.ReferencesDefined ∧ flatFootnotes.FootnotesFlat ∧
      ∃ (anchors : List (String × Element)) (items : List FootnoteItem),
        flatFootnotes.HasFootnotes (anchors.map Prod.snd) items ∧
        anchors.map Prod.fst = ["b", "a", "a"] ∧ items.length = 2 := by
  have hdefined : flatFootnotes.ReferencesDefined := by decide +kernel
  have hflat : flatFootnotes.FootnotesFlat := by decide +kernel
  have hreferences : flatFootnotes.references = ["b", "a", "a"] := by decide +kernel
  have horder : flatFootnotes.noteOrder.length = 2 := by decide +kernel
  obtain ⟨anchors, items, hfootnotes, hlabels, -, hlength, -⟩ :=
    footnotes_agree flatFootnotes hdefined hflat
  exact ⟨hdefined, hflat, anchors, items, hfootnotes, hreferences ▸ hlabels, horder ▸ hlength⟩

end Manuscript
