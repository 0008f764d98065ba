import Mathlib.Data.List.Nodup
import Manuscript.Proofs.Footnotes.Resolution
import Manuscript.Proofs.Text.Separators

/-!
# Ids made for footnotes

The link made of a reference and the item of a footnote get ids of their own. References to one
footnote are told apart by the number of their occurrence, but different labels need not stay
apart: characters other than letters, numbers, `-` and `_` all become `-`, and a label may end in
what is the number of another one's reference.

## Main definitions

* `Lowering.occurrences` — labels, each with the number of its occurrence
* `Markdown.LabelsApart` — what it takes for different labels to get different ids

## Main results

* `mem_occurrences`, `nodup_occurrences` — every label has each of its numbers once
* `nodup_referenceIds_iff` — when the ids made for references are distinct
* `nodup_footnoteIds_iff` — when the ids made for the footnotes of a document are distinct
-/

namespace Manuscript

open Lowering

/-- Different labels stay apart as ids: none of them becomes what another one becomes, be it with
the number of one of the other's references behind it. -/
def Markdown.LabelsApart (m : Markdown) : Prop :=
  ∀ a ∈ m.allReferences, ∀ b ∈ m.allReferences, a ≠ b →
    ∀ n ≤ m.allReferences.count b, footnoteId a ≠ footnoteId b ++ repeatSuffix n

instance (m : Markdown) : Decidable m.LabelsApart :=
  inferInstanceAs (Decidable (∀ a ∈ m.allReferences, ∀ b ∈ m.allReferences, a ≠ b →
    ∀ n ≤ m.allReferences.count b, footnoteId a ≠ footnoteId b ++ repeatSuffix n))

namespace Lowering

variable {seen refs : List String} {id a b : String} {n k : Nat}

/-! ### Occurrences of labels -/

/-- Labels behind others, each with the number of its occurrence. -/
def occurrences (seen : List String) : List String → List (String × Nat)
  | [] => []
  | id :: rest => (id, (seen ++ [id]).count id) :: occurrences (seen ++ [id]) rest

/-- The occurrences of a label are numbered on from those met before. -/
theorem mem_occurrences :
    (id, n) ∈ occurrences seen refs ↔ seen.count id < n ∧ n ≤ (seen ++ refs).count id := by
  induction refs generalizing seen with
  | nil => simp [occurrences]
  | cons first rest ih =>
    rw [occurrences, List.mem_cons, ih, List.append_assoc, List.singleton_append, Prod.mk.injEq]
    by_cases hfirst : first = id
    · subst hfirst
      simp only [List.count_append, List.count_cons_self, List.count_nil, true_and]
      omega
    · have hne : id ≠ first := Ne.symm hfirst
      simp [hfirst, hne]

/-- Each occurrence of a label has a number of its own. -/
theorem nodup_occurrences (seen refs : List String) : (occurrences seen refs).Nodup := by
  induction refs generalizing seen with
  | nil => exact List.nodup_nil
  | cons first rest ih =>
    refine List.nodup_cons.mpr ⟨fun hmem => ?_, ih _⟩
    exact absurd (mem_occurrences.mp hmem).1 (Nat.lt_irrefl _)

/-- The id of a reference, given its label and the number of its occurrence. -/
def referenceId (o : String × Nat) : String :=
  "user-content-fnref-" ++ (footnoteId o.1 ++ repeatSuffix o.2)

/-- The links made of references have the ids of their occurrences. -/
theorem map_attrText?_anchorsFrom (seen refs : List String) :
    (anchorsFrom seen refs).map (·.2.attrText? "id") =
      (occurrences seen refs).map (some ∘ referenceId) := by
  induction refs generalizing seen with
  | nil => rfl
  | cons id rest ih =>
    rw [anchorsFrom, occurrences, List.map_cons, List.map_cons, ih, anchorAfter,
      attrText?_id_footnoteAnchor, String.append_assoc]
    rfl

/-! ### Ids of references -/

theorem repeatSuffix_of_le_one (h : n ≤ 1) : repeatSuffix n = "" := if_neg (Nat.not_lt.mpr h)

/-- Two names with numbers behind them are the same only if one of the names is the other one with a
number that is no higher: two numbers are cut off at the last hyphen. -/
theorem append_repeatSuffix_eq (h : a ++ repeatSuffix n = b ++ repeatSuffix k) :
    (∃ j ≤ k, a = b ++ repeatSuffix j) ∨ ∃ j ≤ n, b = a ++ repeatSuffix j := by
  by_cases hn : n ≤ 1
  · rw [repeatSuffix_of_le_one hn, String.append_empty] at h
    exact .inl ⟨k, Nat.le_refl k, h⟩
  by_cases hk : k ≤ 1
  · rw [repeatSuffix_of_le_one hk, String.append_empty] at h
    exact .inr ⟨n, Nat.le_refl n, h.symm⟩
  rw [repeatSuffix, repeatSuffix, if_pos (by omega), if_pos (by omega)] at h
  have hchars : a.toList ++ '-' :: (toString n).toList = b.toList ++ '-' :: (toString k).toList := by
    simpa using congrArg String.toList h
  obtain ⟨hname, -⟩ := Text.append_cons_inj_last (Text.hyphen_notMem_toString_nat n)
    (Text.hyphen_notMem_toString_nat k) hchars
  refine .inl ⟨0, Nat.zero_le k, ?_⟩
  rw [repeatSuffix_of_le_one (Nat.zero_le 1), String.append_empty]
  exact String.toList_inj.mp hname

/-- The ids of links and those of items begin in different ways. -/
theorem referenceId_ne_itemId (o : String × Nat) (id : String) :
    referenceId o ≠ "user-content-fn-" ++ id := by
  intro h
  have hchars : ("user-content-fnref-" ++ (footnoteId o.1 ++ repeatSuffix o.2)).toList =
      ("user-content-fn-" ++ id).toList := congrArg String.toList h
  simp at hchars

end Lowering

namespace Markdown

variable {m : Markdown}

/-- The labels of footnotes that get an item are among those of all references. -/
theorem mem_allReferences_of_mem_noteOrder {id : String} (h : id ∈ m.noteOrder) :
    id ∈ m.allReferences :=
  List.mem_append_left _ (List.mem_eraseDups.mp h)

/-- The ids of references are distinct just if the labels stay apart. -/
theorem nodup_referenceIds_iff (m : Markdown) :
    ((occurrences [] m.allReferences).map referenceId).Nodup ↔ m.LabelsApart := by
  rw [List.nodup_map_iff_inj_on (nodup_occurrences _ _)]
  constructor
  · intro hinj a ha b hb hne n hn hsame
    -- the first reference to one label gets the id of a reference to the other
    have hfirst : (a, 1) ∈ occurrences [] m.allReferences :=
      mem_occurrences.mpr ⟨Nat.one_pos, List.count_pos_iff.mpr ha⟩
    have hother : (b, max 1 n) ∈ occurrences [] m.allReferences :=
      mem_occurrences.mpr ⟨Nat.lt_of_lt_of_le Nat.one_pos (Nat.le_max_left 1 n),
        Nat.max_le.mpr ⟨List.count_pos_iff.mpr hb, hn⟩⟩
    have hsuffix : repeatSuffix (max 1 n) = repeatSuffix n := by
      by_cases h : n ≤ 1
      · rw [Nat.max_eq_left h, repeatSuffix_of_le_one h, repeatSuffix_of_le_one (Nat.le_refl 1)]
      · rw [Nat.max_eq_right (by omega)]
    have hkeys : footnoteId a ++ repeatSuffix 1 = footnoteId b ++ repeatSuffix (max 1 n) := by
      rw [hsuffix, ← hsame, repeatSuffix_of_le_one (Nat.le_refl 1), String.append_empty]
    have hid : referenceId (a, 1) = referenceId (b, max 1 n) :=
      congrArg ("user-content-fnref-" ++ ·) hkeys
    exact hne (congrArg Prod.fst (hinj _ hfirst _ hother hid))
  · rintro hapart ⟨a, n⟩ ha ⟨b, k⟩ hb hid
    obtain ⟨hn, hnle⟩ := mem_occurrences.mp ha
    obtain ⟨hk, hkle⟩ := mem_occurrences.mp hb
    have hkeys := (String.append_right_inj _).mp hid
    by_cases hlabel : a = b
    · subst hlabel
      rw [(repeatSuffix_inj hn hk).mp ((String.append_right_inj _).mp hkeys)]
    · have hamem : a ∈ m.allReferences := List.count_pos_iff.mp (Nat.lt_of_lt_of_le hn hnle)
      have hbmem : b ∈ m.allReferences := List.count_pos_iff.mp (Nat.lt_of_lt_of_le hk hkle)
      rcases append_repeatSuffix_eq hkeys with ⟨j, hj, hsame⟩ | ⟨j, hj, hsame⟩
      · exact absurd hsame (hapart a hamem b hbmem hlabel j (Nat.le_trans hj hkle))
      · exact absurd hsame (hapart b hbmem a hamem (Ne.symm hlabel) j (Nat.le_trans hj hnle))

/-- If the labels stay apart, so do the footnotes that get an item. -/
theorem LabelsApart.nodup_itemIds (h : m.LabelsApart) :
    (m.noteOrder.map fun id => "user-content-fn-" ++ footnoteId id).Nodup := by
  refine (List.nodup_map_iff_inj_on (nodup_eraseDups _)).mpr fun a ha b hb hid => ?_
  by_contra hne
  refine h a (mem_allReferences_of_mem_noteOrder ha) b (mem_allReferences_of_mem_noteOrder hb) hne
    0 (Nat.zero_le _) ?_
  rw [repeatSuffix_of_le_one (Nat.zero_le 1), String.append_empty]
  exact (String.append_right_inj _).mp hid

end Markdown

/-! ### All ids of a document -/

/-- The ids made for the links and the items of the footnotes of a document whose references all
have footnotes: they are distinct if and only if different labels stay apart. -/
theorem nodup_footnoteIds_iff (m : Markdown) (hdefined : m.ReferencesDefined) :
    ∃ (anchors : List (String × Element)) (items : List FootnoteItem) (ids : List String),
      m.HasFootnotes (anchors.map Prod.snd) items ∧ anchors.map Prod.fst = m.allReferences ∧
      items.length = m.noteOrder.length ∧
      (anchors.map Prod.snd ++ items.map (·.element)).map (·.attrText? "id") = ids.map some ∧
      (ids.Nodup ↔ m.LabelsApart) := by
  obtain ⟨items, hfootnotes, hlength, hitems⟩ := toDocument_footnotes m hdefined
  have hanchorIds : ((anchorsFrom [] m.allReferences).map Prod.snd).map (·.attrText? "id") =
      ((occurrences [] m.allReferences).map referenceId).map some := by
    rw [List.map_map, List.map_map]
    exact map_attrText?_anchorsFrom [] m.allReferences
  have hitemIds : (items.map (·.element)).map (·.attrText? "id") =
      (m.noteOrder.map fun id => "user-content-fn-" ++ footnoteId id).map some := by
    refine List.ext_getElem? fun i => ?_
    cases hid : m.noteOrder[i]? with
    | none =>
      have hnone : items[i]? = none := by
        rw [List.getElem?_eq_none_iff] at hid ⊢
        omega
      simp [hid, hnone]
    | some id =>
      obtain ⟨item, hitem, hfor⟩ := hitems i id hid
      simp [hid, hitem, hfor.id_eq]
  refine ⟨anchorsFrom [] m.allReferences, items,
    (occurrences [] m.allReferences).map referenceId ++
      m.noteOrder.map fun id => "user-content-fn-" ++ footnoteId id,
    hfootnotes, map_fst_anchorsFrom _ _, hlength, ?_, ?_⟩
  · rw [List.map_append, List.map_append, hanchorIds, hitemIds]
  · rw [List.nodup_append, m.nodup_referenceIds_iff]
    refine ⟨And.left, fun h => ⟨h, h.nodup_itemIds, fun a ha b hb => ?_⟩⟩
    obtain ⟨o, -, rfl⟩ := List.mem_map.mp ha
    obtain ⟨id, -, rfl⟩ := List.mem_map.mp hb
    exact referenceId_ne_itemId o _

/-- A document that refers to two footnotes whose labels differ in a dot and a hyphen. -/
def similarLabels : Markdown :=
  .branch .root [
    .branch .paragraph [
      .leaf (.footnoteReference "a.b" (some "a.b")), .leaf (.footnoteReference "a-b" (some "a-b"))],
    .branch (.footnoteDefinition "a.b" (some "a.b")) [.branch .paragraph [.leaf (.text "dot")]],
    .branch (.footnoteDefinition "a-b" (some "a-b")) [.branch .paragraph [.leaf (.text "hyphen")]]]

/-- The condition under which ids are distinct applies to similar labels. -/
theorem nodup_footnoteIds_iff_similarLabels :
    similarLabels.ReferencesDefined ∧ ¬ similarLabels.LabelsApart ∧
      ∃ (anchors : List (String × Element)) (items : List FootnoteItem) (ids : List String),
        similarLabels.HasFootnotes (anchors.map Prod.snd) items ∧
        anchors.map Prod.fst = ["a.b", "a-b"] ∧ items.length = 2 ∧
        (anchors.map Prod.snd ++ items.map (·.element)).map (·.attrText? "id") = ids.map some ∧
        ¬ ids.Nodup := by
  have hdefined : similarLabels.ReferencesDefined := by decide +kernel
  have hclash : ¬ similarLabels.LabelsApart := by decide +kernel
  have hall : similarLabels.allReferences = ["a.b", "a-b"] := by decide +kernel
  have horder : similarLabels.noteOrder.length = 2 := by decide +kernel
  obtain ⟨anchors, items, ids, hfootnotes, hlabels, hlength, hids, hiff⟩ :=
    nodup_footnoteIds_iff similarLabels hdefined
  exact ⟨hdefined, hclash, anchors, items, ids, hfootnotes, hall ▸ hlabels, horder ▸ hlength, hids,
    fun hnodup => hclash (hiff.mp hnodup)⟩

/-- All references to similar labels have footnotes, but their links share an id, and so do the
items of the footnotes. -/
theorem not_nodup_ids_similarLabels :
    similarLabels.ReferencesDefined ∧
      ¬ ((similarLabels.toDocument.tree.elements.filter Element.isFootnoteAnchor).map
        (·.attrText? "id")).Nodup ∧
      ¬ ((similarLabels.toDocument.tree.elements.filter (·.tag = "li")).map
        (·.attrText? "id")).Nodup := by
  decide +kernel

end Manuscript
