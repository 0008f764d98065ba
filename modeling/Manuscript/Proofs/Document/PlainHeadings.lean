import Manuscript.Proofs.Document.HeadingTags
import Manuscript.Proofs.Document.OutputModes

/-!
# Plain headings

What is no heading by its tag is passed over by whatever moves headings, gives them ids or links
them. As padded tags are those of headings too, these passes keep to the six plain tags in trees
without padded ones, and in no others.

## Main definitions

* `Node.ChangesOnly` — the trees that come from a tree by changing selected elements

## Main results

* `changesOnly_visit`, `changesOnly_autolinkHeadings` — passes change headings only
* `length_assignHeadingIds_eq_iff` — when no other headings than plain ones are listed
* `plainHeadings_iff_not_padded` — for tags, and for trees
-/

namespace Manuscript.Node

/-- The trees that come from a tree by changing elements with selected tags. All nodes keep their
place, all other elements keep their tags and their attributes, and leaves stay. The children of a
selected element may be put into a link. -/
inductive ChangesOnly (select : String → Prop) : Node → Node → Prop
  /-- A root. -/
  | root {children below : List Node} (hbelow : List.Forall₂ (ChangesOnly select) children below) :
      ChangesOnly select (.root children) (.root below)
  /-- An element that keeps its tag and its attributes. -/
  | kept {tag : String} {attributes : Attributes} {children below : List Node}
      (hbelow : List.Forall₂ (ChangesOnly select) children below) :
      ChangesOnly select (.element tag attributes children) (.element tag attributes below)
  /-- An element that is renamed or gets other attributes. -/
  | revised {tag newTag : String} {attributes newAttributes : Attributes}
      {children below : List Node} (hselect : select tag)
      (hbelow : List.Forall₂ (ChangesOnly select) children below) :
      ChangesOnly select (.element tag attributes children) (.element newTag newAttributes below)
  /-- An element whose children are put into a link. -/
  | linked {tag : String} {attributes linkAttributes : Attributes} {children below : List Node}
      (hselect : select tag) (hbelow : List.Forall₂ (ChangesOnly select) children below) :
      ChangesOnly select (.element tag attributes children)
        (.element tag attributes [.element "a" linkAttributes below])
  /-- A leaf. -/
  | leaf {kind : LeafKind} {value : String} : ChangesOnly select (.leaf kind value) (.leaf kind value)

variable {select : String → Prop}

section Visit

variable {σ : Type} {f : σ → Element → σ × Revision}

mutual

/-- Visiting the headings of a tree changes headings only. -/
theorem changesOnly_visit (hadded : ∀ s e, (f s e).2.added = []) (s : σ) : ∀ n : Node,
    (∀ tag ∈ n.tags, (headingLevel? tag).isSome = true → select tag) →
    ChangesOnly select n (n.visit Element.isHeading f s).2
  | .root children, h => .root (forall₂_changesOnly_visitAll hadded s children h)
  | .element tag attributes children, h => by
    have hchildren : ∀ t ∈ tagsAll children, (headingLevel? t).isSome = true → select t :=
      fun t ht => h t (List.mem_cons_of_mem _ ht)
    cases hheading : (headingLevel? tag).isSome with
    | true =>
      rw [visit_element_of_selected _ _ hheading (hadded _ _)]
      exact .revised (h tag List.mem_cons_self hheading)
        (forall₂_changesOnly_visitAll hadded _ children hchildren)
    | false =>
      rw [visit_element_of_not_selected _ _ hheading]
      exact .kept (forall₂_changesOnly_visitAll hadded s children hchildren)
  | .leaf kind value, _ => .leaf

theorem forall₂_changesOnly_visitAll (hadded : ∀ s e, (f s e).2.added = []) (s : σ) :
    ∀ ns : List Node, (∀ tag ∈ tagsAll ns, (headingLevel? tag).isSome = true → select tag) →
    List.Forall₂ (ChangesOnly select) ns (visitAll Element.isHeading f s ns).2
  | [], _ => .nil
  | n :: rest, h =>
    .cons (changesOnly_visit hadded s n fun tag htag =>
        h tag (tagsAll_cons n rest ▸ List.mem_append_left _ htag))
      (forall₂_changesOnly_visitAll hadded _ rest fun tag htag =>
        h tag (tagsAll_cons n rest ▸ List.mem_append_right _ htag))

end

end Visit

/-- Moving the headings of a tree changes headings only. -/
theorem changesOnly_normalizeHeadings (n : Node)
    (h : ∀ tag ∈ n.tags, (headingLevel? tag).isSome = true → select tag) :
    ChangesOnly select n n.normalizeHeadings := by
  rw [normalizeHeadings_eq]
  exact changesOnly_visit (fun _ _ => rfl) () n h

/-- Giving ids changes headings only. -/
theorem changesOnly_assignHeadingIds (n : Node)
    (h : ∀ tag ∈ n.tags, (headingLevel? tag).isSome = true → select tag) :
    ChangesOnly select n n.assignHeadingIds.1 :=
  changesOnly_visit added_assignHeadingId (n.reservedIds, []) n h

/-- Linking headings changes headings only. -/
theorem changesOnly_autolinkHeadings (n : Node)
    (h : ∀ tag ∈ n.tags, (headingLevel? tag).isSome = true → select tag) :
    ChangesOnly select n n.autolinkHeadings := by
  induction n using inductionOn with
  | root children ih =>
    rw [autolinkHeadings_root]
    refine .root (List.forall₂_map_right_iff.mpr (List.forall₂_same.mpr fun child hchild => ?_))
    exact ih child hchild fun t ht => h t (mem_tagsAll.mpr ⟨child, hchild, ht⟩)
  | element tag attributes children ih =>
    have hbelow : List.Forall₂ (ChangesOnly select) children (children.map autolinkHeadings) := by
      refine List.forall₂_map_right_iff.mpr (List.forall₂_same.mpr fun child hchild => ?_)
      exact ih child hchild fun t ht =>
        h t (List.mem_cons_of_mem _ (mem_tagsAll.mpr ⟨child, hchild, ht⟩))
    cases htarget : autolinkTarget? tag attributes children with
    | some href =>
      have hheading := isSome_headingLevel?_of_autolinkTarget? htarget
      rw [autolinkHeadings_of_some htarget]
      exact .linked (h tag List.mem_cons_self hheading) hbelow
    | none =>
      rw [autolinkHeadings_of_none htarget]
      exact .kept hbelow
  | leaf kind value => exact .leaf

/-- As many headings are listed as there are tags that have a level. -/
theorem length_assignHeadingIds (n : Node) :
    n.assignHeadingIds.2.length =
      (n.tags.filter fun tag => (headingLevel? tag).isSome).length := by
  have htags : n.assignHeadingIds.1.tags = n.tags :=
    tags_visit _ added_assignHeadingId (fun _ _ => tag_assignHeadingId) (n.reservedIds, []) n
  have hentries : n.assignHeadingIds.2.map some =
      n.assignHeadingIds.1.headings.map HeadingEntry.ofElement? :=
    entries_visit (n.reservedIds, []) n
  calc n.assignHeadingIds.2.length
      = n.assignHeadingIds.1.headings.length := by simpa using congrArg List.length hentries
    _ = (n.assignHeadingIds.1.tags.filter fun tag => (headingLevel? tag).isSome).length := by
      rw [tags, List.filter_map, List.length_map]
      rfl
    _ = (n.tags.filter fun tag => (headingLevel? tag).isSome).length := by rw [htags]

/-- As many headings are listed as there are plain tags if and only if no tag is padded. -/
theorem length_assignHeadingIds_eq_iff (n : Node) :
    n.assignHeadingIds.2.length = (n.tags.filter (· ∈ headingTags)).length ↔
      ∀ tag ∈ n.tags, ¬ IsPaddedHeading tag := by
  have hsublist : (n.tags.filter (· ∈ headingTags)).Sublist
      (n.tags.filter fun tag => (headingLevel? tag).isSome) :=
    List.monotone_filter_right _ fun tag htag =>
      isSome_headingLevel?_of_mem (of_decide_eq_true htag)
  rw [length_assignHeadingIds]
  constructor
  · intro hlength tag htag hpadded
    -- the plain tags are among those with a level, and as many
    have heq := hsublist.eq_of_length hlength.symm
    obtain ⟨level, hlevel⟩ := hpadded.exists_level
    have hmem : tag ∈ n.tags.filter (· ∈ headingTags) := by
      rw [heq]
      exact List.mem_filter.mpr ⟨htag, Option.isSome_of_eq_some hlevel⟩
    exact not_isPaddedHeading_of_mem (of_decide_eq_true (List.mem_filter.mp hmem).2) hpadded
  · intro hnot
    refine congrArg List.length (List.filter_congr fun tag htag => ?_)
    rw [Bool.eq_iff_iff, decide_eq_true_eq]
    exact ⟨fun h => mem_headingTags_of_isSome h (hnot tag htag), isSome_headingLevel?_of_mem⟩

/-- Which tags are those of headings: an `h`, a plus sign or none, zeros and the digit of the level.
For a tag that is not padded, and for no other, this is the plain tag of the level. In a tree without
padded tags, and in no other, whatever moves headings, gives them ids and lists them, or links them,
takes the elements with plain tags for headings and changes no others. -/
theorem plainHeadings_iff_not_padded (tag : String) (n : Node) :
    (∀ level, headingLevel? tag = some level ↔
      1 ≤ level ∧ level ≤ 6 ∧ ∃ sign zeros, tag = headingSpelling sign zeros level) ∧
    ((∀ level, headingLevel? tag = some level ↔
      1 ≤ level ∧ level ≤ 6 ∧ tag = "h" ++ toString level) ↔ ¬ IsPaddedHeading tag) ∧
    ((ChangesOnly (· ∈ headingTags) n n.normalizeHeadings ∧
        ChangesOnly (· ∈ headingTags) n n.assignHeadingIds.1 ∧
        n.assignHeadingIds.2.length = (n.tags.filter (· ∈ headingTags)).length ∧
        ChangesOnly (· ∈ headingTags) n n.autolinkHeadings) ↔
      ∀ t ∈ n.tags, ¬ IsPaddedHeading t) := by
  refine ⟨fun _ => headingLevel?_eq_some_iff, headingLevel?_plain_iff_not_padded, ?_, ?_⟩
  · -- the list of headings gives a padded one away
    rintro ⟨-, -, hlength, -⟩
    exact (length_assignHeadingIds_eq_iff n).mp hlength
  · intro hnot
    have hplain : ∀ t ∈ n.tags, (headingLevel? t).isSome = true → t ∈ headingTags :=
      fun t ht h => mem_headingTags_of_isSome h (hnot t ht)
    exact ⟨changesOnly_normalizeHeadings n hplain, changesOnly_assignHeadingIds n hplain,
      (length_assignHeadingIds_eq_iff n).mpr hnot, changesOnly_autolinkHeadings n hplain⟩

/-- Zeros in front of its number do not keep a tag from being that of a heading, which is renamed. -/
theorem not_plainHeading_zeroPaddedTag :
    ¬ (headingLevel? "h03" = some 3 ↔ 1 ≤ 3 ∧ 3 ≤ 6 ∧ "h03" = "h" ++ toString 3) ∧
      normalizeHeadings (.element "h03" ∅ []) = .element "h2" ∅ [] :=
  ⟨by decide, rfl⟩

end Manuscript.Node
