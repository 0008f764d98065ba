import Mathlib.Data.List.Basic
import Manuscript.Proofs.Document.HeadingLevels
import Manuscript.Proofs.Document.HeadingTags

/-!
# Moved headings

Moving the headings of a tree renames elements and does nothing else to the tree. Every heading gets
the level that is its own, less the least one of the tree, plus two, but none lower than six. The
least level is a lower bound of all that are met, so the subtraction stays above zero. The headings
that were highest are of level two then, and as two is least and six is greatest, moving them again
moves them nowhere.

## Main definitions

* `Node.mapTags` — a tree with other tags
* `Node.HeadingsMoved` — how a tree with headings comes out

## Main results

* `shiftHeadings_eq_mapTags` — moving headings renames elements
* `levels_shiftHeadings` — the levels of headings that were moved
* `min?_levels_shiftHeadings` — the highest headings are of level two
* `normalizeHeadings_spec` — all of this for a whole tree
-/

namespace Manuscript.Node

mutual

/-- A tree with the tag of every element changed; its shape, attributes and leaves stay. -/
def mapTags (rename : String → String) : Node → Node
  | .root children => .root (mapTagsAll rename children)
  | .element tag attributes children =>
    .element (rename tag) attributes (mapTagsAll rename children)
  | .leaf kind value => .leaf kind value

/-- Trees that stand side by side with the tag of every element changed. -/
def mapTagsAll (rename : String → String) : List Node → List Node
  | [] => []
  | n :: rest => mapTags rename n :: mapTagsAll rename rest

end

/-- How a tree with a given least level comes out when its headings are moved. -/
structure HeadingsMoved (least : Nat) (n moved : Node) : Prop where
  /-- Headings are renamed, and nothing else is changed. -/
  renamed : ∃ rename : String → String, moved = n.mapTags rename ∧
    (∀ tag level, headingLevel? tag = some level →
      rename tag = "h" ++ toString (min 6 (level + 2 - least))) ∧
    ∀ tag, headingLevel? tag = none → rename tag = tag
  /-- The new level can be reckoned with bytes. -/
  inRange : ∀ level ∈ n.levels, level + 2 < UInt8.size ∧ least ≤ level + 2
  /-- Headings stay headings, of the new level. -/
  levels : moved.levels = n.levels.map fun level => min 6 (level + 2 - least)
  /-- The highest headings are of level two. -/
  least_eq_two : moved.levels.min? = some 2
  /-- Of two headings, the one that was no lower than the other is so still. -/
  ordered : ∀ first ∈ n.levels.zip moved.levels, ∀ second ∈ n.levels.zip moved.levels,
    first.1 ≤ second.1 → first.2 ≤ second.2

variable {rename : String → String} {tag : String} {attributes : Attributes}
  {children ns : List Node} {least level : Nat} {n : Node}

/-! ### Other tags -/

theorem mapTagsAll_eq_map (ns : List Node) : mapTagsAll rename ns = ns.map (mapTags rename) := by
  induction ns with
  | nil => rfl
  | cons n rest ih => rw [mapTagsAll, ih, List.map_cons]

theorem mapTags_root : (root children).mapTags rename = .root (children.map (mapTags rename)) := by
  rw [mapTags, mapTagsAll_eq_map]

theorem mapTags_element :
    (element tag attributes children).mapTags rename =
      .element (rename tag) attributes (children.map (mapTags rename)) := by
  rw [mapTags, mapTagsAll_eq_map]

theorem tagsAll_map_mapTags (h : ∀ n ∈ ns, (n.mapTags rename).tags = n.tags.map rename) :
    tagsAll (ns.map (mapTags rename)) = (tagsAll ns).map rename := by
  induction ns with
  | nil => rfl
  | cons n rest ih =>
    obtain ⟨hfirst, hrest⟩ := List.forall_mem_cons.mp h
    rw [List.map_cons, tagsAll_cons, tagsAll_cons, List.map_append, hfirst, ih hrest]

theorem tags_mapTags (n : Node) : (n.mapTags rename).tags = n.tags.map rename := by
  induction n using inductionOn with
  | root children ih => rw [mapTags_root, tags_root, tags_root, tagsAll_map_mapTags ih]
  | element tag attributes children ih =>
    rw [mapTags_element, tags_element, tags_element, List.map_cons, tagsAll_map_mapTags ih]
  | leaf kind value => rfl

/-- A tree stays if its tags do. -/
theorem mapTags_eq_self (n : Node) (h : ∀ tag ∈ n.tags, rename tag = tag) :
    n.mapTags rename = n := by
  induction n using inductionOn with
  | root children ih =>
    have hchildren : ∀ child ∈ children, child.mapTags rename = child := fun child hchild =>
      ih child hchild fun t ht => h t (mem_tagsAll.mpr ⟨child, hchild, ht⟩)
    rw [mapTags_root, List.map_congr_left hchildren, List.map_id']
  | element tag attributes children ih =>
    have hchildren : ∀ child ∈ children, child.mapTags rename = child := fun child hchild =>
      ih child hchild fun t ht =>
        h t (List.mem_cons_of_mem _ (mem_tagsAll.mpr ⟨child, hchild, ht⟩))
    rw [mapTags_element, h tag List.mem_cons_self, List.map_congr_left hchildren, List.map_id']
  | leaf kind value => rfl

/-! ### Headings of a given least level -/

/-- Moving headings gives the tree other tags. -/
theorem shiftHeadings_eq_mapTags (n : Node) :
    n.shiftHeadings least = n.mapTags (normalizedTag least) := by
  induction n using inductionOn with
  | root children ih => rw [shiftHeadings_root, mapTags_root, List.map_congr_left ih]
  | element tag attributes children ih =>
    rw [shiftHeadings_element, mapTags_element, List.map_congr_left ih]
  | leaf kind value => rfl

theorem normalizedTag_of_some (h : headingLevel? tag = some level) :
    normalizedTag least tag = "h" ++ toString (min 6 (level + 2 - least)) := by
  rw [normalizedTag, h, Nat.min_comm]

/-- The levels of headings that were moved. -/
theorem levels_shiftHeadings (h : ∀ level ∈ n.levels, least ≤ level) :
    (n.shiftHeadings least).levels = n.levels.map fun level => min 6 (level + 2 - least) := by
  have hmoved : ∀ tag ∈ n.tags, headingLevel? (normalizedTag least tag) =
      (headingLevel? tag).map fun level => min 6 (level + 2 - least) := by
    intro tag htag
    cases hlevel : headingLevel? tag with
    | some level =>
      have hleast : least ≤ level := h level (List.mem_filterMap.mpr ⟨tag, htag, hlevel⟩)
      rw [headingLevel?_normalizedTag hlevel hleast, Nat.min_comm]
      rfl
    | none => rw [normalizedTag_of_none hlevel, hlevel]; rfl
  rw [shiftHeadings_eq_mapTags, levels, tags_mapTags, List.filterMap_map, levels,
    List.map_filterMap]
  exact List.filterMap_congr hmoved

/-- The highest headings are of level two once they are moved. -/
theorem min?_levels_shiftHeadings (h : n.levels.min? = some least) :
    (n.shiftHeadings least).levels.min? = some 2 := by
  obtain ⟨hmem, hle⟩ := List.min?_eq_some_iff.mp h
  rw [levels_shiftHeadings hle, List.min?_eq_some_iff]
  -- a heading of the least level gets there, and no other gets higher
  refine ⟨List.mem_map.mpr ⟨least, hmem, by omega⟩, fun moved hmoved => ?_⟩
  obtain ⟨level, hlevel, rfl⟩ := List.mem_map.mp hmoved
  have := hle level hlevel
  omega

/-! ### Whole trees -/

theorem leastLevel_of_min? (h : n.levels.min? = some least) : n.leastLevel = least := by
  rw [leastLevel, h]
  rfl

theorem headingsMoved_normalizeHeadings (h : n.levels.min? = some least) :
    HeadingsMoved least n n.normalizeHeadings := by
  have hle : ∀ level ∈ n.levels, least ≤ level := (List.min?_eq_some_iff.mp h).2
  rw [normalizeHeadings_eq, leastLevel_of_min? h]
  refine ⟨⟨normalizedTag least, shiftHeadings_eq_mapTags n, fun _ _ => normalizedTag_of_some,
    fun _ => normalizedTag_of_none⟩, fun level hlevel => ?_, levels_shiftHeadings hle,
    min?_levels_shiftHeadings h, ?_⟩
  · obtain ⟨tag, -, htag⟩ := List.mem_filterMap.mp hlevel
    obtain ⟨-, hupper, -⟩ := headingLevel?_eq_some_iff.mp htag
    have hleast := hle level hlevel
    have hsize : UInt8.size = 256 := rfl
    omega
  · have hpairs : n.levels.zip (n.levels.map fun level => min 6 (level + 2 - least)) =
        n.levels.map fun level => (level, min 6 (level + 2 - least)) := by
      simpa using List.zip_map' (f := id) (g := fun level => min 6 (level + 2 - least))
        (l := n.levels)
    rw [levels_shiftHeadings hle, hpairs]
    intro first hfirst second hsecond hlevels
    obtain ⟨level, -, rfl⟩ := List.mem_map.mp hfirst
    obtain ⟨other, -, rfl⟩ := List.mem_map.mp hsecond
    dsimp only at hlevels ⊢
    omega

theorem normalizeHeadings_of_levels_eq_nil (h : n.levels = []) : n.normalizeHeadings = n := by
  rw [normalizeHeadings_eq, shiftHeadings_eq_self n h]

/-- The tag of a heading that was moved stays when the least level is two. -/
theorem normalizedTag_normalizedTag (h : ∀ level, headingLevel? tag = some level → least ≤ level) :
    normalizedTag 2 (normalizedTag least tag) = normalizedTag least tag := by
  cases hlevel : headingLevel? tag with
  | some level =>
    rw [normalizedTag_of_some (headingLevel?_normalizedTag hlevel (h level hlevel)),
      normalizedTag_of_some hlevel]
    congr 2
    omega
  | none => rw [normalizedTag_of_none hlevel, normalizedTag_of_none hlevel]

/-- Moving headings again moves them nowhere. -/
theorem normalizeHeadings_normalizeHeadings (n : Node) :
    n.normalizeHeadings.normalizeHeadings = n.normalizeHeadings := by
  cases h : n.levels.min? with
  | none =>
    have hnone : n.levels = [] := List.min?_eq_none_iff.mp h
    rw [normalizeHeadings_of_levels_eq_nil hnone, normalizeHeadings_of_levels_eq_nil hnone]
  | some least =>
    have hle : ∀ level ∈ n.levels, least ≤ level := (List.min?_eq_some_iff.mp h).2
    -- the second time two is the least level
    rw [normalizeHeadings_eq n, leastLevel_of_min? h, normalizeHeadings_eq,
      leastLevel_of_min? (min?_levels_shiftHeadings h), shiftHeadings_eq_mapTags]
    refine mapTags_eq_self _ fun moved hmoved => ?_
    rw [shiftHeadings_eq_mapTags, tags_mapTags] at hmoved
    obtain ⟨tag, htag, rfl⟩ := List.mem_map.mp hmoved
    exact normalizedTag_normalizedTag fun level hlevel =>
      hle level (List.mem_filterMap.mpr ⟨tag, htag, hlevel⟩)

/-- Moving the headings of a tree: with headings, they are renamed to the levels at the same distance
from two that their own have from the least one, but to none lower than six, and nothing else is
changed; without headings, the tree stays; and moving again changes nothing. -/
theorem normalizeHeadings_spec (n : Node) :
    (∀ least, n.levels.min? = some least → HeadingsMoved least n n.normalizeHeadings) ∧
      (n.levels = [] → n.normalizeHeadings = n) ∧
      n.normalizeHeadings.normalizeHeadings = n.normalizeHeadings :=
  ⟨fun _ => headingsMoved_normalizeHeadings, normalizeHeadings_of_levels_eq_nil,
    normalizeHeadings_normalizeHeadings n⟩

/-- A lower heading within a heading, before the highest one. -/
def headingInHeading : Node :=
  .root [
    .element "section" ∅ [
      .element "h3" ∅ [.text "Sources", .element "h6" ∅ [.text "Letters"]]],
    .element "h1" ∅ [.text "Notes"]]

/-- The heading within the heading is of level six before and after. -/
theorem normalizeHeadings_headingInHeading :
    (headingInHeading.levels.min? = some 1 ∧
      HeadingsMoved 1 headingInHeading headingInHeading.normalizeHeadings ∧
      headingInHeading.normalizeHeadings.levels = [4, 6, 2]) ∧
    (text "Notes").levels = [] ∧ (text "Notes").normalizeHeadings = text "Notes" := by
  obtain ⟨hmoved, -, -⟩ := normalizeHeadings_spec headingInHeading
  obtain ⟨-, hstays, -⟩ := normalizeHeadings_spec (text "Notes")
  have hleast : headingInHeading.levels.min? = some 1 := by decide
  have hlevels : headingInHeading.normalizeHeadings.levels = [4, 6, 2] := by decide
  exact ⟨⟨hleast, hmoved 1 hleast, hlevels⟩, rfl, hstays rfl⟩

end Manuscript.Node
