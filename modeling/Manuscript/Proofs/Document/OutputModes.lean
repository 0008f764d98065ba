import Manuscript.Proofs.Document.Decoration
import Manuscript.Proofs.Document.HeadingLevels

/-!
# Ids of headings in both outputs

Interactive output moves the headings before they get their ids and wraps links afterwards; static
output wraps links first and moves no headings. The ids are the same in both. They are made by a
visit with a slugger as its state, and the slugger sees the same ids reserved and is asked for the
same texts in the same order, whether headings were moved before the visit or links were wrapped.

## Main definitions

* `HeadingEntry.shifted` — what an entry becomes once the headings are moved
* `leastDepth` — the least depth among entries
* `CommutesWithIds` — what may be done before headings get their ids as well as afterwards

## Main results

* `visitAll_map` — from trees to trees side by side
* `commutesWithIds_wrapLinks`, `commutesWithIds_shiftHeadings` — the two passes
* `assignHeadingIds_commutes` — both, for whole trees and their lists of headings
-/

namespace Manuscript.Node

open Text (Slugger)

/-- An entry of the table of contents after its heading was moved for a given least level. -/
def HeadingEntry.shifted (least : Nat) (entry : HeadingEntry) : HeadingEntry :=
  { entry with depth := min 6 (entry.depth + 2 - least) }

/-- The least depth among entries, or zero if there are none. -/
def leastDepth (entries : List HeadingEntry) : Nat := (entries.map (·.depth)).min?.getD 0

/-- The state of a visit that gives ids, with its entries changed. -/
def mapEntries (change : HeadingEntry → HeadingEntry) (s : Slugger × List HeadingEntry) :
    Slugger × List HeadingEntry :=
  (s.1, s.2.map change)

/-- A tree may be changed before its headings get their ids as well as afterwards: the entries are
changed as well, and there is no other difference. -/
def CommutesWithIds (change : HeadingEntry → HeadingEntry) (g : Node → Node) (n : Node) : Prop :=
  ∀ s, (g n).visit Element.isHeading assignHeadingId (mapEntries change s) =
    (mapEntries change (n.visit Element.isHeading assignHeadingId s).1,
      g (n.visit Element.isHeading assignHeadingId s).2)

variable {change : HeadingEntry → HeadingEntry} {g : Node → Node} {tag : String}
  {attributes : Attributes} {children ns : List Node} {s : Slugger × List HeadingEntry}
  {least : Nat}

/-! ### Visits of changed trees -/

theorem visitAll_singleton (n : Node) :
    visitAll Element.isHeading assignHeadingId s [n] =
      ((n.visit Element.isHeading assignHeadingId s).1,
        [(n.visit Element.isHeading assignHeadingId s).2]) := rfl

theorem visitAll_map (h : ∀ n ∈ ns, CommutesWithIds change g n) :
    visitAll Element.isHeading assignHeadingId (mapEntries change s) (ns.map g) =
      (mapEntries change (visitAll Element.isHeading assignHeadingId s ns).1,
        (visitAll Element.isHeading assignHeadingId s ns).2.map g) := by
  induction ns generalizing s with
  | nil => rfl
  | cons n rest ih =>
    obtain ⟨hfirst, hrest⟩ := List.forall_mem_cons.mp h
    simp only [List.map_cons, visitAll]
    rw [hfirst s, ih hrest]

/-- What is no heading is passed over. -/
theorem visit_of_not_heading (htag : headingLevel? tag = none) :
    (element tag attributes children).visit Element.isHeading assignHeadingId s =
      ((visitAll Element.isHeading assignHeadingId s children).1,
        .element tag attributes (visitAll Element.isHeading assignHeadingId s children).2) := by
  refine visit_element_of_not_selected _ _ ?_
  rw [isHeading_mk, htag]
  rfl

/-- A heading is asked for its text, so it does not matter what else becomes of its children. Its tag
may be that of another level, which the entry then shows. -/
theorem assignHeadingId_mapEntries {moved : String} {below : List Node}
    (htext : textContentAll below = textContentAll children)
    (hchange : ∀ slug text, change ⟨(headingLevel? tag).getD 6, slug, text⟩ =
      ⟨(headingLevel? moved).getD 6, slug, text⟩) :
    assignHeadingId (mapEntries change s) ⟨moved, attributes, below⟩ =
      (mapEntries change (assignHeadingId s ⟨tag, attributes, children⟩).1,
        ⟨moved, (assignHeadingId s ⟨tag, attributes, children⟩).2.attributes, []⟩) := by
  have hattr : Element.attrText? ⟨moved, attributes, below⟩ "id" =
      Element.attrText? ⟨tag, attributes, children⟩ "id" := rfl
  unfold assignHeadingId
  dsimp only [Element.textContent]
  rw [hattr, htext]
  cases Element.attrText? ⟨tag, attributes, children⟩ "id" with
  | some id => simp [mapEntries, hchange, Revision.same]
  | none => simp [mapEntries, hchange, Revision.withAttributes]

/-- A heading gets the id that it would have got before the change. -/
theorem commutesWithIds_heading {moved : String} (htag : (headingLevel? tag).isSome = true)
    (hmoved : (headingLevel? moved).isSome = true)
    (hg : ∀ attributes children,
      g (.element tag attributes children) = .element moved attributes (children.map g))
    (htext : textContentAll (children.map g) = textContentAll children)
    (hchange : ∀ slug text, change ⟨(headingLevel? tag).getD 6, slug, text⟩ =
      ⟨(headingLevel? moved).getD 6, slug, text⟩)
    (h : ∀ child ∈ children, CommutesWithIds change g child) :
    CommutesWithIds change g (.element tag attributes children) := by
  intro s
  rw [hg, visit_heading hmoved, visit_heading htag, hg,
    assignHeadingId_mapEntries htext hchange, visitAll_map h]

/-! ### Wrapped links -/

theorem hasTag_visit (s : Slugger × List HeadingEntry) (n : Node) (tag : String) :
    (n.visit Element.isHeading assignHeadingId s).2.hasTag tag = n.hasTag tag := by
  cases n with
  | root children => rfl
  | element t attributes children =>
    cases h : (headingLevel? t).isSome with
    | true => rw [visit_heading h]; rfl
    | false => rw [visit_element_of_not_selected _ _ h]; rfl
  | leaf kind value => rfl

/-- Giving ids does not make an element one around a link, nor keep it from being one. -/
theorem isLinkWrapper_visitAll :
    isLinkWrapper tag attributes (visitAll Element.isHeading assignHeadingId s children).2 =
      isLinkWrapper tag attributes children := by
  rcases children with _ | ⟨only, _ | ⟨second, rest⟩⟩
  · rfl
  · simp only [isLinkWrapper, visitAll, hasTag_visit]
  · simp only [isLinkWrapper, visitAll]

/-- Links may be wrapped before the headings get their ids. -/
theorem commutesWithIds_wrapLinks (n : Node) : CommutesWithIds id wrapLinks n := by
  -- neither a link nor the element around it is a heading
  have hspan : headingLevel? "span" = none := by decide
  have hlink : headingLevel? "a" = none := by decide
  induction n using linkInduction with
  | root children ih =>
    intro s
    simp only [wrapLinks_root, visit, visitAll_map ih]
  | link attributes children ih =>
    intro s
    rw [wrapLinks_link, visit_of_not_heading hspan, visitAll_singleton,
      visit_of_not_heading hlink, visit_of_not_heading hlink, visitAll_map ih, wrapLinks_link]
  | wrapper attributes linkAttributes below hclass ih =>
    intro s
    rw [wrapLinks_wrapper hclass, visit_of_not_heading hspan, visit_of_not_heading hspan,
      visitAll_singleton, visitAll_singleton, visit_of_not_heading hlink,
      visit_of_not_heading hlink, visitAll_map ih, wrapLinks_wrapper hclass]
  | other tag attributes children htag hother ih =>
    cases hheading : headingLevel? tag with
    | none =>
      intro s
      rw [wrapLinks_other htag hother, visit_of_not_heading hheading,
        visit_of_not_heading hheading, visitAll_map ih,
        wrapLinks_other htag (isLinkWrapper_visitAll.trans hother)]
    | some level =>
      -- a heading is no element around a link, whatever its attributes and children
      have hg (attributes : Attributes) (children : List Node) :
          (element tag attributes children).wrapLinks =
            .element tag attributes (children.map wrapLinks) := by
        refine wrapLinks_other htag (Bool.eq_false_iff.mpr fun hwrapper => ?_)
        rw [(isLinkWrapper_iff.mp hwrapper).1, hspan] at hheading
        cases hheading
      have hsome : (headingLevel? tag).isSome = true := Option.isSome_of_eq_some hheading
      exact commutesWithIds_heading hsome hsome hg
        (textContentAll_map fun child _ => child.leaves_wrapLinks) (fun _ _ => rfl) ih
  | leaf kind value =>
    intro s
    rfl

/-! ### Moved headings -/

/-- Headings may be moved before they get their ids, as long as none is above the least level. -/
theorem commutesWithIds_shiftHeadings (n : Node) (h : ∀ level ∈ n.levels, least ≤ level) :
    CommutesWithIds (HeadingEntry.shifted least) (shiftHeadings least) n := by
  induction n using inductionOn with
  | root children ih =>
    have hchildren : ∀ child ∈ children,
        CommutesWithIds (HeadingEntry.shifted least) (shiftHeadings least) child := by
      intro child hchild
      refine ih child hchild fun level hlevel => h level ?_
      exact mem_levelsAll.mpr ⟨child, hchild, hlevel⟩
    intro s
    simp only [shiftHeadings_root, visit, visitAll_map hchildren]
  | element tag attributes children ih =>
    rw [levels_element] at h
    have hchildren : ∀ child ∈ children,
        CommutesWithIds (HeadingEntry.shifted least) (shiftHeadings least) child := by
      intro child hchild
      refine ih child hchild fun level hlevel => h level (List.mem_append_right _ ?_)
      exact mem_levelsAll.mpr ⟨child, hchild, hlevel⟩
    cases hheading : headingLevel? tag with
    | none =>
      intro s
      rw [shiftHeadings_element, normalizedTag_of_none hheading, visit_of_not_heading hheading,
        visit_of_not_heading hheading, visitAll_map hchildren, shiftHeadings_element,
        normalizedTag_of_none hheading]
    | some level =>
      have hleast : least ≤ level := h level (List.mem_append_left _ (by simp [hheading]))
      have hmoved := headingLevel?_normalizedTag hheading hleast
      refine commutesWithIds_heading (Option.isSome_of_eq_some hheading)
        (Option.isSome_of_eq_some hmoved) (fun _ _ => shiftHeadings_element)
        (textContentAll_map fun child _ => child.leaves_shiftHeadings) ?_ hchildren
      -- the entry shows the level that the heading was moved to
      intro slug text
      rw [hheading, hmoved, HeadingEntry.shifted, Nat.min_comm]
      rfl
  | leaf kind value =>
    intro s
    rfl

/-! ### Whole trees -/

theorem idsAll_map (h : ∀ n ∈ ns, (g n).ids = n.ids) : idsAll (ns.map g) = idsAll ns := by
  induction ns with
  | nil => rfl
  | cons n rest ih =>
    obtain ⟨hfirst, hrest⟩ := List.forall_mem_cons.mp h
    rw [List.map_cons, idsAll, idsAll, hfirst, ih hrest]

theorem ids_wrapLinks (n : Node) : n.wrapLinks.ids = n.ids := by
  -- an element put around a link has no id of its own
  have hid : linkWrapperAttributes.get? "id" = none := by decide
  induction n using linkInduction with
  | root children ih => rw [wrapLinks_root, ids, ids, idsAll_map ih]
  | link attributes children ih =>
    rw [wrapLinks_link, ids, ids, hid, idsAll, ids, idsAll, idsAll_map ih]
    simp
  | wrapper attributes linkAttributes below hclass ih =>
    simp only [wrapLinks_wrapper hclass, ids, idsAll, idsAll_map ih]
  | other tag attributes children htag hother ih =>
    rw [wrapLinks_other htag hother, ids, ids, idsAll_map ih]
  | leaf kind value => rfl

theorem ids_shiftHeadings (n : Node) : (n.shiftHeadings least).ids = n.ids := by
  induction n using inductionOn with
  | root children ih => rw [shiftHeadings_root, ids, ids, idsAll_map ih]
  | element tag attributes children ih => rw [shiftHeadings_element, ids, ids, idsAll_map ih]
  | leaf kind value => rfl

/-- The same ids are reserved, so giving ids commutes with the change as the visit does. -/
theorem CommutesWithIds.assignHeadingIds_eq {n : Node} (h : CommutesWithIds change g n)
    (hids : (g n).ids = n.ids) :
    (g n).assignHeadingIds = (g n.assignHeadingIds.1, n.assignHeadingIds.2.map change) := by
  have hreserved : ((g n).reservedIds, ([] : List HeadingEntry)) =
      mapEntries change (n.reservedIds, []) := by
    rw [reservedIds, hids]
    rfl
  have hvisit := h (n.reservedIds, [])
  rw [assignHeadingIds, hreserved, hvisit]
  rfl

theorem map_depth_assignHeadingId (s : Slugger × List HeadingEntry) (e : Element) :
    (assignHeadingId s e).1.2.map (·.depth) =
      s.2.map (·.depth) ++ [(headingLevel? e.tag).getD 6] := by
  unfold assignHeadingId
  dsimp only
  split <;> simp

/-- Going through elements adds an entry for each heading among them. -/
theorem map_depth_foldl (es : List Element) (s : Slugger × List HeadingEntry) :
    ((es.filter Element.isHeading).foldl (fun s e => (assignHeadingId s e).1) s).2.map (·.depth) =
      s.2.map (·.depth) ++ (es.map (·.tag)).filterMap headingLevel? := by
  induction es generalizing s with
  | nil => simp
  | cons e rest ih =>
    rw [List.map_cons]
    cases h : headingLevel? e.tag with
    | some level =>
      have he : e.isHeading = true := Option.isSome_of_eq_some h
      rw [List.filter_cons_of_pos he, List.foldl_cons, ih, map_depth_assignHeadingId, h,
        List.filterMap_cons_some h, List.append_assoc]
      rfl
    | none =>
      have he : ¬e.isHeading = true := by simp [Element.isHeading, h]
      rw [List.filter_cons_of_neg he, ih, List.filterMap_cons_none h]

/-- The depths of the entries are the levels of the headings. -/
theorem map_depth_assignHeadingIds (n : Node) :
    n.assignHeadingIds.2.map (·.depth) = n.levels := by
  have hvisit := fst_visit Element.isHeading assignHeadingId (n.reservedIds, []) n
  calc
    n.assignHeadingIds.2.map (·.depth) =
        (n.visit Element.isHeading assignHeadingId (n.reservedIds, [])).1.2.map (·.depth) := rfl
    _ = n.levels := by
      rw [hvisit, map_depth_foldl]
      rfl

/-- Moved headings are told by their entries. -/
theorem assignHeadingIds_normalizeHeadings (n : Node) :
    n.normalizeHeadings.assignHeadingIds =
      (n.assignHeadingIds.1.normalizeHeadings,
        n.assignHeadingIds.2.map (HeadingEntry.shifted (leastDepth n.assignHeadingIds.2))) := by
  -- giving ids renames nothing, so the headings are moved by the same distance
  have hlevels : n.assignHeadingIds.1.levels = n.levels :=
    congrArg (List.filterMap headingLevel?)
      (tags_visit Element.isHeading added_assignHeadingId (fun _ _ => tag_assignHeadingId) _ n)
  have hleast : n.assignHeadingIds.1.leastLevel = n.leastLevel := by
    rw [leastLevel, hlevels, leastLevel]
  have hdepth : leastDepth n.assignHeadingIds.2 = n.leastLevel := by
    rw [leastDepth, map_depth_assignHeadingIds, leastLevel]
  have hcommutes := commutesWithIds_shiftHeadings n fun _ hlevel => leastLevel_le hlevel
  rw [normalizeHeadings_eq, normalizeHeadings_eq, hleast, hdepth,
    hcommutes.assignHeadingIds_eq n.ids_shiftHeadings]

/-- Headings get the same ids whether headings are moved before or afterwards, and whether links are
wrapped before or afterwards. The list of headings is the same for wrapped links, and for moved
headings it differs in the depths only. So the headings of interactive output, which are moved
first, have the ids of those of static output, where links are wrapped first. -/
theorem assignHeadingIds_commutes (n : Node) :
    n.normalizeHeadings.assignHeadingIds =
        (n.assignHeadingIds.1.normalizeHeadings,
          n.assignHeadingIds.2.map fun entry =>
            { entry with depth := min 6 (entry.depth + 2 - leastDepth n.assignHeadingIds.2) }) ∧
      n.wrapLinks.assignHeadingIds = (n.assignHeadingIds.1.wrapLinks, n.assignHeadingIds.2) ∧
      n.normalizeHeadings.assignHeadingIds.2.map (·.slug) =
        n.wrapLinks.assignHeadingIds.2.map (·.slug) := by
  have hwrapped : n.wrapLinks.assignHeadingIds =
      (n.assignHeadingIds.1.wrapLinks, n.assignHeadingIds.2) := by
    rw [(commutesWithIds_wrapLinks n).assignHeadingIds_eq n.ids_wrapLinks, List.map_id]
  refine ⟨assignHeadingIds_normalizeHeadings n, hwrapped, ?_⟩
  rw [assignHeadingIds_normalizeHeadings, hwrapped, List.map_map]
  rfl

end Manuscript.Node
