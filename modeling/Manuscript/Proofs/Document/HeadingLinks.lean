import Manuscript.Proofs.Document.Decoration
import Manuscript.Proofs.Document.Walks

/-!
# Links of headings

A heading with an id gets a link to itself around its content, unless there is a link in it already.
Afterwards there is a link in every heading that has an id, so that linking headings once more
changes nothing, and headings are neither added nor lost.

Only what stands in a heading is asked for links, not what stands around it. A heading in a link gets
a link all the same, and so does a heading in a heading that gets one. Links are nested by this, and
by nothing else.

## Main definitions

* `Element.IsLinkable` — whether an element gets a link to itself
* `Node.Apart` — no element of one kind stands in one of another kind
* `Node.LinksApart` — no link stands in a link

## Main results

* `isWalk_autolinkHeadings`, `visitMatching_linkHeading` — linking headings as a visit
* `autolinkHeadings_of_isLinkable`, `autolinkHeadings_of_not_isLinkable` — what becomes of one element
* `exists_link_autolinkHeadings_iff` — where there are links afterwards
* `linksApart_autolinkHeadings_iff` — when no link stands in a link afterwards
* `not_isLinkable_of_mem_autolinkHeadings` — no heading is left to be linked
* `autolinkHeadings_spec` — linking once more, the links of headings, and the headings
-/

namespace Manuscript

/-- An element that gets a link to itself: a heading that has an id and no link in it. -/
def Element.IsLinkable (e : Element) : Prop :=
  e.isHeading = true ∧ (e.attr? "id").isSome = true ∧
    ∀ below ∈ Node.elementsAll e.children, below.isAnchor = false

/-- The tag and the attributes of an element, without what stands in it. -/
def Element.start (e : Element) : String × Attributes := (e.tag, e.attributes)

/-- An element that has a link of its own once headings are linked: a link, or a heading that gets
one. -/
def Element.BringsLink (e : Element) : Prop := e.isAnchor = true ∨ e.IsLinkable

namespace Node

/-- No inner element stands in an outer one, at any depth. -/
def Apart (outer inner : Element → Prop) (n : Node) : Prop :=
  ∀ e ∈ n.elements, outer e → ∀ below ∈ elementsAll e.children, ¬ inner below

/-- No link stands in a link. -/
def LinksApart (n : Node) : Prop := n.Apart (·.isAnchor) (·.isAnchor)

variable {tag : String} {attributes : Attributes} {children ns : List Node} {n : Node} {e : Element}
  {outer inner : Element → Prop}

/-! ### Elements in elements -/

theorem apart_root :
    (root children).Apart outer inner ↔ ∀ child ∈ children, child.Apart outer inner :=
  forall_mem_elementsAll

theorem apart_element :
    (element tag attributes children).Apart outer inner ↔
      (outer ⟨tag, attributes, children⟩ → ∀ below ∈ elementsAll children, ¬ inner below) ∧
        ∀ child ∈ children, child.Apart outer inner := by
  rw [← apart_root]
  exact List.forall_mem_cons

/-- Elements that stand apart in a tree stand apart in all that stands in it. -/
theorem Apart.of_mem_subtrees {m : Node} (h : n.Apart outer inner) (hm : m ∈ n.subtrees) :
    m.Apart outer inner := by
  induction n using inductionOnChildren with
  | step n ih =>
    rcases mem_subtrees_iff.mp hm with rfl | ⟨child, hchild, hm⟩
    · exact h
    · refine ih child hchild ?_ hm
      cases n with
      | root children => exact apart_root.mp h child hchild
      | element tag attributes children => exact (apart_element.mp h).2 child hchild
      | leaf kind value => exact absurd hchild List.not_mem_nil

/-! ### What becomes of one element -/

theorem containsAnchor_iff : n.containsAnchor = true ↔ ∃ e ∈ n.elements, e.isAnchor = true := by
  have hanchor (m : Node) : m.anchor?.isSome = m.element?.any Element.isAnchor :=
    Option.isSome_filter
  simp only [containsAnchor, findFirst?_eq, List.find?_isSome, hanchor, Option.any_eq_true,
    element?_eq_some_iff, mem_elements_iff]
  grind

theorem isSome_autolinkTarget?_iff :
    (autolinkTarget? tag attributes children).isSome = true ↔
      Element.IsLinkable ⟨tag, attributes, children⟩ := by
  have hlinks : (!children.any containsAnchor) = true ↔
      ∀ below ∈ elementsAll children, below.isAnchor = false := by
    simp only [Bool.not_eq_true', List.any_eq_false, containsAnchor_iff, mem_elementsAll]
    grind
  rw [Element.IsLinkable, ← hlinks, isHeading_mk, Element.attr?, autolinkTarget?]
  grind

/-- What linking headings does with a heading: its children are put into a link to it, unless it has no
id or there is a link in it. -/
def linkHeading {σ : Type} (s : σ) (e : Element) : σ × Element :=
  match autolinkTarget? e.tag e.attributes e.children with
  | some href =>
    (s, ⟨e.tag, e.attributes,
      [.element "a" (Attributes.ofList [("href", .text href)]) e.children]⟩)
  | none => (s, e)

/-- Linking headings visits them and goes on in the links that they got. -/
theorem isWalk_autolinkHeadings {σ : Type} :
    IsWalk (asRewriter Element.isHeading linkHeading) fun (s : σ) n => (s, n.autolinkHeadings) := by
  intro s n
  cases n with
  | root children =>
    simp only [asRewriter, element?, Rewrite.follow, withChildren, mapWithState_stateless,
      autolinkHeadings_root]
  | element tag attributes children =>
    cases htarget : autolinkTarget? tag attributes children with
    | some href =>
      have hheading : Element.isHeading ⟨tag, attributes, children⟩ = true :=
        isHeading_mk.trans (isSome_headingLevel?_of_autolinkTarget? htarget)
      have hlink (linkAttributes : Attributes) :
          (element "a" linkAttributes children).autolinkHeadings =
            .element "a" linkAttributes (children.map autolinkHeadings) :=
        autolinkHeadings_of_none rfl
      simp only [asRewriter, element?, hheading, if_true, linkHeading, htarget, Rewrite.follow,
        Element.toNode, withChildren, mapWithState_stateless, List.map_singleton, hlink,
        autolinkHeadings_of_some htarget]
    | none =>
      have hself : asRewriter Element.isHeading linkHeading s (.element tag attributes children) =
          (s, .descend (.element tag attributes children)) :=
        asRewriter_element_eq_self _ _ fun _ => by simp only [linkHeading, htarget]
      simp only [hself, Rewrite.follow, withChildren, mapWithState_stateless,
        autolinkHeadings_of_none htarget]
  | leaf kind value => rfl

theorem visitMatching_linkHeading {σ : Type} {depth : Nat} (s : σ)
    (h : n.autolinkHeadings.depth ≤ depth) :
    visitMatching Element.isHeading linkHeading depth s n = (s, n.autolinkHeadings) :=
  isWalk_autolinkHeadings.visitMatching_eq s n h

/-- The content of a heading that gets a link is put into it. -/
theorem autolinkHeadings_of_isLinkable (h : Element.IsLinkable ⟨tag, attributes, children⟩) :
    ∃ linkAttributes, (element tag attributes children).autolinkHeadings =
      .element tag attributes [.element "a" linkAttributes (children.map autolinkHeadings)] := by
  obtain ⟨href, hhref⟩ := Option.isSome_iff_exists.mp (isSome_autolinkTarget?_iff.mpr h)
  exact ⟨_, autolinkHeadings_of_some hhref⟩

/-- Any other element stays as it is. -/
theorem autolinkHeadings_of_not_isLinkable (h : ¬ Element.IsLinkable ⟨tag, attributes, children⟩) :
    (element tag attributes children).autolinkHeadings =
      .element tag attributes (children.map autolinkHeadings) := by
  rw [← isSome_autolinkTarget?_iff, Option.not_isSome_iff_eq_none] at h
  exact autolinkHeadings_of_none h

/-- A link is no heading. -/
theorem not_isHeading_of_isAnchor (h : e.isAnchor = true) : e.isHeading = false := by
  have htag : e.tag = "a" := of_decide_eq_true h
  rw [Element.isHeading, htag]
  decide

/-! ### Links inside of links -/

private theorem exists_link_elementsAll_iff
    (h : ∀ n ∈ ns, (∃ e ∈ n.autolinkHeadings.elements, e.isAnchor = true) ↔
      ∃ e ∈ n.elements, e.BringsLink) :
    (∃ e ∈ elementsAll (ns.map autolinkHeadings), e.isAnchor = true) ↔
      ∃ e ∈ elementsAll ns, e.BringsLink := by
  induction ns with
  | nil => simp [elementsAll]
  | cons n rest ih =>
    obtain ⟨hfirst, hrest⟩ := List.forall_mem_cons.mp h
    simp only [List.map_cons, elementsAll, List.mem_append, or_and_right, exists_or]
    rw [hfirst, ih hrest]

/-- There are links in a tree whose headings were linked if there were links before, or headings that
get one. -/
theorem exists_link_autolinkHeadings_iff (n : Node) :
    (∃ e ∈ n.autolinkHeadings.elements, e.isAnchor = true) ↔ ∃ e ∈ n.elements, e.BringsLink := by
  induction n using inductionOn with
  | root children ih =>
    rw [autolinkHeadings_root]
    exact exists_link_elementsAll_iff ih
  | element tag attributes children ih =>
    by_cases hlinkable : Element.IsLinkable ⟨tag, attributes, children⟩
    · -- the link that is added is found on one side, the heading itself on the other
      obtain ⟨linkAttributes, heq⟩ := autolinkHeadings_of_isLinkable hlinkable
      rw [heq]
      constructor
      · intro _
        exact ⟨_, List.mem_cons_self, .inr hlinkable⟩
      · intro _
        exact ⟨_, List.mem_cons_of_mem _ List.mem_cons_self, rfl⟩
    · have hself : Element.BringsLink ⟨tag, attributes, children⟩ ↔
          Element.isAnchor ⟨tag, attributes, children.map autolinkHeadings⟩ = true :=
        or_iff_left hlinkable
      rw [autolinkHeadings_of_not_isLinkable hlinkable, elements, elements, List.exists_mem_cons_iff,
        List.exists_mem_cons_iff, hself, exists_link_elementsAll_iff ih]
  | leaf kind value => simp [autolinkHeadings, elements]

/-- No link is among the elements of trees whose headings were linked if and only if none of the
elements brought one. -/
theorem forall_not_isAnchor_iff (ns : List Node) :
    (∀ e ∈ elementsAll (ns.map autolinkHeadings), ¬ e.isAnchor = true) ↔
      ∀ e ∈ elementsAll ns, ¬ e.BringsLink := by
  have h := not_congr (exists_link_elementsAll_iff fun n (_ : n ∈ ns) =>
    exists_link_autolinkHeadings_iff n)
  push Not at h
  exact h

/-- Links are nested after linking headings where elements that bring links were. -/
theorem linksApart_autolinkHeadings_iff_apart (n : Node) :
    n.autolinkHeadings.LinksApart ↔ n.Apart Element.BringsLink Element.BringsLink := by
  unfold LinksApart
  induction n using inductionOn with
  | root children ih =>
    rw [autolinkHeadings_root, apart_root, apart_root, List.forall_mem_map]
    exact forall₂_congr ih
  | element tag attributes children ih =>
    have hchildren : (∀ m ∈ children.map autolinkHeadings, m.Apart (·.isAnchor) (·.isAnchor)) ↔
        ∀ child ∈ children, child.Apart Element.BringsLink Element.BringsLink := by
      rw [List.forall_mem_map]
      exact forall₂_congr ih
    by_cases hlinkable : Element.IsLinkable ⟨tag, attributes, children⟩
    · obtain ⟨linkAttributes, heq⟩ := autolinkHeadings_of_isLinkable hlinkable
      have hnot : ¬ Element.isAnchor ⟨tag, attributes,
          [.element "a" linkAttributes (children.map autolinkHeadings)]⟩ = true := fun hanchor =>
        Bool.eq_false_iff.mp (not_isHeading_of_isAnchor hanchor) hlinkable.1
      have hlink : Element.isAnchor ⟨"a", linkAttributes, children.map autolinkHeadings⟩ = true := rfl
      have hself : Element.BringsLink ⟨tag, attributes, children⟩ := .inr hlinkable
      -- the heading is no link, so all that counts is what stands in the link that is added
      rw [heq, apart_element, List.forall_mem_singleton, apart_element, apart_element, hchildren,
        forall_not_isAnchor_iff, and_iff_right (fun hanchor => absurd hanchor hnot),
        forall_prop_of_true hlink, forall_prop_of_true hself]
    · rw [autolinkHeadings_of_not_isLinkable hlinkable, apart_element, apart_element, hchildren,
        forall_not_isAnchor_iff]
      have hself : Element.BringsLink ⟨tag, attributes, children⟩ ↔
          Element.isAnchor ⟨tag, attributes, children.map autolinkHeadings⟩ = true :=
        or_iff_left hlinkable
      rw [hself]
  | leaf kind value => simp [autolinkHeadings, Apart, elements]

/-- After linking headings no link stands in a link if and only if none did before and no heading that
gets a link stands in a link or in another heading that gets one. -/
theorem linksApart_autolinkHeadings_iff (n : Node) :
    n.autolinkHeadings.LinksApart ↔
      n.LinksApart ∧ n.Apart (fun e => e.isAnchor = true ∨ e.IsLinkable) Element.IsLinkable := by
  rw [linksApart_autolinkHeadings_iff_apart]
  constructor
  · intro h
    constructor
    · intro e he hanchor below hbelow hlink
      exact h e he (.inl hanchor) below hbelow (.inl hlink)
    · intro e he hbrings below hbelow hlinkable
      exact h e he hbrings below hbelow (.inr hlinkable)
  · rintro ⟨hlinks, hlinkables⟩ e he hbrings below hbelow (hlink | hlinkable)
    · -- a link stands neither in a link nor in a heading that gets one
      rcases hbrings with hanchor | hheading
      · exact hlinks e he hanchor below hbelow hlink
      · exact Bool.eq_false_iff.mp (hheading.2.2 below hbelow) hlink
    · exact hlinkables e he hbrings below hbelow hlinkable

/-- A heading that stands in a link as a whole. -/
def linkedHeading : Node :=
  .element "a" (Attributes.ofList [("href", .text "/intro")])
    [.element "h2" (Attributes.ofList [("id", .text "intro")]) [.text "Introduction"]]

/-- A heading in a link gets a link of its own. -/
theorem not_linksApart_autolinkHeadings_linkedHeading :
    ¬ (linkedHeading.LinksApart → linkedHeading.autolinkHeadings.LinksApart) := by
  unfold LinksApart Apart
  decide

/-! ### Linking once more -/

theorem not_isLinkable_of_mem_autolinkHeadings (n : Node) :
    ∀ e ∈ n.autolinkHeadings.elements, ¬ e.IsLinkable := by
  induction n using inductionOn with
  | root children ih =>
    rw [autolinkHeadings_root, elements, forall_mem_elementsAll, List.forall_mem_map]
    exact ih
  | element tag attributes children ih =>
    have hbelow : ∀ e ∈ elementsAll (children.map autolinkHeadings), ¬ e.IsLinkable := by
      rw [forall_mem_elementsAll, List.forall_mem_map]
      exact ih
    by_cases hlinkable : Element.IsLinkable ⟨tag, attributes, children⟩
    · obtain ⟨linkAttributes, heq⟩ := autolinkHeadings_of_isLinkable hlinkable
      rw [heq, elements, elementsAll, elementsAll, List.append_nil, elements, List.forall_mem_cons,
        List.forall_mem_cons]
      refine ⟨?_, ?_, hbelow⟩
      · -- there is a link in the heading now
        intro hself
        exact Bool.eq_false_iff.mp (hself.2.2 _ List.mem_cons_self) rfl
      · -- and the link itself is no heading
        intro hlink
        exact Bool.eq_false_iff.mp (not_isHeading_of_isAnchor rfl) hlink.1
    · rw [autolinkHeadings_of_not_isLinkable hlinkable, elements, List.forall_mem_cons]
      refine ⟨?_, hbelow⟩
      -- the links that were in the heading before are there still
      rintro ⟨hheading, hid, hlinks⟩
      have hnone : ∀ e ∈ elementsAll children, ¬ e.BringsLink :=
        (forall_not_isAnchor_iff children).mp fun e he => Bool.eq_false_iff.mp (hlinks e he)
      refine hlinkable ⟨hheading, hid, ?_⟩
      intro below hmem
      exact Bool.eq_false_iff.mpr fun hanchor => hnone below hmem (.inl hanchor)
  | leaf kind value => simp [autolinkHeadings, elements]

/-- A tree without headings to link stays as it is. -/
theorem autolinkHeadings_eq_self (n : Node) (h : ∀ e ∈ n.elements, ¬ e.IsLinkable) :
    n.autolinkHeadings = n := by
  induction n using inductionOn with
  | root children ih =>
    have hchildren : ∀ child ∈ children, child.autolinkHeadings = child := fun child hchild =>
      ih child hchild (forall_mem_elementsAll.mp h child hchild)
    rw [autolinkHeadings_root, List.map_congr_left hchildren, List.map_id']
  | element tag attributes children ih =>
    obtain ⟨hself, hbelow⟩ := List.forall_mem_cons.mp h
    have hchildren : ∀ child ∈ children, child.autolinkHeadings = child := fun child hchild =>
      ih child hchild (forall_mem_elementsAll.mp hbelow child hchild)
    rw [autolinkHeadings_of_not_isLinkable hself, List.map_congr_left hchildren, List.map_id']
  | leaf kind value => rfl

/-! ### The headings -/

theorem headingsAll_cons (n : Node) (rest : List Node) :
    headingsAll (n :: rest) = n.headings ++ headingsAll rest := by
  rw [headingsAll, elementsAll, List.filter_append, headings, headingsAll]

theorem headings_element :
    (element tag attributes children).headings =
      if (headingLevel? tag).isSome then ⟨tag, attributes, children⟩ :: headingsAll children
      else headingsAll children :=
  List.filter_cons

/-- What keeps the headings of each tree keeps those of trees side by side. -/
theorem map_start_headingsAll_map {g : Node → Node}
    (h : ∀ n ∈ ns, (g n).headings.map Element.start = n.headings.map Element.start) :
    (headingsAll (ns.map g)).map Element.start = (headingsAll ns).map Element.start := by
  induction ns with
  | nil => rfl
  | cons n rest ih =>
    obtain ⟨hfirst, hrest⟩ := List.forall_mem_cons.mp h
    rw [List.map_cons, headingsAll_cons, headingsAll_cons, List.map_append, List.map_append, hfirst,
      ih hrest]

/-- Linking headings puts links into them and keeps their tags and their attributes. -/
theorem map_start_headings_autolinkHeadings (n : Node) :
    n.autolinkHeadings.headings.map Element.start = n.headings.map Element.start := by
  induction n using inductionOn with
  | root children ih =>
    rw [autolinkHeadings_root]
    exact map_start_headingsAll_map ih
  | element tag attributes children ih =>
    have hbelow := map_start_headingsAll_map ih
    by_cases hlinkable : Element.IsLinkable ⟨tag, attributes, children⟩
    · obtain ⟨linkAttributes, heq⟩ := autolinkHeadings_of_isLinkable hlinkable
      have hheading : (headingLevel? tag).isSome = true := hlinkable.1
      have hlink : (headingLevel? "a").isSome = false := by decide
      have hadded : headingsAll [.element "a" linkAttributes (children.map autolinkHeadings)] =
          headingsAll (children.map autolinkHeadings) := by
        rw [headingsAll_cons, headings_element, hlink]
        exact List.append_nil _
      rw [heq, headings_element, headings_element, if_pos hheading, if_pos hheading, hadded,
        List.map_cons, List.map_cons, hbelow]
      rfl
    · rw [autolinkHeadings_of_not_isLinkable hlinkable, headings_element, headings_element]
      split
      · rw [List.map_cons, List.map_cons, hbelow]
        rfl
      · exact hbelow
  | leaf kind value => rfl

/-- Linking headings once more changes nothing; every heading that has an id holds a link afterwards;
and the headings of the tree are the same as before, with the same tags and attributes, in the same
order. -/
theorem autolinkHeadings_spec (n : Node) :
    n.autolinkHeadings.autolinkHeadings = n.autolinkHeadings ∧
      (∀ h ∈ n.autolinkHeadings.headings, (h.attr? "id").isSome = true →
        ∃ link ∈ elementsAll h.children, link.isAnchor = true) ∧
      n.autolinkHeadings.headings.map Element.start = n.headings.map Element.start := by
  have hnone := not_isLinkable_of_mem_autolinkHeadings n
  refine ⟨?_, ?_, ?_⟩
  · exact autolinkHeadings_eq_self n.autolinkHeadings hnone
  · intro h hmem hid
    obtain ⟨helement, hheading⟩ := List.mem_filter.mp hmem
    by_contra hlinks
    -- without a link in it the heading would have got one
    push Not at hlinks
    refine hnone h helement ⟨hheading, hid, ?_⟩
    intro link hlink
    exact Bool.eq_false_iff.mpr (hlinks link hlink)
  · exact map_start_headings_autolinkHeadings n

end Node

end Manuscript
