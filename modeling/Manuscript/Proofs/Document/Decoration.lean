import Manuscript.Document.CodeBlocks
import Manuscript.Document.Html
import Manuscript.Document.Images
import Manuscript.Document.Paragraphs
import Manuscript.Document.Paths
import Manuscript.Proofs.Document.HeadingIds
import Manuscript.Proofs.Document.Links

/-!
# Decorating passes

Most passes decorate a tree: they rename elements, set attributes, or put elements around others.
None of them adds a leaf, drops one or moves one past another, so a run of such passes, whatever
their order and however often each occurs, leaves the content and the text of a tree alone.

Passes come in three kinds. A visit revises elements in place; wrapping links and linking headings
put elements around nodes; and marking the lead stops at the first paragraph.

## Main definitions

* `Decoration` — the decorating passes
* `Decoration.applyAll` — a run of them

## Main results

* `leaves_autolinkHeadings`, `leaves_wrapLinks`, `leaves_markLead` — passes that are no visits
* `eq_or_mem_of_mem_tags_autolinkHeadings`, `eq_or_mem_of_mem_tags_wrapLinks` — the elements that
  these two add
* `Decoration.leaves_apply` — one pass keeps the leaves
* `Decoration.content_applyAll` — a run keeps the leaves and the text
-/

namespace Manuscript

namespace Node

variable {tag href : String} {attributes : Attributes} {children : List Node}

/-! ### Links of headings -/

theorem autolinkHeadingsAll_eq_map (ns : List Node) :
    autolinkHeadingsAll ns = ns.map autolinkHeadings := by
  induction ns with
  | nil => rfl
  | cons n rest ih => rw [autolinkHeadingsAll, ih, List.map_cons]

theorem autolinkHeadings_root :
    (root children).autolinkHeadings = .root (children.map autolinkHeadings) := by
  rw [autolinkHeadings, autolinkHeadingsAll_eq_map]

/-- A heading that is linked to itself keeps its tag and its attributes. -/
theorem autolinkHeadings_of_some (h : autolinkTarget? tag attributes children = some href) :
    (element tag attributes children).autolinkHeadings =
      .element tag attributes
        [.element "a" (Attributes.ofList [("href", .text href)])
          (children.map autolinkHeadings)] := by
  rw [autolinkHeadings, h, autolinkHeadingsAll_eq_map]

theorem autolinkHeadings_of_none (h : autolinkTarget? tag attributes children = none) :
    (element tag attributes children).autolinkHeadings =
      .element tag attributes (children.map autolinkHeadings) := by
  rw [autolinkHeadings, h, autolinkHeadingsAll_eq_map]

/-- Only headings are linked to themselves. -/
theorem isSome_headingLevel?_of_autolinkTarget?
    (h : autolinkTarget? tag attributes children = some href) :
    (headingLevel? tag).isSome = true := by
  obtain ⟨hheading, -⟩ := Option.ite_none_right_eq_some.mp h
  exact (Bool.and_eq_true_iff.mp hheading).1

theorem leaves_autolinkHeadings (n : Node) : n.autolinkHeadings.leaves = n.leaves := by
  induction n using inductionOn with
  | root children ih =>
    rw [autolinkHeadings_root, leaves, leaves, leavesAll_map ih]
  | element tag attributes children ih =>
    cases h : autolinkTarget? tag attributes children with
    | some href =>
      rw [autolinkHeadings_of_some h, leaves, leaves, leavesAll_singleton, leaves,
        leavesAll_map ih]
    | none => rw [autolinkHeadings_of_none h, leaves, leaves, leavesAll_map ih]
  | leaf kind value => rfl

/-! ### Elements around links -/

theorem leaves_wrapLinks (n : Node) : n.wrapLinks.leaves = n.leaves := by
  induction n using linkInduction with
  | root children ih => rw [wrapLinks_root, leaves, leaves, leavesAll_map ih]
  | link attributes children ih =>
    rw [wrapLinks_link, leaves, leaves, leavesAll_singleton, leaves, leavesAll_map ih]
  | wrapper attributes linkAttributes below hclass ih =>
    rw [wrapLinks_wrapper hclass, leaves, leaves, leavesAll_singleton, leavesAll_singleton,
      leaves, leaves, leavesAll_map ih]
  | other tag attributes children htag hother ih =>
    rw [wrapLinks_other htag hother, leaves, leaves, leavesAll_map ih]
  | leaf kind value => rfl

/-! ### Tags -/

/-- What puts no tag but one into each tree puts no other into trees side by side. -/
theorem eq_or_mem_of_mem_tagsAll_map {g : Node → Node} {added : String} {ns : List Node}
    (h : ∀ n ∈ ns, tag ∈ (g n).tags → tag = added ∨ tag ∈ n.tags)
    (hmem : tag ∈ tagsAll (ns.map g)) : tag = added ∨ tag ∈ tagsAll ns := by
  obtain ⟨m, hm, htag⟩ := mem_tagsAll.mp hmem
  obtain ⟨n, hn, rfl⟩ := List.mem_map.mp hm
  rcases h n hn htag with hadded | hold
  · exact .inl hadded
  · exact .inr (mem_tagsAll.mpr ⟨n, hn, hold⟩)

/-- Linking headings adds links and no other elements. -/
theorem eq_or_mem_of_mem_tags_autolinkHeadings {n : Node} (h : tag ∈ n.autolinkHeadings.tags) :
    tag = "a" ∨ tag ∈ n.tags := by
  induction n using inductionOn with
  | root children ih =>
    rw [autolinkHeadings_root] at h
    exact eq_or_mem_of_mem_tagsAll_map ih h
  | element t attributes children ih =>
    cases htarget : autolinkTarget? t attributes children with
    | some href =>
      rw [autolinkHeadings_of_some htarget, tags_element, List.mem_cons, mem_tagsAll] at h
      rcases h with rfl | ⟨link, hlink, h⟩
      · exact .inr (List.mem_cons_self ..)
      · obtain rfl := List.mem_singleton.mp hlink
        rcases List.mem_cons.mp h with rfl | h
        · exact .inl rfl
        · exact (eq_or_mem_of_mem_tagsAll_map ih h).imp_right (List.mem_cons_of_mem _)
    | none =>
      rw [autolinkHeadings_of_none htarget, tags_element, List.mem_cons] at h
      rcases h with rfl | h
      · exact .inr (List.mem_cons_self ..)
      · exact (eq_or_mem_of_mem_tagsAll_map ih h).imp_right (List.mem_cons_of_mem _)
  | leaf kind value => exact .inr h

/-- Wrapping links adds elements around links and no others. -/
theorem eq_or_mem_of_mem_tags_wrapLinks {n : Node} (h : tag ∈ n.wrapLinks.tags) :
    tag = "span" ∨ tag ∈ n.tags := by
  induction n using linkInduction with
  | root children ih =>
    rw [wrapLinks_root] at h
    exact eq_or_mem_of_mem_tagsAll_map ih h
  | link attributes children ih =>
    rw [wrapLinks_link, tags_element, List.mem_cons, tagsAll_singleton, tags_element,
      List.mem_cons] at h
    rcases h with rfl | rfl | h
    · exact .inl rfl
    · exact .inr (List.mem_cons_self ..)
    · exact (eq_or_mem_of_mem_tagsAll_map ih h).imp_right (List.mem_cons_of_mem _)
  | wrapper attributes linkAttributes below hclass ih =>
    rw [wrapLinks_wrapper hclass, tags_element, List.mem_cons, tagsAll_singleton, tags_element,
      List.mem_cons] at h
    rw [tags_element, tagsAll_singleton, tags_element]
    rcases h with rfl | rfl | h
    · exact .inl rfl
    · exact .inr (List.mem_cons_of_mem _ (List.mem_cons_self ..))
    · refine (eq_or_mem_of_mem_tagsAll_map ih h).imp_right fun hbelow => ?_
      exact List.mem_cons_of_mem _ (List.mem_cons_of_mem _ hbelow)
  | other tag attributes children htag hother ih =>
    rw [wrapLinks_other htag hother, tags_element, List.mem_cons] at h
    rcases h with rfl | h
    · exact .inr (List.mem_cons_self ..)
    · exact (eq_or_mem_of_mem_tagsAll_map ih h).imp_right (List.mem_cons_of_mem _)
  | leaf kind value => exact .inr h

/-! ### The lead -/

mutual

/-- Marking the lead keeps the leaves, whether a paragraph was found before or not. -/
theorem leaves_markLeadFrom (found : Bool) : ∀ n : Node,
    (markLeadFrom found n).2.leaves = n.leaves
  | .root children => by
    cases found with
    | true => rfl
    | false => exact leavesAll_markLeadAll false children
  | .element tag attributes children => by
    cases found with
    | true => rfl
    | false =>
      by_cases htag : tag = "p"
      · -- the first paragraph gets a class and its children stay
        simp [markLeadFrom, htag, leaves]
      · simp only [markLeadFrom, htag, Bool.false_eq_true, if_false, leaves]
        exact leavesAll_markLeadAll false children
  | .leaf kind value => rfl

theorem leavesAll_markLeadAll (found : Bool) : ∀ ns : List Node,
    leavesAll (markLeadAll found ns).2 = leavesAll ns
  | [] => rfl
  | n :: rest => by
    simp only [markLeadAll, leavesAll]
    rw [leaves_markLeadFrom, leavesAll_markLeadAll]

end

theorem leaves_markLead (n : Node) : n.markLead.leaves = n.leaves := leaves_markLeadFrom false n

/-! ### Visits -/

theorem leaves_normalizeHeadings (n : Node) : n.normalizeHeadings.leaves = n.leaves := by
  unfold normalizeHeadings
  split
  · rfl
  · exact leaves_visit Element.isHeading (fun _ _ => rfl) () n

theorem leaves_assignHeadingIds (n : Node) : n.assignHeadingIds.1.leaves = n.leaves :=
  leaves_visit Element.isHeading added_assignHeadingId (n.reservedIds, []) n

end Node

/-- A pass that decorates a tree. -/
inductive Decoration where
  /-- Moves the headings so that the highest ones are of level two. -/
  | normalizeHeadings
  /-- Gives every heading an id. -/
  | assignHeadingIds
  /-- Makes headings links to themselves. -/
  | autolinkHeadings
  /-- Puts every link into an element of its own. -/
  | wrapLinks
  /-- Gives the first paragraph the class `lead`. -/
  | markLead
  /-- Carries out the directives in the titles of images. -/
  | extendImageAttributes
  /-- Turns every image into a component. -/
  | imagesToComponents (component : String)
  /-- Labels blocks of code with their language. -/
  | tagCodeLanguages
  /-- Collapses the white space in the data of paths. -/
  | normalizeSvgPaths
  deriving DecidableEq, Repr

namespace Decoration

/-- What a pass makes of a tree. -/
def apply : Decoration → Node → Node
  | .normalizeHeadings, n => n.normalizeHeadings
  | .assignHeadingIds, n => n.assignHeadingIds.1
  | .autolinkHeadings, n => n.autolinkHeadings
  | .wrapLinks, n => n.wrapLinks
  | .markLead, n => n.markLead
  | .extendImageAttributes, n => n.extendImageAttributes
  | .imagesToComponents component, n => n.imagesToComponents component
  | .tagCodeLanguages, n => n.tagCodeLanguages
  | .normalizeSvgPaths, n => n.normalizeSvgPaths

/-- What a run of passes makes of a tree, the first pass first. -/
def applyAll (passes : List Decoration) (n : Node) : Node :=
  passes.foldl (fun n pass => pass.apply n) n

/-- One pass keeps the leaves. -/
theorem leaves_apply (pass : Decoration) (n : Node) : (pass.apply n).leaves = n.leaves := by
  cases pass with
  | normalizeHeadings => exact n.leaves_normalizeHeadings
  | assignHeadingIds => exact n.leaves_assignHeadingIds
  | autolinkHeadings => exact n.leaves_autolinkHeadings
  | wrapLinks => exact n.leaves_wrapLinks
  | markLead => exact n.leaves_markLead
  | extendImageAttributes => exact Node.leaves_mapAttributes _ _ n
  | imagesToComponents component =>
    exact Node.leaves_visit Element.isImage (fun _ _ => rfl) () n
  | tagCodeLanguages => exact Node.leaves_mapAttributes _ _ n
  | normalizeSvgPaths => exact Node.leaves_mapAttributes _ _ n

/-- A run of passes keeps the leaves. -/
theorem leaves_applyAll (passes : List Decoration) (n : Node) :
    (applyAll passes n).leaves = n.leaves := by
  induction passes generalizing n with
  | nil => rfl
  | cons pass rest ih => exact (ih (pass.apply n)).trans (pass.leaves_apply n)

/-- Decorating passes leave the content of a tree alone, in any order and with repetition: its
leaves are the same, in the same order, and so is its text. -/
theorem content_applyAll (passes : List Decoration) (n : Node) :
    (applyAll passes n).leaves = n.leaves ∧
      (applyAll passes n).textContent = n.textContent ∧
      (applyAll passes n).toText = n.toText := by
  have hleaves := leaves_applyAll passes n
  have htext : (applyAll passes n).textContent = n.textContent := by
    rw [Node.textContent_eq, Node.textContent_eq, hleaves]
  exact ⟨hleaves, htext, htext⟩

end Decoration

end Manuscript
