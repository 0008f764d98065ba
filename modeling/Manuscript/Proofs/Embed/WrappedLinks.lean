import Manuscript.Proofs.Document.Links
import Manuscript.Proofs.Embed.Resolution

/-!
# Looking up media behind wrapped links

Putting links into elements of their own does not change what a paragraph stands for: a bare link is
found with and without such an element around it, and a link that is not alone in its paragraph, or
not alone in its element, is not found either way. So the same media are looked up before and after.

## Main definitions

* `lookups` — the look-ups that a document makes

## Main results

* `soleAnchor?_other` — what hides a link
* `embedUrl?_wrapLinks` — what a node stands for
* `embeds_wrapLinks` — the same, and what a document looks up
-/

namespace Manuscript.Embed

open Node (wrapLinks linkWrapperClass isLinkWrapper isLinkWrapper_iff linkInduction)

variable {tag : String} {attributes linkAttributes : Attributes} {children below : List Node}

/-! ### Paragraphs -/

theorem soleAnchor?_link :
    soleAnchor? [.element "a" attributes children] = some ⟨"a", attributes, children⟩ := rfl

theorem soleAnchor?_wrapper (h : linkWrapperClass ∈ attributes.classes) :
    soleAnchor? [.element "span" attributes [.element "a" linkAttributes below]] =
      some ⟨"a", linkAttributes, below⟩ := by
  rw [linkWrapperClass] at h
  simp [soleAnchor?, Node.anchor?, Node.element?, Option.filter, Element.isAnchor,
    Element.hasClass, Element.classes, h]

theorem anchor?_eq_none {n : Node} (h : n.hasTag "a" = false) : n.anchor? = none := by
  cases n with
  | element tag attributes children =>
    simpa [Node.anchor?, Node.element?, Option.filter, Element.isAnchor, Node.hasTag] using h
  | root children => rfl
  | leaf kind value => rfl

/-- An element that is neither a link nor one around a link hides the links in it. -/
theorem soleAnchor?_other (htag : tag ≠ "a") (h : isLinkWrapper tag attributes children = false) :
    soleAnchor? [.element tag attributes children] = none := by
  have hanchor : (Node.element tag attributes children).anchor? = none :=
    anchor?_eq_none (decide_eq_false htag)
  rw [soleAnchor?, hanchor, Option.none_or]
  change (if _ then _ else _) = none
  split
  · rename_i hspan
    dsimp only
    rcases children with _ | ⟨inner, _ | ⟨second, rest⟩⟩
    · rfl
    · -- a link would make this an element around one
      have hinner : (true && inner.hasTag "a") = false := hspan ▸ h
      exact anchor?_eq_none hinner
    · rfl
  · rfl

/-- Whether the text of a link is its address does not depend on links in it. -/
theorem bareAddress?_map_wrapLinks :
    bareAddress? ⟨tag, attributes, children.map wrapLinks⟩ =
      bareAddress? ⟨tag, attributes, children⟩ := by
  rcases children with _ | ⟨only, _ | ⟨second, rest⟩⟩
  · rfl
  · cases only using linkInduction with
    | root children => rfl
    | link attributes children => rfl
    | wrapper attributes linkAttributes below hclass =>
      rw [List.map_singleton, Node.wrapLinks_wrapper hclass]
      rfl
    | other tag attributes children htag hother =>
      rw [List.map_singleton, Node.wrapLinks_other htag hother]
      rfl
    | leaf kind value => rfl
  · simp [bareAddress?]

/-- A sole link among nodes is found once they are wrapped, and no other is. -/
theorem bind_soleAnchor?_map_wrapLinks :
    (soleAnchor? (children.map wrapLinks)).bind bareAddress? =
      (soleAnchor? children).bind bareAddress? := by
  -- wrapping keeps the number of nodes, so it is enough to compare what becomes of a single one
  rcases children with _ | ⟨only, _ | ⟨second, rest⟩⟩
  · rfl
  · rw [List.map_singleton]
    cases only using linkInduction with
    | root children => rfl
    | link attributes children =>
      rw [Node.wrapLinks_link, soleAnchor?_wrapper Node.mem_classes_linkWrapperAttributes,
        soleAnchor?_link]
      exact bareAddress?_map_wrapLinks
    | wrapper attributes linkAttributes below hclass =>
      rw [Node.wrapLinks_wrapper hclass, soleAnchor?_wrapper hclass, soleAnchor?_wrapper hclass]
      exact bareAddress?_map_wrapLinks
    | other tag attributes children htag hother =>
      rw [Node.wrapLinks_other htag hother, soleAnchor?_other htag hother,
        soleAnchor?_other htag Node.isLinkWrapper_map_wrapLinks]
    | leaf kind value => rfl
  · rfl

/-- A node stands for the same medium once its links are wrapped. -/
theorem embedUrl?_wrapLinks (n : Node) : embedUrl? n.wrapLinks = embedUrl? n := by
  cases n using linkInduction with
  | root children => rfl
  | link attributes children =>
    rw [Node.wrapLinks_link, embedUrl?_element, embedUrl?_element, if_neg (by decide),
      if_neg (by decide)]
  | wrapper attributes linkAttributes below hclass =>
    rw [Node.wrapLinks_wrapper hclass, embedUrl?_element, embedUrl?_element, if_neg (by decide),
      if_neg (by decide)]
  | other tag attributes children htag hother =>
    rw [Node.wrapLinks_other htag hother, embedUrl?_element, embedUrl?_element,
      bind_soleAnchor?_map_wrapLinks]
  | leaf kind value => rfl

/-! ### Documents -/

variable {σ : Type} (fetch : Fetcher σ) (parser : MarkupParser) (options : FetchOptions)

/-- The look-ups that a document makes. -/
def lookups (s : σ) (n : Node) : List Lookup :=
  (resolveEmbeds fetch.recorded parser options (s, []) n).1.1.2

/-- What a node stands for decides what is looked up for it, and the state after that. -/
theorem fst_resolveNode_congr {n m : Node} (h : embedUrl? n = embedUrl? m) (s : σ × Log) :
    (resolveNode fetch parser options s n).1 = (resolveNode fetch parser options s m).1 := by
  unfold resolveNode
  rw [h]
  cases embedUrl? m with
  | none => rfl
  | some url =>
    dsimp only
    split <;> rfl

theorem fst_mapWithState_resolveNode_map_wrapLinks (s : σ × Log) (ns : List Node) :
    (mapWithState (resolveNode fetch parser options) s (ns.map wrapLinks)).1 =
      (mapWithState (resolveNode fetch parser options) s ns).1 := by
  induction ns generalizing s with
  | nil => rfl
  | cons n rest ih =>
    simp only [List.map_cons, mapWithState]
    rw [fst_resolveNode_congr fetch parser options (embedUrl?_wrapLinks n), ih]

theorem fst_resolveEmbeds_wrapLinks (s : σ) (children : List Node) :
    (resolveEmbeds fetch parser options s (wrapLinks (.root children))).1 =
      (resolveEmbeds fetch parser options s (.root children)).1 := by
  rw [Node.wrapLinks_root]
  exact fst_mapWithState_resolveNode_map_wrapLinks fetch parser options (s, []) children

/-- Wrapping links does not change what a node stands for, nor what a document looks up, in which
order and with which answers. -/
theorem embeds_wrapLinks :
    (∀ n : Node, embedUrl? n.wrapLinks = embedUrl? n) ∧
      ∀ {σ : Type} (fetch : Fetcher σ) (parser : MarkupParser) (options : FetchOptions) (s : σ)
        (children : List Node),
        lookups fetch parser options s (wrapLinks (.root children)) =
          lookups fetch parser options s (.root children) := by
  refine ⟨embedUrl?_wrapLinks, fun fetch parser options s children => ?_⟩
  -- the record is part of the state of the fetcher that keeps it
  rw [lookups, fst_resolveEmbeds_wrapLinks]
  rfl

end Manuscript.Embed
