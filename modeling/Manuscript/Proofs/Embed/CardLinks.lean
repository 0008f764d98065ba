import Manuscript.Embed.Card
import Manuscript.Proofs.Document.HeadingLinks

/-!
# Links of cards

The card of rich media with markup is a link as a whole, so its source is no link of its own. The
links that the markup brings along stay, however, and then they stand in the link around the card.
Apart from these, no card has a link in a link, whatever its kind and whatever becomes of its markup.

## Main definitions

* `Node.LinkFree` — trees without links
* `MarkupParser.LinksApart` — parsers that put no link into a link

## Main results

* `linksApart_cardBody`, `linkFree_cardBody_iff` — the links in the markup of a card
* `linksApart_figure_iff`, `linkFree_figure_iff` — those in a card without the link around it
* `linksApart_buildCard_iff` — which cards have no link in a link
-/

namespace Manuscript

/-- Whether no document that a parser reads has a link in a link. -/
def MarkupParser.LinksApart (parser : MarkupParser) : Prop :=
  ∀ html document, parser.parseDocument html = .ok document → document.LinksApart

namespace Node

/-- Whether a tree has no link in it. -/
def LinkFree (n : Node) : Prop := ∀ e ∈ n.elements, ¬ e.isAnchor = true

variable {tag value : String} {attributes : Attributes} {children : List Node} {kind : LeafKind}

theorem isAnchor_mk : Element.isAnchor ⟨tag, attributes, children⟩ = true ↔ tag = "a" :=
  decide_eq_true_iff

@[simp] theorem linkFree_element :
    (element tag attributes children).LinkFree ↔ tag ≠ "a" ∧ ∀ child ∈ children, child.LinkFree := by
  rw [LinkFree, elements, List.forall_mem_cons, isAnchor_mk, forall_mem_elementsAll]
  rfl

@[simp] theorem linkFree_leaf : (leaf kind value).LinkFree := fun _ h => absurd h List.not_mem_nil

@[simp] theorem linksApart_element :
    (element tag attributes children).LinksApart ↔
      (tag = "a" → ∀ child ∈ children, child.LinkFree) ∧ ∀ child ∈ children, child.LinksApart := by
  rw [LinksApart, apart_element, isAnchor_mk, forall_mem_elementsAll]
  rfl

@[simp] theorem linksApart_leaf : (leaf kind value).LinksApart :=
  fun _ h => absurd h List.not_mem_nil

end Node

namespace Embed

variable {parser : MarkupParser} {metadata : EmbedMetadata} {n document : Node} {body : List Node}

/-! ### The markup -/

/-- A node of the markup stays as it is, or is put into a box. -/
theorem boxFrame_eq_or (metadata : EmbedMetadata) (n : Node) :
    boxFrame metadata n = n ∨ ∃ attributes, boxFrame metadata n = .element "div" attributes [n] := by
  unfold boxFrame
  split
  · rename_i frame hframe
    obtain rfl := Node.element?_eq_some_iff.mp hframe
    split
    · exact .inr ⟨_, rfl⟩
    · exact .inl rfl
  · exact .inl rfl

theorem linksApart_boxFrame_iff : (boxFrame metadata n).LinksApart ↔ n.LinksApart := by
  rcases boxFrame_eq_or metadata n with heq | ⟨attributes, heq⟩ <;> simp [heq]

theorem linkFree_boxFrame_iff : (boxFrame metadata n).LinkFree ↔ n.LinkFree := by
  rcases boxFrame_eq_or metadata n with heq | ⟨attributes, heq⟩ <;> simp [heq]

theorem linksApart_bodyChildren (h : document.LinksApart) :
    ∀ n ∈ bodyChildren document, n.LinksApart := by
  intro n hn
  unfold bodyChildren at hn
  cases hfirst : document.findFirst? (Node.hasTag "body") with
  | none =>
    rw [hfirst] at hn
    exact absurd hn List.not_mem_nil
  | some body =>
    rw [hfirst] at hn
    rw [Node.findFirst?_eq] at hfirst
    have hbody : body.LinksApart := h.of_mem_subtrees (List.mem_of_find?_eq_some hfirst)
    exact hbody.of_mem_subtrees (Node.mem_subtrees_iff.mpr (.inr ⟨n, hn, n.self_mem_subtrees⟩))

/-- No link stands in a link of the markup, whether the parser reads it or fails. -/
theorem linksApart_cardBody (h : parser.LinksApart) (metadata : EmbedMetadata) :
    ∀ n ∈ cardBody parser metadata, n.LinksApart := by
  unfold cardBody
  split
  · simp
  · split
    · rename_i document hdocument
      rw [List.forall_mem_map]
      intro n hn
      exact linksApart_boxFrame_iff.mpr (linksApart_bodyChildren (h _ document hdocument) n hn)
    · simp

/-- The links in the markup of rich media are those in the body of its document. -/
theorem linkFree_cardBody_iff (hkind : metadata.kind = .rich) :
    (∀ n ∈ cardBody parser metadata, n.LinkFree) ↔
      ∀ html document, metadata.html = some html → parser.parseDocument html = .ok document →
        ∀ n ∈ bodyChildren document, n.LinkFree := by
  rw [cardBody, cardMarkup?, hkind]
  dsimp only
  cases hhtml : metadata.html with
  | none => simp
  | some html =>
    dsimp only
    cases hdocument : parser.parseDocument html with
    | error e =>
      refine iff_of_true (by simp) ?_
      rintro html' document heq hread
      obtain rfl := Option.some.inj heq
      rw [hdocument] at hread
      cases hread
    | ok document =>
      dsimp only
      rw [List.forall_mem_map]
      simp only [linkFree_boxFrame_iff]
      constructor
      · rintro hfree html' document' heq hread
        obtain rfl := Option.some.inj heq
        rw [hdocument] at hread
        obtain rfl := Except.ok.inj hread
        exact hfree
      · exact fun hfree => hfree html document rfl hdocument

/-! ### The figure -/

theorem linksApart_citation (url : String) (metadata : EmbedMetadata) :
    (citation url metadata).LinksApart := by
  unfold citation
  split <;> simp

/-- The source of a card that is a link as a whole is none. -/
theorem linkFree_citation (url : String) (h : isLinkedCard metadata = true) :
    (citation url metadata).LinkFree := by
  rw [citation, if_pos h]
  simp

/-- A preview image has no links in it. -/
theorem linkFree_and_linksApart_of_mem_cover (h : n ∈ cover metadata) :
    n.LinkFree ∧ n.LinksApart := by
  unfold cover at h
  split at h
  · obtain rfl := List.mem_singleton.mp h
    simp [coverImage]
  · cases h

/-- A title has no links in it. -/
theorem linkFree_and_linksApart_of_mem_titleLine (h : n ∈ titleLine metadata) :
    n.LinkFree ∧ n.LinksApart := by
  unfold titleLine at h
  split at h
  · split at h
    · cases h
    · obtain rfl := List.mem_singleton.mp h
      simp
  · cases h

/-- If a property passes between an element that is no link and its children, and all else in a figure
has it, then the figure has it if and only if the markup has, wherever that stands. -/
theorem figure_iff {p : Node → Prop} {url : String}
    (helement : ∀ {tag attributes children}, tag ≠ "a" →
      (p (.element tag attributes children) ↔ ∀ child ∈ children, p child))
    (hcover : ∀ n ∈ cover metadata, p n) (hcitation : p (citation url metadata))
    (htitle : ∀ n ∈ titleLine metadata, p n) :
    p (figure url metadata body) ↔ ∀ n ∈ body, p n := by
  rw [figure, helement (by decide), List.forall_mem_append, List.forall_mem_append,
    List.forall_mem_singleton, and_iff_right hcover, helement (by decide), List.forall_mem_append,
    List.forall_mem_append, List.forall_mem_singleton, and_iff_left htitle, and_iff_left hcitation]
  -- the markup stands before the caption or in it
  split <;> simp

/-- Without the link around it, a card has a link in a link only if its markup has. -/
theorem linksApart_figure_iff (url : String) (metadata : EmbedMetadata) :
    (figure url metadata body).LinksApart ↔ ∀ n ∈ body, n.LinksApart :=
  figure_iff (fun htag => by simp [htag])
    (fun _ h => (linkFree_and_linksApart_of_mem_cover h).2) (linksApart_citation url metadata)
    (fun _ h => (linkFree_and_linksApart_of_mem_titleLine h).2)

/-- In a card that is a link as a whole, only the markup can bring links. -/
theorem linkFree_figure_iff (url : String) (h : isLinkedCard metadata = true) :
    (figure url metadata body).LinkFree ↔ ∀ n ∈ body, n.LinkFree :=
  figure_iff (fun htag => by simp [htag])
    (fun _ h => (linkFree_and_linksApart_of_mem_cover h).1) (linkFree_citation url h)
    (fun _ h => (linkFree_and_linksApart_of_mem_titleLine h).1)

/-! ### Cards -/

/-- If a parser puts no link into a link, the card of a medium has no link in a link if and only if it
is not the card of rich media whose markup brings a link along. -/
theorem linksApart_buildCard_iff (h : parser.LinksApart) (url : String) (metadata : EmbedMetadata) :
    (buildCard parser url metadata).LinksApart ↔
      (metadata.kind = .rich → ∀ html document, metadata.html = some html →
        parser.parseDocument html = .ok document →
          ∀ n ∈ bodyChildren document, n.LinkFree) := by
  have hfigure : (figure url metadata (cardBody parser metadata)).LinksApart :=
    (linksApart_figure_iff url metadata).mpr (linksApart_cardBody h metadata)
  rw [buildCard]
  cases hlinked : isLinkedCard metadata with
  | true =>
    have hkind : metadata.kind = .rich := of_decide_eq_true (Bool.and_eq_true_iff.mp hlinked).1
    -- the link around the figure asks for a figure without links, which only the markup can break
    rw [if_pos rfl, Node.linksApart_element, List.forall_mem_singleton, List.forall_mem_singleton,
      and_iff_left hfigure, forall_prop_of_true rfl, linkFree_figure_iff url hlinked,
      linkFree_cardBody_iff hkind, forall_prop_of_true hkind]
  | false =>
    rw [if_neg Bool.false_ne_true]
    refine iff_of_true hfigure ?_
    intro hkind html document hhtml
    -- rich media with markup would be a link as a whole
    simp [isLinkedCard, hkind, hhtml] at hlinked

/-- A parser that reads all markup as a document with a link to a post in it. -/
def postParser : MarkupParser where
  parseDocument _ := .ok (.root [.element "html" ∅ [.element "head" ∅ [], .element "body" ∅
    [.element "a" (Attributes.ofList [("href", .text "/post")]) [.text "Post"]]]])
  parseFragment _ := .ok [.element "a" (Attributes.ofList [("href", .text "/post")]) [.text "Post"]]

theorem linksApart_postParser : postParser.LinksApart := by
  intro html document hdocument
  obtain rfl := Except.ok.inj hdocument
  unfold Node.LinksApart Node.Apart
  decide

/-- A video, or rich media, with a link in its markup. -/
def post (kind : EmbedKind) : EmbedMetadata :=
  { kind, title := some "Post", html := some "<a href=\"/post\">Post</a>" }

/-- A link in the markup of a video does not stand in another one. -/
theorem linksApart_buildCard_iff_video :
    postParser.LinksApart ∧ (buildCard postParser "https://x.example/p" (post .video)).LinksApart :=
  ⟨linksApart_postParser,
    (linksApart_buildCard_iff linksApart_postParser _ (post .video)).mpr fun hkind => by cases hkind⟩

/-- A link in the markup of rich media stands in the link around the card. -/
theorem not_linksApart_buildCard_rich :
    ¬ (postParser.LinksApart →
      (buildCard postParser "https://x.example/p" (post .rich)).LinksApart) := by
  intro h
  have hcard := h linksApart_postParser
  unfold Node.LinksApart Node.Apart at hcard
  revert hcard
  decide

end Embed

end Manuscript
