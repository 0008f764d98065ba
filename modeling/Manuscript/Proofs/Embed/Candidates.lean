import Manuscript.Proofs.Document.CodeBlocks
import Manuscript.Proofs.Document.Decoration
import Manuscript.Proofs.Embed.WrappedLinks

/-!
# What stands for a medium

A paragraph stands for a medium if it is a bare link. That depends on little of it: on how many
children there are, on their tags, and on the attributes of the link and of the element around it.
What happens to headings or to code does not matter, so passes that work on those look up the same
media before and after. The text of such a paragraph is the address, and a card in its place says
what the markup of the medium says, its source and its title.

## Main definitions

* `Alike` — trees that agree in what makes a bare link
* `cardText` — the text of a card

## Main results

* `embedUrl?_congr` — trees that are alike stand for the same medium
* `alike_visit`, `alike_autolinkHeadings`, `alike_tagCodeLanguages` — passes that keep what makes a
  bare link
* `textContent_of_embedUrl?` — the text of a bare link
* `textContent_buildCard` — the text of a card
-/

namespace Manuscript.Embed

open Node (isLinkWrapper isLinkWrapper_iff linkWrapperClass)

/-- Trees that agree in what makes a bare link. Paragraphs, links and the elements around links have
the same attributes and children that are alike; of other elements only the tags agree. -/
inductive Alike : Node → Node → Prop
  /-- Two roots. -/
  | root {children below : List Node} : Alike (.root children) (.root below)
  /-- A leaf. -/
  | leaf {kind : LeafKind} {value : String} : Alike (.leaf kind value) (.leaf kind value)
  /-- An element whose children were changed. -/
  | element {tag : String} {attributes : Attributes} {children below : List Node}
      (hbelow : List.Forall₂ Alike children below) :
      Alike (.element tag attributes children) (.element tag attributes below)
  /-- An element that plays no part in a bare link. -/
  | other {tag : String} {attributes revised : Attributes} {children below : List Node}
      (hparagraph : tag ≠ "p") (hspan : tag ≠ "span") (hlink : tag ≠ "a") :
      Alike (.element tag attributes children) (.element tag revised below)

variable {tag url : String} {attributes : Attributes} {children below : List Node} {n m : Node}

/-! ### Trees that are alike -/

theorem Alike.hasTag_eq (h : Alike n m) (tag : String) : n.hasTag tag = m.hasTag tag := by
  cases h <;> rfl

/-- Elements around links stay such elements, and no other becomes one. -/
theorem isLinkWrapper_congr (h : List.Forall₂ Alike children below) :
    isLinkWrapper tag attributes children = isLinkWrapper tag attributes below := by
  cases h with
  | nil => rfl
  | cons hfirst hrest =>
    cases hrest with
    | nil => simp only [isLinkWrapper, hfirst.hasTag_eq]
    | cons _ _ => simp only [isLinkWrapper]

/-- Whether the text of a link is its address depends on a single text in it. -/
theorem bareAddress?_congr (h : List.Forall₂ Alike children below) :
    bareAddress? ⟨tag, attributes, children⟩ = bareAddress? ⟨tag, attributes, below⟩ := by
  cases h with
  | nil => rfl
  | cons hfirst hrest =>
    cases hrest with
    | nil => cases hfirst <;> rfl
    | cons _ _ => simp [bareAddress?]

/-- A sole bare link is found among nodes that are alike, and no other is. -/
theorem bind_soleAnchor?_congr (h : List.Forall₂ Alike children below) :
    (soleAnchor? children).bind bareAddress? = (soleAnchor? below).bind bareAddress? := by
  cases h with
  | nil => rfl
  | cons hfirst hrest =>
    cases hrest with
    | cons _ _ => rfl
    | nil =>
      cases hfirst with
      | root => rfl
      | leaf => rfl
      | @element tag attributes children below hbelow =>
        by_cases hlink : tag = "a"
        · subst hlink
          rw [soleAnchor?_link, soleAnchor?_link]
          exact bareAddress?_congr hbelow
        · have hcongr : isLinkWrapper tag attributes children =
              isLinkWrapper tag attributes below := isLinkWrapper_congr hbelow
          cases hwrapper : isLinkWrapper tag attributes children with
          | true =>
            obtain ⟨rfl, hclass, linkAttributes, inner, rfl⟩ := isLinkWrapper_iff.mp hwrapper
            obtain ⟨-, -, _, inner', rfl⟩ := isLinkWrapper_iff.mp (hcongr ▸ hwrapper)
            rw [soleAnchor?_wrapper hclass, soleAnchor?_wrapper hclass]
            -- the links in the two elements are alike, so their attributes are the same
            cases hbelow with
            | cons hinner _ =>
              cases hinner with
              | element hinner => exact bareAddress?_congr hinner
              | other _ _ hlink => exact absurd rfl hlink
          | false =>
            rw [soleAnchor?_other hlink hwrapper, soleAnchor?_other hlink (hcongr ▸ hwrapper)]
      | @other tag attributes revised children below _ hspan hlink =>
        have hnot (attributes : Attributes) (children : List Node) :
            isLinkWrapper tag attributes children = false :=
          Bool.eq_false_iff.mpr fun hwrapper => hspan (isLinkWrapper_iff.mp hwrapper).1
        rw [soleAnchor?_other hlink (hnot _ _), soleAnchor?_other hlink (hnot _ _)]

/-- Trees that are alike stand for the same medium. -/
theorem embedUrl?_congr (h : Alike n m) : embedUrl? n = embedUrl? m := by
  cases h with
  | root => rfl
  | leaf => rfl
  | element hbelow => rw [embedUrl?_element, embedUrl?_element, bind_soleAnchor?_congr hbelow]
  | other hparagraph _ _ =>
    rw [embedUrl?_element, embedUrl?_element, if_neg hparagraph, if_neg hparagraph]

/-! ### Passes that keep what makes a bare link -/

section Visit

variable {σ : Type} {select : Element → Bool} {f : σ → Element → σ × Revision}

mutual

/-- A visitor of elements that play no part in bare links makes a tree that is alike. -/
theorem alike_visit (hselect : ∀ e, select e = true → e.tag ≠ "p" ∧ e.tag ≠ "span" ∧ e.tag ≠ "a")
    (hadded : ∀ s e, (f s e).2.added = []) (htag : ∀ s e, (f s e).2.tag = e.tag) (s : σ) :
    ∀ n : Node, Alike n (n.visit select f s).2
  | .root children => .root
  | .element tag attributes children => by
    cases h : select ⟨tag, attributes, children⟩ with
    | true =>
      rw [Node.visit_element_of_selected select f h (hadded _ _), htag]
      obtain ⟨hparagraph, hspan, hlink⟩ := hselect _ h
      exact .other hparagraph hspan hlink
    | false =>
      rw [Node.visit_element_of_not_selected select f h]
      exact .element (forall₂_alike_visitAll hselect hadded htag s children)
  | .leaf kind value => .leaf

theorem forall₂_alike_visitAll
    (hselect : ∀ e, select e = true → e.tag ≠ "p" ∧ e.tag ≠ "span" ∧ e.tag ≠ "a")
    (hadded : ∀ s e, (f s e).2.added = []) (htag : ∀ s e, (f s e).2.tag = e.tag) (s : σ) :
    ∀ ns : List Node, List.Forall₂ Alike ns (Node.visitAll select f s ns).2
  | [] => .nil
  | n :: rest =>
    .cons (alike_visit hselect hadded htag s n) (forall₂_alike_visitAll hselect hadded htag _ rest)

end

end Visit

/-- Neither a paragraph nor a link nor the element around one is a heading. -/
theorem not_paragraph_of_isHeading {e : Element} (h : e.isHeading = true) :
    e.tag ≠ "p" ∧ e.tag ≠ "span" ∧ e.tag ≠ "a" := by
  refine ⟨?_, ?_, ?_⟩
  all_goals
    intro htag
    rw [Element.isHeading, htag] at h
    revert h
    decide

/-- Giving ids changes headings only. -/
theorem alike_visit_assignHeadingId (s : Text.Slugger × List Node.HeadingEntry) (n : Node) :
    Alike n (n.visit Element.isHeading Node.assignHeadingId s).2 :=
  alike_visit (fun _ he => not_paragraph_of_isHeading he) Node.added_assignHeadingId
    (fun _ _ => Node.tag_assignHeadingId) s n

/-- Labels are given to preformatted text and to code only. -/
theorem alike_tagCodeLanguages (n : Node) : Alike n n.tagCodeLanguages := by
  refine alike_visit (fun e he => ?_) (fun _ _ => rfl) (fun _ _ => rfl) () n
  rcases Element.tag_of_isPre_or_isCode he with htag | htag
  · rw [htag]
    decide
  · rw [htag]
    decide

/-- Linking headings changes the children of headings only. -/
theorem alike_autolinkHeadings (n : Node) : Alike n n.autolinkHeadings := by
  induction n using Node.inductionOn with
  | root children ih =>
    rw [Node.autolinkHeadings_root]
    exact .root
  | element tag attributes children ih =>
    cases h : Node.autolinkTarget? tag attributes children with
    | some href =>
      obtain ⟨hparagraph, hspan, hlink⟩ :=
        not_paragraph_of_isHeading (e := ⟨tag, attributes, children⟩)
          (Node.isSome_headingLevel?_of_autolinkTarget? h)
      rw [Node.autolinkHeadings_of_some h]
      exact .other hparagraph hspan hlink
    | none =>
      rw [Node.autolinkHeadings_of_none h]
      exact .element (List.forall₂_map_right_iff.mpr (List.forall₂_same.mpr ih))
  | leaf kind value => exact .leaf

/-! ### Texts -/

theorem textContent_of_bareAddress? {link : Element} (h : bareAddress? link = some url) :
    link.textContent = url := by
  obtain ⟨tag, attributes, children⟩ := link
  simp only [bareAddress?, Option.bind_eq_bind, Option.bind_eq_some_iff] at h
  obtain ⟨href, -, h⟩ := h
  split at h
  · split at h
    · rename_i hvalue
      obtain rfl := Option.some.inj h
      rw [hvalue]
      exact String.append_empty
    · cases h
  · cases h

theorem toNode_of_anchor? {link : Element} (h : n.anchor? = some link) : n = link.toNode := by
  cases n with
  | element tag attributes children =>
    obtain ⟨hlink, -⟩ := Option.filter_eq_some_iff.mp h
    obtain rfl := Option.some.inj hlink
    rfl
  | root children => cases h
  | leaf kind value => cases h

/-- A sole link has all of the text, with and without an element around it. -/
theorem textContentAll_of_soleAnchor? {link : Element} (h : soleAnchor? children = some link) :
    Node.textContentAll children = link.textContent := by
  have hself (n : Node) (h : n.anchor? = some link) :
      Node.textContentAll [n] = link.textContent := by
    rw [toNode_of_anchor? h]
    exact Node.textContentAll_singleton _
  rcases children with _ | ⟨only, _ | ⟨second, rest⟩⟩
  · cases h
  · rcases Option.or_eq_some_iff.mp h with hlink | ⟨-, hspan⟩
    · exact hself only hlink
    · cases only with
      | element tag attributes inner =>
        change (if _ then _ else _) = _ at hspan
        split at hspan
        · rw [Node.textContentAll_singleton, Node.textContent]
          rcases inner with _ | ⟨sole, _ | ⟨second, rest⟩⟩
          · cases hspan
          · exact hself sole hspan
          · cases hspan
        · cases hspan
      | root inner => cases hspan
      | leaf kind value => cases hspan
  · cases h

/-- The text of a bare link is its address. -/
theorem textContent_of_embedUrl? (h : embedUrl? n = some url) : n.textContent = url := by
  cases n with
  | element tag attributes children =>
    rw [embedUrl?_element] at h
    split at h
    · obtain ⟨link, hlink, haddress⟩ := Option.bind_eq_some_iff.mp h
      rw [Node.textContent, textContentAll_of_soleAnchor? hlink,
        textContent_of_bareAddress? haddress]
    · cases h
  | root children => cases h
  | leaf kind value => cases h

/-- The text of a card: what the markup of the medium says, the name of the provider or the address,
and the title. -/
def cardText (parser : MarkupParser) (url : String) (metadata : EmbedMetadata) : String :=
  Node.textContentAll (cardBody parser metadata) ++
    (if isLinkedCard metadata then metadata.providerName.getD url else url) ++
    metadata.title.getD ""

theorem textContent_citation (url : String) (metadata : EmbedMetadata) :
    (citation url metadata).textContent =
      if isLinkedCard metadata then metadata.providerName.getD url else url := by
  unfold citation
  split
  · exact Node.textContentAll_singleton _
  · exact (Node.textContentAll_singleton _).trans (Node.textContentAll_singleton _)

theorem textContentAll_titleLine (metadata : EmbedMetadata) :
    Node.textContentAll (titleLine metadata) = metadata.title.getD "" := by
  unfold titleLine
  split
  · rename_i title htitle
    rw [htitle]
    split
    · rename_i hempty
      rw [String.isEmpty_iff.mp hempty]
      rfl
    · exact (Node.textContentAll_singleton _).trans (Node.textContentAll_singleton _)
  · rename_i htitle
    rw [htitle]
    rfl

/-- A preview image has no text. -/
theorem textContentAll_cover (metadata : EmbedMetadata) :
    Node.textContentAll (cover metadata) = "" := by
  unfold cover
  split
  · exact Node.textContentAll_singleton _
  · rfl

/-- The markup of the medium comes before the source, whether it stands in the caption or above. -/
theorem textContent_figure (url : String) (metadata : EmbedMetadata) (body : List Node) :
    (figure url metadata body).textContent =
      Node.textContentAll body ++
        (if isLinkedCard metadata then metadata.providerName.getD url else url) ++
        metadata.title.getD "" := by
  unfold figure
  dsimp only
  rw [Node.textContent, Node.textContentAll_append, Node.textContentAll_append,
    textContentAll_cover, Node.textContentAll_singleton, Node.textContent,
    Node.textContentAll_append, Node.textContentAll_append, Node.textContentAll_singleton,
    textContent_citation, textContentAll_titleLine, String.empty_append]
  split
  · rw [Node.textContentAll, String.empty_append]
  · rw [Node.textContentAll, String.empty_append, String.append_assoc]

/-- A card says what the medium says, whether it is a link as a whole or not. -/
theorem textContent_buildCard (parser : MarkupParser) (url : String) (metadata : EmbedMetadata) :
    (buildCard parser url metadata).textContent = cardText parser url metadata := by
  have hfigure := textContent_figure url metadata (cardBody parser metadata)
  unfold buildCard
  split
  · exact (Node.textContentAll_singleton _).trans hfigure
  · exact hfigure

end Manuscript.Embed
