import Manuscript.Markup.Html
import Manuscript.Proofs.Document.CodeBlocks
import Manuscript.Proofs.Document.Formulas
import Manuscript.Proofs.Document.Paragraphs
import Manuscript.Proofs.Embed.Candidates
import Manuscript.Render.Static

/-!
# The text of an excerpt

An excerpt is the first paragraph on its own, after all stages of static output. Links are put into
elements of their own, headings get ids and links, and code gets labels, all of which keeps the text.
Media are looked up too, so an excerpt whose paragraph is a bare link may become a card. A card has
the text of the paragraph only if it says nothing but the address.

## Main definitions

* `Element.IsPlain` — a paragraph without formulas and preformatted text
* `Node.leadText` — the text of the first paragraph
* `Renderer.medium?`, `Renderer.shownText` — the medium that is shown in the place of a node, and the
  text that is shown for it

## Main results

* `exists_decorate`, `exists_assignHeadingIds` — single stages keep the text of plain content
* `exists_finishStatic` — all stages before media are looked up do
* `shownText_eq_iff` — when a node is shown with its own text
* `snd_outputOf` — the text of an excerpt
* `outputOf_eq_leadText_iff` — when it is the text of the first paragraph
-/

namespace Manuscript

open Embed (embedUrl? embedUrl?_congr cardText)

/-- A paragraph holds neither the placeholder of a formula nor preformatted text. -/
def Element.IsPlain (p : Element) : Prop :=
  ∀ e ∈ Node.elementsAll p.children,
    mathSource? e.tag e.attributes e.children = none ∧ e.isPre = false

/-- The text of the first paragraph of a document, or nothing if there is none. -/
def Node.leadText (n : Node) : String :=
  ((n.elements.find? Element.isParagraph).map Element.textContent).getD ""

namespace Renderer

variable {σ : Type} (r : Renderer σ) (c : RenderConfig) (s : σ)

/-- The fetcher that is asked for media, if they are looked up at all. -/
def mediaFetcher? : Option (Fetcher σ) := if c.parseEmbeds then r.fetcher else none

/-- The medium that is shown in the place of a node: media are looked up, the node stands for one,
and metadata is found for its address. -/
def medium? (n : Node) : Option (String × EmbedMetadata) := do
  let fetch ← r.mediaFetcher? c
  let url ← embedUrl? n
  match (fetch s url c.fetchOptions).2 with
  | .ok (some metadata) => some (url, metadata)
  | _ => none

/-- The text that is shown for a node: that of the card that takes its place, or else its own. -/
def shownText (n : Node) : String :=
  match r.medium? c s n with
  | some (url, metadata) => cardText r.parser url metadata
  | none => n.textContent

variable {n : Node}

/-! ### Stages -/

/-- Linking headings and highlighting code keep the text of a tree without preformatted text, and
what it stands for. -/
theorem exists_decorate (h : "pre" ∉ n.tags) :
    ∃ m, (r.decorate c (.root [n])).2 = .root [m] ∧ m.leaves = n.leaves ∧
      embedUrl? m = embedUrl? n := by
  -- the tree that is highlighted, with its headings linked if that is wanted
  obtain ⟨linked, hlinked, htags, hleaves, hurl⟩ : ∃ linked,
      (if c.headingAutolinks then (Node.root [n]).autolinkHeadings else .root [n]) =
          .root [linked] ∧
        "pre" ∉ linked.tags ∧ linked.leaves = n.leaves ∧ embedUrl? linked = embedUrl? n := by
    split
    · refine ⟨n.autolinkHeadings, Node.autolinkHeadings_root, fun hmem => ?_,
        n.leaves_autolinkHeadings, (embedUrl?_congr (Embed.alike_autolinkHeadings n)).symm⟩
      exact h ((Node.eq_or_mem_of_mem_tags_autolinkHeadings hmem).resolve_left (by decide))
    · exact ⟨n, rfl, h, rfl, rfl⟩
  have hplain : "pre" ∉ (Node.root [linked]).tags := by
    rw [Node.tags_root, Node.tagsAll_singleton]
    exact htags
  have hlabelled : (Node.root [linked]).tagCodeLanguages = .root [linked.tagCodeLanguages] :=
    Node.mapAttributes_root ..
  refine ⟨linked.tagCodeLanguages, ?_, ?_, ?_⟩
  · simp only [decorate, hlinked, Node.highlightCodeBlocks_eq_self hplain, hlabelled]
  · exact (Node.leaves_mapAttributes _ _ linked).trans hleaves
  · exact (embedUrl?_congr (Embed.alike_tagCodeLanguages linked)).symm.trans hurl

/-- Giving ids keeps the text of a tree, its tags, and what it stands for. -/
theorem exists_assignHeadingIds (n : Node) :
    ∃ m, (Node.root [n]).assignHeadingIds.1 = .root [m] ∧ m.leaves = n.leaves ∧
      m.tags = n.tags ∧ embedUrl? m = embedUrl? n := by
  refine ⟨_, rfl, ?_, ?_, ?_⟩
  · exact Node.leaves_visit _ Node.added_assignHeadingId _ n
  · exact Node.tags_visit _ Node.added_assignHeadingId (fun _ _ => Node.tag_assignHeadingId) _ n
  · exact (embedUrl?_congr (Embed.alike_visit_assignHeadingId _ n)).symm

/-- All stages before media are looked up keep the text of a tree without formulas and preformatted
text, and what it stands for. -/
theorem exists_finishStatic
    (h : ∀ e ∈ n.elements,
      mathSource? e.tag e.attributes e.children = none ∧ e.isPre = false) :
    ∃ m, (r.finishStatic c s (.root [n])).2 = (r.lookUpMedia c s (.root [m])).2 ∧
      m.leaves = n.leaves ∧ embedUrl? m = embedUrl? n := by
  have hmath : (r.renderFormulas (.root [n])).2 = .root [n] := by
    have hnone : ∀ e ∈ (Node.root [n]).elements,
        mathSource? e.tag e.attributes e.children = none := by
      intro e he
      obtain ⟨only, honly, he⟩ := Node.mem_elementsAll.mp he
      rw [List.mem_singleton.mp honly] at he
      exact (h e he).1
    rw [renderFormulas, Node.renderMath_eq_self _ hnone]
  have hpre : "pre" ∉ n.wrapLinks.tags := by
    intro hmem
    obtain ⟨e, he, htag⟩ :=
      List.mem_map.mp ((Node.eq_or_mem_of_mem_tags_wrapLinks hmem).resolve_left (by decide))
    exact absurd htag (of_decide_eq_false (h e he).2)
  obtain ⟨assigned, hassigned, haleaves, hatags, haurl⟩ := exists_assignHeadingIds n.wrapLinks
  rw [← hatags] at hpre
  obtain ⟨m, hdecorated, hleaves, hurl⟩ := r.exists_decorate c hpre
  refine ⟨m, ?_, ?_, ?_⟩
  · simp only [finishStatic, hmath, Node.wrapLinks_root, List.map_singleton, hassigned, hdecorated]
  · rw [hleaves, haleaves, n.leaves_wrapLinks]
  · rw [hurl, haurl, Embed.embedUrl?_wrapLinks]

/-- Looking up the medium of a node gives what shows the text. -/
theorem textContent_resolveNode (fetch : Fetcher σ) (hfetch : r.fetcher = some fetch)
    (hembeds : c.parseEmbeds = true) (log : Log) (m : Node) :
    (Embed.resolveNode fetch r.parser c.fetchOptions (s, log) m).2.textContent =
      r.shownText c s m := by
  unfold Embed.resolveNode shownText medium? mediaFetcher?
  rw [if_pos hembeds, hfetch]
  cases hurl : embedUrl? m with
  | none => rfl
  | some url =>
    dsimp only
    rcases hanswer : (fetch s url c.fetchOptions).2 with e | _ | metadata
    · simp [hanswer]
    · simp [hanswer]
    · simp [hanswer, Embed.textContent_buildCard]

/-- A document of one node shows the text of the node, or that of the card that takes its place. -/
theorem textContent_lookUpMedia (m : Node) :
    (r.lookUpMedia c s (.root [m])).2.textContent = r.shownText c s m := by
  have hself : (Node.root [m]).textContent = m.textContent := Node.textContentAll_singleton m
  cases hembeds : c.parseEmbeds with
  | false => simp [lookUpMedia, shownText, medium?, mediaFetcher?, hembeds, hself]
  | true =>
    cases hfetch : r.fetcher with
    | none => simp [lookUpMedia, shownText, medium?, mediaFetcher?, hembeds, hfetch, hself]
    | some fetch =>
      rw [← r.textContent_resolveNode c s fetch hfetch hembeds []]
      simp only [lookUpMedia, hembeds, hfetch, Embed.resolveEmbeds, mapWithState]
      exact Node.textContentAll_singleton _

/-! ### Excerpts -/

/-- What is shown for a node depends on its text and on what the node stands for. -/
theorem shownText_congr {m : Node} (htext : m.textContent = n.textContent)
    (hurl : embedUrl? m = embedUrl? n) : r.shownText c s m = r.shownText c s n := by
  unfold shownText medium?
  rw [hurl, htext]

/-- A node in whose place a medium is shown is a bare link to it. -/
theorem textContent_of_medium? {m : Node} {url : String} {metadata : EmbedMetadata}
    (h : r.medium? c s m = some (url, metadata)) : m.textContent = url := by
  simp only [medium?, Option.bind_eq_bind, Option.bind_eq_some_iff] at h
  obtain ⟨fetch, -, address, haddress, h⟩ := h
  split at h
  · obtain ⟨rfl, -⟩ := Prod.mk.inj (Option.some.inj h)
    exact Embed.textContent_of_embedUrl? haddress
  · cases h

/-- The text of a node is shown exactly if no card says anything but the address in its place. -/
theorem shownText_eq_iff (m : Node) :
    r.shownText c s m = m.textContent ↔
      ∀ url metadata, r.medium? c s m = some (url, metadata) →
        cardText r.parser url metadata = url := by
  cases hmedium : r.medium? c s m with
  | none => simp [shownText, hmedium]
  | some medium =>
    obtain ⟨url, metadata⟩ := medium
    have haddress : m.textContent = url := r.textContent_of_medium? c s hmedium
    simp only [shownText, hmedium, haddress]
    constructor
    · intro h other found heq
      obtain ⟨rfl, rfl⟩ := Prod.mk.inj (Option.some.inj heq)
      exact h
    · intro h
      exact h url metadata rfl

/-- An excerpt of a document whose first paragraph is plain is what is shown for the paragraph. -/
theorem snd_outputOf {p : Element} (hexcerpt : c.excerpt = true)
    (hfirst : n.elements.find? Element.isParagraph = some p) (hplain : p.IsPlain) :
    (r.outputOf c s n).2 = r.shownText c s p := by
  have hparagraph : p.isParagraph = true := List.find?_some hfirst
  have htag : p.tag = "p" := of_decide_eq_true hparagraph
  -- the lead differs from the paragraph in its class only
  have hlead : ∀ e ∈ (Node.element p.tag (p.attributes.addClass "lead") p.children).elements,
      mathSource? e.tag e.attributes e.children = none ∧ e.isPre = false := by
    refine List.forall_mem_cons.mpr ⟨?_, hplain⟩
    simp [mathSource?, Element.isPre, htag]
  obtain ⟨m, hfinished, hleaves, hurl⟩ := r.exists_finishStatic c s hlead
  have htext : m.textContent = (p : Node).textContent := by
    rw [Node.textContent_eq, hleaves, ← Node.textContent_eq]
    rfl
  have hsame : embedUrl? m = embedUrl? p := by
    rw [hurl, Element.toNode, Embed.embedUrl?_element, Embed.embedUrl?_element]
  calc
    (r.outputOf c s n).2 = (r.finishStatic c s n.excerptTree.markLead).2.textContent := by
      rw [outputOf, if_pos hexcerpt]
      rfl
    _ = (r.lookUpMedia c s (.root [m])).2.textContent := by
      rw [Node.markLead_excerptTree_of_some hfirst, hfinished]
    _ = r.shownText c s m := r.textContent_lookUpMedia c s m
    _ = r.shownText c s p := r.shownText_congr c s htext hsame

/-- An excerpt of a document without paragraphs is empty. -/
theorem snd_outputOf_of_none (hexcerpt : c.excerpt = true)
    (hfirst : n.elements.find? Element.isParagraph = none) : (r.outputOf c s n).2 = "" := by
  have hdecorated : (r.decorate c (.root [])).2 = .root [] := by
    unfold decorate
    cases c.headingAutolinks <;> rfl
  have hmedia : (r.lookUpMedia c s (.root [])).2 = .root [] := by
    unfold lookUpMedia
    cases c.parseEmbeds with
    | false => rfl
    | true => cases r.fetcher <;> rfl
  have hfinished : (r.finishStatic c s (.root [])).2 = .root [] := by
    have hids : (Node.root []).wrapLinks.assignHeadingIds.1 = .root [] := rfl
    have hmath : (r.renderFormulas (.root [])).2 = .root [] := rfl
    simp only [finishStatic, hmath, hids, hdecorated, hmedia]
  rw [outputOf, if_pos hexcerpt]
  simp only [excerptOf, Node.markLead_excerptTree_of_none hfirst, hfinished]
  rfl

/-- An excerpt is the text of the first paragraph, or empty if there is none, whatever the renderer
and the other settings are, exactly if each card that is shown in the place of the paragraph says
nothing but its address. -/
theorem outputOf_eq_leadText_iff (hexcerpt : c.excerpt = true)
    (hplain : ∀ p, n.elements.find? Element.isParagraph = some p → p.IsPlain) :
    (r.outputOf c s n).2 = n.leadText ↔
      ∀ p url metadata, n.elements.find? Element.isParagraph = some p →
        r.medium? c s p = some (url, metadata) → cardText r.parser url metadata = url := by
  cases hfirst : n.elements.find? Element.isParagraph with
  | none =>
    have htext : n.leadText = "" := by rw [Node.leadText, hfirst]; rfl
    rw [r.snd_outputOf_of_none c s hexcerpt hfirst, htext]
    simp
  | some p =>
    have htext : n.leadText = (p : Node).textContent := by rw [Node.leadText, hfirst]; rfl
    rw [r.snd_outputOf c s hexcerpt hfirst (hplain p hfirst), htext, shownText_eq_iff]
    constructor
    · intro h q url metadata hq
      obtain rfl := Option.some.inj hq
      exact h url metadata
    · intro h url metadata
      exact h p url metadata rfl

/-- A renderer that reads HTML and finds a photo with a title at every address. -/
def photoRenderer : Renderer Unit where
  parser := .html
  math := fun tex _ => .error (.math tex)
  highlighter := plainTextHighlighter
  fetcher := some fun s _ _ => (s, .ok (some { kind := .photo, title := some "T" }))
  highlightRounds := 1

/-- A heading and two paragraphs, of which the first holds a heading and a link. -/
def linkedNotes : Node :=
  .root [
    .element "h1" ∅ [.text "Title"],
    .element "p" ∅ [
      .element "h2" ∅ [.text "Hint: "],
      .text "see ",
      .element "a" (Attributes.ofList [("href", .text "/notes")]) [.text "/notes"]],
    .element "p" ∅ [.text "Second."]]

/-- The excerpt of the linked notes is their first paragraph, though media are looked up. -/
theorem outputOf_eq_leadText_linkedNotes :
    (∀ p, linkedNotes.elements.find? Element.isParagraph = some p → p.IsPlain) ∧
      (photoRenderer.outputOf { excerpt := true, parseEmbeds := true } () linkedNotes).2 =
        linkedNotes.leadText ∧
      linkedNotes.leadText = "Hint: see /notes" := by
  have hplain : ∀ p, linkedNotes.elements.find? Element.isParagraph = some p → p.IsPlain := by
    intro p hp
    obtain rfl := Option.some.inj hp
    unfold Element.IsPlain
    decide +kernel
  refine ⟨hplain, ?_, by decide +kernel⟩
  refine (photoRenderer.outputOf_eq_leadText_iff _ () rfl hplain).mpr ?_
  intro p url metadata hp hmedium
  obtain rfl := Option.some.inj hp
  cases hmedium

/-- A paragraph that is a bare link. -/
def barePhoto : Node :=
  .root [
    .element "p" ∅ [
      .element "a" (Attributes.ofList [("href", .text "https://x.example/photo")])
        [.text "https://x.example/photo"]]]

/-- The excerpt of a bare link to a photo has the title of the photo behind the address, which is all
of the text of its paragraph. -/
theorem outputOf_ne_leadText_barePhoto :
    (∀ p, barePhoto.elements.find? Element.isParagraph = some p → p.IsPlain) ∧
      (photoRenderer.outputOf { excerpt := true, parseEmbeds := true } () barePhoto).2 =
        "https://x.example/photoT" ∧
      (photoRenderer.outputOf { excerpt := true, parseEmbeds := true } () barePhoto).2 ≠
        barePhoto.leadText := by
  refine ⟨?_, by decide +kernel, by decide +kernel⟩
  intro p hp
  obtain rfl := Option.some.inj hp
  unfold Element.IsPlain
  decide +kernel

end Renderer

end Manuscript
