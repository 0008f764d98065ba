import Manuscript.Markup.Html
import Manuscript.Proofs.Document.CodeBlocks
import Manuscript.Proofs.Document.Decoration
import Manuscript.Proofs.Document.HeadingLevels
import Manuscript.Render.Interactive

/-!
# The table of contents and the final document

The headings are listed when they get their ids, and the stages behind that rewrite the tree: the
content of headings is put into links, links are put into elements of their own, code is replaced by
highlighted nodes, and attributes are set. The list still describes the headings of the final tree,
in order, as long as no heading stands in preformatted text or holds some, since highlighting
replaces what stands there.

## Main definitions

* `Node.tableOfContents` — the entries that describe the headings of a tree
* `Node.HeadingsApart` — no heading stands in preformatted text or holds some

## Main results

* `tableOfContents_element_congr` — what the entries of an element depend on
* `tableOfContents_autolinkHeadings`, `tableOfContents_mapAttributes`,
  `tableOfContents_wrapLinks`, `tableOfContents_highlightWith` — one stage each
* `Renderer.tableOfContents_finishInteractive` — all stages
-/

namespace Manuscript

namespace Node

/-- The entries that describe the headings of a tree, in pre-order; a heading without an id has
none. -/
def tableOfContents (n : Node) : List (Option HeadingEntry) :=
  n.headings.map HeadingEntry.ofElement?

/-- The entries that describe the headings of trees that stand side by side. -/
def tableOfContentsAll (ns : List Node) : List (Option HeadingEntry) :=
  (headingsAll ns).map HeadingEntry.ofElement?

/-- No heading stands in preformatted text, at any depth, and none holds some. -/
def HeadingsApart (n : Node) : Prop :=
  ∀ e ∈ n.elements, ∀ below ∈ elementsAll e.children,
    (e.isHeading = true → below.isPre = false) ∧ (e.isPre = true → below.isHeading = false)

variable {tag : String} {attributes : Attributes} {children ns nodes : List Node}

/-! ### Entries -/

theorem tableOfContents_root : (root children).tableOfContents = tableOfContentsAll children := rfl

theorem tableOfContentsAll_cons (n : Node) (rest : List Node) :
    tableOfContentsAll (n :: rest) = n.tableOfContents ++ tableOfContentsAll rest := by
  simp [tableOfContentsAll, tableOfContents, headings, headingsAll, elementsAll]

theorem tableOfContentsAll_singleton (n : Node) : tableOfContentsAll [n] = n.tableOfContents := by
  rw [tableOfContentsAll_cons]
  exact List.append_nil _

theorem tableOfContents_of_heading (h : (headingLevel? tag).isSome = true) :
    (element tag attributes children).tableOfContents =
      HeadingEntry.ofElement? ⟨tag, attributes, children⟩ :: tableOfContentsAll children := by
  simp [tableOfContents, tableOfContentsAll, headings, headingsAll, elements, isHeading_mk, h]

theorem tableOfContents_of_not_heading (h : headingLevel? tag = none) :
    (element tag attributes children).tableOfContents = tableOfContentsAll children := by
  simp [tableOfContents, tableOfContentsAll, headings, headingsAll, elements, isHeading_mk, h]

/-- The entries of an element depend on its tag, its id if it is a heading, its text and the entries
of its children. -/
theorem tableOfContents_element_congr {attributes' : Attributes} {children' : List Node}
    (hid : (headingLevel? tag).isSome = true → attributes'.get? "id" = attributes.get? "id")
    (htext : textContentAll children' = textContentAll children)
    (hbelow : tableOfContentsAll children' = tableOfContentsAll children) :
    (element tag attributes' children').tableOfContents =
      (element tag attributes children).tableOfContents := by
  cases h : headingLevel? tag with
  | some level =>
    have hsome : (headingLevel? tag).isSome = true := Option.isSome_of_eq_some h
    have hentry : HeadingEntry.ofElement? ⟨tag, attributes', children'⟩ =
        HeadingEntry.ofElement? ⟨tag, attributes, children⟩ := by
      simp only [HeadingEntry.ofElement?, Element.attrString?, Element.attr?, Element.textContent,
        hid hsome, htext]
    rw [tableOfContents_of_heading hsome, tableOfContents_of_heading hsome, hentry, hbelow]
  | none => rw [tableOfContents_of_not_heading h, tableOfContents_of_not_heading h, hbelow]

theorem tableOfContentsAll_map {g : Node → Node}
    (h : ∀ n ∈ ns, (g n).tableOfContents = n.tableOfContents) :
    tableOfContentsAll (ns.map g) = tableOfContentsAll ns := by
  induction ns with
  | nil => rfl
  | cons n rest ih =>
    obtain ⟨hfirst, hrest⟩ := List.forall_mem_cons.mp h
    rw [List.map_cons, tableOfContentsAll_cons, tableOfContentsAll_cons, hfirst, ih hrest]

/-! ### Stages that keep all content -/

/-- Setting attributes of elements that are no headings keeps the entries. -/
theorem tableOfContents_mapAttributes {select : Element → Bool} {f : Element → Attributes}
    (hselect : ∀ e, select e = true → e.isHeading = false) (n : Node) :
    (n.mapAttributes select f).tableOfContents = n.tableOfContents := by
  induction n using inductionOn with
  | root children ih =>
    rw [mapAttributes_root, tableOfContents_root, tableOfContents_root, tableOfContentsAll_map ih]
  | element tag attributes children ih =>
    rw [mapAttributes_element]
    refine tableOfContents_element_congr (fun hheading => ?_)
      (textContentAll_map fun child _ => leaves_mapAttributes select f child)
      (tableOfContentsAll_map ih)
    have hnot : select ⟨tag, attributes, children⟩ = false := by
      refine Bool.eq_false_iff.mpr fun hselected => ?_
      have hcontra := hselect _ hselected
      rw [isHeading_mk, hheading] at hcontra
      cases hcontra
    rw [hnot]
    rfl
  | leaf kind value => rfl

/-- A link is no heading, so a heading linked to itself keeps its entry, and those inside it. -/
theorem tableOfContents_autolinkHeadings (n : Node) :
    n.autolinkHeadings.tableOfContents = n.tableOfContents := by
  have htext (children : List Node) :
      textContentAll (children.map autolinkHeadings) = textContentAll children :=
    textContentAll_map fun child _ => child.leaves_autolinkHeadings
  have hlink : headingLevel? "a" = none := by decide
  induction n using inductionOn with
  | root children ih =>
    rw [autolinkHeadings_root, tableOfContents_root, tableOfContents_root,
      tableOfContentsAll_map ih]
  | element tag attributes children ih =>
    cases h : autolinkTarget? tag attributes children with
    | some href =>
      rw [autolinkHeadings_of_some h]
      refine tableOfContents_element_congr (fun _ => rfl) ?_ ?_
      · rw [textContentAll_singleton, textContent, htext]
      · rw [tableOfContentsAll_singleton, tableOfContents_of_not_heading hlink,
          tableOfContentsAll_map ih]
    | none =>
      rw [autolinkHeadings_of_none h]
      exact tableOfContents_element_congr (fun _ => rfl) (htext children)
        (tableOfContentsAll_map ih)
  | leaf kind value => rfl

/-- Neither links nor the elements around them are headings, so wrapping links keeps the
entries. -/
theorem tableOfContents_wrapLinks (n : Node) :
    n.wrapLinks.tableOfContents = n.tableOfContents := by
  have hlink : headingLevel? "a" = none := by decide
  have hspan : headingLevel? "span" = none := by decide
  induction n using linkInduction with
  | root children ih =>
    rw [wrapLinks_root, tableOfContents_root, tableOfContents_root, tableOfContentsAll_map ih]
  | link attributes children ih =>
    rw [wrapLinks_link, tableOfContents_of_not_heading hspan, tableOfContentsAll_singleton,
      tableOfContents_of_not_heading hlink, tableOfContents_of_not_heading hlink,
      tableOfContentsAll_map ih]
  | wrapper attributes linkAttributes below hclass ih =>
    rw [wrapLinks_wrapper hclass, tableOfContents_of_not_heading hspan,
      tableOfContents_of_not_heading hspan, tableOfContentsAll_singleton,
      tableOfContentsAll_singleton, tableOfContents_of_not_heading hlink,
      tableOfContents_of_not_heading hlink, tableOfContentsAll_map ih]
  | other tag attributes children htag hother ih =>
    rw [wrapLinks_other htag hother]
    exact tableOfContents_element_congr (fun _ => rfl)
      (textContentAll_map fun child _ => child.leaves_wrapLinks) (tableOfContentsAll_map ih)
  | leaf kind value => rfl

/-! ### Headings and preformatted text -/

theorem headingsApart_root :
    (root children).HeadingsApart ↔ ∀ child ∈ children, child.HeadingsApart := by
  constructor
  · intro h child hchild e he
    exact h e (mem_elementsAll.mpr ⟨child, hchild, he⟩)
  · intro h e he
    obtain ⟨child, hchild, he⟩ := mem_elementsAll.mp he
    exact h child hchild e he

/-- An element keeps headings and preformatted text apart if its children do, it is no heading with
preformatted text in it, and it is no preformatted text with a heading in it. -/
theorem headingsApart_element :
    (element tag attributes children).HeadingsApart ↔
      ((headingLevel? tag).isSome = true → "pre" ∉ tagsAll children) ∧
        (tag = "pre" → ∀ below ∈ tagsAll children, headingLevel? below = none) ∧
        ∀ child ∈ children, child.HeadingsApart := by
  constructor
  · intro h
    have hself := h _ (List.mem_cons_self ..)
    refine ⟨fun hheading hpre => ?_, fun htag below hbelow => ?_, ?_⟩
    · obtain ⟨e, he, hpre⟩ := List.mem_map.mp hpre
      exact absurd hpre (of_decide_eq_false ((hself e he).1 hheading))
    · obtain ⟨e, he, rfl⟩ := List.mem_map.mp hbelow
      have hnot : e.isHeading = false := (hself e he).2 (decide_eq_true htag)
      exact Option.not_isSome_iff_eq_none.mp (Bool.eq_false_iff.mp hnot)
    · exact headingsApart_root.mp fun e he => h e (List.mem_cons_of_mem _ he)
  · rintro ⟨hheading, hpre, hchildren⟩ e he
    rcases List.mem_cons.mp he with rfl | he
    · intro below hbelow
      have htag : below.tag ∈ tagsAll children := List.mem_map_of_mem hbelow
      refine ⟨fun h => ?_, fun h => ?_⟩
      · refine decide_eq_false fun hbelowPre => hheading h ?_
        rw [← hbelowPre]
        exact htag
      · rw [Element.isHeading, hpre (of_decide_eq_true h) _ htag]
        rfl
    · exact headingsApart_root.mpr hchildren e he

/-- A visitor that renames nothing keeps headings and preformatted text apart. -/
theorem headingsApart_visit {σ : Type} {select : Element → Bool} {f : σ → Element → σ × Revision}
    (hadded : ∀ s e, (f s e).2.added = []) (htag : ∀ s e, (f s e).2.tag = e.tag) (s : σ)
    (n : Node) (h : n.HeadingsApart) : (n.visit select f s).2.HeadingsApart := by
  -- the children are visited one after the other, each with the state that the one before left
  have hall (ns : List Node) (s : σ)
      (hns : ∀ n ∈ ns, n.HeadingsApart ∧
        ∀ s, n.HeadingsApart → (n.visit select f s).2.HeadingsApart) :
      ∀ m ∈ (visitAll select f s ns).2, m.HeadingsApart := by
    induction ns generalizing s with
    | nil => exact fun m hm => absurd hm List.not_mem_nil
    | cons n rest ih =>
      obtain ⟨hfirst, hrest⟩ := List.forall_mem_cons.mp hns
      exact List.forall_mem_cons.mpr ⟨hfirst.2 s hfirst.1, ih _ hrest⟩
  induction n using inductionOn generalizing s with
  | root children ih =>
    have hchildren := headingsApart_root.mp h
    refine headingsApart_root.mpr (hall children s fun child hchild => ?_)
    exact ⟨hchildren child hchild, fun s => ih child hchild s⟩
  | element tag attributes children ih =>
    obtain ⟨hheading, hpre, hchildren⟩ := headingsApart_element.mp h
    have hbelow (s : σ) : ∀ m ∈ (visitAll select f s children).2, m.HeadingsApart :=
      hall children s fun child hchild => ⟨hchildren child hchild, fun s => ih child hchild s⟩
    cases hselected : select ⟨tag, attributes, children⟩ with
    | true =>
      rw [visit_element_of_selected _ _ hselected (hadded _ _), htag, headingsApart_element,
        tagsAll_visitAll select hadded htag]
      exact ⟨hheading, hpre, hbelow _⟩
    | false =>
      rw [visit_element_of_not_selected _ _ hselected, headingsApart_element,
        tagsAll_visitAll select hadded htag]
      exact ⟨hheading, hpre, hbelow _⟩
  | leaf kind value => exact h

/-- A link is neither a heading nor preformatted text. -/
theorem headingsApart_autolinkHeadings (n : Node) (h : n.HeadingsApart) :
    n.autolinkHeadings.HeadingsApart := by
  have hlink : headingLevel? "a" = none := by decide
  have htags {tag : String} {children : List Node}
      (hmem : tag ∈ tagsAll (children.map autolinkHeadings)) : tag = "a" ∨ tag ∈ tagsAll children :=
    eq_or_mem_of_mem_tagsAll_map (fun _ _ => eq_or_mem_of_mem_tags_autolinkHeadings) hmem
  induction n using inductionOn with
  | root children ih =>
    have hchildren := headingsApart_root.mp h
    rw [autolinkHeadings_root, headingsApart_root]
    exact List.forall_mem_map.mpr fun child hchild => ih child hchild (hchildren child hchild)
  | element tag attributes children ih =>
    obtain ⟨hheading, hpre, hchildren⟩ := headingsApart_element.mp h
    have hlinked : ∀ m ∈ children.map autolinkHeadings, m.HeadingsApart :=
      List.forall_mem_map.mpr fun child hchild => ih child hchild (hchildren child hchild)
    have hheading' (hsome : (headingLevel? tag).isSome = true) :
        "pre" ∉ tagsAll (children.map autolinkHeadings) := fun hmem =>
      hheading hsome ((htags hmem).resolve_left (by decide))
    have hpre' (htag : tag = "pre") :
        ∀ below ∈ tagsAll (children.map autolinkHeadings), headingLevel? below = none := by
      intro below hbelow
      rcases htags hbelow with rfl | hbelow
      · exact hlink
      · exact hpre htag below hbelow
    cases htarget : autolinkTarget? tag attributes children with
    | some href =>
      have hapart : (element "a" (Attributes.ofList [("href", .text href)])
          (children.map autolinkHeadings)).HeadingsApart := by
        refine headingsApart_element.mpr ⟨fun hsome => ?_, fun htag => ?_, hlinked⟩
        · rw [hlink] at hsome
          cases hsome
        · exact absurd htag (by decide)
      rw [autolinkHeadings_of_some htarget, headingsApart_element, tagsAll_singleton, tags_element]
      refine ⟨fun hsome hmem => ?_, fun htag => List.forall_mem_cons.mpr ⟨hlink, hpre' htag⟩,
        List.forall_mem_cons.mpr ⟨hapart, fun _ hm => absurd hm List.not_mem_nil⟩⟩
      rcases List.mem_cons.mp hmem with heq | hmem
      · exact absurd heq (by decide)
      · exact hheading' hsome hmem
    | none =>
      rw [autolinkHeadings_of_none htarget, headingsApart_element]
      exact ⟨hheading', hpre', hlinked⟩
  | leaf kind value => exact h

/-! ### Highlighting -/

theorem tableOfContentsAll_eq_nil (h : ∀ below ∈ tagsAll ns, headingLevel? below = none) :
    tableOfContentsAll ns = [] := by
  have hheadings : headingsAll ns = [] := by
    refine List.filter_eq_nil_iff.mpr fun e he => ?_
    rw [Element.isHeading, h e.tag (List.mem_map_of_mem he)]
    exact Bool.false_ne_true
  rw [tableOfContentsAll, hheadings, List.map_nil]

section Highlight

variable {highlighter : Highlighter} {parser : MarkupParser}
  {fresh : RequestTrace → List Node → RequestTrace × List Node}

/-- Trees side by side keep their entries if each of them does. -/
theorem tableOfContentsAll_highlightAllWith
    (h : ∀ n ∈ ns, ∀ t,
      (highlightWith highlighter.recording parser fresh t n).2.tableOfContents = n.tableOfContents)
    (t : RequestTrace) :
    tableOfContentsAll (highlightAllWith highlighter.recording parser fresh t ns).2 =
      tableOfContentsAll ns := by
  induction ns generalizing t with
  | nil => rfl
  | cons n rest ih =>
    obtain ⟨hfirst, hrest⟩ := List.forall_mem_cons.mp h
    simp only [highlightAllWith]
    rw [tableOfContentsAll_cons, tableOfContentsAll_cons, hfirst, ih hrest]

/-- Children without headings have none after their code took highlighted nodes without any. -/
theorem tableOfContentsAll_highlightAround
    (h : ∀ n ∈ ns, ∀ t,
      (highlightWith highlighter.recording parser fresh t n).2.tableOfContents = n.tableOfContents)
    (hns : tableOfContentsAll ns = []) (hfresh : ∀ t, fresh t nodes = (t, nodes))
    (hnodes : tableOfContentsAll nodes = []) (t : RequestTrace) :
    tableOfContentsAll (highlightAround highlighter.recording parser fresh nodes t ns).2 = [] := by
  have hcode : headingLevel? "code" = none := by decide
  induction ns generalizing t with
  | nil => rfl
  | cons n rest ih =>
    obtain ⟨hfirst, hrest⟩ := List.forall_mem_cons.mp h
    rw [tableOfContentsAll_cons, List.append_eq_nil_iff] at hns
    cases hn : n.hasTag "code" with
    | true =>
      obtain ⟨attributes, children, rfl⟩ := hasTag_eq_true_iff.mp hn
      rw [highlightAround_code, hfresh, tableOfContentsAll_cons,
        tableOfContents_of_not_heading hcode, hnodes,
        tableOfContentsAll_highlightAllWith hrest, hns.2, List.append_nil]
    | false =>
      rw [highlightAround_other hn, tableOfContentsAll_cons, hfirst, hns.1, ih hrest hns.2,
        List.append_nil]

/-- Highlighting keeps the entries: what it replaces stands in preformatted text, where there are no
headings before and none afterwards. -/
theorem tableOfContents_highlightWith
    (hnodes : ∀ nodes, HighlightsTo highlighter parser nodes →
      (∀ t, fresh t nodes = (t, nodes)) ∧ tableOfContentsAll nodes = [])
    (n : Node) (h : n.HeadingsApart) (t : RequestTrace) :
    (highlightWith highlighter.recording parser fresh t n).2.tableOfContents =
      n.tableOfContents := by
  have hpre : headingLevel? "pre" = none := by decide
  induction n using inductionOn generalizing t with
  | root children ih =>
    have hchildren := headingsApart_root.mp h
    rw [highlightWith]
    exact tableOfContentsAll_highlightAllWith
      (fun child hchild => ih child hchild (hchildren child hchild)) t
  | element tag attributes children ih =>
    obtain ⟨hheading, hbelow, hchildren⟩ := headingsApart_element.mp h
    have hkept : ∀ child ∈ children, ∀ t,
        (highlightWith highlighter.recording parser fresh t child).2.tableOfContents =
          child.tableOfContents :=
      fun child hchild => ih child hchild (hchildren child hchild)
    by_cases htag : tag = "pre"
    · subst htag
      rw [tableOfContents_of_not_heading hpre]
      cases hrequest : highlightRequest? children with
      | none =>
        rw [highlightWith_plain fun _ => hrequest, tableOfContents_of_not_heading hpre]
        exact tableOfContentsAll_highlightAllWith hkept t
      | some request =>
        obtain ⟨language, source⟩ := request
        cases hasked : (t.ask highlighter.recording parser language source).2 with
        | none =>
          rw [highlightWith_failed hrequest hasked, tableOfContents_of_not_heading hpre]
          exact tableOfContentsAll_highlightAllWith hkept _
        | some nodes =>
          obtain ⟨hfresh, hempty⟩ := hnodes nodes (HighlightTrace.highlightsTo_of_ask hasked)
          have hnone := tableOfContentsAll_eq_nil (hbelow rfl)
          rw [highlightWith_block hrequest hasked, tableOfContents_of_not_heading hpre, hnone]
          exact tableOfContentsAll_highlightAround hkept hnone hfresh hempty _
    · rw [highlightWith_plain fun h => absurd h htag]
      cases hlevel : headingLevel? tag with
      | some level =>
        -- a heading has no preformatted text in it, so its children stay
        have hself : ∀ child ∈ children, ∀ t,
            highlightWith highlighter.recording parser fresh t child = (t, child) := by
          intro child hchild t
          refine highlightWith_eq_self child (fun hmem => ?_) t
          exact hheading (Option.isSome_of_eq_some hlevel)
            (mem_tagsAll.mpr ⟨child, hchild, hmem⟩)
        rw [highlightAllWith_eq_self hself]
      | none =>
        rw [tableOfContents_of_not_heading hlevel, tableOfContents_of_not_heading hlevel]
        exact tableOfContentsAll_highlightAllWith hkept t
  | leaf kind value => rfl

end Highlight

end Node

/-! ### All stages -/

namespace Renderer

variable {σ : Type} (r : Renderer σ)

/-- Headings are linked and code is highlighted without a change to the entries. -/
theorem tableOfContents_decorate (c : RenderConfig) (n : Node)
    (hnodes : ∀ nodes, HighlightsTo r.highlighter r.parser nodes →
      ∀ e ∈ Node.elementsAll nodes, e.isHeading = false ∧ e.isPre = false)
    (hapart : n.HeadingsApart) : (r.decorate c n).2.tableOfContents = n.tableOfContents := by
  have hfresh (nodes : List Node) (hhighlights : HighlightsTo r.highlighter r.parser nodes) :
      (∀ t, Node.highlightAll r.highlighter.recording r.parser r.highlightRounds t nodes =
        (t, nodes)) ∧
        Node.tableOfContentsAll nodes = [] := by
    have helements := hnodes nodes hhighlights
    constructor
    · refine fun t => Node.highlightAll_eq_self (fun hmem => ?_) _
      obtain ⟨e, he, hpre⟩ := List.mem_map.mp hmem
      exact absurd hpre (of_decide_eq_false (helements e he).2)
    · refine Node.tableOfContentsAll_eq_nil fun tag htag => ?_
      obtain ⟨e, he, rfl⟩ := List.mem_map.mp htag
      exact Option.not_isSome_iff_eq_none.mp (Bool.eq_false_iff.mp (helements e he).1)
  have hlabelled (e : Element) (he : (e.isPre || e.isCode) = true) : e.isHeading = false := by
    rw [Element.isHeading]
    rcases Element.tag_of_isPre_or_isCode he with htag | htag
    · rw [htag]
      decide
    · rw [htag]
      decide
  have hstages (m : Node) (hm : m.HeadingsApart) :
      (m.highlightCodeBlocks r.highlighter r.parser
        r.highlightRounds).2.tagCodeLanguages.tableOfContents = m.tableOfContents := by
    rw [Node.tagCodeLanguages, Node.tableOfContents_mapAttributes hlabelled]
    exact Node.tableOfContents_highlightWith hfresh m hm ⟨[], []⟩
  cases hlinks : c.headingAutolinks with
  | true =>
    simp only [decorate, hlinks, if_true]
    rw [hstages _ (n.headingsApart_autolinkHeadings hapart), n.tableOfContents_autolinkHeadings]
  | false =>
    simp only [decorate, hlinks, Bool.false_eq_true, if_false]
    exact hstages n hapart

/-- The table of contents describes the final document: if no heading stands in preformatted text or
holds some, no media are looked up, and highlighting gives neither headings nor preformatted text,
then the entries listed when the headings got their ids are those of the headings of the final tree,
in order. -/
theorem tableOfContents_finishInteractive (c : RenderConfig) (s : σ) (n : Node)
    (hembeds : c.parseEmbeds = false)
    (hnodes : ∀ nodes, HighlightsTo r.highlighter r.parser nodes →
      ∀ e ∈ Node.elementsAll nodes, e.isHeading = false ∧ e.isPre = false)
    (hapart : n.HeadingsApart) :
    (r.finishInteractive c s n.assignHeadingIds.1).2.tableOfContents =
      n.assignHeadingIds.2.map some := by
  have hassigned : n.assignHeadingIds.1.HeadingsApart :=
    Node.headingsApart_visit Node.added_assignHeadingId (fun _ _ => Node.tag_assignHeadingId) _ n
      hapart
  have hlisted : n.assignHeadingIds.2.map some = n.assignHeadingIds.1.tableOfContents :=
    Node.entries_visit (n.reservedIds, []) n
  have hpath (e : Element) (he : e.isPath = true) : e.isHeading = false := by
    rw [Element.isHeading, of_decide_eq_true he]
    decide
  have hmedia (m : Node) : (r.lookUpMedia c s m).2 = m := by
    simp [lookUpMedia, hembeds]
  have hstages : (r.finishInteractive c s n.assignHeadingIds.1).2 =
      (r.decorate c n.assignHeadingIds.1).2.wrapLinks.normalizeSvgPaths :=
    congrArg (fun m : Node => m.wrapLinks.normalizeSvgPaths) (hmedia _)
  calc
    (r.finishInteractive c s n.assignHeadingIds.1).2.tableOfContents =
        (r.decorate c n.assignHeadingIds.1).2.wrapLinks.tableOfContents := by
      rw [hstages, Node.normalizeSvgPaths, Node.tableOfContents_mapAttributes hpath]
    _ = n.assignHeadingIds.1.tableOfContents := by
      rw [Node.tableOfContents_wrapLinks, r.tableOfContents_decorate c _ hnodes hassigned]
    _ = n.assignHeadingIds.2.map some := hlisted.symm

/-- A renderer that reads HTML and highlights one short text. -/
def greetingRenderer : Renderer Unit where
  parser := .html
  math := fun tex _ => .error (.math tex)
  highlighter := fun language source =>
    if language = "txt" ∧ source = "hi" then plainTextHighlighter language source else .ok none
  fetcher := none
  highlightRounds := 1

/-- A heading that holds a link and a lower heading, and a block of code. -/
def nestedHeadings : Node :=
  .root [
    .element "h2" ∅ [
      .text "Parts of ",
      .element "a" (Attributes.ofList [("href", .text "/notes")]) [.text "notes"],
      .element "section" ∅ [.element "h3" ∅ [.text " Sources"]]],
    .element "pre" ∅ [
      .element "code" (Attributes.ofList [("class", .list ["language-txt"])]) [.text "hi"]]]

/-- The entries of the nested headings are those of the final document, where the lower heading is
linked to itself and the code is highlighted. -/
theorem tableOfContents_finishInteractive_nestedHeadings :
    (∀ nodes, HighlightsTo greetingRenderer.highlighter greetingRenderer.parser nodes →
        ∀ e ∈ Node.elementsAll nodes, e.isHeading = false ∧ e.isPre = false) ∧
      nestedHeadings.HeadingsApart ∧
      (greetingRenderer.finishInteractive {} ()
        nestedHeadings.assignHeadingIds.1).2.tableOfContents =
          [some ⟨2, "parts-of-notes-sources", "Parts of notes Sources"⟩,
            some ⟨3, "-sources", "Sources"⟩] := by
  have hnodes (nodes : List Node)
      (h : HighlightsTo greetingRenderer.highlighter greetingRenderer.parser nodes) :
      ∀ e ∈ Node.elementsAll nodes, e.isHeading = false ∧ e.isPre = false := by
    obtain ⟨language, source, html, hmarkup, hread⟩ := h.exists_markup
    change (if _ then _ else _) = _ at hmarkup
    split at hmarkup
    · rename_i hgreeting
      obtain ⟨rfl, rfl⟩ := hgreeting
      obtain rfl : "<span class=\"syntax-text syntax-plain\">hi</span>" = html :=
        Option.some.inj (Except.ok.inj hmarkup)
      obtain rfl := Except.ok.inj hread
      decide +kernel
    · cases hmarkup
  have hapart : nestedHeadings.HeadingsApart := by
    unfold Node.HeadingsApart
    decide +kernel
  have hentries : nestedHeadings.assignHeadingIds.2 =
      [⟨2, "parts-of-notes-sources", "Parts of notes Sources"⟩, ⟨3, "-sources", "Sources"⟩] := by
    decide +kernel
  have hfinal := greetingRenderer.tableOfContents_finishInteractive {} () nestedHeadings rfl hnodes
    hapart
  rw [hentries] at hfinal
  exact ⟨hnodes, hapart, hfinal⟩

end Renderer

end Manuscript
