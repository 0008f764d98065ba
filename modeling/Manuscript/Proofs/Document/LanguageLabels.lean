import Manuscript.Proofs.Document.Attributes
import Manuscript.Proofs.Document.Highlighting
import Manuscript.Proofs.Document.Leaves
import Manuscript.Proofs.Document.Places
import Manuscript.Proofs.Text.Split

/-!
# Labels and highlighting

Blocks are labelled with their language, and highlighting gives them a class for it. Neither sees
what the other does: labels are attributes that highlighting does not read, and the class that
highlighting adds names the language that the block has without it. So both can be done in either
order, unless there are further blocks in what highlighting gives.

## Main definitions

* `CodeBlock.label` — what labelling makes of a block
* `Node.GivesNoBlocks` — there is nothing to label in what highlighting gives

## Main results

* `languageToken?_addClass` — the class that highlighting adds does not change the language
* `CodeBlock.label_highlight` — a block may be labelled first or highlighted first
* `tagCodeLanguages_highlightResult` — so may any tree
* `hasAt_of_highlightResult` — highlighting keeps all attributes but the class
* `tagCodeLanguages_highlightCodeBlocks` — labels do not depend on highlighting
-/

namespace Manuscript

variable {highlighter : Highlighter} {parser : MarkupParser}
  {fresh : RequestTrace → List Node → RequestTrace × List Node}
  {tag language : String} {attributes : Attributes} {children inner : List Node}

/-! ### Languages -/

/-- The class of a language names it, unless another language is named before. -/
theorem languageToken?_append (tokens : List String) :
    (languageToken? (tokens ++ ["language-" ++ language])).getD language =
      (languageToken? tokens).getD language := by
  have hprefix : Text.stripPrefix "language-".toList ("language-" ++ language).toList =
      some language.toList := by
    rw [String.toList_append, Text.stripPrefix_append]
  rw [languageToken?, languageToken?, List.findSome?_append]
  -- only the first class that begins so counts, even if it names no language
  cases htokens : tokens.findSome? fun token =>
      Text.stripPrefix "language-".toList token.toList with
  | some found => rfl
  | none =>
    simp only [List.findSome?_cons, hprefix, Option.none_or, Option.bind_some, Option.bind_none]
    split
    · rfl
    · rw [String.ofList_toList]
      rfl

/-- Adding the class of a language does not change the language, if it was this one before or some
other. -/
theorem languageToken?_addClass :
    (languageToken? (attributes.addClass ("language-" ++ language)).classes).getD language =
      (languageToken? attributes.classes).getD language := by
  rw [Attributes.classes_addClass]
  split
  · rfl
  · exact languageToken?_append attributes.classes

/-- The language of the first code among nodes. -/
def codeLanguage? (children : List Node) : Option String :=
  (Element.mk "pre" ∅ children).codeChild?.bind Element.languageClass?

/-- Labels depend on the children by the language of their code only. -/
theorem languageAttributes_congr {others : List Node}
    (h : codeLanguage? children = codeLanguage? others) :
    languageAttributes ⟨tag, attributes, children⟩ = languageAttributes ⟨tag, attributes, others⟩ := by
  have hlanguage : Element.language? ⟨tag, attributes, children⟩ =
      Element.language? ⟨tag, attributes, others⟩ := by
    change Option.or _ (if _ then codeLanguage? children else none) = _
    rw [h]
    rfl
  rw [languageAttributes, languageAttributes, hlanguage]
  rfl

/-- The attributes of a block that is labelled with a language. -/
def blockLabels (attributes : Attributes) (language : String) : Attributes :=
  (attributes.insert "aria-label" (.text (Text.Unicode.toUpper language ++ " code block"))).insert
    "data-lang" (.text language)

/-- Preformatted text is labelled with its own language, or with that of its code. -/
theorem languageAttributes_pre (h : codeLanguage? children = some language) :
    languageAttributes ⟨"pre", attributes, children⟩ =
      blockLabels attributes ((languageToken? attributes.classes).getD language) := by
  have hlanguage : Element.language? ⟨"pre", attributes, children⟩ =
      some ((languageToken? attributes.classes).getD language) := by
    change Option.or (languageToken? attributes.classes) (codeLanguage? children) = _
    rw [h]
    cases languageToken? attributes.classes <;> rfl
  rw [languageAttributes, hlanguage]
  rfl

theorem languageAttributes_code (h : languageToken? attributes.classes = some language) :
    languageAttributes ⟨"code", attributes, children⟩ =
      attributes.insert "data-lang" (.text language) := by
  have hlanguage : Element.language? ⟨"code", attributes, children⟩ = some language := by
    change Option.or (languageToken? attributes.classes) none = _
    rw [h]
    rfl
  rw [languageAttributes, hlanguage]
  rfl

/-- Labels are no classes. -/
theorem classes_languageAttributes (e : Element) : (languageAttributes e).classes = e.classes := by
  have hlang : "data-lang" ≠ "class" := by decide
  have haria : "aria-label" ≠ "class" := by decide
  unfold languageAttributes
  split
  · dsimp only
    rw [Attributes.classes_insert_of_ne hlang]
    split
    · exact Attributes.classes_insert_of_ne haria
    · rfl
  · rfl

/-! ### The code among nodes -/

/-- What keeps code elements and something about each of them. -/
theorem map_code?_congr {κ : Type} {key : Element → κ} {g : Node → Node}
    (htag : ∀ n, (g n).hasTag "code" = n.hasTag "code")
    (hcode : ∀ attributes children, (g (.element "code" attributes children)).code?.map key =
      some (key ⟨"code", attributes, children⟩)) (n : Node) :
    (g n).code?.map key = n.code?.map key := by
  cases hn : n.hasTag "code" with
  | true =>
    obtain ⟨attributes, children, rfl⟩ := Node.hasTag_eq_true_iff.mp hn
    exact hcode attributes children
  | false =>
    rw [Node.code?, Node.code?, code?_eq_none_iff.mpr hn, code?_eq_none_iff.mpr ((htag n).trans hn)]

/-- What keeps something about each code element keeps it about the first one among nodes. -/
theorem map_codeChild?_map {κ : Type} {key : Element → κ} {g : Node → Node}
    (h : ∀ n ∈ children, (g n).code?.map key = n.code?.map key) :
    (Element.mk tag attributes (children.map g)).codeChild?.map key =
      (Element.mk tag attributes children).codeChild?.map key := by
  induction children with
  | nil => rfl
  | cons n rest ih =>
    obtain ⟨hfirst, hrest⟩ := List.forall_mem_cons.mp h
    have hcons (n : Node) (rest : List Node) :
        (Element.mk tag attributes (n :: rest)).codeChild?.map key =
          (n.code?.map key).or ((Element.mk tag attributes rest).codeChild?.map key) := by
      simp only [Element.codeChild?, List.findSome?_cons, Node.code?]
      cases n.element?.filter Element.isCode <;> rfl
    rw [List.map_cons, hcons, hcons, hfirst, ih hrest]

theorem codeLanguage?_map {g : Node → Node}
    (h : ∀ n ∈ children, (g n).code?.map Element.classes = n.code?.map Element.classes) :
    codeLanguage? (children.map g) = codeLanguage? children := by
  have hfactor (children : List Node) : codeLanguage? children =
      ((Element.mk "pre" ∅ children).codeChild?.map Element.classes).bind languageToken? := by
    rw [codeLanguage?, Option.bind_map]
    rfl
  rw [hfactor, hfactor, map_codeChild?_map h]

theorem highlightRequest?_map {g : Node → Node}
    (h : ∀ n ∈ children, (g n).code?.map (fun e => (e.classes, e.textContent)) =
      n.code?.map fun e => (e.classes, e.textContent)) :
    highlightRequest? (children.map g) = highlightRequest? children := by
  have hfactor (children : List Node) : highlightRequest? children =
      ((Element.mk "pre" ∅ children).codeChild?.map fun e => (e.classes, e.textContent)).bind
        fun key => (languageToken? key.1).bind fun language =>
          if language = "math" then none else some (language, key.2) := by
    rw [highlightRequest?, Option.bind_map]
    rfl
  rw [hfactor, hfactor, map_codeChild?_map h]

theorem CodeBlock.codeLanguage?_eq (b : CodeBlock) : codeLanguage? b.children = some b.language := by
  rw [codeLanguage?, b.codeChild?_eq]
  exact b.language_eq

namespace Node

/-! ### Labelling -/

theorem tagCodeLanguages_root :
    (root children).tagCodeLanguages = .root (children.map tagCodeLanguages) :=
  mapAttributes_root ..

theorem tagCodeLanguages_element :
    (element tag attributes children).tagCodeLanguages =
      .element tag
        (if tag = "pre" ∨ tag = "code" then languageAttributes ⟨tag, attributes, children⟩
          else attributes)
        (children.map tagCodeLanguages) := by
  rw [tagCodeLanguages, mapAttributes_element]
  simp only [Element.isPre, Element.isCode, Bool.or_eq_true, decide_eq_true_eq]
  rfl

theorem hasTag_tagCodeLanguages (n : Node) : n.tagCodeLanguages.hasTag tag = n.hasTag tag := by
  cases n with
  | root children => rw [tagCodeLanguages_root]; rfl
  | element _ attributes children => rw [tagCodeLanguages_element]; rfl
  | leaf kind value => rfl

theorem textContentAll_tagCodeLanguages :
    textContentAll (children.map tagCodeLanguages) = textContentAll children :=
  textContentAll_map fun child _ => leaves_mapAttributes _ _ child

/-- Labelling keeps the classes and the text of code. -/
theorem map_code?_tagCodeLanguages (n : Node) :
    n.tagCodeLanguages.code?.map (fun e => (e.classes, e.textContent)) =
      n.code?.map fun e => (e.classes, e.textContent) := by
  refine map_code?_congr hasTag_tagCodeLanguages (fun attributes children => ?_) n
  rw [tagCodeLanguages_element, if_pos (.inr rfl)]
  exact congrArg some (Prod.ext (classes_languageAttributes ⟨"code", attributes, children⟩)
    textContentAll_tagCodeLanguages)

/-- Nodes without preformatted text and code stay. -/
theorem map_tagCodeLanguages_eq_self
    (h : ∀ e ∈ elementsAll children, e.isPre = false ∧ e.isCode = false) :
    children.map tagCodeLanguages = children := by
  have hchildren : ∀ child ∈ children, child.tagCodeLanguages = child := by
    intro child hchild
    refine mapAttributes_eq_self _ _ fun e he => ?_
    obtain ⟨hpre, hcode⟩ := forall_mem_elementsAll.mp h child hchild e he
    rw [hpre, hcode]
    rfl
  rw [List.map_congr_left hchildren, List.map_id']

/-! ### Highlighting -/

/-- Highlighting keeps the classes of code. -/
theorem map_code?_highlightResult (hfresh : AddsRequests fresh) (n : Node) :
    (n.highlightResult highlighter parser fresh).code?.map Element.classes =
      n.code?.map Element.classes := by
  refine map_code?_congr hasTag_highlightResult (fun attributes children => ?_) n
  rw [highlightResult_code hfresh]
  rfl

end Node

/-! ### Blocks -/

namespace CodeBlock

open Node

/-- What labelling makes of a block. -/
def label (b : CodeBlock) : CodeBlock where
  attributes := blockLabels b.attributes
    ((languageToken? b.attributes.classes).getD b.language)
  before := b.before.map tagCodeLanguages
  codeAttributes := b.codeAttributes.insert "data-lang" (.text b.language)
  inner := b.inner.map tagCodeLanguages
  after := b.after.map tagCodeLanguages
  language := b.language
  not_code := by
    rw [List.forall_mem_map]
    exact fun n hn => (hasTag_tagCodeLanguages n).trans (b.not_code n hn)
  language_eq := by
    rw [Attributes.classes_insert_of_ne (by decide)]
    exact b.language_eq
  not_math := b.not_math

theorem tagCodeLanguages_toNode (b : CodeBlock) : b.toNode.tagCodeLanguages = b.label.toNode := by
  have hcode : (b.code b.inner).tagCodeLanguages = b.label.code b.label.inner := by
    rw [code, tagCodeLanguages_element, if_pos (.inr rfl), languageAttributes_code b.language_eq]
    rfl
  rw [toNode, tagCodeLanguages_element, if_pos (.inl rfl), languageAttributes_pre b.codeLanguage?_eq,
    children, List.map_append, List.map_cons, hcode]
  rfl

theorem source_label (b : CodeBlock) : b.label.source = b.source :=
  textContentAll_tagCodeLanguages

/-- A block may be labelled before it is highlighted or after it, if that is so for what stands in it
and there is nothing to label in what highlighting gives. -/
theorem label_highlight (hfresh : AddsRequests fresh) (b : CodeBlock)
    (hplain : ∀ nodes, highlightedNodes? highlighter parser b.language b.source = some nodes →
      (fresh ⟨[], []⟩ nodes).2.map tagCodeLanguages = (fresh ⟨[], []⟩ nodes).2)
    (hchildren : ∀ child ∈ b.children,
      (child.highlightResult highlighter parser fresh).tagCodeLanguages =
        child.tagCodeLanguages.highlightResult highlighter parser fresh) :
    (b.highlight highlighter parser fresh).label =
      b.label.highlight highlighter parser fresh := by
  obtain ⟨hbefore, hrest⟩ := List.forall_mem_append.mp hchildren
  obtain ⟨hcode, hafter⟩ := List.forall_mem_cons.mp hrest
  have hmap {ns : List Node} (h : ∀ n ∈ ns,
      (n.highlightResult highlighter parser fresh).tagCodeLanguages =
        n.tagCodeLanguages.highlightResult highlighter parser fresh) :
      (ns.map (·.highlightResult highlighter parser fresh)).map tagCodeLanguages =
        (ns.map tagCodeLanguages).map (·.highlightResult highlighter parser fresh) := by
    rw [List.map_map, List.map_map]
    exact List.map_congr_left h
  apply CodeBlock.ext
  case attributes =>
    -- the class of the language is no label, and does not change the language
    have hlabel : (languageToken? (b.attributes.addClass b.languageClass).classes).getD b.language =
        (languageToken? b.attributes.classes).getD b.language := languageToken?_addClass
    change blockLabels (b.attributes.addClass b.languageClass) _ =
      (blockLabels b.attributes _).addClass b.languageClass
    rw [blockLabels, blockLabels, Attributes.addClass_insert_comm (by decide),
      Attributes.addClass_insert_comm (by decide)]
    exact congrArg (blockLabels (b.attributes.addClass b.languageClass)) hlabel
  case before => exact hmap hbefore
  case codeAttributes => rfl
  case inner =>
    change (b.highlight highlighter parser fresh).inner.map tagCodeLanguages =
      (b.label.highlight highlighter parser fresh).inner
    have hasked : highlightedNodes? highlighter parser b.label.language b.label.source =
        highlightedNodes? highlighter parser b.language b.source := by
      rw [source_label]
      rfl
    cases hnodes : highlightedNodes? highlighter parser b.language b.source with
    | some nodes =>
      rw [inner_highlight_of_some (hasked.trans hnodes), inner_highlight_of_some hnodes,
        hplain nodes hnodes]
    | none =>
      -- the code is a child too, and what stands in it can be read off
      rw [inner_highlight_of_none (hasked.trans hnodes), inner_highlight_of_none hnodes]
      rw [code, highlightResult_code hfresh, tagCodeLanguages_element, tagCodeLanguages_element,
        highlightResult_code hfresh] at hcode
      exact (Node.element.inj hcode).2.2
  case after => exact hmap hafter
  case language => rfl

end CodeBlock

namespace Node

/-- There is no preformatted text and no code in what highlighting gives. -/
def GivesNoBlocks (highlighter : Highlighter) (parser : MarkupParser)
    (fresh : RequestTrace → List Node → RequestTrace × List Node) : Prop :=
  ∀ language source nodes, highlightedNodes? highlighter parser language source = some nodes →
    ∀ e ∈ elementsAll (fresh ⟨[], []⟩ nodes).2, e.isPre = false ∧ e.isCode = false

/-- Labelling and highlighting a tree commute, if there is nothing to label in what highlighting
gives. -/
theorem tagCodeLanguages_highlightResult (hfresh : AddsRequests fresh)
    (hplain : GivesNoBlocks highlighter parser fresh) (n : Node) :
    (n.highlightResult highlighter parser fresh).tagCodeLanguages =
      n.tagCodeLanguages.highlightResult highlighter parser fresh := by
  induction n using blockInduction with
  | root children ih =>
    rw [tagCodeLanguages_root, highlightResult_root hfresh, highlightResult_root hfresh,
      tagCodeLanguages_root, List.map_map, List.map_map]
    exact congrArg root (List.map_congr_left ih)
  | block b ih =>
    rw [b.tagCodeLanguages_toNode, CodeBlock.highlightResult_toNode hfresh,
      CodeBlock.highlightResult_toNode hfresh, CodeBlock.tagCodeLanguages_toNode,
      b.label_highlight hfresh (fun nodes hnodes =>
        map_tagCodeLanguages_eq_self (hplain b.language b.source nodes hnodes)) ih]
  | other tag attributes children hnot ih =>
    have hnot' : tag = "pre" → highlightRequest? (children.map tagCodeLanguages) = none := by
      rw [highlightRequest?_map fun child _ => map_code?_tagCodeLanguages child]
      exact hnot
    have hlanguage : codeLanguage? (children.map (·.highlightResult highlighter parser fresh)) =
        codeLanguage? children :=
      codeLanguage?_map fun child _ => map_code?_highlightResult hfresh child
    rw [tagCodeLanguages_element, highlightResult_other hfresh hnot',
      highlightResult_other hfresh hnot, tagCodeLanguages_element,
      languageAttributes_congr hlanguage, List.map_map, List.map_map]
    exact congrArg (element tag _) (List.map_congr_left ih)
  | leaf kind value => rfl

/-- There is an element at a place that differs from another one in its class and its children only. -/
def HasAt (n : Node) (place : List Nat) (e : Element) : Prop :=
  ∃ old, n.nodeAt? place = some (Element.toNode old) ∧ old.tag = e.tag ∧
    ∀ name, name ≠ "class" → old.attr? name = e.attr? name

theorem HasAt.cons {n child : Node} {i : Nat} {place : List Nat} {e : Element}
    (h : child.HasAt place e) (hchild : n.children[i]? = some child) : n.HasAt (i :: place) e := by
  obtain ⟨old, hold, hsame⟩ := h
  exact ⟨old, nodeAt?_cons_eq_some_iff.mpr ⟨child, hchild, hold⟩, hsame⟩

/-- Code in which there are no further blocks is the only one in it, whatever stood in it before. -/
theorem hasAt_code {place : List Nat} {e : Element}
    (hchildren : ∀ e ∈ elementsAll children, e.isPre = false ∧ e.isCode = false)
    (he : (element "code" attributes children).nodeAt? place = some e.toNode)
    (hblock : (e.isPre || e.isCode) = true) : (element "code" attributes inner).HasAt place e := by
  cases place with
  | nil =>
    obtain rfl := Option.some.inj (element?_eq_some_iff.mpr (Option.some.inj he))
    exact ⟨⟨"code", attributes, inner⟩, rfl, rfl, fun _ _ => rfl⟩
  | cons i place =>
    obtain ⟨n, hn, he⟩ := nodeAt?_cons_eq_some_iff.mp he
    have hmem : e ∈ elementsAll children :=
      mem_elementsAll.mpr
        ⟨n, List.mem_of_getElem? hn, mem_elements_iff_exists_nodeAt?.mpr ⟨place, he⟩⟩
    obtain ⟨hpre, hcode⟩ := hchildren e hmem
    rw [hpre, hcode] at hblock
    cases hblock

/-- Where highlighting leaves preformatted text or code, there was the same before, with the same
attributes but for its class. -/
theorem hasAt_of_highlightResult (hfresh : AddsRequests fresh)
    (hplain : GivesNoBlocks highlighter parser fresh) {n : Node} {place : List Nat} {e : Element}
    (he : (n.highlightResult highlighter parser fresh).nodeAt? place = some e.toNode)
    (hblock : (e.isPre || e.isCode) = true) : n.HasAt place e := by
  have hchild {children : List Node} {n child' : Node} {i : Nat} {place : List Nat}
      (ih : ∀ child ∈ children, ∀ {place},
        (child.highlightResult highlighter parser fresh).nodeAt? place = some e.toNode →
          child.HasAt place e) (hn : n.children = children)
      (hchild' : children[i]?.map (·.highlightResult highlighter parser fresh) = some child')
      (he : child'.nodeAt? place = some e.toNode) : n.HasAt (i :: place) e := by
    obtain ⟨child, hchild, rfl⟩ := Option.map_eq_some_iff.mp hchild'
    exact (ih child (List.mem_of_getElem? hchild) he).cons (hn ▸ hchild)
  induction n using blockInduction generalizing place with
  | root children ih =>
    rw [highlightResult_root hfresh] at he
    cases place with
    | nil => cases Option.some.inj he
    | cons i place =>
      obtain ⟨child', hchild', he⟩ := nodeAt?_cons_eq_some_iff.mp he
      exact hchild ih rfl (List.getElem?_map.symm.trans hchild') he
  | block b ih =>
    rw [b.highlightResult_toNode hfresh] at he
    cases place with
    | nil =>
      obtain rfl := Option.some.inj (element?_eq_some_iff.mpr (Option.some.inj he))
      exact ⟨⟨"pre", b.attributes, b.children⟩, rfl, rfl,
        fun name hname => (Attributes.get?_insert.trans (if_neg hname)).symm⟩
    | cons i place =>
      obtain ⟨child', hchild', he⟩ := nodeAt?_cons_eq_some_iff.mp he
      by_cases hi : i = b.before.length
      · cases hnodes : highlightedNodes? highlighter parser b.language b.source with
        | none =>
          have hmap := CodeBlock.children_highlight_of_none hfresh hnodes
          exact hchild ih rfl (List.getElem?_map.symm.trans (hmap ▸ hchild')) he
        | some nodes =>
          -- the code is left, but nothing that stands in it
          rw [hi] at hchild'
          obtain rfl :=
            Option.some.inj ((CodeBlock.getElem?_children_highlight_of_some hnodes).symm.trans hchild')
          have hold : (b.code b.inner).HasAt place e :=
            hasAt_code (hplain b.language b.source nodes hnodes) he hblock
          exact hold.cons (hi ▸ b.getElem?_children_length)
      · exact hchild ih rfl ((b.getElem?_children_highlight hi).symm.trans hchild') he
  | other tag attributes children hnot ih =>
    rw [highlightResult_other hfresh hnot] at he
    cases place with
    | nil =>
      obtain rfl := Option.some.inj (element?_eq_some_iff.mpr (Option.some.inj he))
      exact ⟨⟨tag, attributes, children⟩, rfl, rfl, fun _ _ => rfl⟩
    | cons i place =>
      obtain ⟨child', hchild', he⟩ := nodeAt?_cons_eq_some_iff.mp he
      exact hchild ih rfl (List.getElem?_map.symm.trans hchild') he
  | leaf kind value => exact ⟨e, he, rfl, fun _ _ => rfl⟩

/-- Labelling with languages and highlighting are independent of each other, if there are no blocks in
what highlighting gives: they commute, and in what becomes of a tree each `pre` and each `code` element
has the labels that labelling alone gives it. -/
theorem tagCodeLanguages_highlightCodeBlocks (highlighter : Highlighter) (parser : MarkupParser)
    (hplain : ∀ nodes, HighlightsTo highlighter parser nodes →
      ∀ e ∈ elementsAll nodes, e.isPre = false ∧ e.isCode = false) (rounds : Nat) (n : Node) :
    (n.highlightCodeBlocks highlighter parser rounds).2.tagCodeLanguages =
        (n.tagCodeLanguages.highlightCodeBlocks highlighter parser rounds).2 ∧
      ∀ place e, (n.highlightCodeBlocks highlighter parser rounds).2.tagCodeLanguages.nodeAt? place =
          some (Element.toNode e) → (e.isPre || e.isCode) = true →
        ∃ e', n.tagCodeLanguages.nodeAt? place = some (Element.toNode e') ∧ e'.tag = e.tag ∧
          e'.attr? "data-lang" = e.attr? "data-lang" ∧
          e'.attr? "aria-label" = e.attr? "aria-label" := by
  have hfresh : AddsRequests fun t ns => highlightAll highlighter.recording parser rounds t ns :=
    addsRequests_highlightAll rounds
  have hno : GivesNoBlocks highlighter parser
      fun t ns => highlightAll highlighter.recording parser rounds t ns := by
    intro language source nodes hnodes
    have h := hplain nodes ⟨language, source, highlightedNodes?_eq_some_iff.mp hnodes⟩
    -- so further rounds leave the nodes as they are
    have hpre : "pre" ∉ tagsAll nodes := by
      intro hmem
      obtain ⟨e, he, htag⟩ := List.mem_map.mp hmem
      exact absurd htag (of_decide_eq_false (h e he).1)
    dsimp only
    rw [highlightAll_eq_self hpre]
    exact h
  have hcomm := n.tagCodeLanguages_highlightResult hfresh hno
  refine ⟨hcomm, fun place e he hblock => ?_⟩
  obtain ⟨e', he', htag, hsame⟩ := hasAt_of_highlightResult hfresh hno (hcomm ▸ he) hblock
  exact ⟨e', he', htag, hsame "data-lang" (by decide), hsame "aria-label" (by decide)⟩

/-- A block with a class that begins as one for a language does but names none. -/
def noteBlock : Node :=
  .element "pre" (Attributes.ofList [("class", .text "note language-")])
    [.element "code" (Attributes.ofList [("class", .list ["language-txt"])]) [.text "hi"]]

/-- The block may be labelled before its text is put in as it is or after it. -/
theorem tagCodeLanguages_highlightCodeBlocks_noteBlock :
    (∀ nodes, HighlightsTo (fun _ source => .ok (some source))
          ⟨fun html => .ok (.root [.text html]), fun html => .ok [.text html]⟩ nodes →
        ∀ e ∈ elementsAll nodes, e.isPre = false ∧ e.isCode = false) ∧
      (noteBlock.highlightCodeBlocks (fun _ source => .ok (some source))
          ⟨fun html => .ok (.root [.text html]), fun html => .ok [.text html]⟩ 1).2.tagCodeLanguages =
        (noteBlock.tagCodeLanguages.highlightCodeBlocks (fun _ source => .ok (some source))
          ⟨fun html => .ok (.root [.text html]), fun html => .ok [.text html]⟩ 1).2 := by
  have hplain (nodes : List Node) (h : HighlightsTo (fun _ source => .ok (some source))
      ⟨fun html => .ok (.root [.text html]), fun html => .ok [.text html]⟩ nodes) :
      ∀ e ∈ elementsAll nodes, e.isPre = false ∧ e.isCode = false := by
    obtain ⟨language, source, html, -, hread⟩ := h.exists_markup
    obtain rfl := Except.ok.inj hread
    exact fun e he => absurd he List.not_mem_nil
  exact ⟨hplain, (tagCodeLanguages_highlightCodeBlocks _ _ hplain 1 noteBlock).1⟩

end Node

end Manuscript
