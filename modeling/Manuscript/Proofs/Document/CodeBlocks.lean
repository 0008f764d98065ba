import Manuscript.Document.CodeBlocks
import Manuscript.Proofs.Document.Elements

/-!
# Highlighting block by block

Highlighting goes through a tree in pre-order and does something at preformatted text only. There
it asks for highlighted nodes, puts them into the first code element among the children, and goes on
in the other children. A tree without preformatted text stays, and nothing is asked for.

## Main definitions

* `HighlightsTo` — what highlighting some text may give

## Main results

* `highlightWith_plain`, `highlightWith_block` — an element that is a block, and any other
* `highlightAround_code`, `highlightAround_other` — the children of a block
* `highlightWith_eq_self` — a tree without preformatted text
-/

namespace Manuscript

/-- Highlights a text and parses the markup. -/
def highlighted (highlighter : Highlighter) (parser : MarkupParser) (language source : String) :
    Except RenderError (Option (List Node)) :=
  parsedHighlighting parser (highlighter language source)

/-- Highlighting some text gives these nodes. -/
def HighlightsTo (highlighter : Highlighter) (parser : MarkupParser) (nodes : List Node) : Prop :=
  ∃ language source, highlighted highlighter parser language source = .ok (some nodes)

section Highlighted

variable {highlighter : Highlighter} {parser : MarkupParser}

/-- Highlighted nodes are read from what the highlighter gives for some text. -/
theorem HighlightsTo.exists_markup {nodes : List Node}
    (h : HighlightsTo highlighter parser nodes) :
    ∃ language source html, highlighter language source = .ok (some html) ∧
      parser.parseFragment html = .ok nodes := by
  obtain ⟨language, source, h⟩ := h
  unfold highlighted parsedHighlighting at h
  split at h
  · cases h
  · cases h
  · rename_i html hhtml
    split at h
    · cases h
    · rename_i found hfound
      cases h
      exact ⟨language, source, html, hhtml, hfound⟩

/-- The nodes that are asked for are highlighted ones. -/
theorem HighlightTrace.highlightsTo_of_ask {t : RequestTrace} {language source : String}
    {nodes : List Node}
    (h : (t.ask highlighter.recording parser language source).2 = some nodes) :
    HighlightsTo highlighter parser nodes := by
  simp only [ask, Highlighter.recording] at h
  split at h
  · rename_i found hfound
    obtain rfl := Option.some.inj h
    exact ⟨language, source, hfound⟩
  · cases h
  · cases h

end Highlighted

/-- What is labelled with its language is preformatted text or code. -/
theorem Element.tag_of_isPre_or_isCode {e : Element} (h : (e.isPre || e.isCode) = true) :
    e.tag = "pre" ∨ e.tag = "code" :=
  (Bool.or_eq_true_iff.mp h).imp of_decide_eq_true of_decide_eq_true

namespace Node

variable {σ : Type} {highlighter : StatefulHighlighter σ} {parser : MarkupParser}
  {fresh : HighlightTrace σ → List Node → HighlightTrace σ × List Node} {t : HighlightTrace σ}

variable {tag language source : String} {attributes : Attributes} {children ns nodes : List Node}

/-! ### One node -/

/-- An element that is no block with a language stays, and its children are gone through. -/
theorem highlightWith_plain (h : tag = "pre" → highlightRequest? children = none) :
    highlightWith highlighter parser fresh t (.element tag attributes children) =
      ((highlightAllWith highlighter parser fresh t children).1,
        .element tag attributes (highlightAllWith highlighter parser fresh t children).2) := by
  have hrequest : (if tag = "pre" then highlightRequest? children else none) = none := by
    split
    · rename_i htag
      exact h htag
    · rfl
  rw [highlightWith, hrequest]

/-- A block whose code is highlighted. -/
theorem highlightWith_block (h : highlightRequest? children = some (language, source))
    (hasked : (t.ask highlighter parser language source).2 = some nodes) :
    highlightWith highlighter parser fresh t (.element "pre" attributes children) =
      ((highlightAround highlighter parser fresh nodes
          (t.ask highlighter parser language source).1 children).1,
        .element "pre" (attributes.addClass ("language-" ++ language))
          (highlightAround highlighter parser fresh nodes
            (t.ask highlighter parser language source).1 children).2) := by
  rw [highlightWith, if_pos rfl, h]
  simp only [hasked]

/-- A block whose code could not be highlighted. -/
theorem highlightWith_failed (h : highlightRequest? children = some (language, source))
    (hasked : (t.ask highlighter parser language source).2 = none) :
    highlightWith highlighter parser fresh t (.element "pre" attributes children) =
      ((highlightAllWith highlighter parser fresh
          (t.ask highlighter parser language source).1 children).1,
        .element "pre" (attributes.addClass ("language-" ++ language))
          (highlightAllWith highlighter parser fresh
            (t.ask highlighter parser language source).1 children).2) := by
  rw [highlightWith, if_pos rfl, h]
  simp only [hasked]

/-- The first code element among the children takes the highlighted nodes. -/
theorem highlightAround_code :
    highlightAround highlighter parser fresh nodes t (.element "code" attributes children :: ns) =
      ((highlightAllWith highlighter parser fresh (fresh t nodes).1 ns).1,
        .element "code" attributes (fresh t nodes).2 ::
          (highlightAllWith highlighter parser fresh (fresh t nodes).1 ns).2) := by
  rw [highlightAround]

/-- Any other node before it is gone through. -/
theorem highlightAround_other {n : Node} (h : n.hasTag "code" = false) :
    highlightAround highlighter parser fresh nodes t (n :: ns) =
      ((highlightAround highlighter parser fresh nodes
          (highlightWith highlighter parser fresh t n).1 ns).1,
        (highlightWith highlighter parser fresh t n).2 ::
          (highlightAround highlighter parser fresh nodes
            (highlightWith highlighter parser fresh t n).1 ns).2) := by
  rw [highlightAround]
  intro attributes children hn
  rw [hn] at h
  cases h

/-! ### Trees without preformatted text -/

theorem highlightAllWith_eq_self
    (h : ∀ n ∈ ns, ∀ t, highlightWith highlighter parser fresh t n = (t, n)) :
    highlightAllWith highlighter parser fresh t ns = (t, ns) := by
  induction ns with
  | nil => rfl
  | cons n rest ih =>
    obtain ⟨hfirst, hrest⟩ := List.forall_mem_cons.mp h
    rw [highlightAllWith, hfirst t]
    dsimp only
    rw [ih hrest]

/-- A tree without preformatted text stays, and nothing is asked for. -/
theorem highlightWith_eq_self (n : Node) (h : "pre" ∉ n.tags) (t : HighlightTrace σ) :
    highlightWith highlighter parser fresh t n = (t, n) := by
  induction n using inductionOn generalizing t with
  | root children ih =>
    have hchildren : ∀ child ∈ children, ∀ t,
        highlightWith highlighter parser fresh t child = (t, child) := by
      intro child hchild t
      exact ih child hchild (fun hpre => h (mem_tagsAll.mpr ⟨child, hchild, hpre⟩)) t
    rw [highlightWith, highlightAllWith_eq_self hchildren]
  | element tag attributes children ih =>
    rw [tags_element, List.mem_cons, not_or] at h
    have hchildren : ∀ child ∈ children, ∀ t,
        highlightWith highlighter parser fresh t child = (t, child) := by
      intro child hchild t
      exact ih child hchild (fun hpre => h.2 (mem_tagsAll.mpr ⟨child, hchild, hpre⟩)) t
    rw [highlightWith_plain fun htag => absurd htag.symm h.1, highlightAllWith_eq_self hchildren]
  | leaf kind value => rfl

theorem highlightCodeBlocks_eq_self {highlighter : Highlighter} {n : Node} (h : "pre" ∉ n.tags)
    (rounds : Nat) : n.highlightCodeBlocks highlighter parser rounds = (⟨[], []⟩, n) :=
  highlightWith_eq_self n h ⟨[], []⟩

/-- Nodes without preformatted text stay in each further round. -/
theorem highlightAll_eq_self (h : "pre" ∉ tagsAll ns) (rounds : Nat) :
    highlightAll highlighter parser rounds t ns = (t, ns) := by
  cases rounds with
  | zero => rfl
  | succ rounds =>
    refine highlightAllWith_eq_self fun n hn t => ?_
    exact highlightWith_eq_self n (fun hpre => h (mem_tagsAll.mpr ⟨n, hn, hpre⟩)) t

end Node

end Manuscript
