import Manuscript.Proofs.Document.HighlightRounds
import Manuscript.Proofs.Document.Walks

/-!
# Highlighting as a visit

Highlighting visits the preformatted text of a tree. Where that is a block, it asks for highlighted
nodes, fills the code with them and goes on in the children that the block has then, so in these nodes
too. A visit like that has an end only if the nodes that are given hold no further blocks from some
level on, which is why rounds are counted instead. Where another round would change nothing, the
rounds come to the visit.

Most of all that is so if no markup of the highlighter has preformatted text in it. Then a highlighter
is given the blocks of the tree in pre-order and none of them twice, whatever state it keeps.

## Main definitions

* `StatefulHighlighter.Gives` — the nodes that a highlighter may give
* `Node.highlightBlock` — what the visit makes of preformatted text
* `AsksWithin` — what a highlighter is asked between two traces

## Main results

* `isWalk_highlightWith` — when highlighting is the visit
* `visitMatching_highlightBlock` — highlighters whose markup has no preformatted text
* `asksWithin_highlightCodeBlocksWith` — what they are asked
-/

namespace Manuscript

variable {σ : Type} {highlighter : StatefulHighlighter σ} {parser : MarkupParser}
  {fresh : HighlightTrace σ → List Node → HighlightTrace σ × List Node}
  {t t' t'' : HighlightTrace σ} {language source tag : String} {attributes : Attributes}
  {children nodes ns : List Node} {requests more : List (String × String)}

/-- In some state the highlighter gives these nodes for some text. -/
def StatefulHighlighter.Gives (highlighter : StatefulHighlighter σ) (parser : MarkupParser)
    (nodes : List Node) : Prop :=
  ∃ s language source,
    parsedHighlighting parser (highlighter s language source).2 = .ok (some nodes)

theorem HighlightTrace.gives_of_ask
    (h : (t.ask highlighter parser language source).2 = some nodes) :
    highlighter.Gives parser nodes := by
  simp only [ask] at h
  split at h
  · rename_i found hfound
    obtain rfl := Option.some.inj h
    exact ⟨t.state, language, source, hfound⟩
  · cases h
  · cases h

namespace Node

/-! ### The visit -/

/-- Trees side by side with other nodes in the first code element among them. -/
def fillCode (nodes : List Node) : List Node → List Node
  | [] => []
  | .element "code" attributes _ :: rest => .element "code" attributes nodes :: rest
  | n :: rest => n :: fillCode nodes rest

/-- Asks for the highlighted nodes of preformatted text that is a block, and gives it the class of its
language. The code is filled with the nodes if there are any. -/
def highlightBlock (highlighter : StatefulHighlighter σ) (parser : MarkupParser)
    (t : HighlightTrace σ) (e : Element) : HighlightTrace σ × Element :=
  match highlightRequest? e.children with
  | none => (t, e)
  | some (language, source) =>
    let (t, nodes) := t.ask highlighter parser language source
    (t, ⟨e.tag, e.attributes.addClass ("language-" ++ language),
      (nodes.map (fillCode · e.children)).getD e.children⟩)

theorem fillCode_other {n : Node} (h : n.hasTag "code" = false) :
    fillCode nodes (n :: ns) = n :: fillCode nodes ns := by
  rw [fillCode]
  intro attributes children hn
  rw [hn] at h
  cases h

theorem highlightAllWith_eq (ns : List Node) :
    highlightAllWith highlighter parser fresh t ns =
      mapWithState (highlightWith highlighter parser fresh) t ns := by
  induction ns generalizing t with
  | nil => rfl
  | cons n rest ih => simp only [highlightAllWith, mapWithState, ih]

/-- Highlighting around nodes that are highlighted as any others is highlighting with them filled
in. -/
theorem highlightAround_eq
    (h : ∀ t, fresh t nodes = highlightAllWith highlighter parser fresh t nodes)
    (ns : List Node) (t : HighlightTrace σ) :
    highlightAround highlighter parser fresh nodes t ns =
      highlightAllWith highlighter parser fresh t (fillCode nodes ns) := by
  induction ns generalizing t with
  | nil => rfl
  | cons n rest ih =>
    cases hcode : n.hasTag "code" with
    | false =>
      rw [highlightAround_other hcode, fillCode_other hcode, ih]
      rfl
    | true =>
      obtain ⟨attributes, children, rfl⟩ := hasTag_eq_true_iff.mp hcode
      rw [highlightAround_code, h, fillCode, highlightAllWith,
        highlightWith_plain fun htag => absurd htag (by decide)]

/-- Highlighting is the visit if it does with the nodes that it is given as with any others. -/
theorem isWalk_highlightWith (h : ∀ nodes, highlighter.Gives parser nodes →
      ∀ t, fresh t nodes = highlightAllWith highlighter parser fresh t nodes) :
    IsWalk (asRewriter Element.isPre (highlightBlock highlighter parser))
      (highlightWith highlighter parser fresh) := by
  intro t n
  cases n with
  | root children =>
    rw [highlightWith, highlightAllWith_eq]
    rfl
  | element tag attributes children =>
    by_cases htag : tag = "pre"
    · have hself : asRewriter Element.isPre (highlightBlock highlighter parser) t
          (.element tag attributes children) =
          ((highlightBlock highlighter parser t ⟨tag, attributes, children⟩).1,
            .descend (highlightBlock highlighter parser t ⟨tag, attributes, children⟩).2.toNode) :=
        if_pos (decide_eq_true htag)
      rw [hself, highlightBlock]
      subst htag
      cases hrequest : highlightRequest? children with
      | none =>
        rw [highlightWith_plain fun _ => hrequest, highlightAllWith_eq]
        rfl
      | some request =>
        obtain ⟨language, source⟩ := request
        cases hasked : (t.ask highlighter parser language source).2 with
        | none =>
          rw [highlightWith_failed hrequest hasked, highlightAllWith_eq]
          simp only [hasked]
          rfl
        | some nodes =>
          -- going on in the nodes on their own comes to going on in a block that is filled with them
          have hgiven := h nodes (HighlightTrace.gives_of_ask hasked)
          rw [highlightWith_block hrequest hasked, highlightAround_eq hgiven, highlightAllWith_eq]
          simp only [hasked]
          rfl
    · have hself : asRewriter Element.isPre (highlightBlock highlighter parser) t
          (.element tag attributes children) = (t, .descend (.element tag attributes children)) :=
        asRewriter_element_eq_self _ _ fun hpre => absurd (of_decide_eq_true hpre) htag
      rw [hself, highlightWith_plain fun hpre => absurd hpre htag, highlightAllWith_eq]
      rfl
  | leaf kind value => rfl

/-- If no markup of a highlighter has preformatted text in it, highlighting is the visit, however many
rounds are made. -/
theorem visitMatching_highlightBlock
    (h : ∀ nodes, highlighter.Gives parser nodes → "pre" ∉ tagsAll nodes) (rounds depth : Nat)
    (s : σ) (n : Node)
    (hdepth : (n.highlightCodeBlocksWith highlighter parser rounds s).2.depth ≤ depth) :
    visitMatching Element.isPre (highlightBlock highlighter parser) depth ⟨s, []⟩ n =
      n.highlightCodeBlocksWith highlighter parser rounds s := by
  refine (isWalk_highlightWith fun nodes hnodes t => ?_).visitMatching_eq ⟨s, []⟩ n hdepth
  have hnone (rounds : Nat) : highlightAll highlighter parser rounds t nodes = (t, nodes) :=
    highlightAll_eq_self (h nodes hnodes) rounds
  exact (hnone rounds).trans (hnone (rounds + 1)).symm

end Node

/-! ### What a highlighter is asked -/

/-- From one trace to the next a highlighter is asked for some of the given texts, one after the
other. -/
def AsksWithin (highlighter : StatefulHighlighter σ) (requests : List (String × String))
    (t t' : HighlightTrace σ) : Prop :=
  ∃ asked : List (String × String), asked.Sublist requests ∧
    (mapWithState (fun s request => highlighter s request.1 request.2) t.state asked).1 = t'.state

namespace AsksWithin

theorem refl : AsksWithin highlighter [] t t := ⟨[], .slnil, rfl⟩

theorem ask :
    AsksWithin highlighter [(language, source)] t (t.ask highlighter parser language source).1 := by
  refine ⟨[(language, source)], .refl _, ?_⟩
  simp only [HighlightTrace.ask, mapWithState]
  split <;> rfl

theorem append (h : AsksWithin highlighter requests t t')
    (h' : AsksWithin highlighter more t' t'') :
    AsksWithin highlighter (requests ++ more) t t'' := by
  obtain ⟨asked, hasked, hstate⟩ := h
  obtain ⟨asked', hasked', hstate'⟩ := h'
  refine ⟨asked ++ asked', hasked.append hasked', ?_⟩
  rw [mapWithState_append, hstate]
  exact hstate'

theorem mono (h : AsksWithin highlighter requests t t') (hsublist : requests.Sublist more) :
    AsksWithin highlighter more t t' := by
  obtain ⟨asked, hasked, hstate⟩ := h
  exact ⟨asked, hasked.trans hsublist, hstate⟩

end AsksWithin

namespace Node

theorem asksWithin_highlightAllWith
    (h : ∀ n ∈ ns, ∀ t, AsksWithin highlighter n.blockRequests t
      (highlightWith highlighter parser fresh t n).1) (t : HighlightTrace σ) :
    AsksWithin highlighter (ns.flatMap blockRequests) t
      (highlightAllWith highlighter parser fresh t ns).1 := by
  induction ns generalizing t with
  | nil => exact .refl
  | cons n rest ih =>
    obtain ⟨hfirst, hrest⟩ := List.forall_mem_cons.mp h
    rw [List.flatMap_cons, highlightAllWith]
    exact (hfirst t).append (ih hrest _)

/-- What stood in code that takes highlighted nodes is not asked for. -/
theorem asksWithin_highlightAround (hnodes : ∀ t, fresh t nodes = (t, nodes))
    (h : ∀ n ∈ ns, ∀ t, AsksWithin highlighter n.blockRequests t
      (highlightWith highlighter parser fresh t n).1) (t : HighlightTrace σ) :
    AsksWithin highlighter (ns.flatMap blockRequests) t
      (highlightAround highlighter parser fresh nodes t ns).1 := by
  induction ns generalizing t with
  | nil => exact .refl
  | cons n rest ih =>
    obtain ⟨hfirst, hrest⟩ := List.forall_mem_cons.mp h
    rw [List.flatMap_cons]
    cases hcode : n.hasTag "code" with
    | false =>
      rw [highlightAround_other hcode]
      exact (hfirst t).append (ih hrest _)
    | true =>
      obtain ⟨attributes, children, rfl⟩ := hasTag_eq_true_iff.mp hcode
      rw [highlightAround_code, hnodes]
      -- blocks in what stood in the code are passed over
      exact (asksWithin_highlightAllWith hrest t).mono (List.sublist_append_right _ _)

theorem asksWithin_highlightWith
    (hfresh : ∀ nodes, highlighter.Gives parser nodes → ∀ t, fresh t nodes = (t, nodes)) (n : Node)
    (t : HighlightTrace σ) :
    AsksWithin highlighter n.blockRequests t (highlightWith highlighter parser fresh t n).1 := by
  induction n using blockInduction generalizing t with
  | root children ih =>
    rw [blockRequests_root, highlightWith]
    exact asksWithin_highlightAllWith ih t
  | block b ih =>
    have hself : AsksWithin highlighter [(b.language, b.source)] t
      (t.ask highlighter parser b.language b.source).1 := .ask
    rw [blockRequests_toNode, CodeBlock.toNode]
    cases hasked : (t.ask highlighter parser b.language b.source).2 with
    | none =>
      rw [highlightWith_failed b.highlightRequest?_children hasked]
      exact hself.append (asksWithin_highlightAllWith ih _)
    | some nodes =>
      have hnodes := hfresh nodes (HighlightTrace.gives_of_ask hasked)
      rw [highlightWith_block b.highlightRequest?_children hasked]
      exact hself.append (asksWithin_highlightAround hnodes ih _)
  | other tag attributes children hnot ih =>
    rw [blockRequests_other hnot, highlightWith_plain hnot]
    exact asksWithin_highlightAllWith ih t
  | leaf kind value => exact .refl

/-- If no markup of a highlighter has preformatted text in it, the highlighter goes from its state to
the one that it is left in by being asked for blocks of the tree, in pre-order and for none of them
twice, however many rounds are made. -/
theorem asksWithin_highlightCodeBlocksWith
    (h : ∀ nodes, highlighter.Gives parser nodes → "pre" ∉ tagsAll nodes) (rounds : Nat) (s : σ)
    (n : Node) :
    AsksWithin highlighter n.blockRequests ⟨s, []⟩
      (n.highlightCodeBlocksWith highlighter parser rounds s).1 :=
  asksWithin_highlightWith (fun nodes hnodes _ => highlightAll_eq_self (h nodes hnodes) rounds) n _

end Node

end Manuscript
