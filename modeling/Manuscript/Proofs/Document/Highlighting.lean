import Manuscript.Proofs.Document.CodeBlocks

/-!
# What highlighting asks for and what it gives

A block is preformatted text with a code element in it that names a language. Its first code element
cuts its children in two. Highlighting asks for each block that it comes to, puts what it gets into
the code of the block, and goes on before and behind the code; where it gets nothing, it goes on in
the code as well. What it makes of a tree does not depend on what was done before, which it only adds
to. So both its requests and its result can be had from those of the children.

## Main definitions

* `CodeBlock` — preformatted text, cut at its code
* `highlightedNodes?` — what there is to be put into the code of a block
* `Node.highlightResult`, `Node.highlightRequests` — what highlighting makes of one tree, and what it
  asks for
* `CodeBlock.highlight` — the block that it makes of a block

## Main results

* `highlightRequest?_eq_some_iff` — which elements are blocks
* `Node.blockInduction` — induction on trees that tells blocks from other elements
* `yields_root`, `yields_other`, `yields_toNode_of_some`, `yields_toNode_of_none` — requests and
  results, from those of the children
* `isRegular_of_addsRequests` — what was done before does not matter
* `CodeBlock.highlightResult_toNode` — highlighting makes a block of a block
-/

namespace Manuscript

/-- A block of code: preformatted text, cut at the first code element in it, whose language is none of
formulas. -/
@[ext]
structure CodeBlock where
  /-- The attributes of the preformatted text. -/
  attributes : Attributes
  /-- What stands before the code. -/
  before : List Node
  /-- The attributes of the code. -/
  codeAttributes : Attributes
  /-- What stands in the code. -/
  inner : List Node
  /-- What stands behind the code. -/
  after : List Node
  /-- The language of the code. -/
  language : String
  /-- The code element is the first one. -/
  not_code : ∀ n ∈ before, n.hasTag "code" = false
  /-- The language is named by the class of the code. -/
  language_eq : languageToken? codeAttributes.classes = some language
  /-- The code is no formula. -/
  not_math : language ≠ "math"

namespace CodeBlock

/-- The code element of a block with other nodes in it. -/
def code (b : CodeBlock) (nodes : List Node) : Node := .element "code" b.codeAttributes nodes

/-- The children of a block. -/
def children (b : CodeBlock) : List Node := b.before ++ b.code b.inner :: b.after

/-- The tree of a block. -/
def toNode (b : CodeBlock) : Node := .element "pre" b.attributes b.children

/-- The text of the code. -/
def source (b : CodeBlock) : String := Node.textContentAll b.inner

/-- The class that names the language. -/
def languageClass (b : CodeBlock) : String := "language-" ++ b.language

/-- The block of a text, with nothing else in it. -/
def ofText (codeAttributes : Attributes) (language text : String)
    (language_eq : languageToken? codeAttributes.classes = some language)
    (not_math : language ≠ "math") : CodeBlock where
  attributes := ∅
  before := []
  codeAttributes := codeAttributes
  inner := [.text text]
  after := []
  language := language
  not_code := fun _ h => absurd h List.not_mem_nil
  language_eq := language_eq
  not_math := not_math

end CodeBlock

/-- The nodes that there are to be put in the place of a text. -/
def highlightedNodes? (highlighter : Highlighter) (parser : MarkupParser)
    (language source : String) : Option (List Node) :=
  match highlighted highlighter parser language source with
  | .ok nodes => nodes
  | .error _ => none

theorem highlightedNodes?_eq_some_iff {highlighter : Highlighter} {parser : MarkupParser}
    {language source : String} {nodes : List Node} :
    highlightedNodes? highlighter parser language source = some nodes ↔
      highlighted highlighter parser language source = .ok (some nodes) := by
  unfold highlightedNodes?
  split
  · rename_i h
    rw [h, Except.ok.injEq]
  · rename_i h
    simp [h]

/-- What a computation gives does not depend on what was done before, to which it only adds. -/
structure AddsRequests {α β : Type} (f : RequestTrace → α → RequestTrace × β) : Prop where
  /-- It adds the requests that it makes anyway. -/
  requests_eq : ∀ t a, (f t a).1.state = t.state ++ (f ⟨[], []⟩ a).1.state
  /-- It gives what it gives anyway. -/
  snd_eq : ∀ t a, (f t a).2 = (f ⟨[], []⟩ a).2

variable {highlighter : Highlighter} {parser : MarkupParser}
  {fresh : RequestTrace → List Node → RequestTrace × List Node} {t : RequestTrace}
  {tag language source : String} {attributes : Attributes} {children ns nodes : List Node}

/-! ### Blocks -/

theorem code?_eq_none_iff {n : Node} :
    n.element?.filter Element.isCode = none ↔ n.hasTag "code" = false := by
  cases n with
  | element tag attributes children => simp [Node.element?, Node.hasTag, Element.isCode]
  | root children => simp [Node.element?, Node.hasTag]
  | leaf kind value => simp [Node.element?, Node.hasTag]

/-- The first code element cuts the children of an element in two. -/
theorem codeChild?_eq_some_iff {e code : Element} :
    e.codeChild? = some code ↔
      ∃ before after, e.children = before ++ .element "code" code.attributes code.children :: after ∧
        code.tag = "code" ∧ ∀ n ∈ before, n.hasTag "code" = false := by
  simp only [Element.codeChild?, List.findSome?_eq_some_iff, Option.filter_eq_some_iff,
    Node.element?_eq_some_iff, code?_eq_none_iff, Element.isCode, decide_eq_true_eq]
  constructor
  · rintro ⟨before, n, after, hchildren, ⟨rfl, htag⟩, hbefore⟩
    exact ⟨before, after, by rw [hchildren, Element.toNode, htag], htag, hbefore⟩
  · rintro ⟨before, after, hchildren, htag, hbefore⟩
    exact ⟨before, code.toNode, after, by rw [hchildren, Element.toNode, htag], ⟨rfl, htag⟩, hbefore⟩

theorem CodeBlock.codeChild?_eq (b : CodeBlock) (tag : String) (attributes : Attributes) :
    (Element.mk tag attributes b.children).codeChild? =
      some ⟨"code", b.codeAttributes, b.inner⟩ :=
  codeChild?_eq_some_iff.mpr ⟨b.before, b.after, rfl, rfl, b.not_code⟩

/-- There is a request for the children of blocks, and for no others. -/
theorem highlightRequest?_eq_some_iff (attributes : Attributes) :
    highlightRequest? children = some (language, source) ↔
      ∃ b : CodeBlock, b.attributes = attributes ∧ b.children = children ∧
        b.language = language ∧ b.source = source := by
  constructor
  · intro h
    obtain ⟨code, hcode, h⟩ := Option.bind_eq_some_iff.mp h
    obtain ⟨found, hfound, h⟩ := Option.bind_eq_some_iff.mp h
    obtain ⟨before, after, hchildren, htag, hbefore⟩ := codeChild?_eq_some_iff.mp hcode
    split at h
    · cases h
    · rename_i hmath
      obtain ⟨rfl, rfl⟩ := Prod.mk.inj (Option.some.inj h)
      exact ⟨⟨attributes, before, code.attributes, code.children, after, found, hbefore, hfound,
        hmath⟩, rfl, hchildren.symm, rfl, rfl⟩
  · rintro ⟨b, -, rfl, rfl, rfl⟩
    rw [highlightRequest?, b.codeChild?_eq]
    have hlanguage : Element.languageClass? ⟨"code", b.codeAttributes, b.inner⟩ = some b.language :=
      b.language_eq
    simp only [Option.bind_eq_bind, Option.bind_some, hlanguage, if_neg b.not_math]
    rfl

theorem CodeBlock.highlightRequest?_children (b : CodeBlock) :
    highlightRequest? b.children = some (b.language, b.source) :=
  (highlightRequest?_eq_some_iff b.attributes).mpr ⟨b, rfl, rfl, rfl, rfl⟩

/-! ### Requests -/

theorem HighlightTrace.requests_ask :
    (t.ask highlighter.recording parser language source).1.state =
      t.state ++ [(language, source)] := by
  simp only [ask]
  split <;> rfl

theorem HighlightTrace.snd_ask :
    (t.ask highlighter.recording parser language source).2 =
      highlightedNodes? highlighter parser language source := by
  simp only [ask, highlightedNodes?, highlighted, Highlighter.recording]
  rcases parsedHighlighting parser (highlighter language source) with e | ⟨- | nodes⟩ <;> rfl

namespace Node

/-- Induction on trees that tells blocks from other elements. -/
@[elab_as_elim]
theorem blockInduction {motive : Node → Prop}
    (root : ∀ children, (∀ child ∈ children, motive child) → motive (.root children))
    (block : ∀ b : CodeBlock, (∀ child ∈ b.children, motive child) → motive b.toNode)
    (other : ∀ tag attributes children, (tag = "pre" → highlightRequest? children = none) →
      (∀ child ∈ children, motive child) → motive (.element tag attributes children))
    (leaf : ∀ kind value, motive (.leaf kind value)) (n : Node) : motive n := by
  induction n using inductionOn with
  | root children ih => exact root children ih
  | element tag attributes children ih =>
    by_cases h : tag = "pre" → highlightRequest? children = none
    · exact other tag attributes children h ih
    · -- the request says where the code is
      obtain ⟨rfl, hrequest⟩ := Classical.not_imp.mp h
      obtain ⟨⟨language, source⟩, hrequest⟩ := Option.ne_none_iff_exists'.mp hrequest
      obtain ⟨b, rfl, rfl, -, -⟩ := (highlightRequest?_eq_some_iff attributes).mp hrequest
      exact block b ih
  | leaf kind value => exact leaf kind value

variable (highlighter) (parser) (fresh)

/-- What highlighting makes of a tree. -/
def highlightResult (n : Node) : Node := (highlightWith highlighter.recording parser fresh ⟨[], []⟩ n).2

/-- What highlighting a tree asks for. -/
def highlightRequests (n : Node) : List (String × String) :=
  (highlightWith highlighter.recording parser fresh ⟨[], []⟩ n).1.state

/-- Highlighting a tree adds some requests and gives a result, whatever was done before. -/
def Yields (n : Node) (requests : List (String × String)) (result : Node) : Prop :=
  ∀ t, (highlightWith highlighter.recording parser fresh t n).1.state = t.state ++ requests ∧
    (highlightWith highlighter.recording parser fresh t n).2 = result

/-- Highlighting a tree adds its requests and gives its result, whatever was done before. -/
def IsRegular (n : Node) : Prop :=
  n.Yields highlighter parser fresh (n.highlightRequests highlighter parser fresh)
    (n.highlightResult highlighter parser fresh)

variable {highlighter} {parser} {fresh} {requests : List (String × String)} {n result : Node}
  {b : CodeBlock}

theorem Yields.eq (h : n.Yields highlighter parser fresh requests result) :
    n.highlightRequests highlighter parser fresh = requests ∧
      n.highlightResult highlighter parser fresh = result :=
  h ⟨[], []⟩

theorem Yields.isRegular (h : n.Yields highlighter parser fresh requests result) :
    n.IsRegular highlighter parser fresh := by
  rw [IsRegular, h.eq.1, h.eq.2]
  exact h

/-! ### Trees side by side -/

theorem highlightAllWith_of_isRegular (h : ∀ n ∈ ns, n.IsRegular highlighter parser fresh)
    (t : RequestTrace) :
    (highlightAllWith highlighter.recording parser fresh t ns).1.state =
        t.state ++ ns.flatMap (·.highlightRequests highlighter parser fresh) ∧
      (highlightAllWith highlighter.recording parser fresh t ns).2 =
        ns.map (·.highlightResult highlighter parser fresh) := by
  induction ns generalizing t with
  | nil => exact ⟨(List.append_nil _).symm, rfl⟩
  | cons n rest ih =>
    obtain ⟨hfirst, hrest⟩ := List.forall_mem_cons.mp h
    obtain ⟨hrequests, hresult⟩ := ih hrest (highlightWith highlighter.recording parser fresh t n).1
    simp only [highlightAllWith, List.flatMap_cons, List.map_cons]
    rw [hrequests, hresult, (hfirst t).1, (hfirst t).2, List.append_assoc]
    exact ⟨rfl, rfl⟩

/-- The children of a block whose code takes highlighted nodes. -/
theorem highlightAround_of_isRegular (hfresh : AddsRequests fresh) (nodes : List Node)
    (hbefore : ∀ n ∈ b.before, n.IsRegular highlighter parser fresh)
    (hafter : ∀ n ∈ b.after, n.IsRegular highlighter parser fresh) (t : RequestTrace) :
    (highlightAround highlighter.recording parser fresh nodes t b.children).1.state =
        t.state ++ (b.before.flatMap (·.highlightRequests highlighter parser fresh) ++
          ((fresh ⟨[], []⟩ nodes).1.state ++
            b.after.flatMap (·.highlightRequests highlighter parser fresh))) ∧
      (highlightAround highlighter.recording parser fresh nodes t b.children).2 =
        b.before.map (·.highlightResult highlighter parser fresh) ++
          b.code (fresh ⟨[], []⟩ nodes).2 ::
            b.after.map (·.highlightResult highlighter parser fresh) := by
  -- the induction is on what stands before the code, none of which is code
  have hcut := b.not_code
  rw [CodeBlock.children]
  generalize b.before = before at hcut hbefore ⊢
  induction before generalizing t with
  | nil =>
    obtain ⟨hrequests, hresult⟩ := highlightAllWith_of_isRegular hafter (fresh t nodes).1
    rw [List.nil_append, CodeBlock.code, highlightAround_code]
    simp only [List.flatMap_nil, List.map_nil, List.nil_append]
    rw [hrequests, hresult, hfresh.requests_eq t, hfresh.snd_eq t, List.append_assoc]
    exact ⟨rfl, rfl⟩
  | cons n rest ih =>
    obtain ⟨hfirst, hrest⟩ := List.forall_mem_cons.mp hbefore
    obtain ⟨hnot, hnots⟩ := List.forall_mem_cons.mp hcut
    obtain ⟨hrequests, hresult⟩ := ih (highlightWith highlighter.recording parser fresh t n).1 hnots hrest
    rw [List.cons_append, highlightAround_other hnot]
    simp only [List.flatMap_cons, List.map_cons, List.cons_append]
    rw [hrequests, hresult, (hfirst t).1, (hfirst t).2, List.append_assoc, List.append_assoc]
    exact ⟨rfl, rfl⟩

/-! ### One tree -/

theorem yields_root (h : ∀ child ∈ children, child.IsRegular highlighter parser fresh) :
    (root children).Yields highlighter parser fresh
      (children.flatMap (·.highlightRequests highlighter parser fresh))
      (.root (children.map (·.highlightResult highlighter parser fresh))) := by
  intro t
  obtain ⟨hrequests, hresult⟩ := highlightAllWith_of_isRegular h t
  rw [highlightWith]
  exact ⟨hrequests, congrArg root hresult⟩

theorem yields_other (hnot : tag = "pre" → highlightRequest? children = none)
    (h : ∀ child ∈ children, child.IsRegular highlighter parser fresh) :
    (element tag attributes children).Yields highlighter parser fresh
      (children.flatMap (·.highlightRequests highlighter parser fresh))
      (.element tag attributes (children.map (·.highlightResult highlighter parser fresh))) := by
  intro t
  obtain ⟨hrequests, hresult⟩ := highlightAllWith_of_isRegular h t
  rw [highlightWith_plain hnot]
  exact ⟨hrequests, congrArg (element tag attributes) hresult⟩

/-- A block whose code takes highlighted nodes. -/
theorem yields_toNode_of_some (hfresh : AddsRequests fresh)
    (hnodes : highlightedNodes? highlighter parser b.language b.source = some nodes)
    (h : ∀ child ∈ b.children, child.IsRegular highlighter parser fresh) :
    b.toNode.Yields highlighter parser fresh
      ((b.language, b.source) ::
        (b.before.flatMap (·.highlightRequests highlighter parser fresh) ++
          ((fresh ⟨[], []⟩ nodes).1.state ++
            b.after.flatMap (·.highlightRequests highlighter parser fresh))))
      (.element "pre" (b.attributes.addClass b.languageClass)
        (b.before.map (·.highlightResult highlighter parser fresh) ++
          b.code (fresh ⟨[], []⟩ nodes).2 ::
            b.after.map (·.highlightResult highlighter parser fresh))) := by
  intro t
  have hbefore : ∀ n ∈ b.before, n.IsRegular highlighter parser fresh :=
    fun n hn => h n (List.mem_append_left _ hn)
  have hafter : ∀ n ∈ b.after, n.IsRegular highlighter parser fresh :=
    fun n hn => h n (List.mem_append_right _ (List.mem_cons_of_mem _ hn))
  have hasked := HighlightTrace.snd_ask (t := t).trans hnodes
  obtain ⟨hrequests, hresult⟩ := highlightAround_of_isRegular hfresh nodes hbefore hafter
    (t.ask highlighter.recording parser b.language b.source).1
  rw [HighlightTrace.requests_ask, List.append_assoc] at hrequests
  rw [CodeBlock.toNode, highlightWith_block b.highlightRequest?_children hasked]
  exact ⟨hrequests, congrArg (element "pre" _) hresult⟩

/-- A block for which there are no highlighted nodes. -/
theorem yields_toNode_of_none
    (hnodes : highlightedNodes? highlighter parser b.language b.source = none)
    (h : ∀ child ∈ b.children, child.IsRegular highlighter parser fresh) :
    b.toNode.Yields highlighter parser fresh
      ((b.language, b.source) ::
        b.children.flatMap (·.highlightRequests highlighter parser fresh))
      (.element "pre" (b.attributes.addClass b.languageClass)
        (b.children.map (·.highlightResult highlighter parser fresh))) := by
  intro t
  have hasked := HighlightTrace.snd_ask (t := t).trans hnodes
  obtain ⟨hrequests, hresult⟩ := highlightAllWith_of_isRegular h
    (t.ask highlighter.recording parser b.language b.source).1
  rw [HighlightTrace.requests_ask, List.append_assoc] at hrequests
  rw [CodeBlock.toNode, highlightWith_failed b.highlightRequest?_children hasked]
  exact ⟨hrequests, congrArg (element "pre" _) hresult⟩

/-- What was done before does not matter for any tree. -/
theorem isRegular_of_addsRequests (hfresh : AddsRequests fresh) (n : Node) :
    n.IsRegular highlighter parser fresh := by
  induction n using blockInduction with
  | root children ih => exact (yields_root ih).isRegular
  | block b ih =>
    cases hnodes : highlightedNodes? highlighter parser b.language b.source with
    | some nodes => exact (yields_toNode_of_some hfresh hnodes ih).isRegular
    | none => exact (yields_toNode_of_none hnodes ih).isRegular
  | other tag attributes children hnot ih => exact (yields_other hnot ih).isRegular
  | leaf kind value => exact fun t => ⟨(List.append_nil _).symm, rfl⟩

end Node

theorem AddsRequests.isRegular (hfresh : AddsRequests fresh) (ns : List Node) :
    ∀ n ∈ ns, n.IsRegular highlighter parser fresh :=
  fun n _ => Node.isRegular_of_addsRequests hfresh n

namespace Node

theorem addsRequests_highlightAllWith (hfresh : AddsRequests fresh) :
    AddsRequests (highlightAllWith highlighter.recording parser fresh) := by
  constructor
  · intro t ns
    rw [(highlightAllWith_of_isRegular (hfresh.isRegular ns) t).1,
      (highlightAllWith_of_isRegular (hfresh.isRegular ns) ⟨[], []⟩).1]
    rfl
  · intro t ns
    rw [(highlightAllWith_of_isRegular (hfresh.isRegular ns) t).2,
      (highlightAllWith_of_isRegular (hfresh.isRegular ns) ⟨[], []⟩).2]

/-- Nor does it for trees in highlighted nodes, however many rounds are made. -/
theorem addsRequests_highlightAll (rounds : Nat) :
    AddsRequests (highlightAll highlighter.recording parser rounds) := by
  induction rounds with
  | zero => exact ⟨fun _ _ => (List.append_nil _).symm, fun _ _ => rfl⟩
  | succ rounds ih => exact addsRequests_highlightAllWith ih

/-! ### What becomes of a block -/

theorem hasTag_highlightResult (n : Node) :
    (n.highlightResult highlighter parser fresh).hasTag tag = n.hasTag tag := by
  cases n with
  | root children => rfl
  | element _ attributes children =>
    rw [highlightResult, highlightWith]
    split <;> rfl
  | leaf kind value => rfl

theorem highlightResult_root (hfresh : AddsRequests fresh) :
    (root children).highlightResult highlighter parser fresh =
      .root (children.map (·.highlightResult highlighter parser fresh)) :=
  (yields_root (hfresh.isRegular children)).eq.2

theorem highlightResult_other (hfresh : AddsRequests fresh)
    (hnot : tag = "pre" → highlightRequest? children = none) :
    (element tag attributes children).highlightResult highlighter parser fresh =
      .element tag attributes (children.map (·.highlightResult highlighter parser fresh)) :=
  (yields_other hnot (hfresh.isRegular children)).eq.2

theorem highlightResult_code (hfresh : AddsRequests fresh) :
    (element "code" attributes children).highlightResult highlighter parser fresh =
      .element "code" attributes (children.map (·.highlightResult highlighter parser fresh)) :=
  highlightResult_other hfresh fun h => absurd h (by decide)

end Node

namespace CodeBlock

open Node

section Highlight

variable (highlighter) (parser) (fresh)

/-- The block that highlighting makes of a block. -/
def highlight (b : CodeBlock) : CodeBlock where
  attributes := b.attributes.addClass b.languageClass
  before := b.before.map (·.highlightResult highlighter parser fresh)
  codeAttributes := b.codeAttributes
  inner := match highlightedNodes? highlighter parser b.language b.source with
    | some nodes => (fresh ⟨[], []⟩ nodes).2
    | none => b.inner.map (·.highlightResult highlighter parser fresh)
  after := b.after.map (·.highlightResult highlighter parser fresh)
  language := b.language
  not_code := by
    rw [List.forall_mem_map]
    exact fun n hn => (hasTag_highlightResult n).trans (b.not_code n hn)
  language_eq := b.language_eq
  not_math := b.not_math

end Highlight

variable {b : CodeBlock} {i : Nat}

theorem inner_highlight_of_some
    (hnodes : highlightedNodes? highlighter parser b.language b.source = some nodes) :
    (b.highlight highlighter parser fresh).inner = (fresh ⟨[], []⟩ nodes).2 := by
  simp only [highlight, hnodes]

theorem inner_highlight_of_none
    (hnodes : highlightedNodes? highlighter parser b.language b.source = none) :
    (b.highlight highlighter parser fresh).inner =
      b.inner.map (·.highlightResult highlighter parser fresh) := by
  simp only [highlight, hnodes]

/-- The children of a block for which there are no highlighted nodes are highlighted. -/
theorem children_highlight_of_none (hfresh : AddsRequests fresh)
    (hnodes : highlightedNodes? highlighter parser b.language b.source = none) :
    (b.highlight highlighter parser fresh).children =
      b.children.map (·.highlightResult highlighter parser fresh) := by
  rw [children, inner_highlight_of_none hnodes, children, List.map_append, List.map_cons,
    code, code, highlightResult_code hfresh]
  rfl

theorem getElem?_children_length (b : CodeBlock) :
    b.children[b.before.length]? = some (b.code b.inner) := by
  simp [children]

/-- The code takes the highlighted nodes. -/
theorem getElem?_children_highlight_of_some
    (hnodes : highlightedNodes? highlighter parser b.language b.source = some nodes) :
    (b.highlight highlighter parser fresh).children[b.before.length]? =
      some (b.code (fresh ⟨[], []⟩ nodes).2) := by
  -- what stands before the code is as long as it was
  have hcode := (b.highlight highlighter parser fresh).getElem?_children_length
  have hlength : (b.highlight highlighter parser fresh).before.length = b.before.length :=
    List.length_map _
  rw [inner_highlight_of_some hnodes, hlength] at hcode
  exact hcode

/-- In any block the children other than the code are highlighted. -/
theorem getElem?_children_highlight (hi : i ≠ b.before.length) :
    (b.highlight highlighter parser fresh).children[i]? =
      b.children[i]?.map (·.highlightResult highlighter parser fresh) := by
  rw [← List.getElem?_map]
  simp only [children, highlight, List.map_append, List.map_cons]
  have hlength : i ≠ (b.before.map (·.highlightResult highlighter parser fresh)).length := by
    rwa [List.length_map]
  grind

/-- Highlighting makes a block of a block. -/
theorem highlightResult_toNode (hfresh : AddsRequests fresh) (b : CodeBlock) :
    b.toNode.highlightResult highlighter parser fresh =
      (b.highlight highlighter parser fresh).toNode := by
  cases hnodes : highlightedNodes? highlighter parser b.language b.source with
  | some nodes =>
    rw [(yields_toNode_of_some hfresh hnodes (hfresh.isRegular b.children)).eq.2, toNode, children,
      inner_highlight_of_some hnodes]
    rfl
  | none =>
    rw [(yields_toNode_of_none hnodes (hfresh.isRegular b.children)).eq.2, toNode,
      children_highlight_of_none hfresh hnodes]
    rfl

end CodeBlock

end Manuscript
