import Manuscript.Document.Formulas
import Manuscript.Proofs.Document.Outermost

/-!
# Rendering formulas placeholder by placeholder

Rendering is the walk that replaces the outermost placeholders of a tree. It does not go on in what it
put in their place, so the renderer is asked for the formulas of the tree and for nothing else, whatever
the markup it gives looks like. As the renderer has a state, the state that it is left in tells what it
was asked, how often and in what order. A placeholder stays as it is if its markup cannot be had, and
nothing outside of placeholders is touched. A tree without placeholders stays, and nothing is rendered.

## Main definitions

* `StandsFor` — the placeholders and their formulas
* `RenderedFormula` — a formula of a tree and what becomes of it
* `Node.renderedFormulas` — the formulas of a tree in pre-order

## Main results

* `mathSource?_eq_some_iff` — which elements are placeholders
* `isWalk_renderMathFrom`, `rewrite_renderElement` — rendering as a rewriting walk
* `renderMathFrom_eq_replaceOutermost` — what rendering comes to
* `renderMath_eq_self` — a tree without placeholders
* `renderMath_spec` — what is asked for, and what becomes of the tree
* `exists_renderMath_eq` — a renderer without a state
-/

namespace Manuscript

/-- An element stands for a formula: code of class `math-inline` for one in a line, and preformatted
text whose only child is code of class `math-display` for one in a block of its own. -/
inductive StandsFor : Element → (tex : String) → (display : Bool) → Prop
  /-- The text of the code is a formula in a line. -/
  | inline {attributes : Attributes} {children : List Node}
      (h : "math-inline" ∈ attributes.classes) :
      StandsFor ⟨"code", attributes, children⟩ (Node.textContentAll children) false
  /-- The text of the code is a formula in a block. -/
  | block {attributes codeAttributes : Attributes} {children : List Node}
      (h : "math-display" ∈ codeAttributes.classes) :
      StandsFor ⟨"pre", attributes, [.element "code" codeAttributes children]⟩
        (Node.textContentAll children) true

/-- A formula of a tree and what becomes of it. -/
structure RenderedFormula where
  /-- Where the placeholder stands. -/
  place : List Nat
  /-- The placeholder. -/
  placeholder : Element
  /-- The formula. -/
  tex : String
  /-- Whether it is a block of its own. -/
  display : Bool
  /-- What the renderer gives for it. -/
  answer : Except RenderError String
  /-- What stands at the place afterwards. -/
  result : Node

/-- What becomes of a formula is what a parser makes of the answer to it. -/
structure RenderedFormula.RenderedBy (parser : MarkupParser) (f : RenderedFormula) : Prop where
  /-- The placeholder stands for the formula. -/
  standsFor : StandsFor f.placeholder f.tex f.display
  /-- Markup that can be read is put into an element of its own. -/
  replaced : ∀ html nodes, f.answer = .ok html → parser.parseFragment html = .ok nodes →
    f.result = .element (if f.display then "div" else "span")
      (Attributes.ofList
        [("class", .list ["math", if f.display then "math-display" else "math-inline"])]) nodes
  /-- The placeholder stays if there is no such markup. -/
  kept : (∀ html nodes, f.answer = .ok html → parser.parseFragment html ≠ .ok nodes) →
    f.result = f.placeholder.toNode

variable {σ : Type} {renderer : StatefulMathRenderer σ} {parser : MarkupParser} {t : MathTrace σ}
  {e : Element} {tag tex : String} {display : Bool} {attributes : Attributes}
  {children : List Node} {n : Node}

/-! ### Placeholders -/

/-- The elements whose formula is found are the placeholders. -/
theorem mathSource?_eq_some_iff :
    mathSource? tag attributes children = some (tex, display) ↔
      StandsFor ⟨tag, attributes, children⟩ tex display := by
  constructor
  · intro h
    unfold mathSource? at h
    split at h
    · rename_i hcode
      simp only [Bool.and_eq_true, decide_eq_true_eq, List.contains_iff_mem] at hcode
      obtain ⟨rfl, hclass⟩ := hcode
      cases h
      exact .inline hclass
    · split at h
      · rename_i htag
        subst htag
        split at h
        · split at h
          · rename_i hclass
            cases h
            exact .block (List.contains_iff_mem.mp hclass)
          · cases h
        · cases h
      · cases h
  · rintro (hclass | hclass)
    · simp [mathSource?, hclass]
    · simp [mathSource?, hclass]

/-- The formula that an element stands for. -/
def Element.formula? (e : Element) : Option (String × Bool) :=
  mathSource? e.tag e.attributes e.children

theorem formula?_eq_some_iff : e.formula? = some (tex, display) ↔ StandsFor e tex display :=
  mathSource?_eq_some_iff

theorem isSome_formula?_iff : e.formula?.isSome = true ↔ ∃ tex display, StandsFor e tex display := by
  simp only [Option.isSome_iff_exists, Prod.exists, formula?_eq_some_iff]

/-- An answer can be put in if it is markup that the parser reads. -/
theorem parsedAnswer_eq_ok_iff {answer : Except RenderError String} {nodes : List Node} :
    parsedAnswer parser answer = .ok nodes ↔
      ∃ html, answer = .ok html ∧ parser.parseFragment html = .ok nodes := by
  unfold parsedAnswer
  cases answer with
  | error e => simp
  | ok html => cases hparsed : parser.parseFragment html <;> simp [hparsed]

namespace MathTrace

/-- The renderer is asked once. -/
theorem state_render (placeholder : Node) :
    (t.render renderer parser tex display placeholder).1.state =
      (renderer t.state tex display).1 := by
  simp only [render]
  cases parsedAnswer parser (renderer t.state tex display).2 <;> rfl

/-- Asks for the formula that an element stands for. -/
def renderElement (renderer : StatefulMathRenderer σ) (parser : MarkupParser) (t : MathTrace σ)
    (e : Element) : MathTrace σ × Node :=
  match e.formula? with
  | some (tex, display) => t.render renderer parser tex display e.toNode
  | none => (t, e.toNode)

/-- Asks for the formula that an element at a place stands for. -/
def renderFormula (renderer : StatefulMathRenderer σ) (parser : MarkupParser) (t : MathTrace σ)
    (found : List Nat × Element) : MathTrace σ × RenderedFormula :=
  let (tex, display) := found.2.formula?.getD ("", false)
  let (next, result) := t.renderElement renderer parser found.2
  (next, ⟨found.1, found.2, tex, display, (renderer t.state tex display).2, result⟩)

/-- What becomes of a formula is what the parser makes of the answer. -/
theorem renderedBy_renderFormula {found : List Nat × Element}
    (h : found.2.formula?.isSome = true) :
    (t.renderFormula renderer parser found).2.RenderedBy parser := by
  obtain ⟨⟨tex, display⟩, hformula⟩ := Option.isSome_iff_exists.mp h
  simp only [renderFormula, renderElement, hformula, Option.getD_some]
  refine ⟨formula?_eq_some_iff.mp hformula, ?_, ?_⟩
  · intro html nodes hhtml hnodes
    have hparsed := parsedAnswer_eq_ok_iff.mpr ⟨html, hhtml, hnodes⟩
    simp only [render, hparsed, mathElement]
    cases display <;> rfl
  · intro hnone
    cases hparsed : parsedAnswer parser (renderer t.state tex display).2 with
    | ok nodes =>
      obtain ⟨html, hhtml, hnodes⟩ := parsedAnswer_eq_ok_iff.mp hparsed
      exact absurd hnodes (hnone html nodes hhtml)
    | error e => simp only [render, hparsed]

/-- The renderer goes from the state before a formula to the state behind it. -/
theorem renderFormula_state {found : List Nat × Element} (h : found.2.formula?.isSome = true) :
    (renderer t.state (t.renderFormula renderer parser found).2.tex
        (t.renderFormula renderer parser found).2.display) =
      ((t.renderFormula renderer parser found).1.state,
        (t.renderFormula renderer parser found).2.answer) := by
  obtain ⟨⟨tex, display⟩, hformula⟩ := Option.isSome_iff_exists.mp h
  simp only [renderFormula, renderElement, hformula, Option.getD_some, state_render]

end MathTrace

namespace Node

/-! ### The walk -/

theorem renderMathAll_eq (ns : List Node) :
    renderMathAll renderer parser t ns = mapWithState (renderMathFrom renderer parser) t ns := by
  induction ns generalizing t with
  | nil => rfl
  | cons n rest ih => simp only [renderMathAll, mapWithState, ih]

/-- Rendering replaces placeholders, and goes on in the children of all other nodes. -/
theorem isWalk_renderMathFrom (renderer : StatefulMathRenderer σ) (parser : MarkupParser) :
    IsWalk (replacer (·.formula?.isSome) (MathTrace.renderElement renderer parser))
      (renderMathFrom renderer parser) := by
  intro t n
  cases n with
  | root children =>
    rw [renderMathFrom, renderMathAll_eq]
    rfl
  | element tag attributes children =>
    have hown : Element.formula? ⟨tag, attributes, children⟩ =
        mathSource? tag attributes children := rfl
    cases h : mathSource? tag attributes children with
    | some formula =>
      rw [h] at hown
      simp only [renderMathFrom, replacer, element?, MathTrace.renderElement, h, hown,
        Option.isSome_some, if_true]
      rfl
    | none =>
      rw [h] at hown
      simp only [renderMathFrom, replacer, element?, h, hown, renderMathAll_eq,
        Option.isSome_none, Bool.false_eq_true, if_false]
      rfl
  | leaf kind value => rfl

/-- Rendering is rewriting with a callback that skips what it put in the place of a placeholder. -/
theorem rewrite_renderElement {depth : Nat}
    (h : (renderMathFrom renderer parser t n).2.depth ≤ depth) :
    rewrite (replacer (·.formula?.isSome) (MathTrace.renderElement renderer parser)) depth t n =
      renderMathFrom renderer parser t n :=
  (isWalk_renderMathFrom renderer parser).rewrite_eq t n h

/-- Rendering comes to replacing the outermost placeholders one after the other. -/
theorem renderMathFrom_eq_replaceOutermost (renderer : StatefulMathRenderer σ)
    (parser : MarkupParser) :
    renderMathFrom renderer parser =
      replaceOutermost (·.formula?.isSome) (MathTrace.renderElement renderer parser) :=
  (isWalk_renderMathFrom renderer parser).unique (isWalk_replaceOutermost _ _)

/-- A tree without placeholders stays, and nothing is rendered. -/
theorem renderMath_eq_self {renderer : MathRenderer} (n : Node)
    (h : ∀ e ∈ n.elements, mathSource? e.tag e.attributes e.children = none) :
    n.renderMath renderer parser = (⟨[], []⟩, n) := by
  have hnone : n.outermost (·.formula?.isSome) = [] := by
    rw [List.eq_nil_iff_forall_not_mem]
    rintro ⟨place, e⟩ hfound
    have houtermost := mem_outermost_iff.mp hfound
    have hmem := mem_elements_iff_exists_nodeAt?.mpr ⟨place, houtermost.nodeAt?_eq⟩
    exact absurd houtermost.isKind (by simp [Element.formula?, h e hmem])
  rw [renderMath, renderMathWith, renderMathFrom_eq_replaceOutermost, replaceOutermost, hnone]
  rfl

/-! ### The formulas of a tree -/

/-- The formulas of a tree in pre-order, and what becomes of each of them. -/
def renderedFormulas (renderer : StatefulMathRenderer σ) (parser : MarkupParser) (t : MathTrace σ)
    (n : Node) : List RenderedFormula :=
  (mapWithState (MathTrace.renderFormula renderer parser) t (n.outermost (·.formula?.isSome))).2

/-- They stand at the outermost placeholders. -/
theorem map_renderedFormulas (renderer : StatefulMathRenderer σ) (parser : MarkupParser)
    (t : MathTrace σ) (n : Node) :
    (n.renderedFormulas renderer parser t).map (fun f => (f.place, f.placeholder)) =
      n.outermost (·.formula?.isSome) := by
  rw [renderedFormulas, map_snd_mapWithState _ id (fun _ _ => rfl), List.map_id]

theorem mem_renderedFormulas_iff {place : List Nat} :
    (∃ f ∈ n.renderedFormulas renderer parser t, f.place = place ∧ f.placeholder = e) ↔
      n.IsOutermostAt (fun e => ∃ tex display, StandsFor e tex display) place e := by
  have hkind : (fun e : Element => ∃ tex display, StandsFor e tex display) =
      (·.formula?.isSome = true) :=
    funext fun e => propext isSome_formula?_iff.symm
  rw [hkind, ← mem_outermost_iff, ← map_renderedFormulas renderer parser t n]
  simp only [List.mem_map, Prod.mk.injEq]

theorem pairwise_renderedFormulas :
    (n.renderedFormulas renderer parser t).Pairwise
      fun f g => List.Lex (· < ·) f.place g.place := by
  have hpairwise := pairwise_outermost (·.formula?.isSome) n
  rw [← map_renderedFormulas renderer parser t n, List.pairwise_map] at hpairwise
  exact hpairwise

theorem renderedBy_of_mem_renderedFormulas {f : RenderedFormula}
    (h : f ∈ n.renderedFormulas renderer parser t) : f.RenderedBy parser := by
  obtain ⟨t, ⟨place, e⟩, hfound, rfl⟩ := exists_of_mem_snd_mapWithState h
  exact MathTrace.renderedBy_renderFormula (mem_outermost_iff.mp hfound).isKind

/-- Asking for several formulas one after the other is a run of the renderer on them. -/
theorem mapWithState_renderFormula (t : MathTrace σ) (found : List (List Nat × Element))
    (h : ∀ one ∈ found, one.2.formula?.isSome = true) :
    let rendered := mapWithState (MathTrace.renderFormula renderer parser) t found
    mapWithState (fun s f => renderer s f.tex f.display) t.state rendered.2 =
      (rendered.1.state, rendered.2.map (·.answer)) := by
  induction found generalizing t with
  | nil => rfl
  | cons first rest ih =>
    obtain ⟨hfirst, hrest⟩ := List.forall_mem_cons.mp h
    simp only [mapWithState, MathTrace.renderFormula_state hfirst, ih _ hrest, List.map_cons]

/-- Rendering asks for the formulas one after the other, and puts what becomes of each of them at its
place. -/
theorem renderMathFrom_eq (renderer : StatefulMathRenderer σ) (parser : MarkupParser)
    (t : MathTrace σ) (n : Node) :
    mapWithState (fun s f => renderer s f.tex f.display) t.state
        (n.renderedFormulas renderer parser t) =
      ((renderMathFrom renderer parser t n).1.state,
        (n.renderedFormulas renderer parser t).map (·.answer)) ∧
    (renderMathFrom renderer parser t n).2 =
      (n.renderedFormulas renderer parser t).foldl (fun n f => n.replaceAt f.place f.result) n := by
  have hfound : ∀ found ∈ n.outermost (·.formula?.isSome), found.2.formula?.isSome = true :=
    fun found hfound => (mem_outermost_iff.mp hfound).isKind
  -- the same pass with and without a note of the answers
  have hplaced := mapWithState_map (f := MathTrace.renderFormula renderer parser)
    (g := newAt (MathTrace.renderElement renderer parser)) id id
    (fun f : RenderedFormula => (f.place, f.result)) (fun _ _ => rfl) t
    (n.outermost (·.formula?.isSome))
  simp only [id_eq, List.map_id] at hplaced
  rw [renderMathFrom_eq_replaceOutermost, replaceOutermost, hplaced]
  refine ⟨mapWithState_renderFormula t _ hfound, ?_⟩
  rw [replaceEach, List.foldl_map]
  rfl

/-- Rendering goes through the outermost placeholders of a tree in pre-order, each of which is at one
place. The renderer, which may keep a state, is given their formulas one after the other and nothing
else: the state it is left in and its answers are those of a run on just these formulas. Each
placeholder is replaced by the markup of its answer in an element of its own, or stays if the markup
cannot be had or read, and the rest of the tree is as before. -/
theorem renderMath_spec (renderer : StatefulMathRenderer σ) (parser : MarkupParser) (s : σ)
    (n : Node) :
    ∃ formulas : List RenderedFormula,
      (∀ place e, (∃ f ∈ formulas, f.place = place ∧ f.placeholder = e) ↔
        n.IsOutermostAt (fun e => ∃ tex display, StandsFor e tex display) place e) ∧
      formulas.Pairwise (fun f g => List.Lex (· < ·) f.place g.place) ∧
      (∀ f ∈ formulas, f.RenderedBy parser) ∧
      mapWithState (fun s f => renderer s f.tex f.display) s formulas =
        ((n.renderMathWith renderer parser s).1.state, formulas.map (·.answer)) ∧
      (n.renderMathWith renderer parser s).2 =
        formulas.foldl (fun n f => n.replaceAt f.place f.result) n := by
  refine ⟨n.renderedFormulas renderer parser ⟨s, []⟩, ?_, pairwise_renderedFormulas, ?_, ?_⟩
  · intro place e
    exact mem_renderedFormulas_iff
  · intro f hf
    exact renderedBy_of_mem_renderedFormulas hf
  · exact renderMathFrom_eq renderer parser ⟨s, []⟩ n

/-- A run of a renderer without a state notes the formulas, and gives for each of them what it always
gives. -/
theorem mapWithState_recording (renderer : MathRenderer) (requests : List (String × Bool))
    (formulas : List RenderedFormula) :
    mapWithState (fun s f => renderer.recording s f.tex f.display) requests formulas =
      (requests ++ formulas.map (fun f => (f.tex, f.display)),
        formulas.map fun f => renderer f.tex f.display) := by
  induction formulas generalizing requests with
  | nil => simp [mapWithState]
  | cons f rest ih =>
    simp only [mapWithState, ih]
    simp [MathRenderer.recording]

/-- A renderer without a state is asked for the formulas of a tree in pre-order, and what becomes of
each of them depends on that formula alone. -/
theorem exists_renderMath_eq (renderer : MathRenderer) (parser : MarkupParser) (n : Node) :
    ∃ formulas : List RenderedFormula,
      formulas.map (fun f => (f.place, f.placeholder)) = n.outermost (·.formula?.isSome) ∧
      (∀ f ∈ formulas, f.answer = renderer f.tex f.display ∧ f.RenderedBy parser) ∧
      (n.renderMath renderer parser).1.state = formulas.map (fun f => (f.tex, f.display)) ∧
      (n.renderMath renderer parser).2 =
        formulas.foldl (fun n f => n.replaceAt f.place f.result) n := by
  obtain ⟨hrun, htree⟩ := renderMathFrom_eq renderer.recording parser ⟨[], []⟩ n
  rw [mapWithState_recording] at hrun
  obtain ⟨hrequests, hanswers⟩ := Prod.mk.inj hrun
  refine ⟨n.renderedFormulas renderer.recording parser ⟨[], []⟩, map_renderedFormulas _ _ _ n,
    ?_, hrequests.symm, htree⟩
  intro f hf
  exact ⟨(List.map_inj_left.mp hanswers f hf).symm, renderedBy_of_mem_renderedFormulas hf⟩

end Node

end Manuscript
