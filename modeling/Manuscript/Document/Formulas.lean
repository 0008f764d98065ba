import Manuscript.Document.Role
import Manuscript.Log
import Manuscript.Error

/-!
# Formulas

Formulas are placeholders at first: a `code` element of class `math-inline`, or a `pre` element whose
only child is a `code` element of class `math-display`. A renderer turns their text into markup, which
is parsed and takes their place. Where that fails the placeholder stays.

## Main definitions

* `MathRenderer`, `StatefulMathRenderer` — what renders formulas, without and with a state
* `mathSource?` — the text of a placeholder
* `Node.renderMathWith`, `Node.renderMath` — rendering of all placeholders
-/

namespace Manuscript

/-- Gives the markup of a formula, for a block of its own if `display`. -/
abbrev MathRenderer := (tex : String) → (display : Bool) → Except RenderError String

/-- Gives the markup of a formula, with a state of its own. -/
abbrev StatefulMathRenderer (σ : Type) :=
  σ → (tex : String) → (display : Bool) → σ × Except RenderError String

/-- A renderer without a state, with a list of the formulas that it is given. -/
def MathRenderer.recording (renderer : MathRenderer) :
    StatefulMathRenderer (List (String × Bool)) :=
  fun requests tex display => (requests ++ [(tex, display)], renderer tex display)

/-- What rendering formulas has done so far. -/
structure MathTrace (σ : Type) where
  /-- The state of the renderer. -/
  state : σ
  /-- The records. -/
  log : Log := []

/-- The text of the placeholder that an element is, and whether it is a block. -/
def mathSource? (tag : String) (attributes : Attributes) (children : List Node) :
    Option (String × Bool) :=
  if tag = "code" && attributes.classes.contains "math-inline" then
    some (Node.textContentAll children, false)
  else if tag = "pre" then
    match children with
    | [.element "code" codeAttributes inner] =>
      if codeAttributes.classes.contains "math-display" then
        some (Node.textContentAll inner, true)
      else none
    | _ => none
  else none

/-- The element of a rendered formula. -/
def mathElement (display : Bool) (nodes : List Node) : Node :=
  if display then
    .element "div" (Attributes.ofList [("class", .list ["math", "math-display"])]) nodes
  else .element "span" (Attributes.ofList [("class", .list ["math", "math-inline"])]) nodes

/-- The nodes in the answer of a renderer. -/
def parsedAnswer (parser : MarkupParser) :
    Except RenderError String → Except RenderError (List Node)
  | .error e => .error e
  | .ok html =>
    match parser.parseFragment html with
    | .error e => .error (.markup e)
    | .ok nodes => .ok nodes

section Math

variable {σ : Type} (renderer : StatefulMathRenderer σ) (parser : MarkupParser)

/-- Asks for a formula. Its markup takes the place of the placeholder, which stays where there is
none. -/
def MathTrace.render (t : MathTrace σ) (tex : String) (display : Bool) (placeholder : Node) :
    MathTrace σ × Node :=
  let (state, answer) := renderer t.state tex display
  match parsedAnswer parser answer with
  | .ok nodes => (⟨state, t.log⟩, mathElement display nodes)
  | .error e =>
    (⟨state, t.log ++ Log.warn ("math left as source: " ++ e.message)⟩, placeholder)

namespace Node

mutual

/-- Renders the formulas of a tree. -/
def renderMathFrom (t : MathTrace σ) : Node → MathTrace σ × Node
  | .root children =>
    let (t, children) := renderMathAll t children
    (t, .root children)
  | .element tag attributes children =>
    match mathSource? tag attributes children with
    | some (tex, display) => t.render renderer parser tex display (.element tag attributes children)
    | none =>
      let (t, children) := renderMathAll t children
      (t, .element tag attributes children)
  | .leaf kind value => (t, .leaf kind value)

/-- Renders the formulas of trees that stand side by side. -/
def renderMathAll (t : MathTrace σ) : List Node → MathTrace σ × List Node
  | [] => (t, [])
  | n :: rest =>
    let (t, n) := renderMathFrom t n
    let (t, rest) := renderMathAll t rest
    (t, n :: rest)

end

/-- Replaces every placeholder of a formula by what a renderer in a given state makes of it. -/
def renderMathWith (s : σ) (n : Node) : MathTrace σ × Node :=
  renderMathFrom renderer parser ⟨s, []⟩ n

end Node

end Math

/-- Replaces every placeholder of a formula by what the renderer makes of it. -/
def Node.renderMath (renderer : MathRenderer) (parser : MarkupParser) (n : Node) :
    MathTrace (List (String × Bool)) × Node :=
  n.renderMathWith renderer.recording parser []

end Manuscript
