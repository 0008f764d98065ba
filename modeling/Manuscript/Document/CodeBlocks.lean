import Manuscript.Document.Role
import Manuscript.Document.Traversal
import Manuscript.Log
import Manuscript.Error
import Manuscript.Text.Escape
import Manuscript.Text.Unicode.LetterCase

/-!
# Blocks of code

A block of code is a `pre` element with a `code` element in it, whose class names the language. Blocks
are labelled with their language and may be highlighted: the highlighter gives markup, which is
parsed and put in the place of the code.

## Main definitions

* `Element.languageClass?` — the language of a code element
* `Node.tagCodeLanguages` — labels with the language
* `Highlighter`, `StatefulHighlighter` — what highlights code, without and with a state
* `plainTextHighlighter` — a highlighter that knows plain text only
* `Node.highlightCodeBlocksWith`, `Node.highlightCodeBlocks` — highlighting
-/

namespace Manuscript

/-- Gives the markup of a piece of code in a language, nothing for a language it does not know. -/
abbrev Highlighter := (language code : String) → Except RenderError (Option String)

/-- Gives the markup of a piece of code, with a state of its own. -/
abbrev StatefulHighlighter (σ : Type) :=
  σ → (language code : String) → σ × Except RenderError (Option String)

/-- A highlighter without a state, with a list of the languages and texts that it is given. -/
def Highlighter.recording (highlighter : Highlighter) :
    StatefulHighlighter (List (String × String)) :=
  fun requests language code => (requests ++ [(language, code)], highlighter language code)

/-- Knows plain text and no other language: all of the code is one span, or nothing if the code is
empty. The language is named by its file ending or by its full name, in any letter case. -/
def plainTextHighlighter : Highlighter := fun language source =>
  if Text.Unicode.toLower language = "txt" || Text.Unicode.toLower language = "plain text" then
    .ok (some (if source.isEmpty then ""
      else "<span class=\"syntax-text syntax-plain\">" ++ Text.escapeAttribute source ++ "</span>"))
  else .ok none

/-- What follows `language-` in the first token that begins so; `none` if nothing does. -/
def languageToken? (tokens : List String) : Option String :=
  (tokens.findSome? fun token => Text.stripPrefix "language-".toList token.toList).bind
    fun language => if language.isEmpty then none else some (String.ofList language)

/-- The language that the class of an element names. -/
def Element.languageClass? (e : Element) : Option String := languageToken? e.classes

/-- The language of an element: its own, or for preformatted text that of its code. -/
def Element.language? (e : Element) : Option String :=
  e.languageClass?.or (if e.isPre then e.codeChild?.bind Element.languageClass? else none)

/-- The attributes of a `pre` or `code` element with labels for its language. -/
def languageAttributes (e : Element) : Attributes :=
  match e.language? with
  | some language =>
    let attrs :=
      if e.isPre then
        e.attributes.insert "aria-label" (.text (Text.Unicode.toUpper language ++ " code block"))
      else e.attributes
    attrs.insert "data-lang" (.text language)
  | none => e.attributes

/-- Labels `pre` and `code` elements with their language. -/
def Node.tagCodeLanguages (n : Node) : Node :=
  n.mapAttributes (fun e => e.isPre || e.isCode) languageAttributes

/-! ### Highlighting -/

/-- What highlighting has done so far. -/
structure HighlightTrace (σ : Type) where
  /-- The state of the highlighter. -/
  state : σ
  /-- The records. -/
  log : Log := []

/-- A trace with the requests as its state. -/
abbrev RequestTrace := HighlightTrace (List (String × String))

/-- The language and the text that the children of a `pre` element give to a highlighter. Formulas
are none of its business. -/
def highlightRequest? (children : List Node) : Option (String × String) := do
  let code ← (Element.mk "pre" ∅ children).codeChild?
  let language ← code.languageClass?
  if language = "math" then none else some (language, code.textContent)

/-- The nodes in the answer of a highlighter. -/
def parsedHighlighting (parser : MarkupParser) :
    Except RenderError (Option String) → Except RenderError (Option (List Node))
  | .error e => .error e
  | .ok none => .ok none
  | .ok (some html) =>
    match parser.parseFragment html with
    | .error e => .error (.markup e)
    | .ok nodes => .ok (some nodes)

section Highlight

variable {σ : Type} (highlighter : StatefulHighlighter σ) (parser : MarkupParser)

/-- Asks for highlighted nodes and notes a failure. -/
def HighlightTrace.ask (t : HighlightTrace σ) (language source : String) :
    HighlightTrace σ × Option (List Node) :=
  let (state, answer) := highlighter t.state language source
  match parsedHighlighting parser answer with
  | .ok (some nodes) => (⟨state, t.log⟩, some nodes)
  | .ok none =>
    let record := Log.debug ("no syntax for `" ++ language ++ "`; block left plain")
    (⟨state, t.log ++ record⟩, none)
  | .error e => (⟨state, t.log ++ Log.warn ("code block left plain: " ++ e.message)⟩, none)

namespace Node

section Blocks

variable (fresh : HighlightTrace σ → List Node → HighlightTrace σ × List Node)

mutual

/-- Highlights the blocks of a tree, where `fresh` looks after the nodes that highlighting gave. -/
def highlightWith (t : HighlightTrace σ) : Node → HighlightTrace σ × Node
  | .root children =>
    let (t, children) := highlightAllWith t children
    (t, .root children)
  | .element tag attributes children =>
    match if tag = "pre" then highlightRequest? children else none with
    | none =>
      let (t, children) := highlightAllWith t children
      (t, .element tag attributes children)
    | some (language, source) =>
      let (t, nodes) := t.ask highlighter parser language source
      let (t, children) := match nodes with
        | some nodes => highlightAround nodes t children
        | none => highlightAllWith t children
      (t, .element tag (attributes.addClass ("language-" ++ language)) children)
  | .leaf kind value => (t, .leaf kind value)

/-- Highlights the blocks of trees that stand side by side. -/
def highlightAllWith (t : HighlightTrace σ) : List Node → HighlightTrace σ × List Node
  | [] => (t, [])
  | n :: rest =>
    let (t, n) := highlightWith t n
    let (t, rest) := highlightAllWith t rest
    (t, n :: rest)

/-- Puts highlighted nodes into the first code element among trees side by side, and goes on in all
of them. -/
def highlightAround (nodes : List Node) (t : HighlightTrace σ) :
    List Node → HighlightTrace σ × List Node
  | [] => (t, [])
  | .element "code" attributes _ :: rest =>
    let (t, nodes) := fresh t nodes
    let (t, rest) := highlightAllWith t rest
    (t, .element "code" attributes nodes :: rest)
  | n :: rest =>
    let (t, n) := highlightWith t n
    let (t, rest) := highlightAround nodes t rest
    (t, n :: rest)

end

end Blocks

/-- Highlights the blocks of trees side by side. Blocks in the nodes that highlighting gave are
highlighted too, up to `rounds` levels of them. -/
def highlightAll : (rounds : Nat) → HighlightTrace σ → List Node → HighlightTrace σ × List Node
  | 0, t, nodes => (t, nodes)
  | rounds + 1, t, nodes =>
    highlightAllWith highlighter parser (fun t ns => highlightAll rounds t ns) t nodes

/-- Highlights all blocks of code whose language a highlighter in a given state knows, and gives each
`pre` element the class of its code. Where highlighting fails, the text stays. -/
def highlightCodeBlocksWith (rounds : Nat) (s : σ) (n : Node) : HighlightTrace σ × Node :=
  highlightWith highlighter parser (fun t ns => highlightAll highlighter parser rounds t ns)
    ⟨s, []⟩ n

end Node

end Highlight

/-- Highlights all blocks of code whose language the highlighter knows. -/
def Node.highlightCodeBlocks (highlighter : Highlighter) (parser : MarkupParser) (rounds : Nat)
    (n : Node) : RequestTrace × Node :=
  n.highlightCodeBlocksWith highlighter.recording parser rounds []

end Manuscript
