import Manuscript.Markup.Parser
import Manuscript.Markup.Rules

/-!
# Reading HTML

HTML is read as a browser reads it: no text is refused, and what is malformed is mended by the rules
of tree construction. Scripts are taken to run, so the content of `noscript` is text.

## Main definitions

* `parseHtmlDocument`, `parseHtmlFragment` — the trees of a document and of a fragment
* `MarkupParser.html` — the parser
-/

namespace Manuscript.Markup

/-- Whether a section of character data may begin: within a vector image or a formula. -/
def Builder.allowsCharacterData (b : Builder) : Bool :=
  match b.stack with
  | [] => false
  | id :: rest => !(rest.isEmpty && b.fragment) && (b.draft.nameOf id).vocabulary ≠ .html

/-- Reads all tokens of a scanner into a tree; each of them takes at least one character, so `fuel` is
more than there are. A line feed is dropped only if it comes at once: neither behind what makes no token
nor as a reference that is not ended. -/
def build : (fuel : Nat) → Scanner → Builder → Builder
  | 0, _, b => b
  | fuel + 1, s, b =>
    let b := { b with skipLineFeed := b.skipLineFeed && !startsOpenReference s.input }
    match s.next b.allowsCharacterData with
    | (none, s) => build fuel s { b with skipLineFeed := false }
    | (some .eof, _) => (process .eof b).2
    | (some token, s) =>
      let b := (process token b).2
      build fuel (match b.switch with | some model => { s with model } | none => s) b

/-- Reads a text into a tree. -/
def buildText (text : String) (b : Builder) : Builder :=
  let s := Scanner.ofText text
  build (s.input.length + 2) s b

/-- The tree of a document, under a root. -/
def parseHtmlDocument (text : String) : Node :=
  let (document, draft) := (default : Draft).add { kind := .container }
  let b := buildText text { draft, document, fragment := false, mode := .initial }
  .root (b.draft.toNodes document)

/-- The nodes of a fragment, as they would stand in the body of a document. -/
def parseHtmlFragment (text : String) : List Node :=
  let (document, draft) := (default : Draft).add { kind := .container }
  let (root, draft) := draft.addElement ⟨.html, "html"⟩ []
  let draft := draft.append document root
  let b := buildText text { draft, document, fragment := true, mode := .inBody, stack := [root] }
  b.draft.toNodes root

end Manuscript.Markup

/-- The parser of HTML. It refuses nothing. -/
def Manuscript.MarkupParser.html : Manuscript.MarkupParser where
  parseDocument text := .ok (Manuscript.Markup.parseHtmlDocument text)
  parseFragment text := .ok (Manuscript.Markup.parseHtmlFragment text)
