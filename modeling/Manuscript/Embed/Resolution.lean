import Manuscript.Document.Role
import Manuscript.Embed.Card

/-!
# Looking up embedded media

A paragraph that is nothing but a bare link, one whose text is its address, stands for the medium at
the address. The media of a document are looked up one after the other, and their paragraphs are
replaced by cards.

## Main definitions

* `Fetcher` — what looks up an address, with a state of its own
* `embedUrl?` — the address that a paragraph stands for
* `resolveEmbeds` — a document with its media looked up
-/

namespace Manuscript

/-- How the memory of earlier look-ups may be used. -/
structure FetchOptions where
  /-- Look up again what is known. -/
  updateCache : Bool := false
  /-- Do not use the memory at all. -/
  force : Bool := false
  deriving DecidableEq, Repr, Inhabited

/-- Why a look-up failed. -/
inductive EmbedError where
  /-- The provider could not be reached. -/
  | request (url reason : String)
  /-- The provider's answer is no metadata. -/
  | invalidResponse (url reason : String)
  deriving DecidableEq, Repr

/-- The wording of an error. -/
def EmbedError.message : EmbedError → String
  | .request url reason => "oEmbed request for " ++ url ++ " failed: " ++ reason
  | .invalidResponse url reason => "invalid oEmbed response for " ++ url ++ ": " ++ reason

/-- Looks up an address: the metadata of the medium, or nothing if there is none. -/
abbrev Fetcher (σ : Type) :=
  σ → (url : String) → FetchOptions → σ × Except EmbedError (Option EmbedMetadata)

namespace Embed

/-- The link that makes up the children of a paragraph, possibly in the element around links. -/
def soleAnchor? : List Node → Option Element
  | [only] =>
    only.anchor?.or do
      let span ← only.element?
      if span.tag = "span" && span.hasClass "inner-link" then
        match span.children with
        | [inner] => inner.anchor?
        | _ => none
      else none
  | _ => none

/-- The address of a link whose text is its address. -/
def bareAddress? (anchor : Element) : Option String := do
  let href ← anchor.attrString? "href"
  match anchor.children with
  | [.leaf .text value] => if value = href then some href else none
  | _ => none

/-- The address of the medium that a paragraph stands for. -/
def embedUrl? (n : Node) : Option String := do
  bareAddress? (← soleAnchor? (← n.paragraph?).children)

/-- Looks up the medium that a node stands for; the node stays if there is none. -/
def resolveNode {σ : Type} (fetch : Fetcher σ) (parser : MarkupParser) (options : FetchOptions)
    (s : σ × Log) (n : Node) : (σ × Log) × Node :=
  match embedUrl? n with
  | none => (s, n)
  | some url =>
    let (state, answer) := fetch s.1 url options
    match answer with
    | .ok (some metadata) =>
      ((state, s.2 ++ cardLog parser metadata), buildCard parser url metadata)
    | .ok none => ((state, s.2 ++ Log.debug ("no embed for " ++ url)), n)
    | .error e => ((state, s.2 ++ Log.warn e.message), n)

/-- Looks up the media that the children of a root stand for, in order. -/
def resolveEmbeds {σ : Type} (fetch : Fetcher σ) (parser : MarkupParser) (options : FetchOptions)
    (s : σ) : Node → (σ × Log) × Node
  | .root children =>
    let (s, children) := mapWithState (resolveNode fetch parser options) (s, []) children
    (s, .root children)
  | n => ((s, []), n)

end Embed

end Manuscript
