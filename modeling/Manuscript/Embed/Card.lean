import Manuscript.Document.Traversal
import Manuscript.Embed.Metadata
import Manuscript.Log
import Manuscript.Markup.Parser
import Manuscript.Number.Shortest

/-!
# Cards of embedded media

A card shows a medium: its markup, with every frame in a box of the right proportions, or its cover,
and a caption that names its source.

## Main definitions

* `aspectRatio` — the proportions of a frame
* `cardBody` — the nodes of the markup
* `buildCard` — the whole card
-/

namespace Manuscript.Embed

/-- The proportions of a frame whose size is not known. -/
def defaultAspectRatio : String := "1.69"

/-- The text of a size: an integer without a fraction, within 64 bits, else the shortest text. -/
def dimensionText (x : Binary64) : String :=
  if x.isIntegral then toString x.toInt64 else x.toText

/-- The size in an attribute of an element. -/
def attributeDimension? (e : Element) (name : String) : Option Binary64 :=
  (e.attrString? name).bind fun text => Binary64.ofText? (Text.trimmed text)

/-- The proportions of a frame: its own size goes before that in the metadata. -/
def aspectRatio (frame : Element) (metadata : EmbedMetadata) : String :=
  let width := (attributeDimension? frame "width").or metadata.width
  let height := (attributeDimension? frame "height").or metadata.height
  match width, height with
  | some w, some h =>
    if w.isPositive && h.isPositive then dimensionText w ++ "/" ++ dimensionText h
    else defaultAspectRatio
  | _, _ => defaultAspectRatio

/-- A node of the markup, in a box of its proportions if it is a frame. -/
def boxFrame (metadata : EmbedMetadata) (n : Node) : Node :=
  match n.element? with
  | some frame =>
    if frame.tag = "iframe" then
      .element "div"
        (Attributes.ofList [("class", .list ["oembed-frame"]),
          ("style", .text ("aspect-ratio: " ++ aspectRatio frame metadata))])
        [frame]
    else n
  | none => n

/-- The markup that a card shows: only videos and rich media have some. -/
def cardMarkup? (metadata : EmbedMetadata) : Option String :=
  match metadata.kind with
  | .video | .rich => metadata.html
  | _ => none

/-- The children of the first `body` in a document. -/
def bodyChildren (document : Node) : List Node :=
  ((document.findFirst? (Node.hasTag "body")).map Node.children).getD []

/-- The nodes of the markup of a card; none if it has none or cannot be read. -/
def cardBody (parser : MarkupParser) (metadata : EmbedMetadata) : List Node :=
  match cardMarkup? metadata with
  | none => []
  | some html =>
    match parser.parseDocument html with
    | .ok document => (bodyChildren document).map (boxFrame metadata)
    | .error _ => []

/-- The record of markup that could not be read. -/
def cardLog (parser : MarkupParser) (metadata : EmbedMetadata) : Log :=
  match cardMarkup? metadata with
  | none => []
  | some html =>
    match parser.parseDocument html with
    | .ok _ => []
    | .error e => Log.warn ("embed markup ignored: " ++ e.message)

/-- An attribute with the text of a size, if there is one. -/
def dimensionAttribute (name : String) (size : Option Binary64) (attrs : Attributes) : Attributes :=
  match size with
  | some x => attrs.insert name (.text (dimensionText x))
  | none => attrs

/-- The preview image of a card. -/
def coverImage (src : String) (metadata : EmbedMetadata) : Node :=
  let attrs := Attributes.ofList [
    ("class", .list ["oembed-cover"]), ("src", .text src),
    ("alt", .text (metadata.title.getD ""))]
  let attrs := dimensionAttribute "width" metadata.thumbnailWidth attrs
  .element "img" (dimensionAttribute "height" metadata.thumbnailHeight attrs) []

/-- The preview image of rich media. -/
def cover (metadata : EmbedMetadata) : List Node :=
  match metadata.kind, metadata.thumbnailUrl with
  | .rich, some src => [coverImage src metadata]
  | _, _ => []

/-- Whether a whole card is one link: rich media with markup. -/
def isLinkedCard (metadata : EmbedMetadata) : Bool :=
  metadata.kind = .rich && metadata.html.isSome

/-- The source of a card: the name of the provider within a link, else a link to the medium. -/
def citation (url : String) (metadata : EmbedMetadata) : Node :=
  if isLinkedCard metadata then
    .element "cite" ∅ [.text (metadata.providerName.getD url)]
  else
    .element "cite" ∅ [.element "a" (Attributes.ofList [("href", .text url)]) [.text url]]

/-- The title below a card. -/
def titleLine (metadata : EmbedMetadata) : List Node :=
  match metadata.title with
  | some title =>
    if title.isEmpty then []
    else [.element "p" (Attributes.ofList [("class", .list ["oembed-title"])]) [.text title]]
  | none => []

/-- The figure of a card with given nodes of markup: in the caption for rich media, else above it. -/
def figure (url : String) (metadata : EmbedMetadata) (body : List Node) : Node :=
  let attrs := Attributes.ofList [
    ("class", .list ["oembed"]), ("data-oembed-type", .text metadata.kind.name)]
  let rich := metadata.kind = .rich
  let caption := Node.element "figcaption" ∅
    ((if rich then body else []) ++ [citation url metadata] ++ titleLine metadata)
  .element "figure" attrs (cover metadata ++ (if rich then [] else body) ++ [caption])

/-- The card of a medium. -/
def buildCard (parser : MarkupParser) (url : String) (metadata : EmbedMetadata) : Node :=
  let figure := figure url metadata (cardBody parser metadata)
  if isLinkedCard metadata then
    .element "a" (Attributes.ofList [("class", .list ["oembed-link"]), ("href", .text url)]) [figure]
  else figure

end Manuscript.Embed
