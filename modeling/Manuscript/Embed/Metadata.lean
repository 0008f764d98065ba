import Manuscript.Data.Record
import Manuscript.Number.Numeral
import Manuscript.Text.Blank

/-!
# Metadata of embedded media

What a provider says about the medium behind an address. Providers disagree on whether sizes are
numbers or texts, so both are read, and what is neither counts as missing.

## Main definitions

* `EmbedKind`, `EmbedMetadata` — the metadata
* `EmbedMetadata.ofValue?`, `EmbedMetadata.toValue` — reading and writing
-/

namespace Manuscript

/-- What kind of medium it is. -/
inductive EmbedKind where
  /-- A video with markup to play it. -/
  | video
  /-- Any markup. -/
  | rich
  /-- A picture. -/
  | photo
  /-- A link and nothing more. -/
  | link
  /-- Some kind that is not known here. -/
  | unknown
  deriving DecidableEq, Repr, Inhabited

namespace EmbedKind

/-- The name of a kind. -/
def name : EmbedKind → String
  | .video => "video"
  | .rich => "rich"
  | .photo => "photo"
  | .link => "link"
  | .unknown => "unknown"

/-- The kind with a name. -/
def ofName : String → EmbedKind
  | "video" => .video
  | "rich" => .rich
  | "photo" => .photo
  | "link" => .link
  | _ => .unknown

/-- The kind that data stand for: a name, or an object whose only field has the name and is null. -/
def ofValue? : Value → Option EmbedKind
  | .string s => some (ofName s)
  | .object [(name, .null)] => some (ofName name)
  | _ => none

end EmbedKind

/-- The metadata of a medium. -/
structure EmbedMetadata where
  /-- The kind. -/
  kind : EmbedKind := .unknown
  /-- The title. -/
  title : Option String := none
  /-- The markup that shows the medium. -/
  html : Option String := none
  /-- The address of a preview image. -/
  thumbnailUrl : Option String := none
  /-- The width of the preview image. -/
  thumbnailWidth : Option Binary64 := none
  /-- The height of the preview image. -/
  thumbnailHeight : Option Binary64 := none
  /-- The width of the medium. -/
  width : Option Binary64 := none
  /-- The height of the medium. -/
  height : Option Binary64 := none
  /-- The name of the provider. -/
  providerName : Option String := none
  /-- The name of the author. -/
  authorName : Option String := none
  deriving DecidableEq, Repr, Inhabited

namespace EmbedMetadata

/-- The names of the fields, in their order. -/
def fieldNames : List String := [
  "type", "title", "html", "thumbnail_url", "thumbnail_width", "thumbnail_height", "width", "height",
  "provider_name", "author_name"]

/-- A size: a number or a text that is one. -/
def dimension? : Value → Option Binary64
  | .int n => some (Binary64.ofInt n)
  | .float x => some x
  | .string s => Binary64.ofText? (Text.trimmed s)
  | _ => none

/-- A text that may be missing or null. -/
def text? (fields : List (String × Value)) (name : String) : Option (Option String) :=
  match fields.lookup name with
  | none | some .null => some none
  | some (.string s) => some (some s)
  | some _ => none

/-- The metadata that data stand for. -/
def ofValue? (v : Value) : Option EmbedMetadata := do
  let fields ← v.record? fieldNames
  let dimension (name : String) := (fields.lookup name).bind dimension?
  let kind ← match fields.lookup "type" with
    | none => some EmbedKind.unknown
    | some k => EmbedKind.ofValue? k
  pure {
    kind
    title := ← text? fields "title"
    html := ← text? fields "html"
    thumbnailUrl := ← text? fields "thumbnail_url"
    thumbnailWidth := dimension "thumbnail_width"
    thumbnailHeight := dimension "thumbnail_height"
    width := dimension "width"
    height := dimension "height"
    providerName := ← text? fields "provider_name"
    authorName := ← text? fields "author_name" }

/-- A size as data; null for a missing one and for one that is no finite number. -/
def dimensionToValue : Option Binary64 → Value
  | some (.finite s m e) => .float (.finite s m e)
  | _ => .null

/-- The metadata as data. -/
def toValue (m : EmbedMetadata) : Value :=
  .object [
    ("author_name", Value.ofString? m.authorName),
    ("height", dimensionToValue m.height),
    ("html", Value.ofString? m.html),
    ("provider_name", Value.ofString? m.providerName),
    ("thumbnail_height", dimensionToValue m.thumbnailHeight),
    ("thumbnail_url", Value.ofString? m.thumbnailUrl),
    ("thumbnail_width", dimensionToValue m.thumbnailWidth),
    ("title", Value.ofString? m.title),
    ("type", .string m.kind.name),
    ("width", dimensionToValue m.width)]

end EmbedMetadata

end Manuscript
