import Manuscript.Data.Record
import Manuscript.Embed.Resolution

/-!
# Settings of a rendering

What may be chosen for one rendering, with the values that hold when nothing is said.

## Main definitions

* `RenderConfig` — the settings
* `RenderConfig.ofValue?`, `RenderConfig.toValue` — reading and writing
* `RenderConfig.withEmbedFlags` — the settings for looking up media from named variables
-/

namespace Manuscript

/-- The settings of one rendering. -/
structure RenderConfig where
  /-- Whether media are looked up. -/
  parseEmbeds : Bool := false
  /-- Whether only the first paragraph is wanted. -/
  excerpt : Bool := false
  /-- Whether known media are looked up again. -/
  updateEmbedCache : Bool := false
  /-- Whether the memory of earlier look-ups is not used at all. -/
  forceEmbedFetch : Bool := false
  /-- The component that images become in interactive output. -/
  imageComponent : String := "Image"
  /-- Whether headings become links to themselves. -/
  headingAutolinks : Bool := true
  deriving DecidableEq, Repr

namespace RenderConfig

/-- The names of the settings, in their order. -/
def fieldNames : List String := [
  "parseEmbeds", "excerpt", "updateEmbedCache", "forceEmbedFetch", "imageComponent",
  "headingAutolinks"]

/-- A setting that may be missing but not null. -/
def setting {α : Type} (fields : List (String × Value)) (name : String) (read : Value → Option α)
    (default : α) : Option α :=
  match fields.lookup name with
  | none => some default
  | some v => read v

/-- The settings that data stand for. -/
def ofValue? (v : Value) : Option RenderConfig := do
  let fields ← v.record? fieldNames
  pure {
    parseEmbeds := ← setting fields "parseEmbeds" Value.bool? false
    excerpt := ← setting fields "excerpt" Value.bool? false
    updateEmbedCache := ← setting fields "updateEmbedCache" Value.bool? false
    forceEmbedFetch := ← setting fields "forceEmbedFetch" Value.bool? false
    imageComponent := ← setting fields "imageComponent" Value.string? "Image"
    headingAutolinks := ← setting fields "headingAutolinks" Value.bool? true }

/-- The settings as data. -/
def toValue (c : RenderConfig) : Value :=
  .object [
    ("excerpt", .bool c.excerpt), ("forceEmbedFetch", .bool c.forceEmbedFetch),
    ("headingAutolinks", .bool c.headingAutolinks),
    ("imageComponent", .string c.imageComponent), ("parseEmbeds", .bool c.parseEmbeds),
    ("updateEmbedCache", .bool c.updateEmbedCache)]

/-- Whether the value of a variable switches a setting on: all but the empty text, `0` and `false` in
any case, with blanks around it or not. -/
def isOn (value : String) : Bool :=
  let word := String.ofList ((Text.trim value.toList).map Char.toLower)
  word ≠ "" && word ≠ "0" && word ≠ "false"

/-- The settings for looking up media, from the variables `UPDATE_OEMBED` and `FORCE_OEMBED`. -/
def withEmbedFlags (lookup : String → Option String) (c : RenderConfig) : RenderConfig :=
  { c with
    updateEmbedCache := (lookup "UPDATE_OEMBED").any isOn
    forceEmbedFetch := (lookup "FORCE_OEMBED").any isOn }

/-- The settings with media looked up. -/
def withEmbeds (c : RenderConfig) : RenderConfig := { c with parseEmbeds := true }

/-- The settings for an excerpt. -/
def withExcerpt (c : RenderConfig) : RenderConfig := { c with excerpt := true }

/-- How a fetcher is asked under the settings. -/
def fetchOptions (c : RenderConfig) : FetchOptions := ⟨c.updateEmbedCache, c.forceEmbedFetch⟩

end RenderConfig

end Manuscript
