import Manuscript.Document.Role
import Manuscript.Document.Traversal
import Manuscript.Text.Blank
import Manuscript.Text.Split

/-!
# Images

The title of an image may be a directive, `#key=value;key=value`, which sets attributes. Images may
be turned into a component.

## Main definitions

* `parseImageDirective` — the entries of a directive
* `Node.extendImageAttributes` — carries out the directives
* `Node.imagesToComponents` — renames all images
-/

namespace Manuscript

/-- The key and the value of an entry, trimmed; `none` if one of them is missing. -/
def parseImageEntry (cs : List Char) : Option (String × String) := do
  let (key, value) ← Text.splitFirst '=' cs
  let key := Text.trim key
  let value := Text.trim value
  if key.isEmpty || value.isEmpty then none
  else some (String.ofList key, String.ofList value)

/-- The entries of a directive, in order, without malformed ones. -/
def parseImageDirective (directive : String) : List (String × String) :=
  (Text.splitOn ';' directive.toList).filterMap parseImageEntry

/-- The directive in the title of an image. -/
def imageDirective? (e : Element) : Option (List (String × String)) := do
  let title ← e.attrText? "title"
  let directive ← Text.stripPrefix ['#'] title.toList
  pure (parseImageDirective (String.ofList directive))

/-- The attributes of an image after its directive, which takes the title away. -/
def extendedImageAttributes (e : Element) : Attributes :=
  match imageDirective? e with
  | some entries =>
    (entries.foldl (fun attrs (key, value) => attrs.insert key (.text value)) e.attributes).erase
      "title"
  | none => e.attributes

namespace Node

/-- Carries out the directives in the titles of images. -/
def extendImageAttributes (n : Node) : Node :=
  n.mapAttributes Element.isImage extendedImageAttributes

/-- Turns every image into a component. -/
def imagesToComponents (component : String) (n : Node) : Node :=
  (n.visit Element.isImage (fun (_ : Unit) e => ((), ⟨component, e.attributes, []⟩)) ()).2

end Node

end Manuscript
