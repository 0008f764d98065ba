import Manuscript.Text.Quoted
import Manuscript.Text.Split

/-!
# Names in scripts

How tags and attribute names appear in a script: as identifiers where they are some, else as string
literals; and which tag is a component.

## Main definitions

* `isIdentifier` — the names that need no quotes
* `propertyKey` — a name as the key of an object
* `member` — a name as the member of an object, one for each part of a dotted name
* `isComponent` — tags that name a component
* `reactProperty`, `isBooleanProperty` — the spelling of attributes
-/

namespace Manuscript.Script

/-- Whether a character may begin an identifier: ASCII letters, `_` and `$`. -/
def isIdentifierStart (c : Char) : Bool := c.isAlpha || c = '_' || c = '$'

/-- Whether a character may stand in an identifier. -/
def isIdentifierPart (c : Char) : Bool := c.isAlphanum || c = '_' || c = '$'

/-- Whether characters make an identifier. -/
def isIdentifierChars : List Char → Bool
  | [] => false
  | c :: rest => isIdentifierStart c && rest.all isIdentifierPart

/-- Whether a name is an identifier. -/
def isIdentifier (name : String) : Bool := isIdentifierChars name.toList

/-- A name as the key of an object. -/
def propertyKey (name : String) : String := if isIdentifier name then name else Text.quote name

/-- A name as the member of an object. -/
def member (object name : String) : String :=
  if (Text.splitOn '.' name.toList).all isIdentifierChars then object ++ "." ++ name
  else object ++ "[" ++ Text.quote name ++ "]"

/-- Whether a tag names a component: it begins with an upper-case ASCII letter. -/
def isComponent (tag : String) : Bool :=
  match tag.toList with
  | c :: _ => c.isUpper
  | [] => false

/-- Whether a tag has a dot in it. -/
def isDotted (tag : String) : Bool := tag.toList.contains '.'

/-- The part of a name before its first dot. -/
def headName (name : String) : String := String.ofList (name.toList.takeWhile (· ≠ '.'))

/-- The property names that differ from those of attributes. -/
def reactProperties : List (String × String) := [
  ("class", "className"), ("for", "htmlFor"), ("allowfullscreen", "allowFullScreen"),
  ("autoplay", "autoPlay"), ("colspan", "colSpan"), ("crossorigin", "crossOrigin"),
  ("frameborder", "frameBorder"), ("playsinline", "playsInline"), ("readonly", "readOnly"),
  ("referrerpolicy", "referrerPolicy"), ("rowspan", "rowSpan"), ("srcset", "srcSet"),
  ("tabindex", "tabIndex")]

/-- The property name of an attribute. -/
def reactProperty (name : String) : String := (reactProperties.lookup name).getD name

/-- The properties whose empty attribute means true. -/
def booleanProperties : List String := [
  "allowFullScreen", "async", "autoPlay", "checked", "controls", "default", "defer", "disabled",
  "hidden", "loop", "muted", "open", "playsInline", "readOnly", "required", "reversed", "selected"]

/-- Whether the empty attribute of a property means true. -/
def isBooleanProperty (name : String) : Bool := booleanProperties.contains name

end Manuscript.Script
