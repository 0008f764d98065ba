import Manuscript.Markup.Token

/-!
# Names in vector images and formulas

Tags and attributes are read in lower case, but some names of vector images and formulas have upper
case in them, and some attributes belong to vocabularies of their own, which their names then leave
out.
-/

namespace Manuscript.Markup

/-- The names of elements of vector images that have upper case in them. -/
def svgTagNames : List String := [
  "altGlyph", "altGlyphDef", "altGlyphItem", "animateColor", "animateMotion", "animateTransform",
  "clipPath", "feBlend", "feColorMatrix", "feComponentTransfer", "feComposite", "feConvolveMatrix",
  "feDiffuseLighting", "feDisplacementMap", "feDistantLight", "feDropShadow", "feFlood", "feFuncA",
  "feFuncB", "feFuncG", "feFuncR", "feGaussianBlur", "feImage", "feMerge", "feMergeNode",
  "feMorphology", "feOffset", "fePointLight", "feSpecularLighting", "feSpotLight", "feTile",
  "feTurbulence", "foreignObject", "glyphRef", "linearGradient", "radialGradient", "textPath"]

/-- The names of attributes of vector images that have upper case in them. -/
def svgAttributeNames : List String := [
  "attributeName", "attributeType", "baseFrequency", "baseProfile", "calcMode", "clipPathUnits",
  "diffuseConstant", "edgeMode", "filterUnits", "glyphRef", "gradientTransform", "gradientUnits",
  "kernelMatrix", "kernelUnitLength", "keyPoints", "keySplines", "keyTimes", "lengthAdjust",
  "limitingConeAngle", "markerHeight", "markerUnits", "markerWidth", "maskContentUnits",
  "maskUnits", "numOctaves", "pathLength", "patternContentUnits", "patternTransform",
  "patternUnits", "pointsAtX", "pointsAtY", "pointsAtZ", "preserveAlpha", "preserveAspectRatio",
  "primitiveUnits", "refX", "refY", "repeatCount", "repeatDur", "requiredExtensions",
  "requiredFeatures", "specularConstant", "specularExponent", "spreadMethod", "startOffset",
  "stdDeviation", "stitchTiles", "surfaceScale", "systemLanguage", "tableValues", "targetX",
  "targetY", "textLength", "viewBox", "viewTarget", "xChannelSelector", "yChannelSelector",
  "zoomAndPan"]

/-- The attributes that belong to a vocabulary of their own, with the name they have in it. -/
def foreignAttributeNames : List (String × String) := [
  ("xlink:actuate", "actuate"), ("xlink:arcrole", "arcrole"), ("xlink:href", "href"),
  ("xlink:role", "role"), ("xlink:show", "show"), ("xlink:title", "title"), ("xlink:type", "type"),
  ("xml:lang", "lang"), ("xml:space", "space"), ("xmlns", "xmlns"), ("xmlns:xlink", "xlink")]

/-- The name among those given that is a name in lower case. -/
def restoreCase (names : List String) (name : String) : String :=
  (names.find? fun n => String.ofList (n.toList.map Char.toLower) = name).getD name

/-- Renames the attributes of a tag. -/
def Tag.renameAttributes (tag : Tag) (f : String → String) : Tag :=
  { tag with attributes := tag.attributes.map fun (name, value) => (f name, value) }

/-- A tag of a vector image with the names of its attributes. -/
def Tag.withSvgAttributes (tag : Tag) : Tag := tag.renameAttributes (restoreCase svgAttributeNames)

/-- A tag of a vector image with its name. -/
def Tag.withSvgName (tag : Tag) : Tag := { tag with name := restoreCase svgTagNames tag.name }

/-- A tag of a formula with the names of its attributes. -/
def Tag.withMathAttributes (tag : Tag) : Tag :=
  tag.renameAttributes (restoreCase ["definitionURL"])

/-- A tag with the names of attributes that belong to other vocabularies. -/
def Tag.withForeignAttributes (tag : Tag) : Tag :=
  tag.renameAttributes fun name => (foreignAttributeNames.lookup name).getD name

end Manuscript.Markup
