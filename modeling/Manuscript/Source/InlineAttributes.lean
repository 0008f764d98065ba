import Manuscript.Source.Segment
import Manuscript.Style.Declarations

/-!
# Attributes in the manner of HTML

A source for interactive output is not HTML: an attribute `style="…"` has to be an object and `class`
is named `className`. Both are rewritten in the prose of the source, wherever they stand at the start
of a segment, after a blank or after `<`.

## Main definitions

* `rewriteStyles`, `rewriteClasses` — the two replacements in a run of prose
* `rewriteInlineAttributes` — both, in all prose segments of a source
-/

namespace Manuscript.Source

open Manuscript.Text (isBlank stripPrefix splitFirst containsInfix)

/-- Whether an attribute may begin after a character. -/
def precedesAttribute (c : Char) : Bool := isBlank c || c = '<'

/-- The text between the quotes of a style attribute at the start of a text, and what follows it. -/
def styleAttribute? (cs : List Char) : Option (List Char × List Char) :=
  (stripPrefix "style=\"".toList cs).bind (splitFirst '"')

/-- What follows the opening quote of a class attribute at the start of a text. -/
def classAttribute? (cs : List Char) : Option (List Char) := stripPrefix "class=\"".toList cs

/-- Replaces style attributes, passing over the first `skip` characters, which belong to a
replacement already made. `here` says whether an attribute may begin at the next character. -/
def rewriteStylesFrom (here : Bool) (skip : Nat) : List Char → List Char
  | [] => []
  | c :: rest =>
    match skip with
    | k + 1 => rewriteStylesFrom false k rest
    | 0 =>
      match if here then styleAttribute? (c :: rest) else none with
      | some (declarations, _) =>
        "style=".toList ++ Style.Declarations.toExpressionChars declarations ++
          rewriteStylesFrom false (6 + declarations.length + 1) rest
      | none => c :: rewriteStylesFrom (precedesAttribute c) 0 rest

/-- Replaces style attributes in a run of prose. -/
def rewriteStyles (prose : List Char) : List Char := rewriteStylesFrom true 0 prose

/-- Renames class attributes, passing over the first `skip` characters, which belong to a name already
replaced. `here` says whether an attribute may begin at the next character. -/
def rewriteClassesFrom (here : Bool) (skip : Nat) : List Char → List Char
  | [] => []
  | c :: rest =>
    match skip with
    | k + 1 => rewriteClassesFrom false k rest
    | 0 =>
      if here && (classAttribute? (c :: rest)).isSome then
        "className".toList ++ rewriteClassesFrom false 4 rest
      else c :: rewriteClassesFrom (precedesAttribute c) 0 rest

/-- Renames class attributes in a run of prose. -/
def rewriteClasses (prose : List Char) : List Char := rewriteClassesFrom true 0 prose

/-- Rewrites the attributes of a segment. -/
def rewriteSegment : Segment → List Char
  | .verbatim text => text
  | .prose text => rewriteClasses (rewriteStyles text)

/-- Whether a source may hold an attribute to rewrite. -/
def mentionsAttributes (source : List Char) : Bool :=
  containsInfix "style=\"".toList source || containsInfix "class=\"".toList source

/-- Rewrites the attributes of all prose segments. -/
def rewriteSegments (source : List Char) : List Char :=
  (Segment.ofSource source).flatMap rewriteSegment

/-- The source with its style and class attributes rewritten outside fenced blocks and front matter.
A source that mentions neither is returned as it is. -/
def rewriteInlineAttributes (source : String) : String :=
  if mentionsAttributes source.toList then String.ofList (rewriteSegments source.toList) else source

end Manuscript.Source
