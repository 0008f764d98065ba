import Manuscript.Document.Role
import Manuscript.Document.Traversal
import Manuscript.Text.Slug

/-!
# Headings

Headings are moved up or down so that the highest one is of level two, get an id each, and may be
made links to themselves.

## Main definitions

* `minHeadingLevel?`, `normalizeHeadings` — levels
* `assignHeadingIds` — ids, with the list of headings for a table of contents
* `autolinkHeadings` — headings as links to themselves
-/

namespace Manuscript.Node

/-! ### Levels -/

/-- The lesser of two levels, either of which may be missing. -/
def lesserLevel : Option Nat → Option Nat → Option Nat
  | none, b => b
  | a, none => a
  | some a, some b => some (min a b)

mutual

/-- The least level of the headings in a tree. -/
def minHeadingLevel? : Node → Option Nat
  | .root children => minHeadingLevelAll? children
  | .element tag _ children => lesserLevel (headingLevel? tag) (minHeadingLevelAll? children)
  | .leaf _ _ => none

/-- The least level of the headings in trees that stand side by side. -/
def minHeadingLevelAll? : List Node → Option Nat
  | [] => none
  | n :: rest => lesserLevel (minHeadingLevel? n) (minHeadingLevelAll? rest)

end

/-- The tag of a heading whose document has a given least level. -/
def normalizedTag (least : Nat) (tag : String) : String :=
  match headingLevel? tag with
  | some level => "h" ++ toString (min (level + 2 - least) 6)
  | none => tag

/-- Moves all headings by the same distance, so that the highest ones are of level two; none gets
lower than level six. -/
def normalizeHeadings (n : Node) : Node :=
  match n.minHeadingLevel? with
  | none => n
  | some least =>
    (n.visit Element.isHeading
      (fun (_ : Unit) e => ((), ⟨normalizedTag least e.tag, e.attributes, []⟩)) ()).2

/-! ### Ids -/

/-- A heading of the table of contents. -/
structure HeadingEntry where
  /-- The level. -/
  depth : Nat
  /-- The id. -/
  slug : String
  /-- The text, without blanks at its ends. -/
  text : String
  deriving DecidableEq, Repr

mutual

/-- The ids of all elements of a tree, in pre-order. -/
def ids : Node → List String
  | .root children => idsAll children
  | .element _ attributes children =>
    ((attributes.get? "id").map AttributeValue.toMarkup).toList ++ idsAll children
  | .leaf _ _ => []

/-- The ids of all elements of trees that stand side by side. -/
def idsAll : List Node → List String
  | [] => []
  | n :: rest => ids n ++ idsAll rest

end

/-- The slugger on which all ids of a tree are reserved. -/
def reservedIds (n : Node) : Text.Slugger := n.ids.foldl Text.Slugger.reserve {}

/-- Gives a heading an id, unless it has one that is a plain text, and lists it. -/
def assignHeadingId (s : Text.Slugger × List HeadingEntry) (e : Element) :
    (Text.Slugger × List HeadingEntry) × Revision :=
  let text := e.textContent
  let entry (slug : String) : HeadingEntry :=
    ⟨(headingLevel? e.tag).getD 6, slug, Text.trimmed text⟩
  match e.attrText? "id" with
  | some id => ((s.1, s.2 ++ [entry id]), Revision.same e)
  | none =>
    let (slug, slugger) := s.1.slug text
    ((slugger, s.2 ++ [entry slug]),
      Revision.withAttributes e (e.attributes.insert "id" (.text slug)))

/-- Gives every heading an id made of its text, and lists the headings in order. Ids that occur
anywhere in the tree are not given again. -/
def assignHeadingIds (n : Node) : Node × List HeadingEntry :=
  let ((_, entries), n) := n.visit Element.isHeading assignHeadingId (n.reservedIds, [])
  (n, entries)

/-! ### Links -/

/-- Whether a tree holds a link. -/
def containsAnchor (n : Node) : Bool := (n.findFirst? fun m => m.anchor?.isSome).isSome

/-- The address that a heading links to, if it is a heading with an id and without a link in it. -/
def autolinkTarget? (tag : String) (attributes : Attributes) (children : List Node) :
    Option String :=
  if (headingLevel? tag).isSome && !children.any containsAnchor then
    (attributes.get? "id").map fun id => "#" ++ id.toMarkup
  else none

mutual

/-- Puts the content of every heading that has an id into a link to the heading, unless there is a
link in it already. -/
def autolinkHeadings : Node → Node
  | .root children => .root (autolinkHeadingsAll children)
  | .element tag attributes children =>
    match autolinkTarget? tag attributes children with
    | some href =>
      .element tag attributes
        [.element "a" (Attributes.ofList [("href", .text href)]) (autolinkHeadingsAll children)]
    | none => .element tag attributes (autolinkHeadingsAll children)
  | .leaf kind value => .leaf kind value

/-- Links the headings of trees that stand side by side. -/
def autolinkHeadingsAll : List Node → List Node
  | [] => []
  | n :: rest => autolinkHeadings n :: autolinkHeadingsAll rest

end

end Manuscript.Node
