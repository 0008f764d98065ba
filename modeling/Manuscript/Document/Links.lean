import Manuscript.Document.Role

/-!
# Links

Every link is put into a `span` of class `inner-link`. A link that is alone in such a span stays
there.
-/

namespace Manuscript.Node

/-- The class of the elements around links. -/
def linkWrapperClass : String := "inner-link"

/-- The attributes of the elements around links. -/
def linkWrapperAttributes : Attributes := (∅ : Attributes).addClass linkWrapperClass

/-- Whether an element is one around a single link. -/
def isLinkWrapper (tag : String) (attributes : Attributes) (children : List Node) : Bool :=
  tag = "span" && attributes.classes.contains linkWrapperClass &&
    match children with
    | [only] => only.hasTag "a"
    | _ => false

mutual

/-- Puts every link into an element of its own. -/
def wrapLinks : Node → Node
  | .root children => .root (wrapLinksAll children)
  | .element tag attributes children =>
    if tag = "a" then
      .element "span" linkWrapperAttributes [.element tag attributes (wrapLinksAll children)]
    else if isLinkWrapper tag attributes children then
      .element tag attributes (wrapLinksBelow children)
    else .element tag attributes (wrapLinksAll children)
  | .leaf kind value => .leaf kind value

/-- Wraps the links in trees that stand side by side. -/
def wrapLinksAll : List Node → List Node
  | [] => []
  | n :: rest => wrapLinks n :: wrapLinksAll rest

/-- Wraps the links below the roots of trees that stand side by side. -/
def wrapLinksBelow : List Node → List Node
  | [] => []
  | .root children :: rest => .root (wrapLinksAll children) :: wrapLinksBelow rest
  | .element tag attributes children :: rest =>
    .element tag attributes (wrapLinksAll children) :: wrapLinksBelow rest
  | .leaf kind value :: rest => .leaf kind value :: wrapLinksBelow rest

end

end Manuscript.Node
