import Manuscript.Document.Attributes

/-!
# Document trees

A document is a tree of elements whose leaves are texts, comments, raw markup and expressions.

## Main definitions

* `Node` — the trees
* `Element` — an element on its own, with its access functions
* `Node.textContent` — the text of a tree without its markup
* `Element.classes`, `Element.addClass` — the tokens of the class attribute
-/

namespace Manuscript

/-- What a leaf holds. -/
inductive LeafKind where
  /-- Literal text. -/
  | text
  /-- A markup comment. -/
  | comment
  /-- Markup as written by the author, not yet read. -/
  | raw
  /-- The source of an expression, without its braces. -/
  | expression
  deriving DecidableEq, Repr, Inhabited

/-- A document tree. -/
inductive Node where
  /-- The root of a document. -/
  | root (children : List Node)
  /-- An element. -/
  | element (tag : String) (attributes : Attributes) (children : List Node)
  /-- A leaf. -/
  | leaf (kind : LeafKind) (value : String)
  deriving Repr, Inhabited

/-- An element on its own. -/
structure Element where
  /-- The name of the element or of a component. -/
  tag : String
  /-- The attributes. -/
  attributes : Attributes := ∅
  /-- The children, in order. -/
  children : List Node := []
  deriving Repr, Inhabited

/-- The tree of an element. -/
def Element.toNode (e : Element) : Node := .element e.tag e.attributes e.children

instance : Coe Element Node := ⟨Element.toNode⟩

namespace Node

/-- A text leaf. -/
@[match_pattern]
abbrev text (value : String) : Node := .leaf .text value

/-- A comment leaf. -/
@[match_pattern]
abbrev comment (value : String) : Node := .leaf .comment value

/-- A leaf of raw markup. -/
@[match_pattern]
abbrev raw (value : String) : Node := .leaf .raw value

/-- An expression leaf. -/
@[match_pattern]
abbrev expression (source : String) : Node := .leaf .expression source

/-- The element that a node is. -/
def element? : Node → Option Element
  | .element tag attributes children => some ⟨tag, attributes, children⟩
  | _ => none

/-- The children of a node that may have some. -/
def children? : Node → Option (List Node)
  | .root children | .element _ _ children => some children
  | .leaf _ _ => none

/-- The children of a node; none for a leaf. -/
def children (n : Node) : List Node := n.children?.getD []

mutual

/-- The text of a tree: its text leaves, in order. -/
def textContent : Node → String
  | .root children => textContentAll children
  | .element _ _ children => textContentAll children
  | .leaf .text value => value
  | .leaf _ _ => ""

/-- The text of trees that stand side by side. -/
def textContentAll : List Node → String
  | [] => ""
  | n :: rest => textContent n ++ textContentAll rest

end

mutual

/-- How many levels a tree has. -/
def depth : Node → Nat
  | .root children => depthAll children + 1
  | .element _ _ children => depthAll children + 1
  | .leaf _ _ => 1

/-- The greatest depth among trees. -/
def depthAll : List Node → Nat
  | [] => 0
  | n :: rest => max (depth n) (depthAll rest)

end

/-- Whether a node is an element with a tag. -/
def hasTag (tag : String) : Node → Bool
  | .element t _ _ => t = tag
  | _ => false

end Node

namespace Element

/-- The value of an attribute. -/
def attr? (e : Element) (name : String) : Option AttributeValue := e.attributes.get? name

/-- The value of an attribute that is a plain text. -/
def attrText? (e : Element) (name : String) : Option String := (e.attr? name).bind (·.text?)

/-- The value of an attribute as markup shows it. -/
def attrString? (e : Element) (name : String) : Option String :=
  (e.attr? name).map AttributeValue.toMarkup

/-- Sets an attribute. -/
def setAttr (e : Element) (name : String) (value : AttributeValue) : Element :=
  { e with attributes := e.attributes.insert name value }

/-- Sets an attribute to a plain text. -/
def setText (e : Element) (name value : String) : Element := e.setAttr name (.text value)

/-- Removes an attribute. -/
def removeAttr (e : Element) (name : String) : Element :=
  { e with attributes := e.attributes.erase name }

/-- Puts nodes behind the children. -/
def append (e : Element) (nodes : List Node) : Element :=
  { e with children := e.children ++ nodes }

end Element

/-- The tokens of a class attribute: those of a list, or the words of a text. -/
def AttributeValue.classTokens : AttributeValue → List String
  | .list tokens => tokens
  | .text value => Text.wordsOf value
  | .expression _ => []

/-- The class tokens among attributes. -/
def Attributes.classes (attrs : Attributes) : List String :=
  ((attrs.get? "class").map AttributeValue.classTokens).getD []

/-- Adds a class token, unless it is there already, and stores the class attribute as a list. -/
def Attributes.addClass (attrs : Attributes) (token : String) : Attributes :=
  let tokens := attrs.classes
  attrs.insert "class" (.list (if tokens.contains token then tokens else tokens ++ [token]))

namespace Element

/-- The class tokens. -/
def classes (e : Element) : List String := e.attributes.classes

/-- Whether a token is among the class tokens. -/
def hasClass (e : Element) (token : String) : Bool := e.classes.contains token

/-- Adds a class token. -/
def addClass (e : Element) (token : String) : Element :=
  { e with attributes := e.attributes.addClass token }

/-- The text of an element without its markup. -/
def textContent (e : Element) : String := Node.textContentAll e.children

end Element

end Manuscript
