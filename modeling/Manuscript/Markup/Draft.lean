import Manuscript.Document.Node
import Manuscript.Text.Blank

/-!
# Trees under construction

While markup is read, nodes are moved and elements are reopened far from where they were closed. So a
tree under construction is a table of nodes that know their parents and children by number. When it
is finished it is turned into a document tree.

## Main definitions

* `Draft` — the table, with its operations
* `Draft.toNodes` — the document trees of the children of a node
-/

namespace Manuscript.Markup

/-- The vocabulary that an element belongs to. -/
inductive Vocabulary where
  /-- HTML. -/
  | html
  /-- Vector images. -/
  | svg
  /-- Formulas. -/
  | mathml
  deriving DecidableEq, Repr, Inhabited

/-- The name of an element with its vocabulary. -/
structure ElementName where
  /-- The vocabulary. -/
  vocabulary : Vocabulary
  /-- The name. -/
  name : String
  deriving DecidableEq, Repr, Inhabited

/-- What a node under construction is. -/
inductive DraftKind where
  /-- A document, or the content of a template. -/
  | container
  /-- An element. -/
  | element (name : ElementName) (attributes : List (String × String))
  /-- A text. -/
  | text (value : String)
  /-- A comment. -/
  | comment (value : String)
  deriving Repr, Inhabited

/-- A node under construction. -/
structure DraftNode where
  /-- What it is. -/
  kind : DraftKind
  /-- The number of its parent. -/
  parent : Option Nat := none
  /-- The numbers of its children, in order. -/
  children : List Nat := []
  /-- The number of the content, if it is a template. -/
  content : Option Nat := none
  deriving Repr, Inhabited

/-- A tree under construction. -/
structure Draft where
  /-- The nodes by their numbers. -/
  nodes : Array DraftNode := #[]
  deriving Inhabited

namespace Draft

/-- The node with a number. -/
def node (d : Draft) (id : Nat) : DraftNode := d.nodes.getD id ⟨.container, none, [], none⟩

/-- Changes the node with a number. -/
def modify (d : Draft) (id : Nat) (f : DraftNode → DraftNode) : Draft :=
  { nodes := d.nodes.modify id f }

/-- Adds a node that has no parent. -/
def add (d : Draft) (n : DraftNode) : Nat × Draft := (d.nodes.size, { nodes := d.nodes.push n })

/-- The name of an element; for other nodes, one that no element has. -/
def nameOf (d : Draft) (id : Nat) : ElementName :=
  match (d.node id).kind with
  | .element name _ => name
  | _ => ⟨.html, ""⟩

/-- The attributes of an element. -/
def attributesOf (d : Draft) (id : Nat) : List (String × String) :=
  match (d.node id).kind with
  | .element _ attributes => attributes
  | _ => []

/-- Adds an element that has no parent; a template gets a node for its content. -/
def addElement (d : Draft) (name : ElementName) (attributes : List (String × String)) :
    Nat × Draft :=
  if name = ⟨.html, "template"⟩ then
    let (content, d) := d.add { kind := .container }
    d.add { kind := .element name attributes, content := some content }
  else d.add { kind := .element name attributes }

/-- Adds the attributes that an element does not have yet. -/
def addMissingAttributes (d : Draft) (id : Nat) (attributes : List (String × String)) : Draft :=
  d.modify id fun n =>
    match n.kind with
    | .element name old =>
      let missing := attributes.filter fun a => !old.any fun b => b.1 = a.1
      { n with kind := .element name (old ++ missing) }
    | _ => n

/-- Takes a node away from its parent. -/
def detach (d : Draft) (id : Nat) : Draft :=
  match (d.node id).parent with
  | none => d
  | some parent =>
    let d := d.modify parent fun n => { n with children := n.children.filter (· ≠ id) }
    d.modify id fun n => { n with parent := none }

/-- Puts a node behind the children of another. -/
def append (d : Draft) (parent id : Nat) : Draft :=
  let d := d.detach id
  let d := d.modify parent fun n => { n with children := n.children ++ [id] }
  d.modify id fun n => { n with parent := some parent }

/-- Puts a node before another that has a parent. -/
def insertBefore (d : Draft) (sibling id : Nat) : Draft :=
  match (d.node sibling).parent with
  | none => d
  | some parent =>
    let d := d.detach id
    let d := d.modify parent fun n =>
      let before := n.children.takeWhile (· ≠ sibling)
      { n with children := before ++ id :: n.children.drop before.length }
    d.modify id fun n => { n with parent := some parent }

/-- Adds to the end of a text, and says whether the node is one. -/
def extendText (d : Draft) (id : Nat) (value : String) : Option Draft :=
  match (d.node id).kind with
  | .text old => some (d.modify id fun n => { n with kind := .text (old ++ value) })
  | _ => none

/-- Puts a text behind the children of a node; it joins a text that ends them. -/
def appendText (d : Draft) (parent : Nat) (value : String) : Draft :=
  match (d.node parent).children.getLast?.bind fun last => d.extendText last value with
  | some d => d
  | none =>
    let (id, d) := d.add { kind := .text value }
    d.append parent id

/-- Puts a text before a node that has a parent; it joins a text that stands there. -/
def insertTextBefore (d : Draft) (sibling : Nat) (value : String) : Draft :=
  match (d.node sibling).parent with
  | none => d
  | some parent =>
    let before := (d.node parent).children.takeWhile (· ≠ sibling)
    match before.getLast?.bind fun last => d.extendText last value with
    | some d => d
    | none =>
      let (id, d) := d.add { kind := .text value }
      d.insertBefore sibling id

/-- Moves all children of a node behind those of another. -/
def moveChildren (d : Draft) (source target : Nat) : Draft :=
  (d.node source).children.foldl (fun d id => d.append target id) d

/-- The attributes of a finished element. The class attribute is a list of tokens. -/
def finishedAttributes (attributes : List (String × String)) : Attributes :=
  Attributes.ofList (attributes.map fun (name, value) =>
    (name, if name = "class" then .list (Text.wordsOf value) else .text value))

/-- The document trees of nodes, going at most `depth` levels down. -/
def toNodesFrom (d : Draft) : (depth : Nat) → List Nat → List Node
  | 0, _ => []
  | depth + 1, ids =>
    ids.filterMap fun id =>
      let n := d.node id
      match n.kind with
      | .container => none
      | .text value => some (.text value)
      | .comment value => some (.comment value)
      | .element name attributes =>
        let children := match n.content with
          | some content => (d.node content).children
          | none => n.children
        some (.element name.name (finishedAttributes attributes) (toNodesFrom d depth children))

/-- The document trees of the children of a node. -/
def toNodes (d : Draft) (id : Nat) : List Node :=
  toNodesFrom d (d.nodes.size + 1) (d.node id).children

end Draft

end Manuscript.Markup
