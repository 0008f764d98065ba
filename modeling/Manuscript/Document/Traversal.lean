import Manuscript.Document.Node

/-!
# Traversals

Ways through a tree, all in pre-order: a node comes before its children, and children come from left
to right.

* `Node.visit` updates tags and attributes in place and keeps the shape of the tree.
* `Node.visitMatching` lets a callback change an element as a whole, and goes on in the children that
  the element has then.
* `Node.rewrite` lets a callback replace each node, and goes on in the children of whatever the
  callback returned.
* `Node.findFirst?` looks for a node.

What a callback returns may be larger than the node it was given. So the walks that go on in it are
bounded by a depth.

Callbacks thread a state.
-/

namespace Manuscript

/-- Maps a list from left to right with a state. -/
def mapWithState {σ α β : Type} (f : σ → α → σ × β) : σ → List α → σ × List β
  | s, [] => (s, [])
  | s, a :: rest =>
    let (s, b) := f s a
    let (s, bs) := mapWithState f s rest
    (s, b :: bs)

/-- What a visitor makes of an element. Its children stay, and are visited after it. -/
structure Revision where
  /-- The new name of the element. -/
  tag : String
  /-- The new attributes. -/
  attributes : Attributes
  /-- Leaves put behind the children. -/
  added : List String := []

/-- The revision that changes nothing. -/
def Revision.same (e : Element) : Revision := ⟨e.tag, e.attributes, []⟩

/-- The revision that replaces the attributes. -/
def Revision.withAttributes (e : Element) (attributes : Attributes) : Revision :=
  ⟨e.tag, attributes, []⟩

namespace Node

section Visit

variable {σ : Type} (select : Element → Bool) (f : σ → Element → σ × Revision)

mutual

/-- Revises every selected element in pre-order. -/
def visit (s : σ) : Node → σ × Node
  | .root children =>
    let (s, children) := visitAll s children
    (s, .root children)
  | .element tag attributes children =>
    let e : Element := ⟨tag, attributes, children⟩
    let (s, r) := if select e then f s e else (s, Revision.same e)
    let (s, children) := visitAll s children
    (s, .element r.tag r.attributes (children ++ r.added.map Node.text))
  | .leaf kind value => (s, .leaf kind value)

/-- Revises every selected element of trees that stand side by side. -/
def visitAll (s : σ) : List Node → σ × List Node
  | [] => (s, [])
  | n :: rest =>
    let (s, n) := visit s n
    let (s, rest) := visitAll s rest
    (s, n :: rest)

end

end Visit

/-- Revises the attributes of every selected element. -/
def mapAttributes (select : Element → Bool) (f : Element → Attributes) (n : Node) : Node :=
  (n.visit select (fun (_ : Unit) e => ((), Revision.withAttributes e (f e))) ()).2

/-- What a rewriting callback wants done with a node. -/
inductive Rewrite where
  /-- Put this node, and go on in its children. -/
  | descend (n : Node)
  /-- Put this node as it is. -/
  | skip (n : Node)
  /-- Go on in the children of `inner`, and put it as the last child of `wrapper`, which itself is
  not visited. -/
  | wrap (inner : Node) (wrapper : Element)

/-- The node with its children replaced by what `f` makes of them; a leaf stays as it is. -/
def withChildren {σ : Type} (f : σ → List Node → σ × List Node) (s : σ) : Node → σ × Node
  | .root children =>
    let (s, children) := f s children
    (s, .root children)
  | .element tag attributes children =>
    let (s, children) := f s children
    (s, .element tag attributes children)
  | .leaf kind value => (s, .leaf kind value)

/-- Changes every selected element in pre-order, going at most `depth` levels down. The children of an
element are visited as they are after the change. -/
def visitMatching {σ : Type} (select : Element → Bool) (f : σ → Element → σ × Element) :
    (depth : Nat) → σ → Node → σ × Node
  | 0, s, n => (s, n)
  | depth + 1, s, n =>
    let (s, n) := match n with
      | .element tag attributes children =>
        let e : Element := ⟨tag, attributes, children⟩
        let (s, e) := if select e then f s e else (s, e)
        (s, e.toNode)
      | n => (s, n)
    withChildren (mapWithState (fun s n => visitMatching select f depth s n)) s n

/-- Rewrites a tree in pre-order, going at most `depth` levels down. -/
def rewrite {σ : Type} (f : σ → Node → σ × Rewrite) : (depth : Nat) → σ → Node → σ × Node
  | 0, s, n => (s, n)
  | depth + 1, s, n =>
    let below := withChildren (mapWithState (fun s n => rewrite f depth s n))
    match f s n with
    | (s, .descend n) => below s n
    | (s, .skip n) => (s, n)
    | (s, .wrap inner wrapper) =>
      let (s, inner) := below s inner
      (s, wrapper.append [inner])

/-- Rewrites the children of a node and leaves the node itself alone. -/
def rewriteChildren {σ : Type} (f : σ → Node → σ × Rewrite) (depth : Nat) (s : σ) (n : Node) :
    σ × Node :=
  withChildren (mapWithState (fun s n => rewrite f depth s n)) s n

mutual

/-- The first node in pre-order for which `p` holds. -/
def findFirst? (p : Node → Bool) : Node → Option Node
  | .root children => if p (.root children) then some (.root children) else findFirstIn? p children
  | .element tag attributes children =>
    if p (.element tag attributes children) then some (.element tag attributes children)
    else findFirstIn? p children
  | .leaf kind value => if p (.leaf kind value) then some (.leaf kind value) else none

/-- The first node in pre-order for which `p` holds, among trees that stand side by side. -/
def findFirstIn? (p : Node → Bool) : List Node → Option Node
  | [] => none
  | n :: rest => (findFirst? p n).or (findFirstIn? p rest)

end

end Node

end Manuscript
