import Manuscript.Data.Record
import Manuscript.Document.Node

/-!
# Trees as data

The form in which trees are exchanged: an object for every node, with its kind in the field `type`.
An attribute value is an object with its kind and its value. Fields may come in any order and unknown
ones are passed over; an element may leave out its `properties` and its `children`.

Nodes and attribute values are also read from lists. Such a list gives the kind first and then the
fields in their order, of which only those at the end may be left out. Whatever stands inside of a
node is gathered before it is read, so that a kind may be given by its place among the kinds there.

## Main definitions

* `Node.toValue`, `Node.ofValue?` — writing and reading a node
* `Element.ofValue?`, `Element.toValue` — an element without its kind
* `AttributeValue.read?`, `Attributes.read?`, `Node.read?` — reading what stands inside of a node or
  not
-/

namespace Manuscript

namespace LeafKind

/-- The name of a kind of leaf. -/
def name : LeafKind → String
  | .text => "text"
  | .comment => "comment"
  | .raw => "raw"
  | .expression => "expression"

/-- The kind of leaf that has a name. -/
def ofName? : String → Option LeafKind
  | "text" => some .text
  | "comment" => some .comment
  | "raw" => some .raw
  | "expression" => some .expression
  | _ => none

end LeafKind

namespace AttributeValue

/-- An attribute value as data. -/
def toValue : AttributeValue → Value
  | .text value => .object [("type", .string "text"), ("value", .string value)]
  | .list tokens => .object [("type", .string "list"), ("value", Value.ofStrings tokens)]
  | .expression source => .object [("type", .string "expression"), ("value", .string source)]

/-- The names of the kinds, in their order. -/
def kindNames : List String := ["text", "list", "expression"]

/-- The attribute value of a kind that holds what data stand for. -/
def ofKind? (kind : String) (value : Value) : Option AttributeValue :=
  match kind with
  | "text" => value.string?.map .text
  | "list" => do
    let items ← value.list?
    (items.mapM Value.string?).map .list
  | "expression" => value.string?.map .expression
  | _ => none

/-- The attribute value that data stand for. -/
def read? (gathered : Bool) : Value → Option AttributeValue
  | .object fields => do
    let kind ← Value.caseAmong? kindNames gathered (← fields.lookup "type")
    ofKind? kind (← fields.lookup "value")
  | .list [kind, value] => do ofKind? (← Value.nameAmong? kindNames gathered kind) value
  | _ => none

/-- The attribute value that data stand for. -/
def ofValue? (v : Value) : Option AttributeValue := read? false v

end AttributeValue

namespace Attributes

/-- Attributes as data. -/
def toValue (attrs : Attributes) : Value :=
  .object (attrs.entries.map fun (name, value) => (name, value.toValue))

/-- The attributes that data stand for. -/
def read? (gathered : Bool) : Value → Option Attributes
  | .object fields => do
    let entries ← fields.mapM fun (name, v) => (AttributeValue.read? gathered v).map (name, ·)
    pure (Attributes.ofList entries)
  | _ => none

end Attributes

namespace Node

mutual

/-- A node as data. -/
def toValue : Node → Value
  | .root children => .object [("type", .string "root"), ("children", .list (toValues children))]
  | .element tag attributes children =>
    .object [("type", .string "element"), ("tagName", .string tag),
      ("properties", attributes.toValue), ("children", .list (toValues children))]
  | .leaf kind value => .object [("type", .string kind.name), ("value", .string value)]

/-- Nodes as data. -/
def toValues : List Node → List Value
  | [] => []
  | n :: rest => toValue n :: toValues rest

end

/-- The names of the kinds, in their order. -/
def kindNames : List String := ["root", "element", "text", "comment", "raw", "expression"]

/-- The names of the fields of a kind of nodes, in their order. -/
def fieldNames : String → List String
  | "root" => ["children"]
  | "element" => ["tagName", "properties", "children"]
  | _ => ["value"]

/-- The attributes given by the fields of an element, none if they are left out. -/
def attributesOf? (gathered : Bool) (fields : List (String × Value)) : Option Attributes :=
  match fields.lookup "properties" with
  | some v => Attributes.read? gathered v
  | none => some ∅

/-- The node of a given kind whose fields are `fields` and whose field `children`, if present, holds
`children?`: `none` inside it means that they could not be read. -/
def ofFields? (kind : String) (fields : List (String × Value))
    (children? : Option (Option (List Node))) : Option Node :=
  match kind with
  | "root" => do (← children?).map .root
  | "element" => do
    let tag ← (← fields.lookup "tagName").string?
    let attributes ← attributesOf? true fields
    let children ← children?.getD (some [])
    pure (.element tag attributes children)
  | _ => do
    let leaf ← LeafKind.ofName? kind
    let value ← (← fields.lookup "value").string?
    pure (.leaf leaf value)

mutual

/-- The node that data stand for. -/
def read? (gathered : Bool) : Value → Option Node
  | .object fields => do
    let kind ← Value.nameAmong? kindNames gathered (← fields.lookup "type")
    ofFields? kind fields (childrenField? true fields)
  | .list (kind :: items) => do
    let kind ← Value.nameAmong? kindNames gathered kind
    let fields ← Value.record? (fieldNames kind) (.list items)
    ofFields? kind fields (childrenItem? true (fieldNames kind) items)
  | _ => none

/-- What the field `children` holds: `none` without one, and `some none` if it cannot be read. -/
def childrenField? (gathered : Bool) : List (String × Value) → Option (Option (List Node))
  | [] => none
  | (name, v) :: rest =>
    if name = "children" then some (readList? gathered v) else childrenField? gathered rest

/-- What the item holds that stands for the field `children`, where the fields have given names. -/
def childrenItem? (gathered : Bool) : List String → List Value → Option (Option (List Node))
  | name :: names, v :: rest =>
    if name = "children" then some (readList? gathered v) else childrenItem? gathered names rest
  | _, _ => none

/-- The nodes that a list of data stands for. -/
def readList? (gathered : Bool) : Value → Option (List Node)
  | .list items => readAll? gathered items
  | _ => none

/-- The nodes that data stand for, `none` if one of them cannot be read. -/
def readAll? (gathered : Bool) : List Value → Option (List Node)
  | [] => some []
  | v :: rest => do
    let n ← read? gathered v
    let ns ← readAll? gathered rest
    pure (n :: ns)

end

/-- The node that data stand for. -/
def ofValue? (v : Value) : Option Node := read? false v

end Node

namespace Element

/-- An element as data, without its kind. -/
def toValue (e : Element) : Value :=
  .object [("tagName", .string e.tag), ("properties", e.attributes.toValue),
    ("children", .list (Node.toValues e.children))]

/-- The element that data stand for, where the kind may be left out. The data in it are not gathered,
as those inside of its children are. -/
def ofValue? (v : Value) : Option Element := do
  let fields ← v.record? (Node.fieldNames "element")
  let tag ← (← fields.lookup "tagName").string?
  let attributes ← Node.attributesOf? false fields
  let children ← (Node.childrenField? false fields).getD (some [])
  pure ⟨tag, attributes, children⟩

end Element

end Manuscript
