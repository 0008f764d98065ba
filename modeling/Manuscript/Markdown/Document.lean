import Manuscript.Document.Role
import Manuscript.Log
import Manuscript.Markdown.Definitions
import Manuscript.Text.Unicode.Alphanumeric

/-!
# Document trees of Markdown trees

A Markdown tree becomes a document tree: paragraphs, lists, tables and so on become elements,
references are resolved, formulas and highlighted code become placeholders, HTML becomes raw markup
and components become elements of their name. Footnotes are numbered in the order of their first
reference and collected in a section at the end.

The walk threads a `Progress`: which footnotes have been referred to and how often, and the import
and export statements met.

## Main definitions

* `Progress.reference` — counts a reference to a footnote and numbers it
* `lowerNode` — the nodes of a Markdown tree
* `footnoteSection?` — the section of footnotes
* `Markdown.toDocument` — the document tree with its statements
-/

namespace Manuscript

/-- A document made of Markdown. -/
structure LoweredDocument where
  /-- The document tree, a root. -/
  tree : Node
  /-- The import and export statements, in order. -/
  statements : List String
  /-- What was passed over on the way. -/
  log : Log

/-- What a walk through a Markdown tree has met. -/
structure Progress where
  /-- The labels of footnotes in the order of their first reference. -/
  order : List String := []
  /-- How often each footnote has been referred to. -/
  counts : List (String × Nat) := []
  /-- The import and export statements. -/
  statements : List String := []
  /-- What was passed over. -/
  log : Log := []

namespace Progress

/-- How often a footnote has been referred to. -/
def count (p : Progress) (id : String) : Nat := (p.counts.lookup id).getD 0

/-- Counts a reference to a footnote: the number of the footnote, and how many references to it
there are now. -/
def reference (p : Progress) (id : String) : Progress × Nat × Nat :=
  let order := if p.order.contains id then p.order else p.order ++ [id]
  let n := p.count id + 1
  let p := { p with order, counts := (id, n) :: p.counts.filter (·.1 ≠ id) }
  (p, order.idxOf id + 1, n)

/-- Adds records to the log. -/
def note (p : Progress) (records : Log) : Progress := { p with log := p.log ++ records }

end Progress

namespace Lowering

open Markdown
open Manuscript.Text.Unicode (toLower isAlphanumeric)

/-! ### Pieces -/

/-- Nodes with a line feed between neighbours and, if `pad`, at both ends. Nothing stays nothing. -/
def blockLines (pad : Bool) (nodes : List Node) : List Node :=
  if nodes.isEmpty then []
  else
    let feed := if pad then [Node.text "\n"] else []
    feed ++ nodes.intersperse (Node.text "\n") ++ feed

/-- A label as part of an id: characters other than letters, numbers, `-` and `_` become `-`. -/
def footnoteId (id : String) : String :=
  String.ofList (id.toList.map fun c =>
    if isAlphanumeric c || c = '-' || c = '_' then c else '-')

/-- What the id of the `n`-th reference to a footnote ends in. -/
def repeatSuffix (n : Nat) : String := if n > 1 then "-" ++ toString n else ""

/-- The element of a block of code. -/
def codeBlock (value : String) (language info : Option String) : Node :=
  let attrs : Attributes := ∅
  let attrs := match language with
    | some l => if l.isEmpty then attrs else attrs.insert "class" (.list ["language-" ++ l])
    | none => attrs
  let attrs := match info with
    | some i => attrs.insert "data-meta" (.text i)
    | none => attrs
  let body := if value.isEmpty then "" else value ++ "\n"
  .element "pre" ∅ [.element "code" attrs [.text body]]

/-- The placeholder of a formula. -/
def mathPlaceholder (class_ value : String) : Node :=
  .element "code" (Attributes.ofList [("class", .list ["language-math", class_])]) [.text value]

/-- A title among attributes. -/
def titleAttribute (title : Option String) (attrs : Attributes) : Attributes :=
  match title with
  | some t => attrs.insert "title" (.text t)
  | none => attrs

/-- The element of an image. -/
def imageElement (alt : String) (target : Target) : Node :=
  let attrs := Attributes.ofList [("src", .text target.url), ("alt", .text alt)]
  .element "img" (titleAttribute target.title attrs) []

/-- The element of a link. -/
def anchorElement (target : Target) (children : List Node) : Node :=
  let attrs := Attributes.ofList [("href", .text target.url)]
  .element "a" (titleAttribute target.title attrs) children

/-- The link of the `n`-th reference to a footnote, which shows its number. -/
def footnoteAnchor (id : String) (number n : Nat) : Element :=
  let safe := footnoteId id
  let attrs := Attributes.ofList [
    ("href", .text ("#user-content-fn-" ++ safe)),
    ("id", .text ("user-content-fnref-" ++ safe ++ repeatSuffix n)),
    ("data-footnote-ref", .text ""), ("aria-describedby", .text "footnote-label")]
  ⟨"a", attrs, [.text (toString number)]⟩

/-- The mark of the `n`-th reference to a footnote. -/
def footnoteMark (id : String) (number n : Nat) : Node :=
  .element "sup" ∅ [(footnoteAnchor id number n).toNode]

/-- The value of a component's attribute. -/
def jsxAttributeValue : Option JsxValue → AttributeValue
  | some (.literal value) => .text value
  | some (.expression source) => .expression source
  | none => .text ""

/-- The attributes of a component; those that spread an object are left out. -/
def jsxAttributes (attributes : List JsxAttribute) : Attributes :=
  attributes.foldl (fun attrs a => match a with
    | .property name value => attrs.insert name (jsxAttributeValue value)
    | .spread _ => attrs) ∅

/-- A record for every attribute of a component that spreads an object. -/
def jsxLog (name : String) (attributes : List JsxAttribute) : Log :=
  attributes.flatMap fun
    | .spread _ => Log.debug ("spread attribute on <" ++ name ++ "> ignored")
    | .property _ _ => []

/-- The alignment of a cell. -/
def alignAttributes : Option Markdown.Alignment → Attributes
  | some .left => Attributes.ofList [("align", .text "left")]
  | some .right => Attributes.ofList [("align", .text "right")]
  | some .center => Attributes.ofList [("align", .text "center")]
  | some .unset | none => ∅

/-- The check box of a list item, with the space behind it. -/
def checkBox (checked : Bool) : List Node :=
  let attrs := Attributes.ofList [("type", .text "checkbox"), ("disabled", .text "")]
  let attrs := if checked then attrs.insert "checked" (.text "") else attrs
  [.element "input" attrs [], .text " "]

/-- Whether a part is an item with a check box. -/
def isTask : Markdown → Bool
  | .branch (.listItem _ (some _)) _ => true
  | _ => false

/-- Whether a part is an item whose parts are spread. -/
def isSpreadItem : Markdown → Bool
  | .branch (.listItem spread _) _ => spread
  | _ => false

/-- The element of a list with given items. -/
def listElement (ordered : Bool) (start : Option Nat) (hasTasks : Bool) (items : List Node) :
    Node :=
  let attrs : Attributes := match ordered, start with
    | true, some n => if n ≠ 1 then Attributes.ofList [("start", .text (toString n))] else ∅
    | _, _ => ∅
  let attrs := if hasTasks then attrs.addClass "contains-task-list" else attrs
  .element (if ordered then "ol" else "ul") attrs (blockLines true items)

/-- The element of a list item with given content. -/
def itemElement (loose : Bool) (checked : Option Bool) (content : List Node) : Node :=
  match checked with
  | some state =>
    .element "li" ((∅ : Attributes).addClass "task-list-item") (checkBox state ++ content)
  | none => .element "li" ∅ (if loose then blockLines true content else content)

/-- The element of a table with given rows, of which the first is the head. -/
def tableElement : List Node → Node
  | [] => .element "table" ∅ []
  | head :: body =>
    .element "table" ∅ (.element "thead" ∅ [head] ::
      (if body.isEmpty then [] else [.element "tbody" ∅ body]))

/-! ### The walk -/

/-- The nodes of a leaf. -/
def lowerLeaf (d : Definitions) (p : Progress) : Leaf → Progress × List Node
  | .text value => (p, [.text value])
  | .inlineCode value => (p, [.element "code" ∅ [.text value]])
  | .inlineMath value => (p, [mathPlaceholder "math-inline" value])
  | .html value => (p, [.raw value])
  | .yaml _ | .toml _ | .definition _ _ _ => (p, [])
  | .esm value => ({ p with statements := p.statements ++ [value] }, [])
  | .flowExpression source | .textExpression source => (p, [.expression source])
  | .hardBreak => (p, [.element "br" ∅ []])
  | .thematicBreak => (p, [.element "hr" ∅ []])
  | .code value language info => (p, [codeBlock value language info])
  | .math value _ => (p, [.element "pre" ∅ [mathPlaceholder "math-display" value]])
  | .image alt target => (p, [imageElement alt target])
  | .imageReference alt reference =>
    match d.target? reference.identifier with
    | some target => (p, [imageElement alt target])
    | none => (p, [.text ("![" ++ alt ++ "]")])
  | .footnoteReference identifier _ =>
    let id := toLower identifier
    let (p, number, n) := p.reference id
    (p, [footnoteMark id number n])

/-- The nodes of a branch other than a list, a list item, a table or one that is passed over, given
the nodes of its parts. -/
def lowerBranch (d : Definitions) (kind : Branch) (children : List Node) : List Node :=
  match kind with
  | .paragraph => [.element "p" ∅ children]
  | .heading depth => [.element ("h" ++ toString depth) ∅ children]
  | .emphasis => [.element "em" ∅ children]
  | .strong => [.element "strong" ∅ children]
  | .delete => [.element "del" ∅ children]
  | .blockquote => [.element "blockquote" ∅ (blockLines true children)]
  | .link target => [anchorElement target children]
  | .linkReference reference =>
    match d.target? reference.identifier with
    | some target => [anchorElement target children]
    | none => .text "[" :: (children ++ [.text "]"])
  | .jsxFlow (some name) attributes | .jsxText (some name) attributes =>
    [.element name (jsxAttributes attributes) children]
  | _ => children

/-- Notes the attributes of a component that are left out. -/
def noteBranch (p : Progress) : Branch → Progress
  | .jsxFlow (some name) attributes | .jsxText (some name) attributes =>
    p.note (jsxLog name attributes)
  | _ => p

mutual

/-- The nodes of a Markdown tree. -/
def lowerNode (d : Definitions) (p : Progress) : Markdown → Progress × List Node
  | .leaf kind => lowerLeaf d p kind
  | .branch (.list ordered spread start) children =>
    let (p, items) := lowerItems d (spread || children.any isSpreadItem) p children
    (p, [listElement ordered start (children.any isTask) items])
  | .branch (.listItem spread checked) children =>
    let (p, content) := lowerContent d spread p children
    (p, [itemElement spread checked content])
  | .branch (.table alignment) children =>
    let (p, rows) := lowerRows d alignment "th" p children
    (p, [tableElement rows])
  | .branch .tableRow _ | .branch .tableCell _ =>
    (p.note (Log.debug "table row outside of a table ignored"), [])
  | .branch (.footnoteDefinition _ _) _ => (p, [])
  | .branch kind children =>
    let (p, nodes) := lowerAll d (noteBranch p kind) children
    (p, lowerBranch d kind nodes)

/-- The nodes of Markdown trees that stand side by side. -/
def lowerAll (d : Definitions) (p : Progress) : List Markdown → Progress × List Node
  | [] => (p, [])
  | m :: rest =>
    let (p, nodes) := lowerNode d p m
    let (p, others) := lowerAll d p rest
    (p, nodes ++ others)

/-- The nodes of the parts of a list that is `loose` or not. -/
def lowerItems (d : Definitions) (loose : Bool) (p : Progress) :
    List Markdown → Progress × List Node
  | [] => (p, [])
  | .branch (.listItem _ checked) children :: rest =>
    let (p, content) := lowerContent d loose p children
    let (p, others) := lowerItems d loose p rest
    (p, itemElement loose checked content :: others)
  | m :: rest =>
    let (p, nodes) := lowerNode d p m
    let (p, others) := lowerItems d loose p rest
    (p, nodes ++ others)

/-- The nodes of the parts of a list item. In a list that is not `loose`, a paragraph gives its
content without an element of its own. -/
def lowerContent (d : Definitions) (loose : Bool) (p : Progress) :
    List Markdown → Progress × List Node
  | [] => (p, [])
  | .branch .paragraph children :: rest =>
    let (p, nodes) := lowerAll d p children
    let (p, others) := lowerContent d loose p rest
    (p, (if loose then [.element "p" ∅ nodes] else nodes) ++ others)
  | m :: rest =>
    let (p, nodes) := lowerNode d p m
    let (p, others) := lowerContent d loose p rest
    (p, nodes ++ others)

/-- The rows among the parts of a table. The cells of the first one have the tag `first`, those of
the others are ordinary. -/
def lowerRows (d : Definitions) (alignment : List Markdown.Alignment) (first : String)
    (p : Progress) : List Markdown → Progress × List Node
  | [] => (p, [])
  | .branch .tableRow cells :: rest =>
    let (p, nodes) := lowerCells d first alignment p cells
    let (p, others) := lowerRows d alignment "td" p rest
    (p, .element "tr" ∅ nodes :: others)
  | _ :: rest => lowerRows d alignment first p rest

/-- The cells among the parts of a row, with the alignments of the columns from here on. -/
def lowerCells (d : Definitions) (tag : String) (alignment : List Markdown.Alignment)
    (p : Progress) : List Markdown → Progress × List Node
  | [] => (p, [])
  | .branch .tableCell children :: rest =>
    let (p, nodes) := lowerAll d p children
    let (p, others) := lowerCells d tag alignment.tail p rest
    (p, .element tag (alignAttributes alignment.head?) nodes :: others)
  | _ :: rest => lowerCells d tag alignment.tail p rest

end

/-! ### Footnotes -/

/-- The link from a footnote back to its `n`-th reference. -/
def backReference (id : String) (number n : Nat) : Element :=
  let attrs := Attributes.ofList [
    ("href", .text ("#user-content-fnref-" ++ footnoteId id ++ repeatSuffix n)),
    ("data-footnote-backref", .text ""),
    ("aria-label", .text ("Back to reference " ++ toString number)),
    ("class", .list ["data-footnote-backref"])]
  ⟨"a", attrs, [.text "↩"]⟩

/-- Puts back references at the end of a footnote: inside the paragraph that ends it, each behind a
space, or else behind its content. -/
def withBackReferences (backReferences : List Node) (content : List Node) : List Node :=
  match content.getLast? with
  | some (.element "p" attrs children) =>
    content.dropLast ++
      [.element "p" attrs (children ++ backReferences.flatMap fun b => [.text " ", b])]
  | _ => content ++ backReferences

/-- The item of a footnote with a given number. -/
def footnoteItem (d : Definitions) (p : Progress) (number : Nat) (id : String)
    (text : List Markdown) : Progress × Element :=
  let references := p.count id
  let (p, content) := lowerAll d p text
  let backReferences := (List.range references).map fun k =>
    (backReference id number (k + 1)).toNode
  let attrs := Attributes.ofList [("id", .text ("user-content-fn-" ++ footnoteId id))]
  (p, ⟨"li", attrs, withBackReferences backReferences content⟩)

/-- The items of the footnotes with given labels, the first of which has a given number. A footnote
without a definition gets none. -/
def footnoteItems (d : Definitions) (p : Progress) (number : Nat) :
    List String → Progress × List Node
  | [] => (p, [])
  | id :: rest =>
    match d.footnote? id with
    | none =>
      footnoteItems d (p.note (Log.debug ("footnote reference [^" ++ id ++ "] has no definition")))
        (number + 1) rest
    | some text =>
      let (p, item) := footnoteItem d p number id text
      let (p, items) := footnoteItems d p (number + 1) rest
      (p, item.toNode :: items)

/-- The section of footnotes with given items. -/
def footnoteSection (items : List Node) : Element :=
  let title := Attributes.ofList [("id", .text "footnote-label"), ("class", .list ["sr-only"])]
  ⟨"section",
    Attributes.ofList [("data-footnotes", .text ""), ("class", .list ["footnotes"])],
    [.element "h2" title [.text "Footnotes"], .element "ol" ∅ items]⟩

/-- The section of the footnotes referred to so far, if there are any. -/
def footnoteSection? (d : Definitions) (p : Progress) : Progress × List Node :=
  if p.order.isEmpty then (p, [])
  else
    let (p, items) := footnoteItems d p 1 p.order
    (p, [(footnoteSection items).toNode])

end Lowering

/-- The document of a Markdown tree. -/
def Markdown.toDocument (m : Markdown) : LoweredDocument :=
  let d := Definitions.ofMarkdown m
  let (p, nodes) := Lowering.lowerNode d {} m
  let (p, notes) := Lowering.footnoteSection? d p
  ⟨.root (Lowering.blockLines false (nodes ++ notes)), p.statements, p.log⟩

end Manuscript
