import Manuscript.Data.Value
import Manuscript.Markdown.Tree

/-!
# Markdown trees as data

Reading a Markdown tree from the objects it is exchanged as: one object for every part, with its kind
in the field `type`.

## Main definitions

* `Markdown.ofValue?` — the tree that data stand for
-/

namespace Manuscript.Markdown

/-- The fields of an object. -/
abbrev Fields := List (String × Value)

namespace Fields

/-- A text that must be there. -/
def text (fields : Fields) (name : String) : Option String :=
  (fields.lookup name).bind Value.string?

/-- A truth value that must be there. -/
def flag (fields : Fields) (name : String) : Option Bool := (fields.lookup name).bind Value.bool?

/-- A value that may be missing or null: `some none` in that case, and `none` if it cannot be
read. -/
def optional {α : Type} (read : Value → Option α) (fields : Fields) (name : String) :
    Option (Option α) :=
  match fields.lookup name with
  | none | some .null => some none
  | some v => (read v).map some

/-- A text that may be missing or null. -/
def optionalText (fields : Fields) (name : String) : Option (Option String) :=
  fields.optional Value.string? name

/-- A natural number up to a greatest one. -/
def natUpTo (greatest : Nat) (v : Value) : Option Nat :=
  v.nat?.filter (· ≤ greatest)

/-- The address and the title of a link. -/
def target (fields : Fields) : Option Target := do
  pure ⟨← fields.text "url", ← fields.optionalText "title"⟩

end Fields

/-- The kind of a reference by its name. -/
def ReferenceKind.ofName? : String → Option ReferenceKind
  | "full" => some .full
  | "collapsed" => some .collapsed
  | "shortcut" => some .shortcut
  | _ => none

/-- The fields of a reference. -/
def Fields.reference (fields : Fields) : Option Reference := do
  let kind ← ReferenceKind.ofName? (← fields.text "referenceType")
  pure ⟨← fields.text "identifier", ← fields.optionalText "label", kind⟩

/-- The alignment of a column. -/
def Alignment.ofValue? : Value → Option Alignment
  | .null => some .unset
  | .string "left" => some .left
  | .string "right" => some .right
  | .string "center" => some .center
  | _ => none

/-- The value of an attribute of a component: an object that holds an expression, or plain text. -/
def JsxValue.ofValue? : Value → Option JsxValue
  | .string s => some (.literal s)
  | .object fields => (Fields.text fields "value").map .expression
  | _ => none

/-- An attribute of a component. The fields alone tell the kinds apart: what has plain text as its
value spreads an expression, and anything else is a property. -/
def JsxAttribute.ofValue? : Value → Option JsxAttribute
  | .object fields =>
    match Fields.text fields "value" with
    | some source => some (.spread source)
    | none => do
      pure (.property (← Fields.text fields "name")
        (← Fields.optional JsxValue.ofValue? fields "value"))
  | _ => none

/-- The name and the attributes of a component. -/
def Fields.component (fields : Fields) : Option (Option String × List JsxAttribute) := do
  let attributes ← (← fields.lookup "attributes").list?
  pure (← fields.optionalText "name", ← attributes.mapM JsxAttribute.ofValue?)

/-- The branch of some kind that has given fields; `none` for other kinds. -/
def Branch.ofFields? (kind : String) (fields : Fields) : Option Branch :=
  match kind with
  | "root" => some .root
  | "paragraph" => some .paragraph
  | "heading" => ((fields.lookup "depth").bind (Fields.natUpTo 255)).map .heading
  | "emphasis" => some .emphasis
  | "strong" => some .strong
  | "delete" => some .delete
  | "blockquote" => some .blockquote
  | "link" => fields.target.map .link
  | "linkReference" => fields.reference.map .linkReference
  | "list" => do
    pure (.list (← fields.flag "ordered") (← fields.flag "spread")
      (← fields.optional (Fields.natUpTo (Nat.pow 2 32 - 1)) "start"))
  | "listItem" => do
    pure (.listItem (← fields.flag "spread") (← fields.optional Value.bool? "checked"))
  | "table" => do
    let columns ← (← fields.lookup "align").list?
    pure (.table (← columns.mapM Alignment.ofValue?))
  | "tableRow" => some .tableRow
  | "tableCell" => some .tableCell
  | "footnoteDefinition" => do
    pure (.footnoteDefinition (← fields.text "identifier") (← fields.optionalText "label"))
  | "mdxJsxFlowElement" => fields.component.map fun (name, attrs) => .jsxFlow name attrs
  | "mdxJsxTextElement" => fields.component.map fun (name, attrs) => .jsxText name attrs
  | _ => none

/-- The leaf of some kind that has given fields; `none` for other kinds. -/
def Leaf.ofFields? (kind : String) (fields : Fields) : Option Leaf :=
  match kind with
  | "text" => (fields.text "value").map .text
  | "inlineCode" => (fields.text "value").map .inlineCode
  | "inlineMath" => (fields.text "value").map .inlineMath
  | "html" => (fields.text "value").map .html
  | "yaml" => (fields.text "value").map .yaml
  | "toml" => (fields.text "value").map .toml
  | "mdxjsEsm" => (fields.text "value").map .esm
  | "mdxFlowExpression" => (fields.text "value").map .flowExpression
  | "mdxTextExpression" => (fields.text "value").map .textExpression
  | "break" => some .hardBreak
  | "thematicBreak" => some .thematicBreak
  | "code" => do
    pure (.code (← fields.text "value") (← fields.optionalText "lang")
      (← fields.optionalText "meta"))
  | "math" => do pure (.math (← fields.text "value") (← fields.optionalText "meta"))
  | "image" => do pure (.image (← fields.text "alt") (← fields.target))
  | "imageReference" => do pure (.imageReference (← fields.text "alt") (← fields.reference))
  | "definition" => do
    pure (.definition (← fields.text "identifier") (← fields.optionalText "label")
      (← fields.target))
  | "footnoteReference" => do
    pure (.footnoteReference (← fields.text "identifier") (← fields.optionalText "label"))
  | _ => none

/-- The tree whose fields are `fields` and whose field `children`, if present, holds `children?`:
`none` inside it means that they could not be read. -/
def ofFields? (fields : Fields) (children? : Option (Option (List Markdown))) :
    Option Markdown := do
  let kind ← fields.text "type"
  match Branch.ofFields? kind fields with
  | some b => pure (.branch b (← ← children?))
  | none => (Leaf.ofFields? kind fields).map .leaf

mutual

/-- The tree that data stand for. -/
def ofValue? : Value → Option Markdown
  | .object fields => ofFields? fields (childrenField? fields)
  | _ => none

/-- What the field `children` holds: `none` without one, and `some none` if it cannot be read. -/
def childrenField? : List (String × Value) → Option (Option (List Markdown))
  | [] => none
  | (name, v) :: rest => if name = "children" then some (ofList? v) else childrenField? rest

/-- The trees that a list of data stands for. -/
def ofList? : Value → Option (List Markdown)
  | .list items => ofValues? items
  | _ => none

/-- The trees that data stand for, `none` if one of them cannot be read. -/
def ofValues? : List Value → Option (List Markdown)
  | [] => some []
  | v :: rest => do
    let n ← ofValue? v
    let ns ← ofValues? rest
    pure (n :: ns)

end

end Manuscript.Markdown
