import Manuscript.Data.Value
import Manuscript.Error
import Manuscript.Log
import Manuscript.Markdown.Tree
import Manuscript.Text.Blank
import Manuscript.Yaml.Document

/-!
# Front matter

Data about a document may stand before its text, as a YAML mapping. It is no part of the text: reading
it takes it out of the tree.

## Main definitions

* `FrontMatter.ofNode` — a YAML node as a data value
* `FrontMatter.read` — the data of a block
* `FrontMatter.take` — the data of a document, and the document without them
-/

namespace Manuscript.FrontMatter

/-- Why a YAML node is no data value: a mapping has a key that cannot be the name of a field. -/
inductive KeyProblem where
  /-- The key is no text, number or truth value. -/
  | notText
  /-- The key is a number that is not finite. -/
  | notFinite
  deriving DecidableEq, Repr

/-- The wording of a problem. -/
def KeyProblem.message : KeyProblem → String
  | notText => "key must be a string"
  | notFinite => "float key must be finite"

/-- The name of the field that a key stands for. -/
def fieldName : Yaml.Node → Except KeyProblem String
  | .string s => .ok s
  | .int n => .ok (toString n)
  | .bool b => .ok (if b then "true" else "false")
  | .float (.finite negative m e) => .ok (Binary64.generalText negative m e)
  | .float _ => .error .notFinite
  | .null | .sequence _ | .mapping _ | .tagged _ _ => .error .notText

mutual

/-- A YAML node as a data value. What is no finite number becomes null; a tag becomes the only field of
an object. -/
def ofNode : Yaml.Node → Except KeyProblem Value
  | .null => .ok .null
  | .bool b => .ok (.bool b)
  | .int n => .ok (.int n)
  | .float (.finite negative m e) => .ok (.float (.finite negative m e))
  | .float _ => .ok .null
  | .string s => .ok (.string s)
  | .sequence ns => (ofNodes ns).map .list
  | .mapping es => (ofEntries es).map Value.ofFields
  | .tagged tag n => (ofNode n).map fun v => .object [(Yaml.Document.tagName tag, v)]

/-- The items of a sequence as data values. -/
def ofNodes : List Yaml.Node → Except KeyProblem (List Value)
  | [] => .ok []
  | n :: rest => do
    let v ← ofNode n
    let vs ← ofNodes rest
    pure (v :: vs)

/-- The entries of a mapping as fields. -/
def ofEntries : List (Yaml.Node × Yaml.Node) → Except KeyProblem (List (String × Value))
  | [] => .ok []
  | (key, n) :: rest => do
    let name ← fieldName key
    let v ← ofNode n
    let fields ← ofEntries rest
    pure ((name, v) :: fields)

end

/-- The data of a block of front matter. A blank block, or one that is null, has none. -/
def read (block : String) : Except FrontMatterError Value :=
  if Text.isAllBlank block then .ok (.object [])
  else
    match Yaml.read block with
    | .error e => .error (.malformed e.message)
    | .ok n =>
      match ofNode n with
      | .error e => .error (.malformed e.message)
      | .ok .null => .ok (.object [])
      | .ok (.object fields) => .ok (.object fields)
      | .ok _ => .error .notMapping

/-- Takes the first block of front matter out of a list of trees. -/
def takeBlock : List Markdown → Option (Markdown.Leaf × List Markdown)
  | [] => none
  | .leaf (.yaml s) :: rest => some (.yaml s, rest)
  | .leaf (.toml s) :: rest => some (.toml s, rest)
  | m :: rest => (takeBlock rest).map fun (block, rest) => (block, m :: rest)

/-- The block of front matter of a document, and the document without it. Only the root holds front
matter. -/
def split : Markdown → Option Markdown.Leaf × Markdown
  | .branch .root children =>
    match takeBlock children with
    | some (block, rest) => (some block, .branch .root rest)
    | none => (none, .branch .root children)
  | m => (none, m)

/-- The data of a document, and the document without its front matter. Front matter in TOML is dropped
unread. -/
def take (m : Markdown) : Except FrontMatterError (Value × Markdown) :=
  match split m with
  | (some (.yaml block), rest) => (read block).map (·, rest)
  | (_, rest) => .ok (.object [], rest)

/-- The records of taking front matter. -/
def takeLog (m : Markdown) : Log :=
  match (split m).1 with
  | some (.toml _) => Log.debug "TOML frontmatter is not supported; block dropped"
  | _ => []

end Manuscript.FrontMatter
