import Manuscript.Document.Node
import Manuscript.Log
import Manuscript.Script.Name
import Manuscript.Style.Declarations

/-!
# Trees as function bodies

An interactive document is the body of a function that is run with the element runtime (`Fragment`,
`jsx`, `jsxs`) as its first argument and returns the document as a component. Each element becomes a
call of the runtime. HTML elements have a default among `_components`, which the caller may
override; components must be given by the caller, and the body begins by checking that they are.

## Main definitions

* `expression?` — the expression of a tree, if it has one
* `referencedNames` — the HTML elements and the components that a tree refers to
* `functionBody` — the whole body
* `functionBodyLog` — a record for every leaf of raw markup, which has no place in a script
-/

namespace Manuscript.Script

open Manuscript.Text (quote joinWith)

/-! ### Expressions -/

/-- Whether the trimmed source of an expression is a single block comment. -/
def isCommentOnly (source : List Char) : Bool :=
  (Text.stripPrefix "/*".toList source).isSome &&
    (Text.stripPrefix "/*".toList source.reverse).isSome &&
    Text.countInfix "*/".toList source = 1

/-- The source of an expression as the child of an element: in parentheses, and nothing for a blank
source or a comment. -/
def childSource? (source : String) : Option String :=
  let trimmed := Text.trimmed source
  if trimmed.isEmpty || isCommentOnly trimmed.toList then none else some ("(" ++ trimmed ++ ")")

/-- The source of an expression as a property: in parentheses, and nothing for a blank source. -/
def propertySource? (source : String) : Option String :=
  let trimmed := Text.trimmed source
  if trimmed.isEmpty then none else some ("(" ++ trimmed ++ ")")

/-- The value of a property, of an HTML element if `intrinsic`; nothing if it is left out. -/
def propertyValue? (name : String) (value : AttributeValue) (intrinsic : Bool) : Option String :=
  match value with
  | .expression source => propertySource? source
  | .text text =>
    if intrinsic && name = "style" then some (Style.Declarations.toObject text)
    else if intrinsic && text.isEmpty && isBooleanProperty name then some "true"
    else some (quote text)
  | .list tokens => some (quote (joinWith " " tokens))

/-- A property with its key. -/
def property? (intrinsic : Bool) (entry : String × AttributeValue) : Option String :=
  let name := if intrinsic then reactProperty entry.1 else entry.1
  (propertyValue? name entry.2 intrinsic).map fun value => propertyKey name ++ ": " ++ value

/-- The properties of an element, without its children. -/
def properties (tag : String) (attributes : Attributes) : List String :=
  attributes.entries.filterMap (property? (!isComponent tag))

/-- What the element runtime is told to create for a tag. -/
def reference (tag : String) : String :=
  if isComponent tag || !isDotted tag then member "_components" tag else tag

/-- A call of the element runtime. -/
def call (reference : String) (properties children : List String) : String :=
  let props := joinWith ", " properties
  let before := if properties.isEmpty then "" else props ++ ", "
  match children with
  | [] => "_jsx(" ++ reference ++ ", \x7b" ++ props ++ "\x7d)"
  | [only] => "_jsx(" ++ reference ++ ", \x7b" ++ before ++ "children: " ++ only ++ "\x7d)"
  | many =>
    "_jsxs(" ++ reference ++ ", \x7b" ++ before ++ "children: [" ++ joinWith ", " many ++ "]\x7d)"

mutual

/-- The expression of a tree; comments, raw markup and empty expressions have none. -/
def expression? : Node → Option String
  | .root children => some (call "_Fragment" [] (expressions children))
  | .element tag attributes children =>
    some (call (reference tag) (properties tag attributes) (expressions children))
  | .leaf .text value => some (quote value)
  | .leaf .expression source => childSource? source
  | .leaf .comment _ => none
  | .leaf .raw _ => none

/-- The expressions of trees that stand side by side. -/
def expressions : List Node → List String
  | [] => []
  | n :: rest =>
    match expression? n with
    | some e => e :: expressions rest
    | none => expressions rest

end

/-! ### Referenced names -/

/-- Puts a name at its place among ascending names, each of which occurs once. -/
def insertName (name : String) : List String → List String
  | [] => [name]
  | other :: rest =>
    if name < other then name :: other :: rest
    else if name = other then other :: rest
    else other :: insertName name rest

/-- The names that a tree refers to, in ascending order. -/
structure ReferencedNames where
  /-- HTML elements, which have a default. -/
  intrinsic : List String := []
  /-- Components, which the caller must give. -/
  components : List String := []
  deriving Repr, DecidableEq

/-- Adds the name that a tag refers to. The tag of an HTML element with a dot in it refers to
nothing. -/
def ReferencedNames.add (names : ReferencedNames) (tag : String) : ReferencedNames :=
  if isComponent tag then { names with components := insertName (headName tag) names.components }
  else if isDotted tag then names
  else { names with intrinsic := insertName tag names.intrinsic }

mutual

/-- Adds the names that a tree refers to. -/
def collectNames (names : ReferencedNames) : Node → ReferencedNames
  | .root children => collectNamesAll names children
  | .element tag _ children => collectNamesAll (names.add tag) children
  | .leaf _ _ => names

/-- Adds the names that trees side by side refer to. -/
def collectNamesAll (names : ReferencedNames) : List Node → ReferencedNames
  | [] => names
  | n :: rest => collectNamesAll (collectNames names n) rest

end

/-- The names that a tree refers to. -/
def referencedNames (n : Node) : ReferencedNames := collectNames {} n

/-! ### The body -/

/-- The default of an HTML element. -/
def defaultLine (tag : String) : String :=
  "    " ++ propertyKey tag ++ ": " ++ quote tag ++ ",\n"

/-- The check that a component is given. -/
def guardLine (component : String) : String :=
  "  if (!" ++ member "_components" component ++ ") _missingMdxReference(" ++ quote component ++
    ");\n"

/-- What stands before the defaults. -/
def bodyStart : String :=
  "const \x7bFragment: _Fragment, jsx: _jsx, jsxs: _jsxs\x7d = arguments[0];\n" ++
  "function _createMdxContent(props) \x7b\n" ++
  "  const _components = \x7b\n"

/-- What stands behind the content. -/
def bodyEnd : String :=
  "\x7d\n" ++
  "function MDXContent(props = \x7b\x7d) \x7b\n" ++
  "  const \x7bwrapper: MDXLayout\x7d = props.components || \x7b\x7d;\n" ++
  "  return MDXLayout ? _jsx(MDXLayout, Object.assign(\x7b\x7d, props, " ++
    "\x7bchildren: _jsx(_createMdxContent, props)\x7d)) : _createMdxContent(props);\n" ++
  "\x7d\n" ++
  "function _missingMdxReference(id) \x7b\n" ++
  "  throw new Error(\"Expected component `\" + id + \"` to be defined: you likely forgot to " ++
    "import, pass, or provide it.\");\n" ++
  "\x7d\n" ++
  "return \x7bdefault: MDXContent\x7d;"

/-- The body of the function that creates the document of a tree. -/
def functionBody (n : Node) : String :=
  let names := referencedNames n
  bodyStart ++ String.join (names.intrinsic.map defaultLine) ++
  "    ...props.components\n" ++ "  \x7d;\n" ++
  String.join (names.components.map guardLine) ++
  "  return " ++ (expression? n).getD "null" ++ ";\n" ++ bodyEnd

mutual

/-- A record for every leaf of raw markup. -/
def functionBodyLog : Node → Log
  | .root children => functionBodyLogAll children
  | .element _ _ children => functionBodyLogAll children
  | .leaf .raw value =>
    Log.debug ("raw markup " ++ Text.inspect value ++ " dropped from interactive output")
  | .leaf _ _ => []

/-- A record for every leaf of raw markup in trees that stand side by side. -/
def functionBodyLogAll : List Node → Log
  | [] => []
  | n :: rest => functionBodyLog n ++ functionBodyLogAll rest

end

end Manuscript.Script
