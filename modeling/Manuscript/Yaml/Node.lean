import Manuscript.Data.Value
import Manuscript.Number.Numeral
import Manuscript.Text.Hex

/-!
# YAML nodes

What a YAML document means: null, truth values, numbers, texts, sequences, mappings, and nodes with a
tag of their own. What a plain scalar means is told from its text.

## Main definitions

* `Yaml.Node` — the nodes
* `Yaml.Node.same` — equality of nodes, in which the order of a mapping does not count
* `Yaml.Plain.resolve` — what a plain scalar means
-/

namespace Manuscript.Yaml

/-- A node. -/
inductive Node where
  /-- Null. -/
  | null
  /-- A truth value. -/
  | bool (b : Bool)
  /-- An integer. -/
  | int (n : Int)
  /-- Another number. -/
  | float (x : Binary64)
  /-- A text. -/
  | string (s : String)
  /-- A sequence. -/
  | sequence (items : List Node)
  /-- A mapping, its keys all different. -/
  | mapping (entries : List (Node × Node))
  /-- A node with a tag. -/
  | tagged (tag : String) (node : Node)
  deriving Repr, Inhabited

namespace Node

/-- Whether two numbers are the same key: zero has one sign, and no number is like any other. -/
def sameNumber : Binary64 → Binary64 → Bool
  | .finite _ 0 _, .finite _ 0 _ => true
  | x, y => x = y

mutual

/-- Whether two nodes are the same key. -/
def same : Node → Node → Bool
  | .null, .null => true
  | .bool a, .bool b => a = b
  | .int a, .int b => a = b
  | .float a, .float b => sameNumber a b
  | .string a, .string b => a = b
  | .sequence as, .sequence bs => sameItems as bs
  | .mapping as, .mapping bs => as.length = bs.length && sameEntries as bs
  | .tagged s a, .tagged t b => s = t && same a b
  | _, _ => false

/-- Whether the items of two sequences are the same, one by one. -/
def sameItems : List Node → List Node → Bool
  | [], [] => true
  | a :: as, b :: bs => same a b && sameItems as bs
  | _, _ => false

/-- Whether all entries of a mapping are in another one. -/
def sameEntries : List (Node × Node) → List (Node × Node) → Bool
  | [], _ => true
  | (k, v) :: rest, entries =>
    entries.any (fun e => same k e.1 && same v e.2) && sameEntries rest entries

end

end Node

/-! ### Plain scalars -/

namespace Plain

/-- Whether a text stands for null. -/
def isNull (text : String) : Bool :=
  text = "null" || text = "Null" || text = "NULL" || text = "~"

/-- The truth value that a text stands for. -/
def bool? (text : String) : Option Bool :=
  if text = "true" || text = "True" || text = "TRUE" then some true
  else if text = "false" || text = "False" || text = "FALSE" then some false
  else none

/-- Whether a character is a sign. -/
def isSign (c : Char) : Bool := c = '+' || c = '-'

/-- Whether a text, apart from its sign, is all digits with a needless zero before them. Such a text is
no number. -/
def isPadded (cs : List Char) : Bool :=
  match if cs.head?.any isSign then cs.drop 1 else cs with
  | '0' :: c :: rest => (c :: rest).all Char.isDigit
  | _ => false

/-- The number that digits in a base denote; there has to be one at least. -/
def digits? (base : Nat) (cs : List Char) : Option Nat :=
  if cs.isEmpty then none
  else
    (cs.mapM fun c => (Text.hexValue? c).filter (· < base)).map (Text.ofDigitValues base)

/-- The base that a text names by its first characters, and the rest of it. -/
def base? : List Char → Option (Nat × List Char)
  | '0' :: 'x' :: rest => some (16, rest)
  | '0' :: 'o' :: rest => some (8, rest)
  | '0' :: 'b' :: rest => some (2, rest)
  | _ => none

/-- The number that digits without a sign denote, in the base they name or in base ten. -/
def natural? (cs : List Char) : Option Nat :=
  match base? cs with
  | some (base, rest) => digits? base rest
  | none => digits? 10 cs

/-- The integer that a text denotes. -/
def int? (text : String) : Option Int :=
  let cs := text.toList
  if isPadded cs then none
  else
    match cs with
    | '+' :: rest => (natural? rest).map Int.ofNat
    | '-' :: rest => (natural? rest).map fun n => -Int.ofNat n
    | _ => (natural? cs).map Int.ofNat

/-- The number, not written as an integer, that a text denotes. Numbers that are too large denote
nothing. -/
def float? (text : String) : Option Binary64 :=
  let (plus, cs) := match text.toList with
    | '+' :: rest => (true, rest)
    | cs => (false, cs)
  let body := String.ofList cs
  if plus && cs.head?.any isSign then none
  else if body = ".inf" || body = ".Inf" || body = ".INF" then some (.infinite false)
  else if text = "-.inf" || text = "-.Inf" || text = "-.INF" then some (.infinite true)
  else if text = ".nan" || text = ".NaN" || text = ".NAN" then some .nan
  else
    match Binary64.ofText? body with
    | some (.finite negative m e) => some (.finite negative m e)
    | _ => none

/-- An integer that no value of the data model holds, and the number of its bits. -/
structure LargeInteger where
  /-- The integer. -/
  value : Int
  /-- Whether it is below zero. -/
  negative : Bool := value < 0
  deriving DecidableEq, Repr

/-- The wording of an integer that is too large. -/
def LargeInteger.message (n : LargeInteger) : String :=
  "integer `" ++ toString n.value ++ (if n.negative then "` as i128" else "` as u128")

/-- What an integer means: integers of 64 bits are values, larger ones up to 128 bits are refused, and
any beyond are no integers. -/
def boundedInt? (n : Int) : Option (Except LargeInteger Node) :=
  if -Int.pow 2 63 ≤ n && n < Int.pow 2 64 then some (.ok (.int n))
  else if -Int.pow 2 127 ≤ n && n < Int.pow 2 128 then some (.error { value := n })
  else none

/-- What a text means as an integer. -/
def integer? (text : String) : Option (Except LargeInteger Node) := (int? text).bind boundedInt?

/-- What a plain scalar means. -/
def resolve (text : String) : Except LargeInteger Node :=
  if text = "" || isNull text then .ok .null
  else
    match bool? text with
    | some b => .ok (.bool b)
    | none =>
      match integer? text with
      | some n => n
      | none =>
        if isPadded text.toList then .ok (.string text)
        else .ok ((float? text).elim (.string text) .float)

end Plain

end Manuscript.Yaml
